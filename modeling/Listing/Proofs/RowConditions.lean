import Listing.Proofs.JoinedRows
import Listing.Session

namespace Listing

/-- None stands for unknown. -/
abbrev Truth := Option Bool

namespace Truth

def and : Truth → Truth → Truth
  | some false, _ => some false
  | _, some false => some false
  | some true, some true => some true
  | _, _ => none

def or : Truth → Truth → Truth
  | some true, _ => some true
  | _, some true => some true
  | some false, some false => some false
  | _, _ => none

def all (ts : List Truth) : Truth := ts.foldr and (some true)

def any (ts : List Truth) : Truth := ts.foldr or (some false)

theorem and_eq_true {t u : Truth} : t.and u = some true ↔ t = some true ∧ u = some true := by
  rcases t with _ | _ | _ <;> rcases u with _ | _ | _ <;> simp [and]

theorem or_eq_true {t u : Truth} : t.or u = some true ↔ t = some true ∨ u = some true := by
  rcases t with _ | _ | _ <;> rcases u with _ | _ | _ <;> simp [or]

theorem all_eq_true {ts : List Truth} : all ts = some true ↔ ∀ t ∈ ts, t = some true := by
  induction ts with
  | nil => simp [all]
  | cons t ts ih =>
    rw [all, List.foldr_cons, and_eq_true, List.forall_mem_cons]
    exact and_congr_right fun _ => ih

theorem any_eq_true {ts : List Truth} : any ts = some true ↔ some true ∈ ts := by
  induction ts with
  | nil => simp [any]
  | cons t ts ih =>
    rw [any, List.foldr_cons, or_eq_true, List.mem_cons]
    exact or_congr eq_comm ih

end Truth

/-- A database with its operators, for values that are not NULL. How a column is compared depends on
its kind. -/
structure Server (Value : Type) extends Database Value where
  compare : FieldKind → Comparison → Value → Json → Truth
  hasId : FieldKind → Value → Json → Truth
  startsWith : Value → Json → Truth
  contains : Value → Json → Truth
  isFalse : Value → Bool

variable {Value : Type}

def argument? (arguments : List Json) (n : Nat) : Option Json :=
  (arguments[n - 1]?).filter fun v => v ≠ .null

def JoinedRow.test (b : JoinedRow Value) (arguments : List Json) (op : Value → Json → Truth)
    (f : Column) (n : Nat) : Truth := do
  op (← b.value f) (← argument? arguments n)

def SearchTest.truth (db : Server Value) (arguments : List Json) (b : JoinedRow Value) :
    SearchTest → Truth
  | .startsWith f n => b.test arguments db.startsWith f n
  | .contains f n => b.test arguments db.contains f n

def Predicate.truth (db : Server Value) (arguments : List Json) (b : JoinedRow Value) :
    Predicate → Truth
  | .anyOf tests => .any (tests.map (·.truth db arguments b))
  | .compare f op n => b.test arguments (db.compare f.field.kind op) f n
  | .among f ns => .any (ns.map (b.test arguments (db.compare f.field.kind .eq) f))
  | .isFalse f => some ((b.value f).elim false db.isFalse)
  | .idAmong f ns => .any (ns.map (b.test arguments (db.hasId f.field.kind) f))
  | .never => some false

namespace Query

def condition (db : Server Value) (q : Query) (b : JoinedRow Value) : Truth :=
  .all (q.statement.predicates.map (·.truth db q.arguments b))

def selectedRows (db : Server Value) (q : Query) : List (JoinedRow Value) :=
  (q.statement.joinedRows db.toDatabase).filter fun b => q.condition db b = some true

theorem condition_eq_true {db : Server Value} {q : Query} {b : JoinedRow Value} :
    q.condition db b = some true ↔
      ∀ p ∈ q.statement.predicates, p.truth db q.arguments b = some true := by
  rw [condition, Truth.all_eq_true, List.forall_mem_map]

theorem mem_selectedRows {db : Server Value} {q : Query} {b : JoinedRow Value} :
    b ∈ q.selectedRows db ↔ b ∈ q.statement.joinedRows db.toDatabase ∧
      ∀ p ∈ q.statement.predicates, p.truth db q.arguments b = some true := by
  rw [selectedRows, List.mem_filter, decide_eq_true_eq, condition_eq_true]

end Query

namespace Predicate

inductive Restricts (t : TableId) : Predicate → Prop
  | compare {f : Column} {op : Comparison} {n : Nat} : f.table = t → Restricts t (.compare f op n)
  | among {f : Column} {ns : List Nat} : f.table = t → Restricts t (.among f ns)
  | isFalse {f : Column} : f.table = t → Restricts t (.isFalse f)

theorem Restricts.not_true {p : Predicate} {t : TableId} (h : p.Restricts t) (db : Server Value)
    (arguments : List Json) {b : JoinedRow Value} (hb : b t = none) :
    p.truth db arguments b ≠ some true := by
  have hvalue : ∀ {f : Column}, f.table = t → b.value f = none := by
    intro f hf
    rw [JoinedRow.value, hf, hb, Option.bind_none]
  have htest : ∀ {f : Column} op n, f.table = t → b.test arguments op f n = none := by
    intro f op n hf
    rw [JoinedRow.test, hvalue hf]
    rfl
  cases h with
  | compare hf => simp [truth, htest _ _ hf]
  | among hf => simp [truth, Truth.any_eq_true, htest _ _ hf]
  | isFalse hf => simp [truth, hvalue hf]

end Predicate
end Listing
