import Listing.Query.Statement
import Mathlib.Data.List.Basic

namespace Listing

abbrev Row (Value : Type) := String → Option Value

structure Database (Value : Type) where
  rows : String → List (Row Value)
  equal : Value → Value → Bool

/-- The rows of the tables joined so far. A table that has none there is NULL in every column. -/
abbrev JoinedRow (Value : Type) := TableId → Option (Row Value)

variable {Value : Type}

namespace JoinedRow

def empty : JoinedRow Value := fun _ => none

def put (b : JoinedRow Value) (t : TableId) (r : Row Value) : JoinedRow Value :=
  fun u => if u = t then some r else b u

def value (b : JoinedRow Value) (f : Column) : Option Value :=
  (b f.table).bind fun r => r f.field.name

theorem put_of_ne {b : JoinedRow Value} {t u : TableId} {r : Row Value} (h : u ≠ t) :
    b.put t r u = b u := if_neg h

end JoinedRow

namespace Join

def holds (db : Database Value) (j : Join) (b : JoinedRow Value) : Bool :=
  match b.value j.foreignKey, b.value j.referenceKey with
  | some v, some w => db.equal v w
  | _, _ => false

def related (db : Database Value) (j : Join) (b : JoinedRow Value) : List (JoinedRow Value) :=
  ((db.rows j.table.name).map fun r => b.put j.table.id r).filter fun b => j.holds db b

def run (db : Database Value) (j : Join) (b : JoinedRow Value) : List (JoinedRow Value) :=
  if (j.related db b).isEmpty && !j.isInner then [b] else j.related db b

def runAll (db : Database Value) : List Join → JoinedRow Value → List (JoinedRow Value)
  | [], b => [b]
  | j :: js, b => (j.run db b).flatMap (runAll db js)

theorem run_outer {db : Database Value} {j : Join} {b : JoinedRow Value} (hj : j.isInner = false)
    (hb : j.related db b = []) : j.run db b = [b] := by
  simp [run, hj, hb]

theorem related_of_absent (db : Database Value) {j : Join} {b : JoinedRow Value}
    (hne : j.foreignKey.table ≠ j.table.id) (hb : b j.foreignKey.table = none) :
    j.related db b = [] := by
  rw [related, List.filter_eq_nil_iff]
  intro b' hb'
  obtain ⟨r, _, rfl⟩ := List.mem_map.mp hb'
  have hv : (b.put j.table.id r).value j.foreignKey = none := by
    rw [JoinedRow.value, JoinedRow.put_of_ne hne, hb, Option.bind_none]
  simp [holds, hv]

theorem run_frame {db : Database Value} {j : Join} {b b' : JoinedRow Value} (h : b' ∈ j.run db b)
    {t : TableId} (ht : t ≠ j.table.id) : b' t = b t := by
  have hrel : b' ∈ j.related db b → b' t = b t := by
    intro hb
    obtain ⟨r, _, rfl⟩ := List.mem_map.mp (List.mem_of_mem_filter hb)
    exact JoinedRow.put_of_ne ht
  rw [run] at h
  split at h
  · rw [List.mem_singleton.mp h]
  · exact hrel h

theorem runAll_frame {db : Database Value} {js : List Join} {b b' : JoinedRow Value}
    (h : b' ∈ runAll db js b) {t : TableId} (ht : ∀ j ∈ js, t ≠ j.table.id) : b' t = b t := by
  induction js generalizing b with
  | nil => rw [List.mem_singleton.mp h]
  | cons j js ih =>
    obtain ⟨b₁, h₁, h⟩ := List.mem_flatMap.mp h
    rw [ih h fun k hk => ht k (List.mem_cons_of_mem _ hk), run_frame h₁ (ht j List.mem_cons_self)]

theorem runAll_absent (db : Database Value) (P : TableId → Prop) [DecidablePred P]
    {js : List Join} {b : JoinedRow Value} (hb : ∀ t, P t → b t = none)
    (hjs : ∀ j ∈ js, P j.table.id →
      P j.foreignKey.table ∧ j.foreignKey.table ≠ j.table.id ∧ j.isInner = false) :
    runAll db js b = runAll db (js.filter fun j => ¬ P j.table.id) b := by
  induction js generalizing b with
  | nil => rfl
  | cons j js ih =>
    have hjs' := fun k hk => hjs k (List.mem_cons_of_mem _ hk)
    by_cases hp : P j.table.id
    · obtain ⟨hf, hne, hout⟩ := hjs j List.mem_cons_self hp
      -- an outer join from a table that is absent adds a table that is absent
      rw [runAll, run_outer hout (related_of_absent db hne (hb _ hf)), List.flatMap_singleton,
        ih hb hjs', List.filter_cons_of_neg (by simpa using hp)]
    · rw [List.filter_cons_of_pos (by simpa using hp), runAll, runAll]
      refine List.flatMap_congr fun b' hb' => ih (fun t ht => ?_) hjs'
      rw [run_frame hb' fun he => hp (he ▸ ht), hb t ht]

end Join

namespace Statement

def rowsAfter (db : Database Value) (s : Statement) (js : List Join) : List (JoinedRow Value) :=
  (db.rows s.root.name).flatMap fun r => Join.runAll db js (JoinedRow.empty.put s.root.id r)

def joinedRows (db : Database Value) (s : Statement) : List (JoinedRow Value) :=
  s.rowsAfter db s.joins

end Statement
end Listing
