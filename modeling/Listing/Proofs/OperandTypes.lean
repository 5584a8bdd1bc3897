import Listing.Proofs.ArgumentKinds
import Listing.Proofs.NarrowedJoins
import Listing.Proofs.PagerRuns
import Listing.Proofs.SearchPatterns

/-!
Predicates as a server types them: what they apply to a column has to fit the column's own type, and
both sides of a comparison have to be of one type. A search writes all columns but those of numbers
in small letters, which only texts can be, and rows are left out by a column that has to be false.
-/
namespace Listing

inductive DataType where
  | number
  | text
  | truth
  | time
  | json
deriving DecidableEq, Repr

namespace DataType

/-- The type that an argument is announced by. Numbers of all sizes compare with one another. -/
def ofName? (name : String) : Option DataType :=
  if name = "INT8" ∨ name = "FLOAT8" then some .number
  else if name = "TEXT" then some .text
  else if name = "BOOL" then some .truth
  else if name = "JSONB" then some .json
  else none

def castName : DataType → String
  | .number => "numeric"
  | .text => "text"
  | .truth => "boolean"
  | .time => "timestamptz"
  | .json => "jsonb"

/-- Everything can be written as text, and text be read as anything. -/
def CastsTo (t u : DataType) : Prop := t = u ∨ t = .text ∨ u = .text

end DataType

def FieldKind.dataType : FieldKind → DataType
  | .numeric => .number
  | .string => .text
  | .boolean => .truth
  | .date => .time

inductive Operand where
  | column (f : Column)
  | argument (n : Nat)
  | number (n : Nat)
  | cast (e : Operand) (t : DataType)
  | lower (e : Operand)

namespace Operand

def text : Operand → String
  | column f => f.statement
  | argument n => placeholder n
  | number n => toString n
  | cast e t => e.text ++ "::" ++ t.castName
  | lower e => "lower(" ++ e.text ++ ")"

inductive HasType (arguments : List Argument) : Operand → DataType → Prop
  | column (f : Column) : HasType arguments (.column f) f.field.kind.dataType
  | argument {n : Nat} {a : Argument} {t : DataType} : arguments[n]? = some a →
      DataType.ofName? a.typeName = some t → HasType arguments (.argument (n + 1)) t
  | number (n : Nat) : HasType arguments (.number n) .number
  | cast {e : Operand} {t u : DataType} : HasType arguments e t → t.CastsTo u →
      HasType arguments (.cast e u) u
  | lower {e : Operand} : HasType arguments e .text → HasType arguments (.lower e) .text

end Operand

inductive Atom where
  | like (e pattern : Operand)
  | compare (e : Operand) (op : Comparison) (e' : Operand)
  | among (e : Operand) (separator : String) (es : List Operand)
  | isFalse (e : Operand)

namespace Atom

def text : Atom → String
  | like e pattern => e.text ++ " like " ++ pattern.text
  | compare e op e' => e.text ++ " " ++ op.sign ++ " " ++ e'.text
  | among e separator es => e.text ++ " IN (" ++ joinWith separator (es.map (·.text)) ++ ")"
  | isFalse e => e.text ++ " is false"

inductive WellTyped (arguments : List Argument) : Atom → Prop
  | like {e pattern : Operand} : e.HasType arguments .text → pattern.HasType arguments .text →
      WellTyped arguments (.like e pattern)
  | compare {e e' : Operand} {t : DataType} (op : Comparison) : e.HasType arguments t →
      e'.HasType arguments t → WellTyped arguments (.compare e op e')
  | among {e : Operand} {es : List Operand} {t : DataType} (separator : String) :
      e.HasType arguments t → es ≠ [] → (∀ e' ∈ es, e'.HasType arguments t) →
      WellTyped arguments (.among e separator es)
  | isFalse {e : Operand} : e.HasType arguments .truth → WellTyped arguments (.isFalse e)

end Atom

inductive Formula where
  | atom (a : Atom)
  | anyOf (as : List Atom)

namespace Formula

def text : Formula → String
  | atom a => a.text
  | anyOf [] => "(FALSE)"
  | anyOf as => "(" ++ joinWith " OR " (as.map (·.text)) ++ ")"

def WellTyped (arguments : List Argument) : Formula → Prop
  | atom a => a.WellTyped arguments
  | anyOf as => ∀ a ∈ as, a.WellTyped arguments

end Formula

def Column.operand (f : Column) : Operand :=
  match f.field.kind with
  | .string => .cast (.column f) .text
  | .numeric | .boolean | .date => .column f

def FieldKind.operand (kind : FieldKind) (n : Nat) : Operand :=
  match kind with
  | .date => .cast (.argument n) .time
  | .numeric | .string | .boolean => .argument n

def SearchTest.atom : SearchTest → Atom
  | .startsWith f n => .like (.cast (.column f) .text) (.argument n)
  | .contains f n => .like (.lower (.column f)) (.argument n)

def Predicate.formula : Predicate → Formula
  | .anyOf tests => .anyOf (tests.map (·.atom))
  | .compare f op n => .atom (.compare f.operand op (f.field.kind.operand n))
  | .among f ns => .atom (.among f.operand "," (ns.map f.field.kind.operand))
  | .isFalse f => .atom (.isFalse (.column f))
  | .idAmong f ns => .atom (.among f.operand ", " (ns.map .argument))
  | .never => .atom (.compare (.number 1) .eq (.number 0))

theorem Column.text_operand (f : Column) : f.operand.text = f.comparand := by
  rw [operand, comparand]
  cases f.field.kind
  · rfl
  · simp [Operand.text, DataType.castName, String.append_assoc]
  · rfl
  · rfl

theorem FieldKind.text_operand (kind : FieldKind) (n : Nat) :
    (kind.operand n).text = typedPlaceholder kind n := by
  cases kind
  · rfl
  · rfl
  · rfl
  · simp [operand, typedPlaceholder, Operand.text, DataType.castName, String.append_assoc]

theorem SearchTest.text_atom (t : SearchTest) : t.atom.text = t.text := by
  cases t with
  | startsWith f n =>
    simp [atom, text, Atom.text, Operand.text, DataType.castName, String.append_assoc]
  | contains f n =>
    simp [atom, text, Atom.text, Operand.text, String.append_assoc]

theorem Predicate.text_formula (p : Predicate) : p.formula.text = p.text := by
  cases p with
  | anyOf tests =>
    cases tests with
    | nil => rfl
    | cons t ts =>
      simp only [formula, Formula.text, text, List.map_cons, List.map_map, Function.comp_def,
        SearchTest.text_atom]
  | compare f op n =>
    simp only [formula, Formula.text, Atom.text, text, Column.text_operand,
      FieldKind.text_operand]
  | among f ns =>
    simp only [formula, Formula.text, Atom.text, text, Column.text_operand, List.map_map,
      Function.comp_def, FieldKind.text_operand]
  | isFalse f => rfl
  | idAmong f ns =>
    simp only [formula, Formula.text, Atom.text, text, Column.text_operand, List.map_map,
      Function.comp_def, Operand.text]
  | never => rfl

def SearchTest.expects : SearchTest → List (Column × FieldKind)
  | .startsWith _ _ => []
  | .contains f _ => [(f, .string)]

def Predicate.expects : Predicate → List (Column × FieldKind)
  | .anyOf tests => tests.flatMap (·.expects)
  | .isFalse f => [(f, .boolean)]
  | .compare _ _ _ | .among _ _ | .idAmong _ _ | .never => []

namespace Operand

variable {arguments : List Argument} {t : DataType}

theorem hasType_column {f : Column} :
    (column f).HasType arguments t ↔ t = f.field.kind.dataType := by
  constructor
  · rintro ⟨⟩
    rfl
  · rintro rfl
    exact .column f

theorem hasType_lower {e : Operand} :
    (lower e).HasType arguments t ↔ t = .text ∧ e.HasType arguments .text := by
  constructor
  · rintro ⟨⟩
    exact ⟨rfl, ‹_›⟩
  · rintro ⟨rfl, he⟩
    exact .lower he

theorem hasType_operand (arguments : List Argument) (f : Column) :
    f.operand.HasType arguments f.field.kind.dataType := by
  have hcolumn : (column f).HasType arguments f.field.kind.dataType := .column f
  rw [Column.operand]
  split
  · rename_i hf
    rw [hf]
    exact .cast hcolumn (.inr (.inr rfl))
  all_goals exact hcolumn

end Operand

theorem dataType_eq_text {kind : FieldKind} : .text = kind.dataType ↔ kind = .string := by
  cases kind <;> simp [FieldKind.dataType]

theorem dataType_eq_truth {kind : FieldKind} : .truth = kind.dataType ↔ kind = .boolean := by
  cases kind <;> simp [FieldKind.dataType]

section Arguments

variable {arguments : List Argument} {n : Nat}

theorem Receives.hasType {kind : FieldKind} {v : List Char} {a : Argument} (h : Receives kind v a)
    (ha : arguments[n]? = some a) : (kind.operand (n + 1)).HasType arguments kind.dataType := by
  cases h with
  | string => exact .argument ha rfl
  | date => exact .cast (.argument ha rfl) (.inr (.inl rfl))
  | boolean => exact .argument ha rfl
  | whole => exact .argument ha rfl
  | real => exact .argument ha rfl

theorem wellTyped_isFalse {f : Column} : (Predicate.isFalse f).formula.WellTyped arguments ↔
    ∀ e ∈ (Predicate.isFalse f).expects, e.1.field.kind = e.2 := by
  rw [Predicate.expects, List.forall_mem_singleton, ← dataType_eq_truth]
  constructor
  · rintro ⟨⟩
    exact Operand.hasType_column.mp ‹_›
  · intro hf
    exact .isFalse (Operand.hasType_column.mpr hf)

theorem Search.wellTyped_test {f : Column} {s : String} (ha : arguments[n]? = some (.text s)) :
    (test f (n + 1)).atom.WellTyped arguments ↔
      ∀ e ∈ (test f (n + 1)).expects, e.1.field.kind = e.2 := by
  have hpattern : (Operand.argument (n + 1)).HasType arguments .text := .argument ha rfl
  by_cases hf : f.field.kind = .numeric
  · have hcast : (Operand.cast (.column f) .text).HasType arguments .text :=
      .cast (.column f) (.inr (.inr rfl))
    rw [test_numeric hf]
    exact iff_of_true (.like hcast hpattern) (List.forall_mem_nil _)
  · rw [test_of_ne hf, SearchTest.expects, List.forall_mem_singleton, ← dataType_eq_text]
    constructor
    · rintro ⟨hlower, -⟩
      exact Operand.hasType_column.mp (Operand.hasType_lower.mp hlower).2
    · intro htext
      exact .like (.lower (Operand.hasType_column.mpr htext)) hpattern

end Arguments

theorem Clause.exists_place {ks : List Clause} {n : Nat} {p : Predicate} (h : p ∈ numbered n ks) :
    ∃ before k after, ks = before ++ k :: after ∧ k ∈ ks ∧
      p = k.predicate (n + (before.flatMap (·.arguments)).length) := by
  induction ks generalizing n with
  | nil => cases h
  | cons k ks ih =>
    rcases List.mem_cons.mp h with rfl | h
    · exact ⟨[], k, ks, rfl, List.mem_cons_self, rfl⟩
    · obtain ⟨before, k', after, rfl, hk, rfl⟩ := ih h
      refine ⟨k :: before, k', after, rfl, List.mem_cons_of_mem k hk, ?_⟩
      rw [List.flatMap_cons, List.length_append, Nat.add_assoc]

section Between

variable (before after : List Argument)

theorem getElem?_between {mine : List Argument} {i : Nat} (hi : i < mine.length) :
    (before ++ (mine ++ after))[before.length + i]? = mine[i]? := by
  rw [List.getElem?_append_right (Nat.le_add_right _ _), Nat.add_sub_cancel_left,
    List.getElem?_append_left hi]

theorem Filter.wellTyped_predicate {f : Filter} {values : List (List Char)} (hne : values ≠ [])
    (h : List.Forall₂ (Receives f.column.field.kind) values (sentArguments f.test.values)) :
    (f.predicate (before.length + 1)).formula.WellTyped
      (before ++ (sentArguments f.test.values ++ after)) := by
  have hlength : (sentArguments f.test.values).length = f.test.values.length := List.length_map ..
  have hargument : ∀ i < f.test.values.length,
      (f.column.field.kind.operand (before.length + i + 1)).HasType
        (before ++ (sentArguments f.test.values ++ after)) f.column.field.kind.dataType := by
    intro i hi
    rw [← hlength] at hi
    obtain ⟨v, -, hv⟩ := forall₂_mem_right h (List.getElem_mem hi)
    apply hv.hasType
    rw [getElem?_between before after hi, List.getElem?_eq_getElem hi]
  have hpos : 0 < f.test.values.length := by
    rw [← hlength, ← h.length_eq]
    exact List.length_pos_iff.mpr hne
  generalize before ++ (sentArguments f.test.values ++ after) = arguments at hargument ⊢
  have hcolumn := Operand.hasType_operand arguments f.column
  obtain ⟨column, test⟩ := f
  cases test with
  | compare op v => exact .compare op hcolumn (hargument 0 hpos)
  | among vs =>
    apply Atom.WellTyped.among "," hcolumn
    · rw [ne_eq, List.map_eq_nil_iff, List.range'_eq_nil_iff]
      exact Nat.ne_of_gt hpos
    · intro e he
      obtain ⟨m, hm, rfl⟩ := List.mem_map.mp he
      obtain ⟨i, hi, rfl⟩ := List.mem_range'.mp hm
      rw [Nat.one_mul, Nat.add_right_comm]
      exact hargument i hi

theorem Filter.expects_clause (f : Filter) (n : Nat) : (f.clause.predicate n).expects = [] := by
  obtain ⟨column, test⟩ := f
  cases test <;> rfl

theorem Search.pattern_string (term : String) (f : Column) : ∃ s, pattern term f = .string s := by
  rw [pattern]
  split <;> exact ⟨_, rfl⟩

theorem Search.wellTyped_clause {c : Catalog} {term : String} :
    ((clause c term).predicate (before.length + 1)).formula.WellTyped
        (before ++ (sentArguments (clause c term).arguments ++ after)) ↔
      ∀ e ∈ ((clause c term).predicate (before.length + 1)).expects, e.1.field.kind = e.2 := by
  have htest : ∀ e ∈ (tested c term).zipIdx (before.length + 1),
      ((test e.1 e.2).atom.WellTyped
          (before ++ (sentArguments (clause c term).arguments ++ after)) ↔
        ∀ x ∈ (test e.1 e.2).expects, x.1.field.kind = x.2) := by
    rintro ⟨f, m⟩ he
    obtain ⟨hle, hf⟩ := List.mk_mem_zipIdx_iff_le_and_getElem?_sub.mp he
    obtain ⟨i, rfl⟩ := Nat.exists_eq_add_of_le hle
    obtain ⟨s, hs⟩ := pattern_string term f
    rw [Nat.add_sub_cancel_left] at hf
    have hmine : (sentArguments (clause c term).arguments)[i]? = some (.text s) := by
      simp [sentArguments, Clause.arguments, clause, hf, hs, Argument.ofJson]
    have hi := (List.getElem?_eq_some_iff.mp hmine).1
    rw [Nat.add_right_comm]
    exact wellTyped_test ((getElem?_between before after hi).trans hmine)
  constructor
  · intro h x hx
    obtain ⟨k, hk, hx⟩ := List.mem_flatMap.mp hx
    obtain ⟨e, he, rfl⟩ := List.mem_map.mp hk
    exact (htest e he).mp (h _ (List.mem_map_of_mem hk)) x hx
  · intro h a ha
    obtain ⟨k, hk, rfl⟩ := List.mem_map.mp ha
    obtain ⟨e, he, rfl⟩ := List.mem_map.mp hk
    exact (htest e he).mpr fun x hx => h x (List.mem_flatMap.mpr ⟨_, hk, hx⟩)

end Between

namespace Catalog

variable {c : Catalog} {r : Request}

theorem mem_clauses {k : Clause} (hk : k ∈ c.clauses r) :
    (r.search ≠ "" ∧ k = Search.clause c r.search) ∨
      ∃ scope raw f, Filter.accept c scope raw = .ok f ∧ k = f.clause := by
  have hfilter : ∀ scope raws, k ∈ (Filter.accepted c scope raws).map (·.clause) →
      ∃ scope raw f, Filter.accept c scope raw = .ok f ∧ k = f.clause := by
    intro scope raws hk
    obtain ⟨f, hf, rfl⟩ := List.mem_map.mp hk
    obtain ⟨raw, -, haccept⟩ := Filter.mem_accepted.mp hf
    exact ⟨scope, raw, f, haccept, rfl⟩
  rw [clauses, List.mem_append, List.mem_append] at hk
  rcases hk with (hsearch | hrequest) | htrusted
  · rw [Search.clauses] at hsearch
    split at hsearch
    · cases hsearch
    · rename_i hterm
      refine .inl ⟨?_, List.mem_singleton.mp hsearch⟩
      rintro hempty
      simp [hempty] at hterm
  · exact .inr (hfilter .request r.filters hrequest)
  · exact .inr (hfilter .trusted r.localFilters htrusted)

theorem wellTyped_place (before after : List Argument) {k : Clause} (hk : k ∈ c.clauses r) :
    (k.predicate (before.length + 1)).formula.WellTyped
        (before ++ (sentArguments k.arguments ++ after)) ↔
      ∀ e ∈ (k.predicate (before.length + 1)).expects, e.1.field.kind = e.2 := by
  rcases mem_clauses hk with ⟨-, rfl⟩ | ⟨scope, raw, f, haccept, rfl⟩
  · exact Search.wellTyped_clause before after
  · obtain ⟨values, hasks, hvalues⟩ := Filter.asks_of_accept haccept
    obtain ⟨key, operator, value, -, -, -, hsplit⟩ := hasks.parts
    have htyped := Filter.wellTyped_predicate before after (Filter.splitValues_ne_nil hsplit)
      hvalues
    rw [Filter.sent_arguments]
    exact iff_of_true htyped (by rw [Filter.expects_clause]; exact List.forall_mem_nil _)

theorem wellTyped_iff {p : Predicate} (hp : p ∈ (c.compile r).draft.predicates) :
    p.formula.WellTyped (sentArguments (c.compile r).draft.arguments) ↔
      ∀ e ∈ p.expects, e.1.field.kind = e.2 := by
  rw [compile_predicates_eq] at hp
  obtain ⟨before, k, after, hclauses, hk, rfl⟩ := Clause.exists_place hp
  -- a clause is typed by its own arguments alone, wherever they stand in the list
  have hplace := wellTyped_place (sentArguments (before.flatMap (·.arguments)))
    (sentArguments (after.flatMap (·.arguments))) hk
  rw [compile_arguments_eq, hclauses, List.flatMap_append, List.flatMap_cons]
  simpa only [sentArguments, List.map_append, List.length_map, Nat.add_comm 1] using hplace

theorem expects_iff {f : Column} {kind : FieldKind} :
    (∃ p ∈ (c.compile r).draft.predicates, (f, kind) ∈ p.expects) ↔
      (r.search ≠ "" ∧ f ∈ c.columns ∧ f.field.searchable = true ∧ f.field.kind ≠ .numeric) ∧
        kind = .string := by
  constructor
  · rintro ⟨p, hp, he⟩
    rw [compile_predicates_eq] at hp
    obtain ⟨before, k, after, -, hk, rfl⟩ := Clause.exists_place hp
    rcases mem_clauses hk with ⟨hterm, rfl⟩ | ⟨scope, raw, g, -, rfl⟩
    · obtain ⟨k, hk, he⟩ := List.mem_flatMap.mp he
      obtain ⟨⟨g, m⟩, hg, rfl⟩ := List.mem_map.mp hk
      have hsearch := List.mem_of_mem_filter (List.fst_mem_of_mem_zipIdx hg)
      by_cases hnumeric : g.field.kind = .numeric
      · rw [Search.test_numeric hnumeric] at he
        cases he
      · rw [Search.test_of_ne hnumeric] at he
        cases List.mem_singleton.mp he
        obtain ⟨hmem, hsearchable⟩ := List.mem_filter.mp hsearch
        exact ⟨⟨hterm, hmem, hsearchable, hnumeric⟩, rfl⟩
    · rw [Filter.expects_clause] at he
      cases he
  · rintro ⟨⟨hterm, hmem, hsearchable, hkind⟩, rfl⟩
    have htested : f ∈ Search.tested c r.search := by
      rw [Search.tested_eq]
      simp [hmem, hsearchable, hkind]
    obtain ⟨tests, n, hpredicate, htest, -⟩ := compile_tested hterm htested
    rw [Search.test_of_ne hkind] at htest
    exact ⟨_, hpredicate, List.mem_flatMap.mpr ⟨_, htest, List.mem_singleton_self _⟩⟩

theorem expects_met_iff :
    (∀ p ∈ (c.compile r).draft.predicates, ∀ e ∈ p.expects, e.1.field.kind = e.2) ↔
      (r.search ≠ "" → ∀ f ∈ c.columns, f.field.searchable = true →
        f.field.kind = .numeric ∨ f.field.kind = .string) := by
  constructor
  · intro h hterm f hmem hsearchable
    by_cases hnumeric : f.field.kind = .numeric
    · exact .inl hnumeric
    · obtain ⟨p, hp, he⟩ := expects_iff.mpr ⟨⟨hterm, hmem, hsearchable, hnumeric⟩, rfl⟩
      exact .inr (h p hp _ he)
  · rintro h p hp ⟨f, kind⟩ he
    obtain ⟨⟨hterm, hmem, hsearchable, hnumeric⟩, rfl⟩ := expects_iff.mp ⟨p, hp, he⟩
    exact (h hterm f hmem hsearchable).resolve_left hnumeric

theorem softDeletes_met_iff :
    (∀ p ∈ c.softDeletes.map Predicate.isFalse, ∀ e ∈ p.expects, e.1.field.kind = e.2) ↔
      ∀ f ∈ c.columns, f.field.softDelete = true → f.field.kind = .boolean := by
  simp only [List.forall_mem_map, Predicate.expects, List.forall_mem_singleton, softDeletes,
    List.mem_filter, and_imp]

end Catalog

namespace Session

variable {Id Model : Type} {c : Catalog} {s : Session Id Model}

/-- Filters are well typed for all columns and values. The query for ids as a whole is well typed
exactly if rows are left out by columns of booleans alone and, where there is a search, all columns
to search hold numbers or strings. -/
theorem conditions_typed_iff {t : Table} (h : Catalog.build t = .ok c) (hs : s.Reachable c)
    (hp : s.isProcessed = true) {fields : List FieldId}
    (hf : ∃ i ∈ fields, (c.column? i).isSome = true) :
    ∃ q, (s.select fields).idQuery = .ok q ∧
      (∀ p ∈ q.statement.predicates, p.formula.text = p.text ∧
        (p.formula.WellTyped (sentArguments q.arguments) ↔
          ∀ e ∈ p.expects, e.1.field.kind = e.2)) ∧
      ((∀ p ∈ q.statement.predicates, p.formula.WellTyped (sentArguments q.arguments)) ↔
        (s.request.search ≠ "" → ∀ f ∈ c.columns, f.field.searchable = true →
          f.field.kind = .numeric ∨ f.field.kind = .string) ∧
        ∀ f ∈ c.columns, f.field.softDelete = true → f.field.kind = .boolean) := by
  obtain ⟨root, hready⟩ := hs.ready_select h hp hf
  have hcompiled := (hs.select fields).compiled
  have hquery := idQuery_eq hready
  rw [hcompiled.predicates, hcompiled.arguments, select_request] at hquery
  have htyped : ∀ p ∈ (c.compile s.request).draft.predicates ++ c.softDeletes.map Predicate.isFalse,
      (p.formula.WellTyped (sentArguments (c.compile s.request).draft.arguments) ↔
        ∀ e ∈ p.expects, e.1.field.kind = e.2) := by
    intro p hpq
    rcases List.mem_append.mp hpq with hrequest | hdefault
    · exact Catalog.wellTyped_iff hrequest
    · obtain ⟨f, -, rfl⟩ := List.mem_map.mp hdefault
      exact wellTyped_isFalse
  refine ⟨_, hquery, fun p hpq => ⟨p.text_formula, htyped p hpq⟩, ?_⟩
  rw [← Catalog.expects_met_iff, ← Catalog.softDeletes_met_iff, ← List.forall_mem_append]
  exact forall₂_congr htyped

theorem conditions_typed_iff_shop : (shopSession lampRequest).isProcessed = true ∧
    ∃ q, ((shopSession lampRequest).select [0]).idQuery = .ok q ∧
      q.statement.predicates.length = 3 ∧
      ∀ p ∈ q.statement.predicates, p.formula.WellTyped (sentArguments q.arguments) := by
  have hp : (shopSession lampRequest).isProcessed = true := by decide
  obtain ⟨q, hq, -, htyped⟩ := conditions_typed_iff Catalog.build_shop
    (shopSession_reachable lampRequest) hp ⟨0, List.mem_singleton_self 0, by decide⟩
  refine ⟨hp, q, hq, ?_, htyped.mpr ⟨fun _ => by decide, by decide⟩⟩
  cases hq
  decide

def lots : Table where
  name := "lot"
  fields := [{ name := "id", kind := .numeric },
    { name := "sold", kind := .boolean, searchable := true }]

def lotCatalog : Catalog := (Catalog.build lots).toOption.getD {}

def soldLots : Session Json Json :=
  ((ofCatalog lotCatalog).setRequest { limit := 10, page := 1, search := "true" }).1

theorem search_ill_typed_lots : Catalog.build lots = .ok lotCatalog ∧
    soldLots.isProcessed = true ∧ ∃ q, (soldLots.select [0]).idQuery = .ok q ∧
      ∃ p ∈ q.statement.predicates, p.text = "(lower(lot.\"sold\") like $1)" ∧
        ¬ p.formula.WellTyped (sentArguments q.arguments) := by
  refine ⟨by rfl, by decide, _, rfl, _, List.mem_singleton_self _, by decide, ?_⟩
  intro h
  obtain ⟨hlower, -⟩ := h _ (List.mem_singleton_self _)
  have htext := Operand.hasType_column.mp (Operand.hasType_lower.mp hlower).2
  cases htext

end Session

end Listing
