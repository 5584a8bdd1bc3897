import Listing.Proofs.Refusals

/-!
The filters of a request as the compiler goes through them, one entry after another, with the draft
as its state. An entry changes the draft only once all of it has been read, so each entry is
judged on its own and one that is refused leaves no trace but its refusal.
-/
namespace Listing

namespace Draft

/-- A part of the compiler. It may refuse, and what it has done to the draft by then is kept. -/
abbrev Attempt (α : Type) : Type := ExceptT Refusal (StateM Draft) α

namespace Attempt

variable {α β : Type}

def outcome (m : Attempt α) (d : Draft) : Except Refusal α × Draft :=
  StateT.run (ExceptT.run m) d

@[simp] theorem outcome_pure (x : α) (d : Draft) :
    (pure x : Attempt α).outcome d = (.ok x, d) := rfl

theorem outcome_bind (m : Attempt α) (f : α → Attempt β) (d : Draft) :
    (m >>= f).outcome d = match m.outcome d with
      | (.ok x, d') => (f x).outcome d'
      | (.error e, d') => (.error e, d') := by
  unfold outcome
  simp only [ExceptT.run_bind, StateT.run_bind]
  cases StateT.run m.run d with
  | mk x d' => cases x <;> rfl

end Attempt

def addArgument (v : Json) : Attempt Nat :=
  modifyGet fun d => (d.arguments.length + 1, { d with arguments := d.arguments ++ [v] })

def addPredicate (f : Column) (p : Predicate) : Attempt Unit :=
  modify fun d => { d with predicates := d.predicates ++ [p] }.mark f .filter

@[simp] theorem outcome_addArgument (v : Json) (d : Draft) : (addArgument v).outcome d =
    (.ok (d.arguments.length + 1), { d with arguments := d.arguments ++ [v] }) := rfl

@[simp] theorem outcome_addPredicate (f : Column) (p : Predicate) (d : Draft) :
    (addPredicate f p).outcome d =
      (.ok (), { d with predicates := d.predicates ++ [p] }.mark f .filter) := rfl

theorem outcome_mapM_addArgument (vs : List Json) (d : Draft) :
    Attempt.outcome (vs.mapM addArgument) d =
      (.ok (List.range' (d.arguments.length + 1) vs.length),
        { d with arguments := d.arguments ++ vs }) := by
  induction vs generalizing d with
  | nil => simp
  | cons v vs ih =>
    simp only [List.mapM_cons, Attempt.outcome_bind, outcome_addArgument, ih, Attempt.outcome_pure]
    simp [List.range'_succ]

end Draft

def FilterTest.operator : FilterTest → FilterOperator
  | .compare op _ => .compare op
  | .among _ => .among

def FilterTest.text (placeholders : List String) : FilterTest → String
  | .compare op _ => op.sign ++ " " ++ joinWith "," placeholders
  | .among _ => "IN (" ++ joinWith "," placeholders ++ ")"

namespace Filter

def enterValues (column : Column) (operator : FilterOperator) (value : List Char) :
    Draft.Attempt Unit := do
  let some values := splitValues value | throw (.filterValue column.field.kind)
  let some typed := values.mapM (typedValue column.field.kind)
    | throw (.filterValue column.field.kind)
  match operator, typed with
  | .compare op, [v] => do
    let n ← Draft.addArgument v
    Draft.addPredicate column (.compare column op n)
  | .compare _, _ => throw (.filterValue column.field.kind)
  | .among, vs => do
    let ns ← vs.mapM Draft.addArgument
    Draft.addPredicate column (.among column ns)

def enter (c : Catalog) (scope : FilterScope) (raw : String) : Draft.Attempt Unit := do
  let some (key, operator, value) := parts? raw.toList | throw .filterFormat
  let some column := (c.indexed? (String.ofList key)).filter fun f => scope.allows f.field
    | throw .filterField
  let some operator := FilterOperator.ofName? operator | throw .filterOperator
  enterValues column operator value

theorem outcome_enterValues (column : Column) (operator : FilterOperator) (value : List Char)
    (d : Draft) : (enterValues column operator value).outcome d =
      match test? operator column.field.kind value with
      | some test => (.ok (), d.addFilter ⟨column, test⟩)
      | none => (.error (.filterValue column.field.kind), d) := by
  rw [enterValues, test?]
  cases splitValues value with
  | none => rfl
  | some values =>
    simp only [Option.bind_eq_bind, Option.bind_some]
    cases values.mapM (typedValue column.field.kind) with
    | none => rfl
    | some typed =>
      simp only [Option.bind_some]
      cases operator with
      | among =>
        simp only [Draft.Attempt.outcome_bind, Draft.outcome_mapM_addArgument,
          Draft.outcome_addPredicate]
        rfl
      | compare op =>
        rcases typed with _ | ⟨v, _ | ⟨w, typed⟩⟩
        · rfl
        · rfl
        · rfl

theorem outcome_enter (c : Catalog) (scope : FilterScope) (raw : String) (d : Draft) :
    (enter c scope raw).outcome d = match accept c scope raw with
      | .ok f => (.ok (), d.addFilter f)
      | .error e => (.error e, d) := by
  rw [enter, accept]
  cases parts? raw.toList with
  | none => rfl
  | some parts =>
    obtain ⟨key, operator, value⟩ := parts
    simp only
    cases (c.indexed? (String.ofList key)).filter fun f => scope.allows f.field with
    | none => rfl
    | some column =>
      simp only
      cases FilterOperator.ofName? operator with
      | none => rfl
      | some op =>
        simp only [outcome_enterValues]
        cases test? op column.field.kind value <;> rfl

structure Reads (c : Catalog) (scope : FilterScope) (raw : String) (f : Filter) : Prop where
  allowed : scope.allows f.column.field = true
  parts : ∃ key operator value values, parts? raw.toList = some (key, operator, value) ∧
    c.indexed? (String.ofList key) = some f.column ∧
    FilterOperator.ofName? operator = some f.test.operator ∧ splitValues value = some values ∧
    values.map (typedValue f.column.field.kind) = f.test.values.map some

theorem operator_of_test? {op : FilterOperator} {kind : FieldKind} {value : List Char}
    {test : FilterTest} (h : test? op kind value = some test) : test.operator = op := by
  obtain ⟨_, _, _, hop⟩ := test?_some h
  rcases hop with ⟨o, v, rfl, rfl⟩ | ⟨vs, rfl, rfl⟩
  · rfl
  · rfl

theorem reads_of_accept {c : Catalog} {scope : FilterScope} {raw : String} {f : Filter}
    (h : accept c scope raw = .ok f) : Reads c scope raw f := by
  obtain ⟨key, operator, value, op, hparts, hcolumn, hallows, hoperator, htest⟩ := accept_ok h
  obtain ⟨values, hsplit, hvalues, _⟩ := test?_some htest
  rw [← operator_of_test? htest] at hoperator
  exact ⟨hallows, key, operator, value, values, hparts, hcolumn, hoperator, hsplit, hvalues⟩

theorem text_predicate (f : Filter) (n : Nat) : (f.predicate n).text =
    f.column.comparand ++ " " ++ f.test.text
      ((List.range' n f.test.values.length).map (typedPlaceholder f.column.field.kind)) := by
  obtain ⟨column, test⟩ := f
  cases test with
  | compare op v => simp [predicate, Predicate.text, FilterTest.text, FilterTest.values, joinWith,
      String.append_assoc]
  | among vs =>
    have hblank : " IN (" = " " ++ "IN (" := rfl
    simp only [predicate, Predicate.text, FilterTest.text, FilterTest.values, hblank,
      String.append_assoc]

end Filter

theorem Draft.addFilter_eq (d : Draft) (f : Filter) : d.addFilter f =
    { predicates := d.predicates ++ [f.predicate (d.arguments.length + 1)]
      arguments := d.arguments ++ f.test.values
      usage := d.usage.mark f.column.table .filter } := by
  obtain ⟨column, test⟩ := f
  cases test <;> rfl

namespace Compiled

variable (c : Catalog) (scope : FilterScope)

def takeFilter (k : Compiled) (n : Nat) (raw : String) : Compiled :=
  match (Filter.enter c scope raw).outcome k.draft with
  | (.ok _, d) => { k with draft := d }
  | (.error e, d) => { k with draft := d, refusals := k.refusals ++ [(scope.position n, e)] }

def takeFilters (k : Compiled) (n : Nat) : List String → Compiled
  | [] => k
  | raw :: raws => (k.takeFilter c scope n raw).takeFilters (n + 1) raws

def refuse (k : Compiled) (p : Position) (e : Refusal) : Compiled :=
  { k with refusals := k.refusals ++ [(p, e)] }

def addFilter (k : Compiled) (f : Filter) : Compiled :=
  { k with
    draft :=
      { predicates := k.draft.predicates ++ [f.predicate (k.draft.arguments.length + 1)]
        arguments := k.draft.arguments ++ f.test.values
        usage := k.draft.usage.mark f.column.table .filter } }

theorem takeFilter_eq (k : Compiled) (n : Nat) (raw : String) : k.takeFilter c scope n raw =
    match Filter.accept c scope raw with
    | .ok f => k.addFilter f
    | .error e => k.refuse (scope.position n) e := by
  rw [takeFilter, Filter.outcome_enter]
  cases Filter.accept c scope raw with
  | error e => rfl
  | ok f =>
    simp only [Draft.addFilter_eq]
    rfl

theorem takeFilters_eq (k : Compiled) (n : Nat) (raws : List String) :
    k.takeFilters c scope n raws =
      { k with
        draft := k.draft.addFilters (Filter.accepted c scope raws)
        refusals := k.refusals ++ (numberedRefusals (raws.map (Filter.accept c scope)) n).map
          fun e => (scope.position e.1, e.2) } := by
  induction raws generalizing k n with
  | nil => simp [takeFilters, Filter.accepted, Draft.addFilters, numberedRefusals]
  | cons raw raws ih =>
    rw [takeFilters, ih, takeFilter_eq, List.map_cons]
    cases ha : Filter.accept c scope raw with
    | error e =>
      have hskip := Filter.accepted_erase ha [] raws
      rw [List.nil_append, List.nil_append] at hskip
      simp only [hskip, numberedRefusals_error, refuse, List.map_cons, List.append_assoc,
        List.singleton_append]
    | ok f =>
      simp only [Filter.accepted_cons ha, numberedRefusals_ok, addFilter, Draft.addFilters,
        List.foldl_cons, Draft.addFilter_eq]

theorem takeFilters_refused (k : Compiled) (raws : List String) : k.takeFilters c scope 1 raws =
    { k with
      draft := k.draft.addFilters (Filter.accepted c scope raws)
      refusals := k.refusals ++ Filter.refused c scope raws } := by
  rw [takeFilters_eq, Filter.refused_eq_map, Filter.numberedRefused]

def searched (term : String) : Compiled where
  draft := Search.add c term { usage := c.defaultUsage }
  refusals := Search.refused c

def sorted (k : Compiled) (raws : List String) : Compiled where
  draft := (SortTerm.accepted c raws ++ SortTerm.order c raws).foldl
    (fun d t => d.mark t.column .sort) k.draft
  order := SortTerm.order c raws
  refusals := k.refusals ++ SortTerm.refused c raws

theorem sorted_nil (k : Compiled) : (k.sorted c []).refusals = k.refusals ∧
    (k.sorted c []).draft.predicates = k.draft.predicates ∧
    (k.sorted c []).draft.arguments = k.draft.arguments := by
  have hrefused : SortTerm.refused c [] = [] := rfl
  rw [sorted, Draft.foldl_mark_eq SortTerm.column, hrefused, List.append_nil]
  exact ⟨rfl, rfl, rfl⟩

end Compiled

def FilterScope.only : FilterScope → List String → Request
  | .request, raws => { filters := raws }
  | .trusted, raws => { localFilters := raws }

namespace Catalog

def nameColumn : Column where
  id := 1
  table := 0
  qualifier := "product"
  field := { name := "name", searchable := true, filterable := true, sortable := true }

variable (c : Catalog)

theorem compile_eq_passes (r : Request) : c.compile r =
    (((Compiled.searched c r.search).takeFilters c .request 1 r.filters).takeFilters c .trusted 1
      r.localFilters).sorted c r.sorts := by
  rw [Compiled.takeFilters_refused, Compiled.takeFilters_refused]
  rfl

theorem compile_only (scope : FilterScope) (raws : List String) : c.compile (scope.only raws) =
    ((Compiled.searched c "").takeFilters c scope 1 raws).sorted c [] := by
  rw [compile_eq_passes]
  cases scope <;> rfl

end Catalog

namespace Compiled

end Compiled
end Listing
