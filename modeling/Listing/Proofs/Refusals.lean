import Listing.Proofs.RequestParts

namespace Listing

theorem toString_injective : Function.Injective (toString : Nat → String) := by
  intro m n h
  rw [Nat.toString_eq_ofList_toDigits, Nat.toString_eq_ofList_toDigits, String.ofList_inj] at h
  have hvalue := congrArg (Nat.ofDigitChars 10 · 0) h
  simpa only [Nat.ofDigitChars_ten_toDigits] using hvalue

theorem Position.key_injective : Function.Injective Position.key := by
  intro p q h
  -- two characters tell the lists of a request apart
  have hhead := congrArg (fun s : String => s.toList.take 2) h
  cases p <;> cases q <;> simp [Position.key] at hhead
  · rfl
  · rw [toString_injective ((String.append_right_inj _).mp h)]
  · rw [toString_injective ((String.append_right_inj _).mp h)]
  · rw [toString_injective ((String.append_right_inj _).mp h)]

theorem filter_eq_none {α : Type} {o : Option α} {p : α → Bool} :
    o.filter p = none ↔ ∀ x, o = some x → p x = false := by
  simp only [Option.filter_eq_none_iff, Bool.not_eq_true]

namespace Filter

inductive Refuses (c : Catalog) (scope : FilterScope) (raw : String) : Refusal → Prop
  | format (hparts : parts? raw.toList = none) : Refuses c scope raw .filterFormat
  | field {key operator value : List Char}
      (hparts : parts? raw.toList = some (key, operator, value))
      (hfield : ∀ f, c.indexed? (String.ofList key) = some f → scope.allows f.field = false) :
      Refuses c scope raw .filterField
  | operator {key operator value : List Char} {f : Column}
      (hparts : parts? raw.toList = some (key, operator, value))
      (hfield : c.indexed? (String.ofList key) = some f) (hallows : scope.allows f.field = true)
      (hoperator : FilterOperator.ofName? operator = none) : Refuses c scope raw .filterOperator
  | value {key operator value : List Char} {f : Column} {op : FilterOperator}
      (hparts : parts? raw.toList = some (key, operator, value))
      (hfield : c.indexed? (String.ofList key) = some f) (hallows : scope.allows f.field = true)
      (hoperator : FilterOperator.ofName? operator = some op)
      (htest : test? op f.field.kind value = none) :
      Refuses c scope raw (.filterValue f.field.kind)

variable {c : Catalog} {scope : FilterScope} {raw : String} {e : Refusal}

theorem refuses_of_error (h : accept c scope raw = .error e) : Refuses c scope raw e := by
  rw [accept] at h
  split at h
  · rename_i hparts
    cases h
    exact .format hparts
  · rename_i key operator value hparts
    split at h
    · rename_i hfield
      cases h
      exact .field hparts (filter_eq_none.mp hfield)
    · rename_i f hfield
      obtain ⟨hfield, hallows⟩ := Option.filter_eq_some_iff.mp hfield
      split at h
      · rename_i hoperator
        cases h
        exact .operator hparts hfield hallows hoperator
      · rename_i op hoperator
        split at h
        · rename_i htest
          cases h
          exact .value hparts hfield hallows hoperator htest
        · cases h

theorem usable_of {key : List Char} {f : Column} (hfield : c.indexed? (String.ofList key) = some f)
    (hallows : scope.allows f.field = true) :
    ((c.indexed? (String.ofList key)).filter fun f => scope.allows f.field) = some f :=
  Option.filter_eq_some_iff.mpr ⟨hfield, hallows⟩

theorem Refuses.accept (h : Refuses c scope raw e) : accept c scope raw = .error e := by
  cases h with
  | format hparts => simp only [Filter.accept, hparts]
  | field hparts hfield =>
    have hnone : ((c.indexed? (String.ofList _)).filter fun f => scope.allows f.field) = none :=
      filter_eq_none.mpr hfield
    simp only [Filter.accept, hparts, hnone]
  | operator hparts hfield hallows hoperator =>
    simp only [Filter.accept, hparts, usable_of hfield hallows, hoperator]
  | value hparts hfield hallows hoperator htest =>
    simp only [Filter.accept, hparts, usable_of hfield hallows, hoperator, htest]

theorem accept_error_iff : accept c scope raw = .error e ↔ Refuses c scope raw e :=
  ⟨refuses_of_error, Refuses.accept⟩

end Filter

namespace SortTerm

def subject? (c : Catalog) (raw : String) : Option String :=
  match Text.words raw.toList with
  | [key, _] =>
    ((c.indexed? (String.ofList key)).filter fun f => f.field.sortable).map
      fun _ => String.ofList key
  | _ => none

inductive Refuses (c : Catalog) (before : List String) (raw : String) : Refusal → Prop
  | format (hwords : ∀ key direction, Text.words raw.toList ≠ [key, direction]) :
      Refuses c before raw .sortFormat
  | field {key direction : List Char} (hwords : Text.words raw.toList = [key, direction])
      (hfield : ∀ f, c.indexed? (String.ofList key) = some f → f.field.sortable = false) :
      Refuses c before raw .sortField
  | duplicate {key : String} (hkey : subject? c raw = some key)
      (hbefore : ∃ other ∈ before, subject? c other = some key) :
      Refuses c before raw (.sortDuplicate key)
  | direction {key direction : List Char} (hwords : Text.words raw.toList = [key, direction])
      (hkey : subject? c raw = some (String.ofList key))
      (hbefore : ∀ other ∈ before, subject? c other ≠ some (String.ofList key))
      (hdirection : SortDirection.ofName? (String.ofList direction) = none) :
      Refuses c before raw .sortDirection

variable {c : Catalog} {before seen : List String} {raw : String} {e : Refusal}

def Sees (c : Catalog) (seen before : List String) : Prop :=
  ∀ key, key ∈ seen ↔ ∃ other ∈ before, subject? c other = some key

theorem subject?_eq_some {key : String} : subject? c raw = some key ↔ ∃ name direction f,
    Text.words raw.toList = [name, direction] ∧ key = String.ofList name ∧
      (c.indexed? key).filter (fun f => f.field.sortable) = some f := by
  constructor
  · intro h
    rw [subject?] at h
    split at h
    · rename_i name direction hwords
      obtain ⟨f, hf, rfl⟩ := Option.map_eq_some_iff.mp h
      exact ⟨name, direction, f, hwords, rfl, hf⟩
    · cases h
  · rintro ⟨name, direction, f, hwords, rfl, hf⟩
    simp only [subject?, hwords, hf, Option.map_some]

theorem refuses_of_error (hs : Sees c seen before) (h : (judge c seen raw).1 = .error e) :
    Refuses c before raw e := by
  simp only [judge] at h
  split at h
  · rename_i key direction hwords
    split at h
    · rename_i hfield
      cases h
      exact .field hwords (filter_eq_none.mp hfield)
    · rename_i f hfield
      have hsubject : subject? c raw = some (String.ofList key) :=
        subject?_eq_some.mpr ⟨key, direction, f, hwords, rfl, hfield⟩
      split at h
      · rename_i hseen
        cases h
        exact .duplicate hsubject ((hs _).mp (by simpa using hseen))
      · rename_i hseen
        have hnew : ∀ other ∈ before, subject? c other ≠ some (String.ofList key) := by
          intro other hother heq
          apply hseen
          simpa using (hs _).mpr ⟨other, hother, heq⟩
        split at h
        · rename_i hdirection
          cases h
          exact .direction hwords hsubject hnew hdirection
        · cases h
  · rename_i hwords
    cases h
    exact .format hwords

theorem Refuses.judge (hs : Sees c seen before) (h : Refuses c before raw e) :
    (judge c seen raw).1 = .error e := by
  cases h with
  | format hwords =>
    simp only [SortTerm.judge]
  | @field key direction hwords hfield =>
    have hnone : ((c.indexed? (String.ofList key)).filter fun f => f.field.sortable) = none :=
      filter_eq_none.mpr hfield
    simp only [SortTerm.judge, hwords, hnone]
  | @duplicate key hkey hbefore =>
    obtain ⟨name, direction, f, hwords, rfl, hf⟩ := subject?_eq_some.mp hkey
    have hseen : seen.contains (String.ofList name) = true := by simpa using (hs _).mpr hbefore
    simp only [SortTerm.judge, hwords, hf, hseen, if_true]
  | @direction key direction hwords hkey hbefore hdirection =>
    obtain ⟨name, _, f, hwords', hname, hf⟩ := subject?_eq_some.mp hkey
    have hseen : ¬ seen.contains (String.ofList key) = true := by
      intro hmem
      obtain ⟨other, hother, heq⟩ := (hs _).mp (by simpa using hmem)
      exact hbefore other hother heq
    simp only [SortTerm.judge, hwords, hf, hseen, hdirection]
    rfl

theorem mem_judge {key : String} :
    key ∈ (judge c seen raw).2 ↔ key ∈ seen ∨ subject? c raw = some key := by
  simp only [SortTerm.judge]
  split
  · rename_i name direction hwords
    simp only [subject?, hwords]
    cases (c.indexed? (String.ofList name)).filter fun f => f.field.sortable with
    | none => simp
    | some f =>
      simp only [Option.map_some, Option.some.injEq]
      by_cases hseen : seen.contains (String.ofList name) = true
      · have hmem : String.ofList name ∈ seen := by simpa using hseen
        rw [if_pos hseen]
        constructor
        · exact .inl
        · rintro (h | rfl)
          · exact h
          · exact hmem
      · rw [if_neg hseen]
        cases SortDirection.ofName? (String.ofList direction) <;> simp [eq_comm, or_comm]
  · simp [subject?]

theorem Sees.nil : Sees c [] [] := by simp [Sees]

theorem Sees.judge (hs : Sees c seen before) (raw : String) :
    Sees c (judge c seen raw).2 (before ++ [raw]) := by
  intro key
  rw [mem_judge, hs key]
  simp only [List.mem_append, List.mem_singleton, or_and_right, exists_or, exists_eq_left]

theorem judgeAll_error_iff (hs : Sees c seen before) {raws : List String} {i : Nat} :
    (judgeAll c seen raws)[i]? = some (.error e) ↔
      ∃ raw, raws[i]? = some raw ∧ Refuses c (before ++ raws.take i) raw e := by
  -- the entries that have been judged move from the list to those before it
  induction raws generalizing seen before i with
  | nil => simp [judgeAll]
  | cons raw raws ih =>
    cases i with
    | zero =>
      have hfirst : (SortTerm.judge c seen raw).1 = .error e ↔ Refuses c before raw e :=
        ⟨refuses_of_error hs, Refuses.judge hs⟩
      simpa [judgeAll] using hfirst
    | succ i =>
      simp only [judgeAll, List.getElem?_cons_succ, List.take_succ_cons, ih (hs.judge raw),
        List.append_assoc, List.singleton_append]

theorem length_judgeAll (seen raws : List String) :
    (judgeAll c seen raws).length = raws.length := by
  induction raws generalizing seen with
  | nil => rfl
  | cons raw raws ih => rw [judgeAll, List.length_cons, ih, List.length_cons]

end SortTerm

def numberedRefusals {α : Type} (verdicts : List (Except Refusal α)) (n : Nat) :
    List (Nat × Refusal) :=
  (verdicts.zipIdx n).filterMap fun v => match v.1 with
    | .error e => some (v.2, e)
    | .ok _ => none

structure RefusedEntries (raws : List String) (refuses : List String → String → Refusal → Prop)
    (refused : List (Nat × Refusal)) : Prop where
  ascending : refused.Pairwise fun a b => a.1 < b.1
  exact : ∀ n e, (n, e) ∈ refused ↔
    ∃ raw, 1 ≤ n ∧ raws[n - 1]? = some raw ∧ refuses (raws.take (n - 1)) raw e

section

variable {α : Type} {verdicts : List (Except Refusal α)} {n : Nat} {e : Refusal}

theorem mem_numberedRefusals :
    (n, e) ∈ numberedRefusals verdicts 1 ↔ 1 ≤ n ∧ verdicts[n - 1]? = some (.error e) := by
  rw [← List.mk_mem_zipIdx_iff_le_and_getElem?_sub, numberedRefusals, List.mem_filterMap]
  constructor
  · rintro ⟨⟨v, m⟩, hv, heq⟩
    cases v with
    | error e' =>
      cases heq
      exact hv
    | ok x => cases heq
  · intro h
    exact ⟨_, h, rfl⟩

theorem pairwise_numberedRefusals (verdicts : List (Except Refusal α)) (n : Nat) :
    (numberedRefusals verdicts n).Pairwise fun a b => a.1 < b.1 := by
  have hnumbers : (verdicts.zipIdx n).Pairwise fun a b => a.2 < b.2 := by
    rw [← List.pairwise_map (R := (· < ·)), List.zipIdx_map_snd]
    exact List.pairwise_lt_range'
  rw [numberedRefusals, List.pairwise_filterMap]
  apply hnumbers.imp
  rintro ⟨v, m⟩ ⟨v', m'⟩ hlt a ha b hb
  cases v <;> cases ha
  cases v' <;> cases hb
  exact hlt

theorem numberedRefusals_error (e : Refusal) (verdicts : List (Except Refusal α)) (n : Nat) :
    numberedRefusals (.error e :: verdicts) n = (n, e) :: numberedRefusals verdicts (n + 1) := rfl

theorem numberedRefusals_ok (x : α) (verdicts : List (Except Refusal α)) (n : Nat) :
    numberedRefusals (.ok x :: verdicts) n = numberedRefusals verdicts (n + 1) := rfl

theorem length_numberedRefusals (verdicts : List (Except Refusal α)) (n : Nat) :
    (numberedRefusals verdicts n).length + (verdicts.filterMap (·.toOption)).length =
      verdicts.length := by
  induction verdicts generalizing n with
  | nil => rfl
  | cons v verdicts ih =>
    have hrest := ih (n + 1)
    cases v with
    | error e =>
      rw [numberedRefusals_error, List.filterMap_cons_none rfl, List.length_cons, List.length_cons]
      omega
    | ok x =>
      have hkept : (Except.ok x :: verdicts).filterMap (·.toOption) =
          x :: verdicts.filterMap (·.toOption) := rfl
      rw [numberedRefusals_ok, hkept, List.length_cons, List.length_cons]
      omega

end

namespace Filter

variable (c : Catalog) (scope : FilterScope) (raws : List String)

def numberedRefused : List (Nat × Refusal) := numberedRefusals (raws.map (accept c scope)) 1

theorem refused_eq_map : refused c scope raws =
    (numberedRefused c scope raws).map fun e => (scope.position e.1, e.2) := by
  rw [refused, numberedRefused, numberedRefusals, List.zipIdx_map, List.filterMap_map,
    List.map_filterMap]
  congr 1
  funext e
  simp only [Function.comp_apply, Prod.map]
  cases accept c scope e.1 <;> rfl

theorem refusedEntries :
    RefusedEntries raws (fun _ => Refuses c scope) (numberedRefused c scope raws) where
  ascending := pairwise_numberedRefusals _ 1
  exact n e := by
    simp only [numberedRefused, mem_numberedRefusals, List.getElem?_map, Option.map_eq_some_iff,
      accept_error_iff, exists_and_left]

theorem length_numberedRefused :
    (numberedRefused c scope raws).length + (accepted c scope raws).length = raws.length := by
  have hlength := length_numberedRefusals (raws.map (accept c scope)) 1
  rwa [List.filterMap_map, List.length_map] at hlength

end Filter

namespace SortTerm

variable (c : Catalog) (raws : List String)

def numberedRefused : List (Nat × Refusal) := numberedRefusals (judgeAll c [] raws) 1

theorem refused_eq_map :
    refused c raws = (numberedRefused c raws).map fun e => (.sort e.1, e.2) := by
  rw [refused, numberedRefused, numberedRefusals, List.map_filterMap]
  congr 1
  funext e
  cases e.1 <;> rfl

theorem refusedEntries : RefusedEntries raws (Refuses c) (numberedRefused c raws) where
  ascending := pairwise_numberedRefusals _ 1
  exact n e := by
    simp only [numberedRefused, mem_numberedRefusals, judgeAll_error_iff .nil, List.nil_append,
      exists_and_left]

theorem length_numberedRefused :
    (numberedRefused c raws).length + (accepted c raws).length = raws.length := by
  have hlength := length_numberedRefusals (judgeAll c [] raws) 1
  rwa [length_judgeAll] at hlength

end SortTerm

theorem RefusedEntries.nodup {raws : List String} {refuses : List String → String → Refusal → Prop}
    {refused : List (Nat × Refusal)} (h : RefusedEntries raws refuses refused)
    {position : Nat → Position} (hinj : Function.Injective position) :
    (refused.map fun e => position e.1).Nodup :=
  List.pairwise_map.mpr (h.ascending.imp fun hlt heq => Nat.ne_of_lt hlt (hinj heq))

namespace Catalog

theorem refusals_eq (c : Catalog) (r : Request) : (c.compile r).refusals = Search.refused c ++
    (Filter.numberedRefused c .request r.filters).map (fun e => (.filter e.1, e.2)) ++
    (Filter.numberedRefused c .trusted r.localFilters).map (fun e => (.localFilter e.1, e.2)) ++
    (SortTerm.numberedRefused c r.sorts).map (fun e => (.sort e.1, e.2)) := by
  rw [compile, refusals, Filter.refused_eq_map, Filter.refused_eq_map, SortTerm.refused_eq_map]
  rfl

theorem nodup_positions (c : Catalog) (r : Request) :
    ((c.compile r).refusals.map (·.1)).Nodup := by
  have hsearch : ((Search.refused c).map (·.1)).Nodup ∧
      ∀ p ∈ (Search.refused c).map (·.1), p = .search := by
    rw [Search.refused]
    split <;> simp
  have hfilters := (Filter.refusedEntries c .request r.filters).nodup fun _ _ => Position.filter.inj
  have hlocal := (Filter.refusedEntries c .trusted r.localFilters).nodup
    fun _ _ => Position.localFilter.inj
  have hsorts := (SortTerm.refusedEntries c r.sorts).nodup fun _ _ => Position.sort.inj
  simp only [refusals_eq, List.map_append, List.map_map, Function.comp_def]
  -- positions of two lists differ in the list that they name
  refine List.nodup_append.mpr ⟨List.nodup_append.mpr ⟨List.nodup_append.mpr
    ⟨hsearch.1, hfilters, ?_⟩, hlocal, ?_⟩, hsorts, ?_⟩
  all_goals
    intro p hp q hq
    grind

theorem nodup_keys (c : Catalog) (r : Request) :
    ((Report.ofRefusals (c.compile r).refusals).entries.map (·.key)).Nodup := by
  have hkeys := (c.nodup_positions r).map Position.key_injective
  rw [List.map_map] at hkeys
  rw [Report.ofRefusals, List.map_map]
  exact hkeys

theorem search_entries (c : Catalog) :
    (Search.refused c).map (fun e => (⟨e.1.key, [e.2.message]⟩ : ReportEntry)) =
      if c.columns.any fun f => f.field.searchable then []
      else [⟨"search", ["no available search fields for this entity"]⟩] := by
  have hempty : c.searchColumns.isEmpty = !c.columns.any fun f => f.field.searchable := by
    rw [Bool.eq_iff_iff]
    simp [searchColumns]
  rw [Search.refused, hempty]
  cases c.columns.any fun f => f.field.searchable <;> rfl

theorem report_entries (c : Catalog) (r : Request) :
    (Report.ofRefusals (c.compile r).refusals).entries =
      (if c.columns.any fun f => f.field.searchable then []
        else [⟨"search", ["no available search fields for this entity"]⟩]) ++
      (Filter.numberedRefused c .request r.filters).map
        (fun e => ⟨"filters." ++ toString e.1, [e.2.message]⟩) ++
      (Filter.numberedRefused c .trusted r.localFilters).map
        (fun e => ⟨"localFilters." ++ toString e.1, [e.2.message]⟩) ++
      (SortTerm.numberedRefused c r.sorts).map
        (fun e => ⟨"sorts." ++ toString e.1, [e.2.message]⟩) := by
  rw [← search_entries, refusals_eq, Report.ofRefusals]
  simp only [List.map_append, List.map_map]
  rfl

theorem length_predicates (c : Catalog) (r : Request) : (c.compile r).draft.predicates.length =
    (Search.clauses c r.search).length + (Filter.accepted c .request r.filters).length +
      (Filter.accepted c .trusted r.localFilters).length := by
  have hnumbered : ∀ n ks, (Clause.numbered n ks).length = ks.length := by
    intro n ks
    induction ks generalizing n with
    | nil => rfl
    | cons k ks ih => rw [Clause.numbered, List.length_cons, List.length_cons, ih]
  rw [compile_predicates_eq, hnumbered, clauses, List.length_append, List.length_append,
    List.length_map, List.length_map]

end Catalog

namespace Session

variable {Id Model : Type} {c : Catalog} {s : Session Id Model}

theorem setRequest_outcome (h : s.catalog = some c) (r : Request) :
    (s.setRequest r).2 = (if (c.compile r).refusals = [] then .ok ()
      else .error (.rejected (c.compile r).refusals)) ∧
    ((s.setRequest r).1.isProcessed = true ↔ (c.compile r).refusals = []) := by
  simp only [setRequest, h, List.isEmpty_iff, and_true]

/-- A request is refused with one message for each part of it that is wrong, the search first, then
its lists in turn, each from its first entry to its last. What is not refused is accepted, and the
session takes the request only if nothing is refused. -/
theorem refusals_complete (h : s.catalog = some c) (r : Request) :
    (∃ filters localFilters sorts : List (Nat × Refusal),
      RefusedEntries r.filters (fun _ => Filter.Refuses c .request) filters ∧
      RefusedEntries r.localFilters (fun _ => Filter.Refuses c .trusted) localFilters ∧
      RefusedEntries r.sorts (SortTerm.Refuses c) sorts ∧
      (Report.ofRefusals (c.compile r).refusals).entries =
        (if c.columns.any fun f => f.field.searchable then []
          else [⟨"search", ["no available search fields for this entity"]⟩]) ++
        filters.map (fun e => ⟨"filters." ++ toString e.1, [e.2.message]⟩) ++
        localFilters.map (fun e => ⟨"localFilters." ++ toString e.1, [e.2.message]⟩) ++
        sorts.map (fun e => ⟨"sorts." ++ toString e.1, [e.2.message]⟩) ∧
      filters.length + (Filter.accepted c .request r.filters).length = r.filters.length ∧
      localFilters.length + (Filter.accepted c .trusted r.localFilters).length =
        r.localFilters.length ∧
      sorts.length + (SortTerm.accepted c r.sorts).length = r.sorts.length) ∧
    ((Report.ofRefusals (c.compile r).refusals).entries.map (·.key)).Nodup ∧
    (c.compile r).draft.predicates.length = (Search.clauses c r.search).length +
      (Filter.accepted c .request r.filters).length +
      (Filter.accepted c .trusted r.localFilters).length ∧
    (s.setRequest r).2 = (if (c.compile r).refusals = [] then .ok ()
      else .error (.rejected (c.compile r).refusals)) ∧
    ((s.setRequest r).1.isProcessed = true ↔ (c.compile r).refusals = []) := by
  refine ⟨⟨_, _, _, Filter.refusedEntries c .request r.filters,
    Filter.refusedEntries c .trusted r.localFilters, SortTerm.refusedEntries c r.sorts,
    c.report_entries r, ?_, ?_, ?_⟩, c.nodup_keys r, c.length_predicates r, setRequest_outcome h r⟩
  · exact Filter.length_numberedRefused c .request r.filters
  · exact Filter.length_numberedRefused c .trusted r.localFilters
  · exact SortTerm.length_numberedRefused c r.sorts

def carelessRequest : Request where
  filters := ["name eq", "ghost eq 1", "name eq lamp"]
  localFilters := ["name about lamp"]
  sorts := ["name asc", "name up", "rank"]

theorem refusals_complete_shop :
    (ofCatalog Catalog.shopCatalog : Session Json Json).catalog = some Catalog.shopCatalog ∧
    ((ofCatalog Catalog.shopCatalog : Session Json Json).setRequest carelessRequest).2 =
      .error (.rejected [(.filter 1, .filterFormat), (.filter 2, .filterField),
        (.localFilter 1, .filterOperator), (.sort 2, .sortDuplicate "name"),
        (.sort 3, .sortFormat)]) ∧
    (shopSession carelessRequest).isProcessed = false := by
  have h : (ofCatalog Catalog.shopCatalog : Session Json Json).catalog =
      some Catalog.shopCatalog := rfl
  have hrefused : (Catalog.shopCatalog.compile carelessRequest).refusals =
      [(.filter 1, .filterFormat), (.filter 2, .filterField), (.localFilter 1, .filterOperator),
        (.sort 2, .sortDuplicate "name"), (.sort 3, .sortFormat)] := by decide
  obtain ⟨-, -, -, hanswer, hprocessed⟩ := refusals_complete h carelessRequest
  refine ⟨h, ?_, ?_⟩
  · rw [hanswer, hrefused]
    rfl
  · rw [hrefused] at hprocessed
    exact Bool.eq_false_iff.mpr fun ht => List.cons_ne_nil _ _ (hprocessed.mp ht)

end Session
end Listing
