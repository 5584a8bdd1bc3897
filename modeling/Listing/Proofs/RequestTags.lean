import Listing.Proofs.Layout
import Listing.Proofs.UsageTags
import Listing.Query.Compile

namespace Listing

def SearchTest.column : SearchTest → Column
  | .startsWith f _ => f
  | .contains f _ => f

def Predicate.columns : Predicate → List Column
  | .anyOf tests => tests.map (·.column)
  | .compare f _ _ => [f]
  | .among f _ => [f]
  | .isFalse f => [f]
  | .idAmong f _ => [f]
  | .never => []

namespace Draft

theorem foldl_mark_eq {α : Type} (column : α → Column) (u : Usage) (xs : List α) (d : Draft) :
    xs.foldl (fun d x => d.mark (column x) u) d =
      { d with usage := xs.foldl (fun m x => m.mark (column x).table u) d.usage } := by
  induction xs generalizing d with
  | nil => rfl
  | cons x xs ih => rw [List.foldl_cons, ih]; rfl

theorem usage_addFilter (d : Draft) (f : Filter) :
    (d.addFilter f).usage = d.usage.mark f.column.table .filter := by
  obtain ⟨column, test⟩ := f
  cases test <;> rfl

theorem usage_addFilters (d : Draft) (fs : List Filter) :
    (d.addFilters fs).usage = fs.foldl (fun m f => m.mark f.column.table .filter) d.usage := by
  induction fs generalizing d with
  | nil => rfl
  | cons f fs ih =>
    rw [addFilters, List.foldl_cons, List.foldl_cons, ← usage_addFilter]
    exact ih (d.addFilter f)

theorem mem_predicates_addFilter {d : Draft} {f : Filter} {p : Predicate}
    (h : p ∈ (d.addFilter f).predicates) : p ∈ d.predicates ∨ p.columns = [f.column] := by
  obtain ⟨column, test⟩ := f
  cases test
  all_goals
    rcases List.mem_append.mp h with h | h
    · exact .inl h
    · rw [List.mem_singleton] at h
      subst h
      exact .inr rfl

theorem mem_predicates_addFilters {d : Draft} {fs : List Filter} {p : Predicate}
    (h : p ∈ (d.addFilters fs).predicates) :
    p ∈ d.predicates ∨ ∃ f ∈ fs, p.columns = [f.column] := by
  induction fs generalizing d with
  | nil => exact .inl h
  | cons f fs ih =>
    rcases ih h with h | ⟨g, hg, hp⟩
    · exact (mem_predicates_addFilter h).imp_right fun hp => ⟨f, List.mem_cons_self, hp⟩
    · exact .inr ⟨g, List.mem_cons_of_mem _ hg, hp⟩

end Draft

namespace Search

theorem usage_add (c : Catalog) (term : String) (d : Draft) : (add c term d).usage =
    if term.isEmpty then d.usage
    else c.searchColumns.foldl (fun m f => m.mark f.table .search) d.usage := by
  rw [add]
  by_cases ht : term.isEmpty
  · simp [ht]
  · by_cases hc : c.searchColumns.isEmpty
    · have hn : c.searchColumns = [] := by simpa using hc
      simp [ht, hn]
    · simp only [ht, hc, Bool.false_eq_true, Bool.or_self, if_false]
      rw [Draft.foldl_mark_eq (fun f => f)]
      rfl

theorem column_test (f : Column) (n : Nat) : (test f n).column = f := by
  rw [test]
  split <;> rfl

theorem mem_predicates_add {c : Catalog} {term : String} {d : Draft} {p : Predicate}
    (h : p ∈ (add c term d).predicates) :
    p ∈ d.predicates ∨ term.isEmpty = false ∧ ∀ f ∈ p.columns, f ∈ c.searchColumns := by
  rw [add] at h
  by_cases ht : term.isEmpty
  · rw [ht] at h
    exact .inl h
  · by_cases hc : c.searchColumns.isEmpty
    · rw [hc, Bool.or_true] at h
      exact .inl h
    · simp only [ht, hc, Bool.false_eq_true, Bool.or_self, if_false] at h
      rw [Draft.foldl_mark_eq (fun f => f)] at h
      rcases List.mem_append.mp h with h | h
      · exact .inl h
      · rw [List.mem_singleton] at h
        subst h
        refine .inr ⟨by simpa using ht, fun f hf => ?_⟩
        simp only [Predicate.columns, List.map_map, List.mem_map] at hf
        obtain ⟨⟨g, n⟩, hg, rfl⟩ := hf
        simp only [Function.comp_apply, column_test]
        exact List.mem_of_mem_filter (List.fst_mem_of_mem_zipIdx hg)

end Search

theorem Catalog.indexed?_mem {c : Catalog} {key : String} {f : Column}
    (h : c.indexed? key = some f) : f ∈ c.columns := by
  obtain ⟨i, _, hi⟩ := Option.bind_eq_some_iff.mp h
  exact Catalog.column?_mem hi

theorem Filter.accept_ok {c : Catalog} {scope : FilterScope} {raw : String} {f : Filter}
    (h : accept c scope raw = .ok f) : ∃ key operator value op,
      parts? raw.toList = some (key, operator, value) ∧
      c.indexed? (String.ofList key) = some f.column ∧ scope.allows f.column.field = true ∧
      FilterOperator.ofName? operator = some op ∧
      test? op f.column.field.kind value = some f.test := by
  rw [accept] at h
  split at h
  · cases h
  · rename_i key operator value hp
    split at h
    · cases h
    · rename_i column hc
      obtain ⟨hc, hs⟩ := Option.filter_eq_some_iff.mp hc
      split at h
      · cases h
      · rename_i op ho
        split at h
        · cases h
        · rename_i test ht
          cases h
          exact ⟨key, operator, value, op, hp, hc, hs, ho, ht⟩

theorem Filter.mem_accepted {c : Catalog} {scope : FilterScope} {raws : List String} {f : Filter} :
    f ∈ accepted c scope raws ↔ ∃ raw ∈ raws, accept c scope raw = .ok f := by
  have hok : ∀ raw, (accept c scope raw).toOption = some f ↔ accept c scope raw = .ok f := by
    intro raw
    cases accept c scope raw <;> simp [Except.toOption]
  simp only [accepted, List.mem_filterMap, hok]

theorem Filter.accepted_column {c : Catalog} {scope : FilterScope} {raws : List String} {f : Filter}
    (h : f ∈ accepted c scope raws) : f.column ∈ c.columns := by
  obtain ⟨raw, _, ha⟩ := mem_accepted.mp h
  obtain ⟨_, _, _, _, _, hc, _⟩ := accept_ok ha
  exact Catalog.indexed?_mem hc

namespace SortTerm

theorem judge_ok {c : Catalog} {seen : List String} {raw : String} {t : SortTerm}
    (h : (judge c seen raw).1 = .ok t) : ∃ key direction,
      Text.words raw.toList = [key, direction] ∧
      c.indexed? (String.ofList key) = some t.column ∧ t.column.field.sortable = true ∧
      String.ofList key ∉ seen ∧
      SortDirection.ofName? (String.ofList direction) = some t.direction := by
  simp only [judge] at h
  split at h
  · rename_i key direction hw
    split at h
    · cases h
    · rename_i column hc
      obtain ⟨hc, hs⟩ := Option.filter_eq_some_iff.mp hc
      split at h
      · cases h
      · rename_i hn
        split at h
        · cases h
        · rename_i d hd
          cases h
          exact ⟨key, direction, hw, hc, hs, by simpa using hn, hd⟩
  · cases h

theorem accepted_judge {c : Catalog} {raws : List String} {t : SortTerm}
    (h : t ∈ accepted c raws) : ∃ seen raw, (judge c seen raw).1 = .ok t := by
  have hj : ∀ seen, .ok t ∈ judgeAll c seen raws → ∃ seen raw, (judge c seen raw).1 = .ok t := by
    clear h
    induction raws with
    | nil => simp [judgeAll]
    | cons raw raws ih =>
      intro seen h
      rcases List.mem_cons.mp h with h | h
      · exact ⟨seen, raw, h.symm⟩
      · exact ih _ h
  obtain ⟨e, he, ht⟩ := List.mem_filterMap.mp h
  cases e with
  | error e => cases ht
  | ok s =>
    cases ht
    exact hj [] he

theorem accepted_column {c : Catalog} {raws : List String} {t : SortTerm}
    (h : t ∈ accepted c raws) : t.column ∈ c.columns := by
  obtain ⟨_, _, hj⟩ := accepted_judge h
  obtain ⟨_, _, _, hc, _⟩ := judge_ok hj
  exact Catalog.indexed?_mem hc

theorem mem_defaults {c : Catalog} {terms : List SortTerm} {t : SortTerm} :
    t ∈ defaults c terms ↔ t.column ∈ c.defaultSorts ∧ t.column.field.sort = some t.direction ∧
      ∀ s ∈ terms, s.column.id ≠ t.column.id := by
  simp only [defaults, List.mem_filterMap, List.mem_filter, Option.map_eq_some_iff,
    Bool.not_eq_true', List.any_eq_false, beq_iff_eq]
  constructor
  · rintro ⟨f, ⟨hf, hn⟩, d, hd, rfl⟩
    exact ⟨hf, hd, hn⟩
  · rintro ⟨hf, hd, hn⟩
    exact ⟨t.column, ⟨hf, hn⟩, t.direction, hd, rfl⟩

theorem defaultSorts_mem {c : Catalog} {f : Column} (h : f ∈ c.defaultSorts) : f ∈ c.columns :=
  List.mem_of_mem_filter h

theorem order_column {c : Catalog} {raws : List String} {t : SortTerm} (h : t ∈ order c raws) :
    t.column ∈ c.columns := by
  rw [order] at h
  split_ifs at h
  · rcases List.mem_append.mp h with h | h
    · exact accepted_column h
    · exact defaultSorts_mem (mem_defaults.mp h).1
  · cases h

theorem order_default {c : Catalog} (hc : c.Sound) {raws : List String}
    (hr : (refused c raws).isEmpty = true) {f : Column} (hf : f ∈ c.defaultSorts) :
    ∃ t ∈ order c raws, t.column = f := by
  rw [order, if_pos hr]
  by_cases h : ∃ t ∈ accepted c raws, t.column.id = f.id
  · obtain ⟨t, ht, he⟩ := h
    refine ⟨t, List.mem_append_left _ ht, ?_⟩
    have htc := hc.column_mem (accepted_column ht)
    rw [he, hc.column_mem (defaultSorts_mem hf)] at htc
    exact (Option.some.inj htc).symm
  · have hs : f.field.sort.isSome := (List.mem_filter.mp hf).2
    obtain ⟨d, hd⟩ := Option.isSome_iff_exists.mp hs
    have hm : (⟨f, d⟩ : SortTerm) ∈ defaults c (accepted c raws) :=
      mem_defaults.mpr ⟨hf, hd, fun s hs he => h ⟨s, hs, he⟩⟩
    exact ⟨⟨f, d⟩, List.mem_append_right _ hm, rfl⟩

end SortTerm

namespace Catalog

theorem defaultUsage_tags (c : Catalog) : c.defaultUsage.Ordered ∧ ∀ t u, c.defaultUsage.Has t u ↔
    (u = .filter ∧ ∃ f ∈ c.softDeletes, f.table = t) ∨
    (u = .sort ∧ ∃ f ∈ c.defaultSorts, f.table = t) ∨
    (u = .mandatory ∧ ∃ r ∈ c.relations, r.mandatory = true ∧ r.child = t) := by
  obtain ⟨h₁, t₁⟩ := UsageMap.foldl_mark .empty Column.table .filter c.softDeletes
  obtain ⟨h₂, t₂⟩ := UsageMap.foldl_mark h₁ Column.table .sort c.defaultSorts
  obtain ⟨h₃, t₃⟩ := UsageMap.foldl_mark h₂ RelationEntry.child .mandatory
    (c.relations.filter (·.mandatory))
  refine ⟨h₃, fun t u => ?_⟩
  rw [defaultUsage, t₃, t₂, t₁]
  simp only [List.mem_filter, and_assoc, UsageMap.not_has_empty, or_false]
  constructor
  · rintro (h | h | h)
    · exact .inr (.inr h)
    · exact .inr (.inl h)
    · exact .inl h
  · rintro (h | h | h)
    · exact .inr (.inr h)
    · exact .inr (.inl h)
    · exact .inl h

theorem compile_tags (c : Catalog) (r : Request) :
    (c.compile r).draft.usage.Ordered ∧ ∀ t u, (c.compile r).draft.usage.Has t u ↔
      (u = .sort ∧ ∃ s ∈ SortTerm.accepted c r.sorts ++ SortTerm.order c r.sorts,
        s.column.table = t) ∨
      (u = .filter ∧ ∃ f ∈ Filter.accepted c .trusted r.localFilters, f.column.table = t) ∨
      (u = .filter ∧ ∃ f ∈ Filter.accepted c .request r.filters, f.column.table = t) ∨
      (u = .search ∧ r.search.isEmpty = false ∧ ∃ f ∈ c.searchColumns, f.table = t) ∨
      c.defaultUsage.Has t u := by
  obtain ⟨h₀, -⟩ := c.defaultUsage_tags
  have hs : (Search.add c r.search { usage := c.defaultUsage }).usage.Ordered ∧ ∀ t u,
      (Search.add c r.search { usage := c.defaultUsage }).usage.Has t u ↔
        (u = .search ∧ r.search.isEmpty = false ∧ ∃ f ∈ c.searchColumns, f.table = t) ∨
        c.defaultUsage.Has t u := by
    rw [Search.usage_add]
    by_cases he : r.search.isEmpty
    · simp [he, h₀]
    · obtain ⟨h₁, t₁⟩ := UsageMap.foldl_mark h₀ Column.table .search c.searchColumns
      simp only [he, Bool.false_eq_true, if_false, true_and]
      exact ⟨h₁, t₁⟩
  obtain ⟨h₁, t₁⟩ := hs
  obtain ⟨h₂, t₂⟩ := UsageMap.foldl_mark h₁ (fun f : Filter => f.column.table) .filter
    (Filter.accepted c .request r.filters)
  obtain ⟨h₃, t₃⟩ := UsageMap.foldl_mark h₂ (fun f : Filter => f.column.table) .filter
    (Filter.accepted c .trusted r.localFilters)
  obtain ⟨h₄, t₄⟩ := UsageMap.foldl_mark h₃ (fun s : SortTerm => s.column.table) .sort
    (SortTerm.accepted c r.sorts ++ SortTerm.order c r.sorts)
  have hu : (c.compile r).draft.usage = _ := congrArg Draft.usage
    (Draft.foldl_mark_eq SortTerm.column .sort _ (c.draft r))
  rw [hu, draft, Draft.usage_addFilters, Draft.usage_addFilters]
  refine ⟨h₄, fun t u => ?_⟩
  rw [t₄, t₃, t₂, t₁]

theorem compile_order (c : Catalog) (r : Request) :
    (c.compile r).order = SortTerm.order c r.sorts := rfl

theorem compile_predicates (c : Catalog) (r : Request) :
    (c.compile r).draft.predicates = (c.draft r).predicates := by
  rw [compile, Draft.foldl_mark_eq SortTerm.column]

theorem compile_not_select (c : Catalog) (r : Request) (t : TableId) :
    ¬ (c.compile r).draft.usage.Has t .select := by
  rw [(c.compile_tags r).2, c.defaultUsage_tags.2]
  simp

theorem compile_softDelete (c : Catalog) (r : Request) {f : Column} (hf : f ∈ c.softDeletes) :
    (c.compile r).draft.usage.Has f.table .filter := by
  rw [(c.compile_tags r).2, c.defaultUsage_tags.2]
  exact .inr (.inr (.inr (.inr (.inl ⟨rfl, f, hf, rfl⟩))))

theorem compile_mandatory (c : Catalog) (r : Request) (t : TableId) :
    (c.compile r).draft.usage.Has t .mandatory ↔
      ∃ q ∈ c.relations, q.mandatory = true ∧ q.child = t := by
  rw [(c.compile_tags r).2, c.defaultUsage_tags.2]
  simp

theorem compile_sort {c : Catalog} (hc : c.Sound) {r : Request}
    (hr : (c.compile r).refusals.isEmpty = true) (t : TableId) :
    (c.compile r).draft.usage.Has t .sort ↔ ∃ s ∈ (c.compile r).order, s.column.table = t := by
  have hs : (SortTerm.refused c r.sorts).isEmpty = true := by
    simp only [compile, refusals, List.isEmpty_iff, List.append_eq_nil_iff] at hr
    exact List.isEmpty_iff.mpr hr.2
  have ho : SortTerm.order c r.sorts =
      SortTerm.accepted c r.sorts ++ SortTerm.defaults c (SortTerm.accepted c r.sorts) := if_pos hs
  rw [(c.compile_tags r).2, c.defaultUsage_tags.2, compile_order]
  constructor
  · rintro (⟨_, s, hm, ht⟩ | ⟨he, _⟩ | ⟨he, _⟩ | ⟨he, _⟩ | ⟨he, _⟩ | ⟨_, f, hf, ht⟩ | ⟨he, _⟩)
    · rcases List.mem_append.mp hm with hm | hm
      · exact ⟨s, ho ▸ List.mem_append_left _ hm, ht⟩
      · exact ⟨s, hm, ht⟩
    · cases he
    · cases he
    · cases he
    · cases he
    · obtain ⟨s, hm, rfl⟩ := SortTerm.order_default hc hs hf
      exact ⟨s, hm, ht⟩
    · cases he
  · rintro ⟨s, hm, ht⟩
    exact .inl ⟨rfl, s, List.mem_append_right _ hm, ht⟩

theorem compile_predicate_column {c : Catalog} {r : Request} {p : Predicate}
    (hp : p ∈ (c.compile r).draft.predicates) {f : Column} (hf : f ∈ p.columns) :
    f ∈ c.columns ∧ ((c.compile r).draft.usage.Has f.table .search ∨
      (c.compile r).draft.usage.Has f.table .filter) := by
  rw [(c.compile_tags r).2, (c.compile_tags r).2]
  rw [compile_predicates, draft] at hp
  rcases Draft.mem_predicates_addFilters hp with hp | ⟨g, hg, hcol⟩
  · rcases Draft.mem_predicates_addFilters hp with hp | ⟨g, hg, hcol⟩
    · rcases Search.mem_predicates_add hp with hp | ⟨hne, hcol⟩
      · cases hp
      · have hm := hcol f hf
        refine ⟨List.mem_of_mem_filter hm, .inl ?_⟩
        exact .inr (.inr (.inr (.inl ⟨rfl, hne, f, hm, rfl⟩)))
    · rw [hcol, List.mem_singleton] at hf
      subst hf
      exact ⟨Filter.accepted_column hg, .inr (.inr (.inr (.inl ⟨rfl, g, hg, rfl⟩)))⟩
  · rw [hcol, List.mem_singleton] at hf
    subst hf
    exact ⟨Filter.accepted_column hg, .inr (.inr (.inl ⟨rfl, g, hg, rfl⟩))⟩

end Catalog
end Listing
