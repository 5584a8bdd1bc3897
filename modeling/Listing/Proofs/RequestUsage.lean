import Listing.Proofs.RequestParts

namespace Listing

def Filter.subject? (c : Catalog) (raw : String) : Option Column :=
  (parts? raw.toList).bind fun p => c.indexed? (String.ofList p.1)

namespace Filter

variable {c : Catalog} {scope : FilterScope}

theorem accept_subject {raw : String} {f : Filter} (h : accept c scope raw = .ok f) :
    subject? c raw = some f.column := by
  obtain ⟨key, _, _, _, hparts, hcolumn, -⟩ := accept_ok h
  rw [subject?, hparts]
  exact hcolumn

theorem exists_accepted_iff {raws : List String} (h : refused c scope raws = []) {t : TableId} :
    (∃ f ∈ accepted c scope raws, f.column.table = t) ↔
      ∃ raw ∈ raws, ∃ f, subject? c raw = some f ∧ f.table = t := by
  have haccept := accept_of_refused_nil h
  constructor
  · rintro ⟨f, hf, rfl⟩
    obtain ⟨raw, hraw, hf⟩ := mem_accepted.mp hf
    exact ⟨raw, hraw, f.column, accept_subject hf, rfl⟩
  · rintro ⟨raw, hraw, f, hsubject, rfl⟩
    obtain ⟨g, hg⟩ := haccept raw hraw
    obtain rfl : g.column = f := Option.some.inj ((accept_subject hg).symm.trans hsubject)
    exact ⟨g, mem_accepted.mpr ⟨raw, hraw, hg⟩, rfl⟩

end Filter

namespace Catalog

variable {c : Catalog} {r : Request} {m m' : UsageMap}

structure Marks (c : Catalog) (r : Request) (m : UsageMap) : Prop where
  sort : ∀ t, m.Has t .sort ↔ ∃ o ∈ (c.compile r).order, o.column.table = t
  filter : ∀ t, m.Has t .filter ↔
    (∃ f ∈ c.columns, f.field.softDelete = true ∧ f.table = t) ∨
      ∃ raw ∈ r.filters ++ r.localFilters, ∃ f, Filter.subject? c raw = some f ∧ f.table = t
  search : ∀ t, m.Has t .search ↔
    r.search ≠ "" ∧ ∃ f ∈ c.columns, f.field.searchable = true ∧ f.table = t
  mandatory : ∀ t, m.Has t .mandatory ↔ ∃ q ∈ c.relations, q.mandatory = true ∧ q.child = t

theorem Marks.congr (h : c.Marks r m) (hm : ∀ t u, u ≠ .select → (m'.Has t u ↔ m.Has t u)) :
    c.Marks r m' where
  sort t := (hm t .sort (by decide)).trans (h.sort t)
  filter t := (hm t .filter (by decide)).trans (h.filter t)
  search t := (hm t .search (by decide)).trans (h.search t)
  mandatory t := (hm t .mandatory (by decide)).trans (h.mandatory t)

theorem compile_filter (hr : (c.compile r).refusals = []) (t : TableId) :
    (c.compile r).draft.usage.Has t .filter ↔
      (∃ f ∈ c.columns, f.field.softDelete = true ∧ f.table = t) ∨
        ∃ raw ∈ r.filters ++ r.localFilters, ∃ f, Filter.subject? c raw = some f ∧ f.table = t := by
  obtain ⟨-, hfilters, hlocal⟩ := refusals_nil hr
  have hdeleted : (∃ f ∈ c.softDeletes, f.table = t) ↔
      ∃ f ∈ c.columns, f.field.softDelete = true ∧ f.table = t := by
    simp only [softDeletes, List.mem_filter, and_assoc]
  rw [(c.compile_tags r).2, c.defaultUsage_tags.2, Filter.exists_accepted_iff hfilters,
    Filter.exists_accepted_iff hlocal, hdeleted]
  simp only [reduceCtorEq, false_and, true_and, false_or, or_false, List.mem_append, or_and_right,
    exists_or]
  constructor
  · rintro (htrusted | hrequest | hdeletes)
    · exact .inr (.inr htrusted)
    · exact .inr (.inl hrequest)
    · exact .inl hdeletes
  · rintro (hdeletes | hrequest | htrusted)
    · exact .inr (.inr hdeletes)
    · exact .inr (.inl hrequest)
    · exact .inl htrusted

theorem compile_search (t : TableId) : (c.compile r).draft.usage.Has t .search ↔
    r.search ≠ "" ∧ ∃ f ∈ c.columns, f.field.searchable = true ∧ f.table = t := by
  rw [(c.compile_tags r).2, c.defaultUsage_tags.2]
  simp [searchColumns, and_assoc]

theorem compile_marks (hc : c.Sound) (hr : (c.compile r).refusals = []) :
    c.Marks r (c.compile r).draft.usage where
  sort := compile_sort hc (List.isEmpty_iff.mpr hr)
  filter := compile_filter hr
  search := compile_search
  mandatory := c.compile_mandatory r

end Catalog

namespace Session

variable {Id Model : Type} {c : Catalog} {s : Session Id Model}

theorem select_marks (hs : s.Marked c) (fields : List FieldId) (t : TableId) :
    (s.select fields).draft.usage.Has t .select ↔
      ∃ i ∈ fields, ∃ f, c.column? i = some f ∧ f.table = t := by
  rw [(hs.reselect fields).select, select_eq hs.catalog]
  constructor
  · rintro ⟨f, hf, ht⟩
    obtain ⟨i, hi, hcolumn⟩ := List.mem_filterMap.mp hf
    exact ⟨i, hi, f, hcolumn, ht⟩
  · rintro ⟨i, hi, f, hcolumn, ht⟩
    exact ⟨f, List.mem_filterMap.mpr ⟨i, hi, hcolumn⟩, ht⟩

theorem Reachable.marks (hc : c.Sound) (h : s.Reachable c) (hp : s.isProcessed = true) :
    c.Marks s.request s.draft.usage := by
  have hmarks := Catalog.compile_marks hc (h.compiled.accepted hp)
  exact hmarks.congr fun t u hu => h.usage_compiled hc hp hu

theorem usage_exact {x : Table} (h : Catalog.build x = .ok c) :
    (∀ r, (c.compile r).refusals = [] → c.Marks r (c.compile r).draft.usage ∧
      ∀ t, ¬ (c.compile r).draft.usage.Has t .select) ∧
    ∀ s : Session Id Model, s.Reachable c →
      (s.isProcessed = true → c.Marks s.request s.draft.usage) ∧
      ∀ fields t,
        ((s.select fields).draft.usage.Has t .select ↔
          ∃ i ∈ fields, ∃ f, c.column? i = some f ∧ f.table = t) ∧
        ∀ u, u ≠ .select → ((s.select fields).draft.usage.Has t u ↔ s.draft.usage.Has t u) := by
  have hc := (Catalog.build_wellFormed h).toSound
  refine ⟨fun r hr => ⟨Catalog.compile_marks hc hr, c.compile_not_select r⟩, fun s hs => ?_⟩
  have hmarked := hs.marked hc
  exact ⟨hs.marks hc, fun fields t =>
    ⟨select_marks hmarked fields t, fun u =>
      select_keeps hmarked.catalog hmarked.ordered fields t⟩⟩

theorem usage_exact_shop : (Catalog.shopCatalog.compile lampRequest).refusals = [] ∧
    Catalog.shopCatalog.Marks lampRequest (shopSession lampRequest).draft.usage ∧
    ((shopSession lampRequest).select [0, 10, 99]).draft.usage =
      ⟨[(0, .ofList [.select, .search, .filter, .sort]), (1, .ofList [.filter]),
        (2, .ofList [.mandatory]), (3, .ofList [.select, .sort])]⟩ ∧
    ∀ t, ((shopSession lampRequest).select [0, 10, 99]).draft.usage.Has t .select ↔
      ∃ i ∈ [0, 10, 99], ∃ f, Catalog.shopCatalog.column? i = some f ∧ f.table = t := by
  have hr : (Catalog.shopCatalog.compile lampRequest).refusals = [] := by decide
  obtain ⟨hcompile, hsession⟩ := @usage_exact Json Json _ _ Catalog.build_shop
  obtain ⟨-, hselect⟩ := hsession _ (shopSession_reachable lampRequest)
  exact ⟨hr, (hcompile lampRequest hr).1, by decide, fun t => (hselect [0, 10, 99] t).1⟩

end Session
end Listing
