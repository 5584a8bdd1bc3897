import Listing.Pager
import Listing.Proofs.Clauses

namespace Listing.Session

variable {Id Model : Type} {c : Catalog} {s : Session Id Model}

/-- What requests, selections and results can make of a session over `c`, in any order. -/
inductive Reachable (c : Catalog) : Session Id Model → Prop
  | start : Reachable c (ofCatalog c)
  | request {s : Session Id Model} (r : Request) : Reachable c s → Reachable c (s.setRequest r).1
  | select {s : Session Id Model} (fields : List FieldId) :
      Reachable c s → Reachable c (s.select fields)
  | result {s : Session Id Model} (ids : List Id) (rows : List Model) :
      Reachable c s → Reachable c (s.setResult ids rows)

structure Marked (c : Catalog) (s : Session Id Model) : Prop where
  catalog : s.catalog = some c
  ordered : s.draft.usage.Ordered
  selection : ∀ f ∈ s.selection, f ∈ c.columns
  order : ∀ t ∈ s.order, t.column ∈ c.columns
  predicates : ∀ p ∈ s.draft.predicates, ∀ f ∈ p.columns, f ∈ c.columns ∧
    (s.draft.usage.Has f.table .search ∨ s.draft.usage.Has f.table .filter)
  select : ∀ t, s.draft.usage.Has t .select ↔ ∃ f ∈ s.selection, f.table = t
  sort : s.isProcessed = true → ∀ t, s.draft.usage.Has t .sort ↔ ∃ o ∈ s.order, o.column.table = t
  softDelete : s.isProcessed = true → ∀ f ∈ c.softDeletes, s.draft.usage.Has f.table .filter

theorem setRequest_eq (h : s.catalog = some c) (r : Request) : (s.setRequest r).1 =
    { catalog := some c, request := r, draft := (c.compile r).draft, order := (c.compile r).order,
      isProcessed := (c.compile r).refusals.isEmpty } := by
  simp only [setRequest, h]

def chosen (catalog : Option Catalog) (fields : List FieldId) : List Column :=
  catalog.elim [] fun c => fields.filterMap c.column?

theorem select_chosen (s : Session Id Model) (fields : List FieldId) : s.select fields =
    { s with
      selection := chosen s.catalog fields
      draft := { s.draft with
        usage := (chosen s.catalog fields).foldl (fun m f => m.mark f.table .select)
          (s.draft.usage.unmarkAll .select) } } := by
  simp only [select]
  rw [Draft.foldl_mark_eq fun f => f]
  cases hcatalog : s.catalog <;> rfl

theorem select_eq (h : s.catalog = some c) (fields : List FieldId) : s.select fields =
    { s with
      selection := fields.filterMap c.column?
      draft := { s.draft with
        usage := (fields.filterMap c.column?).foldl (fun m f => m.mark f.table .select)
          (s.draft.usage.unmarkAll .select) } } := by
  rw [select_chosen, h]
  rfl

theorem select_tags (h : s.catalog = some c) (ho : s.draft.usage.Ordered)
    (fields : List FieldId) : (s.select fields).draft.usage.Ordered ∧ ∀ t u,
      (s.select fields).draft.usage.Has t u ↔
        (u = .select ∧ ∃ f ∈ (s.select fields).selection, f.table = t) ∨
        (u ≠ .select ∧ s.draft.usage.Has t u) := by
  obtain ⟨h₁, t₁⟩ := UsageMap.foldl_mark (ho.unmarkAll .select) Column.table .select
    (fields.filterMap c.column?)
  rw [select_eq h]
  refine ⟨h₁, fun t u => ?_⟩
  rw [t₁, UsageMap.has_unmarkAll ho]

theorem select_keeps (h : s.catalog = some c) (ho : s.draft.usage.Ordered)
    (fields : List FieldId) (t : TableId) {u : Usage} (hu : u ≠ .select) :
    (s.select fields).draft.usage.Has t u ↔ s.draft.usage.Has t u := by
  rw [(select_tags h ho fields).2]
  simp [hu]

theorem Marked.start : Marked c (ofCatalog c : Session Id Model) where
  catalog := rfl
  ordered := .empty
  selection := by simp [ofCatalog]
  order := by simp [ofCatalog]
  predicates := by simp [ofCatalog]
  select := by simp [ofCatalog, UsageMap.Has, UsageMap.get]
  sort := by simp [ofCatalog]
  softDelete := by simp [ofCatalog]

theorem Marked.request (hc : c.Sound) (h : s.Marked c) (r : Request) :
    (s.setRequest r).1.Marked c := by
  rw [setRequest_eq h.catalog]
  exact {
    catalog := rfl
    ordered := (c.compile_tags r).1
    selection := by simp
    order := fun t ht => SortTerm.order_column ht
    predicates := fun p hp f hf => Catalog.compile_predicate_column hp hf
    select := fun t => by simp [c.compile_not_select r t]
    sort := fun hr => Catalog.compile_sort hc hr
    softDelete := fun _ f hf => c.compile_softDelete r hf }

theorem Marked.reselect (h : s.Marked c) (fields : List FieldId) : (s.select fields).Marked c := by
  obtain ⟨ho, htag⟩ := select_tags h.catalog h.ordered fields
  have keep : ∀ t u, u ≠ .select →
      ((s.select fields).draft.usage.Has t u ↔ s.draft.usage.Has t u) :=
    fun t u => select_keeps h.catalog h.ordered fields t
  have heq := select_eq h.catalog fields
  refine {
    catalog := by rw [heq]; exact h.catalog
    ordered := ho
    selection := fun f hf => ?_
    order := by rw [heq]; exact h.order
    predicates := fun p hp f hf => ?_
    select := fun t => by rw [htag]; simp
    sort := fun hp t => ?_
    softDelete := fun hp f hf => ?_ }
  · rw [heq] at hf
    obtain ⟨i, _, hi⟩ := List.mem_filterMap.mp hf
    exact Catalog.column?_mem hi
  · rw [keep _ _ (by decide), keep _ _ (by decide)]
    rw [heq] at hp
    exact h.predicates p hp f hf
  · rw [keep _ _ (by decide)]
    rw [heq] at hp ⊢
    exact h.sort hp t
  · rw [keep _ _ (by decide)]
    rw [heq] at hp
    exact h.softDelete hp f hf

theorem Marked.result (h : s.Marked c) (ids : List Id) (rows : List Model) :
    (s.setResult ids rows).Marked c := { h with }

theorem Reachable.marked (hc : c.Sound) (h : s.Reachable c) : s.Marked c := by
  induction h with
  | start => exact .start
  | request r _ ih => exact ih.request hc r
  | select fields _ ih => exact ih.reselect fields
  | result ids rows _ ih => exact ih.result ids rows

structure Compiled (c : Catalog) (s : Session Id Model) : Prop where
  predicates : s.draft.predicates = (c.compile s.request).draft.predicates
  arguments : s.draft.arguments = (c.compile s.request).draft.arguments
  accepted : s.isProcessed = true → (c.compile s.request).refusals = []
  order : s.isProcessed = true → s.order = (c.compile s.request).order

theorem Compiled.start : Compiled c (ofCatalog c : Session Id Model) where
  predicates := (c.compile_predicates_eq {}).symm
  arguments := (c.compile_arguments_eq {}).symm
  accepted := by simp [ofCatalog]
  order := by simp [ofCatalog]

theorem Reachable.compiled (h : s.Reachable c) : s.Compiled c := by
  have hcatalog : ∀ {s : Session Id Model}, s.Reachable c → s.catalog = some c := by
    intro s hs
    induction hs with
    | start => rfl
    | request r _ ih => rw [setRequest_eq ih]
    | select fields _ ih => rw [select_eq ih]; exact ih
    | result _ _ _ ih => exact ih
  induction h with
  | start => exact .start
  | request r hs _ =>
    rw [setRequest_eq (hcatalog hs)]
    exact ⟨rfl, rfl, List.isEmpty_iff.mp, fun _ => rfl⟩
  | select fields hs ih =>
    rw [select_eq (hcatalog hs)]
    exact { ih with }
  | result ids rows _ ih => exact { ih with }

theorem Reachable.usage_compiled (hc : c.Sound) (hs : s.Reachable c) (hp : s.isProcessed = true)
    {t : TableId} {u : Usage} (hu : u ≠ .select) :
    s.draft.usage.Has t u ↔ (c.compile s.request).draft.usage.Has t u := by
  induction hs with
  | start => cases hp
  | request r hs _ => rw [setRequest_eq (hs.marked hc).catalog]
  | @select s fields hs ih =>
    have hm := hs.marked hc
    rw [select_keeps hm.catalog hm.ordered fields t hu]
    rw [select_eq hm.catalog] at hp ⊢
    exact ih hp
  | result ids rows _ ih => exact ih hp

theorem Reachable.paginate (h : s.Reachable c) (x : Executor Id)
    (encode : Id → Except String Json) (model : Decoder Model) (idField : FieldId)
    (fields : List FieldId) :
    (s.paginate x encode model idField fields).session.Reachable c := by
  have hfetch : ∀ {s : Session Id Model}, s.Reachable c → ∀ first ids page,
      (s.fetchPage x encode model idField first ids page).session.Reachable c := by
    intro s hs first ids page
    rw [fetchPage]
    split
    · exact hs
    · split
      · exact hs
      · exact hs.result ids _
  rw [Session.paginate]
  have hs := h.select [idField]
  split
  · exact hs
  · split
    · exact hs
    · rename_i ids _
      split
      · exact hs.result ids []
      · exact hfetch (hs.select fields) _ _ _

end Listing.Session
