import Listing.Proofs.QueryScope

namespace Listing

inductive FilterTest.Alike : FilterTest → FilterTest → Prop
  | compare (op : Comparison) (v v' : Json) : Alike (.compare op v) (.compare op v')
  | among {vs vs' : List Json} : vs.length = vs'.length → Alike (.among vs) (.among vs')

namespace Filter

structure Alike (f f' : Filter) : Prop where
  column : f.column = f'.column
  test : f.test.Alike f'.test

structure SameShape (c : Catalog) (scope : FilterScope) (raw raw' : String) : Prop where
  accepted : ∃ f f', accept c scope raw = .ok f ∧ accept c scope raw' = .ok f'
  parts : ∃ key operator value value', parts? raw.toList = some (key, operator, value) ∧
    parts? raw'.toList = some (key, operator, value') ∧
    (splitValues value).map List.length = (splitValues value').map List.length

variable {c : Catalog} {scope : FilterScope}

theorem test?_alike {op : FilterOperator} {kind : FieldKind} {value value' : List Char}
    {test test' : FilterTest} (h : test? op kind value = some test)
    (h' : test? op kind value' = some test')
    (hl : (splitValues value).map List.length = (splitValues value').map List.length) :
    test.Alike test' := by
  obtain ⟨values, hs, hv, hshape⟩ := test?_some h
  obtain ⟨values', hs', hv', hshape'⟩ := test?_some h'
  have hlen : test.values.length = test'.values.length := by
    have hcount := congrArg List.length hv
    have hcount' := congrArg List.length hv'
    simp only [List.length_map] at hcount hcount'
    simp only [hs, hs', Option.map_some, Option.some.injEq] at hl
    omega
  rcases hshape with ⟨o, v, rfl, rfl⟩ | ⟨vs, rfl, rfl⟩
  · rcases hshape' with ⟨o', v', ho, rfl⟩ | ⟨vs', ho, -⟩
    · cases ho
      exact .compare o v v'
    · cases ho
  · rcases hshape' with ⟨o', v', ho, -⟩ | ⟨vs', -, rfl⟩
    · cases ho
    · exact .among hlen

theorem SameShape.alike {raw raw' : String} (h : SameShape c scope raw raw') :
    ∃ f f', accept c scope raw = .ok f ∧ accept c scope raw' = .ok f' ∧ f.Alike f' := by
  obtain ⟨f, f', ha, ha'⟩ := h.accepted
  obtain ⟨key, operator, value, value', hp, hp', hl⟩ := h.parts
  obtain ⟨_, _, _, op, hq, hcol, _, hop, htest⟩ := accept_ok ha
  obtain ⟨_, _, _, op', hq', hcol', _, hop', htest'⟩ := accept_ok ha'
  cases hp.symm.trans hq
  cases hp'.symm.trans hq'
  cases hop.symm.trans hop'
  have hcolumn := Option.some.inj (hcol.symm.trans hcol')
  rw [← hcolumn] at htest'
  exact ⟨f, f', ha, ha', hcolumn, test?_alike htest htest' hl⟩

theorem accepted_alike {raws raws' : List String}
    (h : List.Forall₂ (SameShape c scope) raws raws') :
    List.Forall₂ Alike (accepted c scope raws) (accepted c scope raws') := by
  induction h with
  | nil => exact .nil
  | cons hraw _ ih =>
    obtain ⟨f, f', ha, ha', hf⟩ := hraw.alike
    rw [accepted_cons ha, accepted_cons ha']
    exact .cons hf ih

theorem refused_nil {raws : List String} (h : ∀ raw ∈ raws, ∃ f, accept c scope raw = .ok f) :
    refused c scope raws = [] := by
  rw [refused, List.filterMap_eq_nil_iff]
  intro e he
  obtain ⟨f, hf⟩ := h e.1 (List.fst_mem_of_mem_zipIdx he)
  simp only [hf]

theorem refused_eq {raws raws' : List String} (h : List.Forall₂ (SameShape c scope) raws raws') :
    refused c scope raws = refused c scope raws' := by
  rw [refused_nil, refused_nil]
  · intro raw' hr
    obtain ⟨raw, _, hs⟩ := forall₂_mem_right h hr
    obtain ⟨_, f', _, ha'⟩ := hs.accepted
    exact ⟨f', ha'⟩
  · intro raw hr
    obtain ⟨raw', _, hs⟩ := forall₂_mem_left h hr
    obtain ⟨f, _, ha, _⟩ := hs.accepted
    exact ⟨f, ha⟩

end Filter

structure Request.SameShape (c : Catalog) (r r' : Request) : Prop where
  search : r.search.isEmpty = r'.search.isEmpty
  numeric : Search.isNumeric r.search = Search.isNumeric r'.search
  filters : List.Forall₂ (Filter.SameShape c .request) r.filters r'.filters
  localFilters : List.Forall₂ (Filter.SameShape c .trusted) r.localFilters r'.localFilters
  sorts : r.sorts = r'.sorts

namespace Draft

structure Alike (d d' : Draft) : Prop where
  predicates : d.predicates = d'.predicates
  usage : d.usage = d'.usage
  count : d.arguments.length = d'.arguments.length

namespace Alike

variable {d d' : Draft}

theorem add (h : d.Alike d') (predicate : Nat → Predicate) {vs vs' : List Json}
    (hl : vs.length = vs'.length) : (d.add predicate vs).Alike (d'.add predicate vs') where
  predicates := by simp only [Draft.add, h.predicates, h.count]
  usage := h.usage
  count := by simp only [Draft.add, List.length_append, h.count, hl]

theorem mark (h : d.Alike d') (f : Column) (u : Usage) : (d.mark f u).Alike (d'.mark f u) where
  predicates := h.predicates
  usage := by simp only [Draft.mark, h.usage]
  count := h.count

theorem foldl_mark {α : Type} (h : d.Alike d') (column : α → Column) (u : Usage) (xs : List α) :
    (xs.foldl (fun d x => d.mark (column x) u) d).Alike
      (xs.foldl (fun d x => d.mark (column x) u) d') := by
  induction xs generalizing d d' with
  | nil => exact h
  | cons x xs ih => exact ih (h.mark (column x) u)

theorem addFilter (h : d.Alike d') {f f' : Filter} (hf : f.Alike f') :
    (d.addFilter f).Alike (d'.addFilter f') := by
  obtain ⟨column, test⟩ := f
  obtain ⟨column', test'⟩ := f'
  obtain ⟨rfl, ht⟩ := hf
  cases ht with
  | compare op v v' =>
    have hl : [v].length = [v'].length := rfl
    exact (h.add (.compare column op) hl).mark column .filter
  | among hl =>
    simp only [Draft.addFilter, hl]
    exact (h.add _ hl).mark column .filter

theorem addFilters (h : d.Alike d') {fs fs' : List Filter}
    (hfs : List.Forall₂ Filter.Alike fs fs') :
    (d.addFilters fs).Alike (d'.addFilters fs') := by
  induction hfs generalizing d d' with
  | nil => exact h
  | cons hf _ ih => exact ih (h.addFilter hf)

end Alike
end Draft

theorem Search.add_alike (c : Catalog) (d : Draft) {term term' : String}
    (he : term.isEmpty = term'.isEmpty) (hn : isNumeric term = isNumeric term') :
    (add c term d).Alike (add c term' d) := by
  have htested : tested c term = tested c term' := by simp only [tested, hn]
  have hd : d.Alike d := ⟨rfl, rfl, rfl⟩
  rw [add, add, he, htested]
  split
  · exact hd
  · exact (hd.add _ (by simp)).foldl_mark (fun f => f) .search _

theorem Catalog.compile_alike {c : Catalog} {r r' : Request} (h : r.SameShape c r') :
    (c.compile r).draft.Alike (c.compile r').draft := by
  have hsearch := Search.add_alike c { usage := c.defaultUsage } h.search h.numeric
  have hfilters := hsearch.addFilters (Filter.accepted_alike h.filters)
  have hdraft := hfilters.addFilters (Filter.accepted_alike h.localFilters)
  rw [compile, compile, h.sorts]
  exact hdraft.foldl_mark SortTerm.column .sort _

theorem Catalog.compile_refusals {c : Catalog} {r r' : Request} (h : r.SameShape c r') :
    (c.compile r).refusals = (c.compile r').refusals := by
  simp only [compile, refusals, Filter.refused_eq h.filters, Filter.refused_eq h.localFilters,
    h.sorts]

namespace Session

variable {Id Model : Type} {c : Catalog} {s s' : Session Id Model}

structure Alike (s s' : Session Id Model) : Prop where
  catalog : s.catalog = s'.catalog
  isProcessed : s.isProcessed = s'.isProcessed
  selection : s.selection = s'.selection
  order : s.order = s'.order
  draft : s.draft.Alike s'.draft

theorem alike_setRequest (hs : s.catalog = some c) (hs' : s'.catalog = some c) {r r' : Request}
    (h : r.SameShape c r') : (s.setRequest r).1.Alike (s'.setRequest r').1 := by
  rw [setRequest_eq hs, setRequest_eq hs']
  exact {
    catalog := rfl
    isProcessed := by rw [Catalog.compile_refusals h]
    selection := rfl
    order := by simp only [Catalog.compile_order, h.sorts]
    draft := Catalog.compile_alike h }

theorem Alike.select (h : s.Alike s') (fields : List FieldId) :
    (s.select fields).Alike (s'.select fields) where
  catalog := h.catalog
  isProcessed := h.isProcessed
  selection := by simp only [Session.select, h.catalog]
  order := h.order
  draft := by
    have hcleared : Draft.Alike { s.draft with usage := s.draft.usage.unmarkAll .select }
        { s'.draft with usage := s'.draft.usage.unmarkAll .select } :=
      { h.draft with usage := by rw [h.draft.usage] }
    simp only [Session.select, h.catalog]
    exact hcleared.foldl_mark (fun f => f) .select _

theorem Alike.idQuery (h : s.Alike s') :
    s.idQuery.map (fun q => (q.statement.text, q.arguments.length)) =
      s'.idQuery.map fun q => (q.statement.text, q.arguments.length) := by
  have hready : s.ready = s'.ready := by
    simp only [ready, h.catalog, h.isProcessed, h.selection]
  rw [Session.idQuery, Session.idQuery, hready]
  cases s'.ready with
  | error e => rfl
  | ok r =>
    obtain ⟨c, root⟩ := r
    have hd := h.draft
    simp only [bind, Except.bind, Except.map, h.selection, h.order, hd.usage, hd.predicates,
      hd.count]

/-- Requests that differ in values alone are compiled alike, and to the same text. -/
theorem text_without_values {r r' : Request} (h : r.SameShape c r') :
    (c.compile r).draft.predicates = (c.compile r').draft.predicates ∧
    (c.compile r).order = (c.compile r').order ∧
    (c.compile r).draft.usage = (c.compile r').draft.usage ∧
    (c.compile r).draft.arguments.length = (c.compile r').draft.arguments.length ∧
    (c.compile r).refusals = (c.compile r').refusals ∧
    ∀ s s' : Session Id Model, s.catalog = some c → s'.catalog = some c → ∀ fields,
      ((s.setRequest r).1.select fields).idQuery.map
          (fun q => (q.statement.text, q.arguments.length)) =
        ((s'.setRequest r').1.select fields).idQuery.map
          fun q => (q.statement.text, q.arguments.length) := by
  have hd := Catalog.compile_alike h
  have horder : (c.compile r).order = (c.compile r').order := by
    simp only [Catalog.compile_order, h.sorts]
  exact ⟨hd.predicates, horder, hd.usage, hd.count, Catalog.compile_refusals h,
    fun s s' hs hs' fields => ((alike_setRequest hs hs' h).select fields).idQuery⟩

def deskRequest : Request where
  limit := 20
  page := 3
  search := "desk"
  filters := ["category.name  eq 'dark wood'"]
  sorts := ["name asc"]

theorem lampRequest_sameShape : lampRequest.SameShape Catalog.shopCatalog deskRequest where
  search := by decide
  numeric := by decide
  filters := .cons ⟨⟨_, _, rfl, rfl⟩, _, _, _, _, rfl, rfl, rfl⟩ .nil
  localFilters := .nil
  sorts := rfl

theorem shopSession_ready {r : Request} (hp : (shopSession r).isProcessed = true) :
    ∃ root, ((shopSession r).select [0]).ready = .ok (Catalog.shopCatalog, root) := by
  have hc := Catalog.build_wellFormed Catalog.build_shop
  have hs := shopSession_reachable r
  obtain ⟨root, -, he⟩ := ready_ok hc ((hs.select [0]).marked hc.toSound) hp
    (select_selection_ne (hs.marked hc.toSound).catalog ⟨0, List.mem_singleton_self 0, by decide⟩)
  exact ⟨root, he⟩

theorem text_without_values_shop : lampRequest.SameShape Catalog.shopCatalog deskRequest ∧
    ∃ q q', ((shopSession lampRequest).select [0]).idQuery = .ok q ∧
      ((shopSession deskRequest).select [0]).idQuery = .ok q' ∧
      q.statement.text = q'.statement.text ∧
      q.arguments = [.string "%lamp%", .string "light"] ∧
      q'.arguments = [.string "%desk%", .string "dark wood"] := by
  obtain ⟨-, -, -, -, -, hqueries⟩ :=
    @text_without_values Json Json _ _ _ lampRequest_sameShape
  obtain ⟨root, hlamp⟩ := shopSession_ready (r := lampRequest) (by decide)
  obtain ⟨root', hdesk⟩ := shopSession_ready (r := deskRequest) (by decide)
  have htext := hqueries (ofCatalog Catalog.shopCatalog) (ofCatalog Catalog.shopCatalog) rfl rfl [0]
  have hquery := idQuery_eq hlamp
  have hquery' := idQuery_eq hdesk
  rw [shopSession] at hquery hquery'
  rw [hquery, hquery'] at htext
  simp only [Except.map, Except.ok.injEq, Prod.mk.injEq] at htext
  exact ⟨lampRequest_sameShape, _, _, hquery, hquery', htext.1, rfl, rfl⟩

end Session
end Listing
