import Listing.Proofs.RequestParts
import Listing.Proofs.RequestText

namespace Listing

theorem SortTerm.order_capable {c : Catalog} {raws : List String} {t : SortTerm}
    (h : t ∈ order c raws) :
    t.column.field.sortable = true ∨ t.column.field.sort.isSome = true := by
  rw [order] at h
  split_ifs at h
  · rcases List.mem_append.mp h with h | h
    · obtain ⟨_, _, hj⟩ := accepted_judge h
      obtain ⟨_, _, _, _, hs, _⟩ := judge_ok hj
      exact .inl hs
    · exact .inr (List.mem_filter.mp (mem_defaults.mp h).1).2
  · cases h

theorem Search.mem_numbered {c : Catalog} {term : String} {p : Predicate}
    (h : p ∈ Clause.numbered 1 (clauses c term)) : ∃ tests, p = .anyOf tests ∧
      ∀ f ∈ p.columns, f ∈ c.columns ∧ f.field.searchable = true := by
  by_cases hc : c.searchColumns = []
  · simp [clauses, hc, Clause.numbered] at h
  · obtain ⟨hempty, hsome⟩ := numbered_clauses hc term
    cases ht : term.isEmpty with
    | true =>
      rw [hempty ht] at h
      cases h
    | false =>
      obtain ⟨tests, hn, htested⟩ := hsome ht
      rw [hn, List.mem_singleton] at h
      refine ⟨tests, h, fun f hf => ?_⟩
      rw [h, Predicate.columns, htested] at hf
      exact List.mem_filter.mp (List.mem_of_mem_filter hf)

theorem Filter.columns_emitted {c : Catalog} {scope : FilterScope} {raws : List String}
    {ps : List Predicate} (h : List.Forall₂ (Emits c scope) raws ps) :
    ∀ p ∈ ps, ∀ f ∈ p.columns, f ∈ c.columns ∧ scope.allows f.field = true := by
  intro p hp f hf
  obtain ⟨_, _, he⟩ := forall₂_mem_right h hp
  obtain ⟨g, hg, hmem, hallows⟩ := he.columns
  rw [hg, List.mem_singleton] at hf
  exact hf ▸ ⟨hmem, hallows⟩

structure Catalog.Permits (c : Catalog) (r : Request) (search request trusted : List Predicate) :
    Prop where
  predicates : (c.compile r).draft.predicates = search ++ request ++ trusted
  searches : ∀ p ∈ search, ∃ tests, p = .anyOf tests ∧
    ∀ f ∈ p.columns, f ∈ c.columns ∧ f.field.searchable = true
  filters : List.Forall₂ (Filter.Emits c .request)
    (r.filters.filter (Filter.isAccepted c .request)) request
  filterable : ∀ p ∈ request, ∀ f ∈ p.columns, f ∈ c.columns ∧ f.field.filterable = true
  localFilters : List.Forall₂ (Filter.Emits c .trusted)
    (r.localFilters.filter (Filter.isAccepted c .trusted)) trusted
  localFilterable : ∀ p ∈ trusted, ∀ f ∈ p.columns,
    f ∈ c.columns ∧ (f.field.filterable = true ∨ f.field.localFilterable = true)
  order : ∀ t ∈ (c.compile r).order,
    t.column ∈ c.columns ∧ (t.column.field.sortable = true ∨ t.column.field.sort.isSome = true)

theorem Catalog.exists_permits (c : Catalog) (r : Request) :
    ∃ search request trusted, c.Permits r search request trusted := by
  obtain ⟨m, n, hparts⟩ := c.compile_parts r
  have hrequest := Filter.forall₂_emits c .request r.filters m
  have htrusted := Filter.forall₂_emits c .trusted r.localFilters n
  refine ⟨_, _, _, {
    predicates := hparts
    searches := fun p hp => Search.mem_numbered hp
    filters := hrequest
    filterable := Filter.columns_emitted hrequest
    localFilters := htrusted
    localFilterable := fun p hp f hf => ?_
    order := fun t ht => ⟨SortTerm.order_column ht, SortTerm.order_capable ht⟩ }⟩
  obtain ⟨hmem, hallows⟩ := Filter.columns_emitted htrusted p hp f hf
  exact ⟨hmem, by simpa [FilterScope.allows] using hallows⟩

/-- A request gets at no columns but those declared for it, and at none that are for trusted filters
alone if it was decoded. Text cannot give local filters, neither their own nor any others. -/
theorem capabilities_enforced (c : Catalog) :
    (∀ r, ∃ search request trusted, c.Permits r search request trusted) ∧
    (∀ text r, Request.ofText text = .ok r → r.localFilters = [] ∧
      (∀ x text', Node.ofChars? text.toList = some x →
        Node.ofChars? text'.toList = some (x.without "local_filters") →
        Request.ofText text' = .ok r) ∧
      ∀ p ∈ (c.compile r).draft.predicates, ∀ f ∈ p.columns,
        f ∈ c.columns ∧ (f.field.searchable = true ∨ f.field.filterable = true)) ∧
    ∀ r : Request, Request.ofText r.toJson.text = .ok { r with localFilters := [] } := by
  refine ⟨c.exists_permits, fun text r hr => ?_, Request.ofText_toJson⟩
  obtain ⟨x, hx, hdecode⟩ := Request.ofText_ok.mp hr
  have hlocal := Request.decode_localFilters hdecode
  refine ⟨hlocal, fun y text' hy hy' => ?_, fun p hp f hf => ?_⟩
  · cases hx.symm.trans hy
    exact Request.ofText_ok.mpr ⟨_, hy', by rwa [Request.decode_without]⟩
  · obtain ⟨search, request, trusted, hpermits⟩ := c.exists_permits r
    have htrusted := hpermits.localFilters
    rw [hlocal, List.filter_nil, List.forall₂_nil_left_iff] at htrusted
    rw [hpermits.predicates, htrusted, List.append_nil, List.mem_append] at hp
    rcases hp with hp | hp
    · obtain ⟨_, -, hcolumns⟩ := hpermits.searches p hp
      exact ⟨(hcolumns f hf).1, .inl (hcolumns f hf).2⟩
    · obtain ⟨hmem, hfilterable⟩ := hpermits.filterable p hp f hf
      exact ⟨hmem, .inr hfilterable⟩

def intruderText : String :=
  "\x7b\"local_filters\":[\"name ne 'out of stock'\"],\"search\":\"lamp\"\x7d"

theorem capabilities_enforced_shop :
    Request.ofText intruderText = .ok { search := "lamp" } ∧
      Request.ofText "\x7b\"search\":\"lamp\"\x7d" = .ok { search := "lamp" } ∧
      ∀ p ∈ (Catalog.shopCatalog.compile { search := "lamp" }).draft.predicates,
        ∀ f ∈ p.columns, f.field.searchable = true ∨ f.field.filterable = true := by
  have hintruder : intruderText = (Json.object [("local_filters", .array
      [.string "name ne 'out of stock'"]), ("search", .string "lamp")]).text := by decide +kernel
  have hsearch : "\x7b\"search\":\"lamp\"\x7d" =
      (Json.object [("search", .string "lamp")]).text := by decide +kernel
  have hnode := Node.ofChars?_text (v := .object [("local_filters", .array
    [.string "name ne 'out of stock'"]), ("search", .string "lamp")])
    (by simp [Json.IsExact, Json.EntriesExact, Json.ItemsExact])
  have hnode' := Node.ofChars?_text (v := .object [("search", .string "lamp")])
    (by simp [Json.IsExact, Json.EntriesExact])
  rw [← hintruder] at hnode
  rw [← hsearch] at hnode'
  have htext : Request.ofText intruderText = .ok { search := "lamp" } := by decide +kernel
  obtain ⟨-, hdecoded, -⟩ := capabilities_enforced Catalog.shopCatalog
  obtain ⟨-, hwithout, hcolumns⟩ := hdecoded _ _ htext
  exact ⟨htext, hwithout _ _ hnode hnode', fun p hp f hf => (hcolumns p hp f hf).2⟩

end Listing
