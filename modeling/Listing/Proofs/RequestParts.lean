import Listing.Proofs.ValueIndependence
import Listing.Proofs.WhereText

namespace Listing

namespace Filter

variable {c : Catalog} {scope : FilterScope}

def Emits (c : Catalog) (scope : FilterScope) (raw : String) (p : Predicate) : Prop :=
  ∃ f n, accept c scope raw = .ok f ∧ p = f.predicate n

theorem Emits.not_anyOf {raw : String} {p : Predicate} (h : Emits c scope raw p)
    (tests : List SearchTest) : p ≠ .anyOf tests := by
  obtain ⟨f, n, -, rfl⟩ := h
  rw [Filter.predicate]
  split <;> nofun

theorem Emits.columns {raw : String} {p : Predicate} (h : Emits c scope raw p) :
    ∃ f, p.columns = [f] ∧ f ∈ c.columns ∧ scope.allows f.field = true := by
  obtain ⟨f, n, ha, rfl⟩ := h
  obtain ⟨_, _, _, _, _, hc, hallows, _⟩ := accept_ok ha
  refine ⟨f.column, ?_, Catalog.indexed?_mem hc, hallows⟩
  rw [Filter.predicate]
  split <;> rfl

theorem accept_of_refused_nil {raws : List String} (h : refused c scope raws = []) :
    ∀ raw ∈ raws, ∃ f, accept c scope raw = .ok f := by
  intro raw hr
  have hfst : raw ∈ (raws.zipIdx 1).map (·.1) := by rwa [List.zipIdx_map_fst]
  obtain ⟨e, he, rfl⟩ := List.mem_map.mp hfst
  have hnone := List.filterMap_eq_nil_iff.mp h e he
  cases ha : accept c scope e.1 with
  | error r => simp [ha] at hnone
  | ok f => exact ⟨f, rfl⟩

def isAccepted (c : Catalog) (scope : FilterScope) (raw : String) : Bool :=
  (accept c scope raw).toOption.isSome

theorem filter_isAccepted {raws : List String} (h : ∀ raw ∈ raws, ∃ f, accept c scope raw = .ok f) :
    raws.filter (isAccepted c scope) = raws := by
  rw [List.filter_eq_self]
  intro raw hr
  obtain ⟨f, hf⟩ := h raw hr
  simp [isAccepted, hf, Except.toOption]

theorem forall₂_emits (c : Catalog) (scope : FilterScope) (raws : List String) (n : Nat) :
    List.Forall₂ (Emits c scope) (raws.filter (isAccepted c scope))
      (Clause.numbered n ((accepted c scope raws).map (·.clause))) := by
  induction raws generalizing n with
  | nil => exact .nil
  | cons raw raws ih =>
    cases ha : accept c scope raw with
    | error e =>
      have hskip := accepted_erase ha [] raws
      rw [List.nil_append, List.nil_append] at hskip
      rw [hskip, List.filter_cons_of_neg (by simp [isAccepted, ha, Except.toOption])]
      exact ih n
    | ok f =>
      rw [accepted_cons ha, List.filter_cons_of_pos (by simp [isAccepted, ha, Except.toOption])]
      exact .cons ⟨f, n, ha, rfl⟩ (ih _)

end Filter

namespace Search

theorem numbered_clauses {c : Catalog} (hc : c.searchColumns ≠ []) (term : String) :
    (term.isEmpty = true → Clause.numbered 1 (clauses c term) = []) ∧
    (term.isEmpty = false → ∃ tests, Clause.numbered 1 (clauses c term) = [.anyOf tests] ∧
      tests.map (·.column) = tested c term) := by
  constructor
  · intro ht
    simp [clauses, ht, Clause.numbered]
  · intro ht
    refine ⟨((tested c term).zipIdx 1).map fun e => test e.1 e.2, ?_, ?_⟩
    · simp [clauses, ht, hc, Clause.numbered, clause]
    · simp [column_test, Function.comp_def]

end Search

namespace Catalog

theorem compile_parts (c : Catalog) (r : Request) : ∃ m n, (c.compile r).draft.predicates =
    Clause.numbered 1 (Search.clauses c r.search) ++
      Clause.numbered m ((Filter.accepted c .request r.filters).map (·.clause)) ++
      Clause.numbered n ((Filter.accepted c .trusted r.localFilters).map (·.clause)) := by
  rw [compile_predicates_eq, clauses, Clause.numbered_append, Clause.numbered_append]
  exact ⟨_, _, rfl⟩

theorem refusals_nil {c : Catalog} {r : Request} (h : (c.compile r).refusals = []) :
    c.searchColumns ≠ [] ∧ Filter.refused c .request r.filters = [] ∧
      Filter.refused c .trusted r.localFilters = [] := by
  simp only [compile, refusals, List.append_eq_nil_iff] at h
  obtain ⟨⟨⟨hsearch, hfilters⟩, hlocal⟩, -⟩ := h
  refine ⟨fun hc => ?_, hfilters, hlocal⟩
  simp [Search.refused, hc] at hsearch

end Catalog

namespace Session

variable {Id Model : Type} {c : Catalog} {s : Session Id Model}

theorem plain_predicates (hc : c.Sound) (hs : s.Reachable c)
    (hplain : ∀ u ∈ c.tables, IsPlainName u.reference) {p : Predicate}
    (hp : p ∈ s.draft.predicates ++ c.softDeletes.map .isFalse) : p.Plain := by
  intro f hf
  have hmem : f ∈ c.columns := by
    rcases List.mem_append.mp hp with hp | hp
    · exact ((hs.marked hc).predicates p hp f hf).1
    · obtain ⟨g, hg, rfl⟩ := List.mem_map.mp hp
      obtain rfl : f = g := by simpa [Predicate.columns] using hf
      exact List.mem_of_mem_filter hg
  obtain ⟨u, hu, -, href⟩ := hc.column_table f hmem
  rw [href]
  exact hplain u (List.mem_of_getElem? hu)

/-- The condition of the query for ids is the conjunction of the search, the filters, the local
filters and the soft deletes, so no request is answered by rows that the last two leave out. -/
theorem condition_conjunction {t : Table} (h : Catalog.build t = .ok c)
    (hplain : ∀ u ∈ c.tables, IsPlainName u.reference) (hs : s.Reachable c)
    (hp : s.isProcessed = true) {fields : List FieldId}
    (hf : ∃ i ∈ fields, (c.column? i).isSome) :
    ∃ q search request trusted, (s.select fields).idQuery = .ok q ∧
      q.statement.predicates =
        search ++ request ++ trusted ++ c.softDeletes.map .isFalse ∧
      (s.request.search.isEmpty = true → search = []) ∧
      (s.request.search.isEmpty = false → ∃ tests, search = [.anyOf tests] ∧
        tests.map (·.column) = Search.tested c s.request.search) ∧
      List.Forall₂ (Filter.Emits c .request) s.request.filters request ∧
      List.Forall₂ (Filter.Emits c .trusted) s.request.localFilters trusted ∧
      q.statement.ReadAsConjunction ∧
      ∀ ls, lex q.statement.whereText = .word "WHERE".toList :: ls → ∀ test, Holds test ls →
        ∀ p ∈ trusted ++ c.softDeletes.map .isFalse, test (lex p.text) := by
  have hc := Catalog.build_wellFormed h
  have hm := hs.marked hc.toSound
  obtain ⟨q, hq, -, -, -, hpred⟩ := idQuery_ok hc ((hs.select fields).marked hc.toSound) hp
    (select_selection_ne hm.catalog hf)
  rw [select_predicates hm.catalog] at hpred
  have hread : q.statement.ReadAsConjunction := by
    apply Statement.readAsConjunction
    rw [hpred]
    exact fun p => plain_predicates hc.toSound hs hplain
  obtain ⟨hcolumns, hfilters, hlocal⟩ := Catalog.refusals_nil (hs.compiled.accepted hp)
  obtain ⟨m, n, hparts⟩ := c.compile_parts s.request
  have hsearch := Search.numbered_clauses hcolumns s.request.search
  have hrequest := Filter.forall₂_emits c .request s.request.filters m
  have htrusted := Filter.forall₂_emits c .trusted s.request.localFilters n
  rw [Filter.filter_isAccepted (Filter.accept_of_refused_nil hfilters)] at hrequest
  rw [Filter.filter_isAccepted (Filter.accept_of_refused_nil hlocal)] at htrusted
  rw [hs.compiled.predicates, hparts] at hpred
  refine ⟨q, _, _, _, hq, hpred, hsearch.1, hsearch.2, hrequest, htrusted, hread, ?_⟩
  intro ls hls test hholds p hpt
  have hmem : p ∈ q.statement.predicates := by
    rw [hpred]
    rcases List.mem_append.mp hpt with hpt | hpt
    · exact List.mem_append_left _ (List.mem_append_right _ hpt)
    · exact List.mem_append_right _ hpt
  -- only the search has alternatives, so that for `p` to be true its one test has to hold
  have hsingle : ∀ tests, p ≠ .anyOf tests := by
    rcases List.mem_append.mp hpt with hpt | hpt
    · obtain ⟨raw, -, he⟩ := forall₂_mem_right htrusted hpt
      exact he.not_anyOf
    · obtain ⟨f, -, rfl⟩ := List.mem_map.mp hpt
      nofun
  obtain ⟨ls', hls', -, -, -, hiff⟩ := hread.reads (List.ne_nil_of_mem hmem)
  cases hls.symm.trans hls'
  exact (Predicate.isTrue_iff hsingle test).mp ((hiff test).mp hholds p hmem)

def tenantRequest : Request := { lampRequest with localFilters := ["name ne 'out of stock'"] }

theorem condition_conjunction_shop : (shopSession tenantRequest).isProcessed = true ∧
    ∃ q search request trusted, ((shopSession tenantRequest).select [0]).idQuery = .ok q ∧
      q.statement.predicates =
        search ++ request ++ trusted ++ Catalog.shopCatalog.softDeletes.map .isFalse ∧
      q.statement.text = joinWith "\n"
        ["SELECT product.\"id\" FROM product",
          "JOIN category c ON product.\"category_id\" = c.\"id\"",
          "LEFT JOIN brand ON product.\"brand_id\" = brand.\"id\"",
          "JOIN section ON c.\"section_id\" = section.\"id\"",
          "WHERE (lower(product.\"name\") like $1)",
          "AND c.\"name\"::text = $2",
          "AND product.\"name\"::text != $3",
          "AND product.\"is_deleted\" is false",
          "ORDER BY product.\"name\" ASC, brand.\"rank\" ASC"] ∧
      search.length = 1 ∧ request.length = 1 ∧ trusted.length = 1 ∧
      q.statement.ReadAsConjunction := by
  have hp : (shopSession tenantRequest).isProcessed = true := by decide
  have hplain : ∀ u ∈ Catalog.shopCatalog.tables, IsPlainName u.reference := by
    have hall : (Catalog.shopCatalog.tables.all fun u => u.reference.toList.all isWordChar) =
        true := by decide
    exact fun u hu => List.all_eq_true.mp (List.all_eq_true.mp hall u hu)
  obtain ⟨q, search, request, trusted, hq, hpred, -, hsearch, hrequest, htrusted, hread, -⟩ :=
    condition_conjunction Catalog.build_shop hplain (shopSession_reachable tenantRequest) hp
      ⟨0, List.mem_singleton_self 0, by decide⟩
  obtain ⟨tests, hs, -⟩ := hsearch (by decide)
  refine ⟨hp, q, search, request, trusted, hq, hpred, ?_, by rw [hs]; rfl,
    hrequest.length_eq.symm, htrusted.length_eq.symm, hread⟩
  cases hq
  decide +kernel

end Session
end Listing
