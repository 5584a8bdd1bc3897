import Listing.Proofs.OuterJoins
import Listing.Proofs.RequestParts
import Listing.Proofs.RowConditions

namespace Listing

namespace Join

variable {Value : Type}

theorem filter_runAll (db : Database Value) (keep : JoinedRow Value → Bool) (isInner : Join → Bool)
    {js : List Join} {b : JoinedRow Value} (hdistinct : (js.map (·.table.id)).Nodup)
    (habsent : ∀ j ∈ js, b j.table.id = none)
    (hkeep : ∀ j ∈ js, isInner j = j.isInner ∨
      isInner j = false ∧ ∀ b' : JoinedRow Value, b' j.table.id = none → keep b' = false) :
    (runAll db (js.map fun j => { j with isInner := isInner j }) b).filter keep =
      (runAll db js b).filter keep := by
  induction js generalizing b with
  | nil => rfl
  | cons j js ih =>
    rw [List.map_cons, List.nodup_cons] at hdistinct
    obtain ⟨hnew, hdistinct⟩ := hdistinct
    have hne : ∀ k ∈ js, k.table.id ≠ j.table.id := fun k hk he =>
      hnew (he ▸ List.mem_map_of_mem (f := fun j : Join => j.table.id) hk)
    have hrest : ∀ b' ∈ run db j b,
        (runAll db (js.map fun j => { j with isInner := isInner j }) b').filter keep =
          (runAll db js b').filter keep := by
      intro b' hb'
      apply ih hdistinct
      · intro k hk
        rw [run_frame hb' (hne k hk), habsent k (List.mem_cons_of_mem _ hk)]
      · exact fun k hk => hkeep k (List.mem_cons_of_mem _ hk)
    rw [List.map_cons, runAll, runAll, List.filter_flatMap, List.filter_flatMap]
    by_cases hrel : j.related db b = []
    · rcases hkeep j List.mem_cons_self with he | ⟨hout, hlost⟩
      · rw [he]
        exact List.flatMap_congr hrest
      · have hrow : run db { j with isInner := isInner j } b = [b] := run_outer hout hrel
        rw [hrow, List.flatMap_singleton]
        cases hin : j.isInner with
        | false =>
          rw [run_outer hin hrel, List.flatMap_singleton]
          exact hrest b (by rw [run_outer hin hrel]; exact List.mem_singleton_self b)
        | true =>
          -- the inner join drops the row, which is not kept behind the outer one either
          have hrun : run db j b = [] := by simp [run, hin, hrel]
          rw [hrun, List.flatMap_nil, List.filter_eq_nil_iff]
          intro b' hb'
          have hnone : b' j.table.id = none := by
            rw [runAll_frame hb', habsent j List.mem_cons_self]
            rw [List.forall_mem_map]
            exact fun k hk => (hne k hk).symm
          simp [hlost b' hnone]
    · have hrun : ∀ isInner, run db { j with isInner } b = j.related db b := by
        intro isInner
        have hsame : related db { j with isInner } b = j.related db b := rfl
        simp [run, hsame, hrel]
      rw [hrun, ← hrun j.isInner]
      exact List.flatMap_congr hrest

end Join

instance (c : Catalog) (t : TableId) : Decidable (c.IsMandatory t) :=
  inferInstanceAs (Decidable (∃ r ∈ c.relations, r.child = t ∧ r.mandatory = true))

def Query.withOuterJoins (c : Catalog) (q : Query) : Query :=
  { q with statement := { q.statement with
    joins := q.statement.joins.map fun j =>
      { j with isInner := decide (c.IsMandatory j.table.id) } } }

theorem Catalog.JoinOf.restricted {c : Catalog} (h : c.Sound) {usage : UsageMap} {r : RelationEntry}
    (hr : r ∈ c.relations) {j : Join} (hj : c.JoinOf usage r j) :
    decide (c.IsMandatory j.table.id) = j.isInner ∨
      ¬ c.IsMandatory j.table.id ∧ usage.Has j.table.id .filter := by
  by_cases hf : usage.Has j.table.id .filter
  · by_cases hm : c.IsMandatory j.table.id
    · refine .inl ?_
      obtain ⟨q, hq, he, hmq⟩ := hm
      rw [hj.id h] at he
      obtain rfl := h.relation_of_child hq hr he
      have hm : c.IsMandatory j.table.id := ⟨q, hq, (hj.id h).symm, hmq⟩
      simp [hm, hj.inner, hmq]
    · exact .inr ⟨hm, hf⟩
  · refine .inl ?_
    rw [Bool.eq_iff_iff, decide_eq_true_eq]
    exact (hj.isInner_iff h hr hf).symm

theorem Query.selectedRows_withOuterJoins {c : Catalog} (hc : c.WellFormed) {q : Query}
    {usage : UsageMap} {purposes : UsageSet} (hd : q.statement.Draws c usage purposes)
    (hrestricts : ∀ t, usage.Has t .filter → ∃ p ∈ q.statement.predicates, p.Restricts t)
    {Value : Type} (db : Server Value) :
    (q.withOuterJoins c).selectedRows db = q.selectedRows db := by
  obtain ⟨hroot, hdistinct⟩ := List.nodup_cons.mp (hd.nodup_ids hc)
  rw [List.map_map] at hdistinct
  rw [selectedRows, selectedRows, Statement.joinedRows, Statement.joinedRows, Statement.rowsAfter,
    Statement.rowsAfter, List.filter_flatMap, List.filter_flatMap]
  apply List.flatMap_congr
  intro row _
  apply Join.filter_runAll db.toDatabase _ _ hdistinct
  · intro j hj
    have hne : j.table.id ≠ q.statement.root.id := by
      intro he
      apply hroot
      rw [List.mem_map]
      exact ⟨j.table, List.mem_map_of_mem hj, he⟩
    exact JoinedRow.put_of_ne hne
  · intro j hj
    obtain ⟨r, hr, hof⟩ := hd.joinOf_mem hc hj
    refine (hof.restricted hc.toSound hr).imp_right ?_
    rintro ⟨hm, hf⟩
    refine ⟨decide_eq_false hm, fun b hb => ?_⟩
    obtain ⟨p, hp, hrestrict⟩ := hrestricts _ hf
    apply decide_eq_false
    intro htrue
    exact hrestrict.not_true db q.arguments hb (condition_eq_true.mp htrue p hp)

theorem Clause.mem_numbered {k : Clause} {ks : List Clause} (h : k ∈ ks) (n : Nat) :
    ∃ m, k.predicate m ∈ numbered n ks := by
  induction ks generalizing n with
  | nil => cases h
  | cons k' ks ih =>
    rcases List.mem_cons.mp h with rfl | h
    · exact ⟨n, List.mem_cons_self⟩
    · obtain ⟨m, hm⟩ := ih h (n + k'.arguments.length)
      exact ⟨m, List.mem_cons_of_mem _ hm⟩

theorem Filter.restricts (f : Filter) (n : Nat) :
    (f.predicate n).Restricts f.column.table := by
  rw [Filter.predicate]
  split
  · exact .compare rfl
  · exact .among rfl

theorem Catalog.compile_restricts {c : Catalog} {r : Request} {t : TableId}
    (h : (c.compile r).draft.usage.Has t .filter) :
    ∃ p ∈ (c.compile r).draft.predicates ++ c.softDeletes.map .isFalse, p.Restricts t := by
  have hfilter : ∀ f : Filter, f.column.table = t → f.clause ∈ c.clauses r →
      ∃ p ∈ (c.compile r).draft.predicates ++ c.softDeletes.map .isFalse, p.Restricts t := by
    intro f ht hf
    obtain ⟨m, hm⟩ := Clause.mem_numbered hf 1
    rw [← compile_predicates_eq] at hm
    exact ⟨_, List.mem_append_left _ hm, ht ▸ f.restricts m⟩
  rw [(c.compile_tags r).2, c.defaultUsage_tags.2] at h
  rcases h with ⟨he, -⟩ | ⟨-, f, hf, ht⟩ | ⟨-, f, hf, ht⟩ | ⟨he, -⟩ | ⟨-, f, hf, ht⟩ | ⟨he, -⟩ |
    ⟨he, -⟩
  · cases he
  · exact hfilter f ht (List.mem_append_right _ (List.mem_map_of_mem hf))
  · exact hfilter f ht (List.mem_append_left _ (List.mem_append_right _ (List.mem_map_of_mem hf)))
  · cases he
  · exact ⟨.isFalse f, List.mem_append_right _ (List.mem_map_of_mem hf), .isFalse ht⟩
  · cases he
  · cases he

theorem typedValue_ne_null {kind : FieldKind} {value : List Char} {v : Json}
    (h : typedValue kind value = some v) : v ≠ .null := by
  rintro rfl
  cases kind with
  | numeric =>
    simp only [typedValue] at h
    split at h
    · cases h
    · obtain ⟨_, _, h⟩ := Option.map_eq_some_iff.mp h
      cases h
  | boolean =>
    simp only [typedValue] at h
    split_ifs at h
    all_goals cases h
  | date =>
    simp only [typedValue] at h
    split_ifs at h
    cases h
  | string => cases h

theorem Search.pattern_ne_null (term : String) (f : Column) : pattern term f ≠ .null := by
  rw [pattern]
  split <;> nofun

theorem Filter.values_ne_null {c : Catalog} {scope : FilterScope} {raws : List String} {f : Filter}
    (h : f ∈ accepted c scope raws) : ∀ v ∈ f.clause.arguments, v ≠ .null := by
  obtain ⟨raw, _, ha⟩ := mem_accepted.mp h
  obtain ⟨_, _, _, values, _, _, _, hvalues⟩ := accept_values ha
  intro v hv
  obtain ⟨e, he, rfl⟩ := List.mem_map.mp hv
  have hmem := List.mem_map_of_mem (f := fun e : Column × Json => (e.1, some e.2)) he
  rw [← hvalues] at hmem
  obtain ⟨value, _, htyped⟩ := List.mem_map.mp hmem
  exact typedValue_ne_null (Prod.mk.inj htyped).2

theorem Catalog.compile_arguments_ne_null (c : Catalog) (r : Request) :
    ∀ v ∈ (c.compile r).draft.arguments, v ≠ .null := by
  rw [compile_arguments_eq, clauses]
  intro v hv
  obtain ⟨k, hk, hv⟩ := List.mem_flatMap.mp hv
  rcases List.mem_append.mp hk with hk | hk
  · rcases List.mem_append.mp hk with hk | hk
    · rw [Clause.arguments, Search.clauses_values hk, List.map_map] at hv
      obtain ⟨f, -, rfl⟩ := List.mem_map.mp hv
      exact Search.pattern_ne_null _ f
    · obtain ⟨f, hf, rfl⟩ := List.mem_map.mp hk
      exact Filter.values_ne_null hf v hv
  · obtain ⟨f, hf, rfl⟩ := List.mem_map.mp hk
    exact Filter.values_ne_null hf v hv

namespace Session

variable {Id Model : Type} {c : Catalog} {s : Session Id Model}

theorem Reachable.restricted (hc : c.Sound) (hs : s.Reachable c) (hp : s.isProcessed = true)
    {t : TableId} (h : s.draft.usage.Has t .filter) :
    ∃ p ∈ s.draft.predicates ++ c.softDeletes.map .isFalse, p.Restricts t := by
  rw [hs.usage_compiled hc hp (by decide)] at h
  rw [hs.compiled.predicates]
  exact Catalog.compile_restricts h

theorem idQuery_arguments {q : Query} (hq : s.idQuery = .ok q) :
    q.arguments = s.draft.arguments := by
  obtain ⟨_, _, hq⟩ := of_bind_ok hq
  cases hq
  rfl

theorem narrowed_joins_lossless {t : Table} (h : Catalog.build t = .ok c) (hs : s.Reachable c)
    (hp : s.isProcessed = true) {fields : List FieldId}
    (hf : ∃ i ∈ fields, (c.column? i).isSome) :
    ∃ q, (s.select fields).idQuery = .ok q ∧ (∀ v ∈ q.arguments, v ≠ .null) ∧
      (∀ j ∈ q.statement.joins, j.isInner = true → ¬ c.IsMandatory j.table.id →
        ∃ p ∈ q.statement.predicates, p.Restricts j.table.id ∧
          ∀ (Value : Type) (db : Server Value) (b : JoinedRow Value), b j.table.id = none →
            p.truth db q.arguments b ≠ some true) ∧
      ∀ (Value : Type) (db : Server Value),
        (q.withOuterJoins c).selectedRows db = q.selectedRows db := by
  have hc := Catalog.build_wellFormed h
  have hs' := hs.select fields
  have hm := hs'.marked hc.toSound
  have hcat := (hs.marked hc.toSound).catalog
  obtain ⟨q, hq, hd, -, -, hpred⟩ := idQuery_ok hc hm hp (select_selection_ne hcat hf)
  have hrestricts : ∀ t, (s.select fields).draft.usage.Has t .filter →
      ∃ p ∈ q.statement.predicates, p.Restricts t := by
    intro t ht
    rw [hpred]
    exact hs'.restricted hc.toSound hp ht
  refine ⟨q, hq, ?_, fun j hj hin hmandatory => ?_, fun Value db =>
    Query.selectedRows_withOuterJoins hc hd hrestricts db⟩
  · rw [idQuery_arguments hq, hs'.compiled.arguments]
    exact c.compile_arguments_ne_null _
  · obtain ⟨r, hr, hof⟩ := hd.joinOf_mem hc hj
    rcases hof.restricted hc.toSound hr with he | ⟨-, hfilter⟩
    · rw [hin, decide_eq_true_eq] at he
      exact absurd he hmandatory
    · obtain ⟨p, hpq, hrestrict⟩ := hrestricts _ hfilter
      exact ⟨p, hpq, hrestrict, fun Value db b hb => hrestrict.not_true db q.arguments hb⟩

theorem narrowed_joins_lossless_shop : (shopSession lampRequest).isProcessed = true ∧
    ∃ q, ((shopSession lampRequest).select [0]).idQuery = .ok q ∧
      { categoryJoin with isInner := true } ∈ q.statement.joins ∧
      categoryJoin ∈ (q.withOuterJoins Catalog.shopCatalog).statement.joins ∧
      (∃ p ∈ q.statement.predicates, p.Restricts categoryJoin.table.id) ∧
      ∀ (Value : Type) (db : Server Value),
        (q.withOuterJoins Catalog.shopCatalog).selectedRows db = q.selectedRows db := by
  have hp : (shopSession lampRequest).isProcessed = true := by decide
  have hjoins : ∃ q, ((shopSession lampRequest).select [0]).idQuery = .ok q ∧
      { categoryJoin with isInner := true } ∈ q.statement.joins ∧
      categoryJoin ∈ (q.withOuterJoins Catalog.shopCatalog).statement.joins :=
    ⟨_, rfl, by decide, by decide⟩
  obtain ⟨q, hq, hinner, houter⟩ := hjoins
  obtain ⟨q', hq', -, hnarrowed, hrows⟩ := narrowed_joins_lossless Catalog.build_shop
    (shopSession_reachable lampRequest) hp ⟨0, List.mem_singleton_self 0, by decide⟩
  obtain rfl : q' = q := by simpa [hq] using hq'.symm
  obtain ⟨p, hpq, hrestrict, -⟩ := hnarrowed _ hinner rfl (by decide)
  exact ⟨hp, q', hq, hinner, houter, ⟨p, hpq, hrestrict⟩, hrows⟩

end Session
end Listing
