import Listing.Proofs.NarrowedJoins

/-!
The query for the rows of a page joins less than the query for its ids, and other tables by outer
joins. It still drops none of the rows for which an id was found.
-/
namespace Listing

namespace Join

variable {Value : Type}

inductive Chained : List TableId → List Join → Prop
  | nil {done : List TableId} : Chained done []
  | cons {done : List TableId} {j : Join} {js : List Join} :
      j.foreignKey.table ∈ done → j.referenceKey.table = j.table.id → j.table.id ∉ done →
      Chained (done ++ [j.table.id]) js → Chained done (j :: js)

theorem Chained.not_mem {done : List TableId} {js : List Join} (h : Chained done js) {j : Join}
    (hj : j ∈ js) : j.table.id ∉ done := by
  induction h with
  | nil => cases hj
  | cons _ _ hnew _ ih =>
    rcases List.mem_cons.mp hj with rfl | hj
    · exact hnew
    · exact fun hm => ih hj (List.mem_append_left _ hm)

def Met (db : Database Value) (b : JoinedRow Value) (j : Join) : Prop :=
  (∃ r ∈ db.rows j.table.name, b j.table.id = some r) ∧ j.holds db b = true

theorem holds_congr (db : Database Value) {j : Join} {b b' : JoinedRow Value}
    (hforeign : b j.foreignKey.table = b' j.foreignKey.table)
    (hreference : b j.referenceKey.table = b' j.referenceKey.table) :
    j.holds db b = j.holds db b' := by
  simp only [holds, JoinedRow.value, hforeign, hreference]

theorem foreign_of_holds {db : Database Value} {j : Join} {b : JoinedRow Value}
    (h : j.holds db b = true) : ∃ r, b j.foreignKey.table = some r := by
  cases hb : b j.foreignKey.table with
  | none => simp [holds, JoinedRow.value, hb] at h
  | some r => exact ⟨r, rfl⟩

theorem run_met_or_absent {db : Database Value} {j : Join} {b b' : JoinedRow Value}
    (h : b' ∈ j.run db b) (habsent : b j.table.id = none) :
    j.Met db b' ∨ b' j.table.id = none ∧ j.isInner = false := by
  have hmet : b' ∈ j.related db b → j.Met db b' := by
    intro hb
    obtain ⟨hb, hholds⟩ := List.mem_filter.mp hb
    obtain ⟨r, hr, rfl⟩ := List.mem_map.mp hb
    exact ⟨⟨r, hr, if_pos rfl⟩, hholds⟩
  rw [run] at h
  split at h
  · rename_i hout
    rw [List.mem_singleton.mp h]
    exact .inr ⟨habsent, by simpa using (Bool.and_eq_true_iff.mp hout).2⟩
  · exact .inl (hmet h)

theorem Chained.met_or_absent {db : Database Value} {done : List TableId} {js : List Join}
    (h : Chained done js) {b b' : JoinedRow Value} (hb' : b' ∈ runAll db js b)
    (habsent : ∀ j ∈ js, b j.table.id = none) :
    ∀ j ∈ js, j.Met db b' ∨ b' j.table.id = none ∧ j.isInner = false := by
  induction h generalizing b with
  | nil => simp
  | @cons done j js hforeign hreference hnew hjs ih =>
    obtain ⟨b₁, hb₁, hb'⟩ := List.mem_flatMap.mp hb'
    have hframe : ∀ t ∈ done ++ [j.table.id], b' t = b₁ t := by
      intro t ht
      exact runAll_frame hb' fun k hk he => hjs.not_mem hk (he ▸ ht)
    intro k hk
    rcases List.mem_cons.mp hk with rfl | hk
    · have htable := hframe k.table.id (by simp)
      have hforeign := hframe k.foreignKey.table (List.mem_append_left _ hforeign)
      have hreference := hframe k.referenceKey.table (by simp [hreference])
      rw [Met, holds_congr db hforeign hreference, htable]
      exact run_met_or_absent hb₁ (habsent k List.mem_cons_self)
    · refine ih hb' (fun k hk => ?_) k hk
      have hne : k.table.id ≠ j.table.id := fun he => hjs.not_mem hk (by simp [he])
      rw [run_frame hb₁ hne, habsent k (List.mem_cons_of_mem _ hk)]

def Follows (w b : JoinedRow Value) (ts : List TableId) : Prop :=
  ∀ t ∈ ts, ∀ r, w t = some r → b t = some r

theorem exists_run {db : Database Value} {j : Join} (hne : j.foreignKey.table ≠ j.table.id)
    (hreference : j.referenceKey.table = j.table.id) {w b : JoinedRow Value}
    (hforeign : ∀ r, w j.foreignKey.table = some r → b j.foreignKey.table = some r)
    (hj : j.Met db w ∨ w j.table.id = none ∧ j.isInner = false) :
    ∃ b' ∈ j.run db b, ∀ r, w j.table.id = some r → b' j.table.id = some r := by
  rcases hj with ⟨⟨r, hr, hw⟩, hholds⟩ | ⟨hw, hout⟩
  · obtain ⟨r', hr'⟩ := foreign_of_holds hholds
    have hput : j.holds db (b.put j.table.id r) = true := by
      rw [← hholds]
      apply holds_congr
      · rw [JoinedRow.put_of_ne hne, hforeign r' hr', hr']
      · rw [hreference, hw]
        exact if_pos rfl
    have hrelated : b.put j.table.id r ∈ j.related db b :=
      List.mem_filter.mpr ⟨List.mem_map_of_mem hr, hput⟩
    have hrun : j.run db b = j.related db b := by simp [run, List.ne_nil_of_mem hrelated]
    refine ⟨_, hrun ▸ hrelated, fun q hq => ?_⟩
    rw [← hq, hw]
    exact if_pos rfl
  · have hsome : j.run db b ≠ [] := by
      rw [run, hout]
      split <;> simp_all
    obtain ⟨b', hb'⟩ := List.exists_mem_of_ne_nil _ hsome
    refine ⟨b', hb', fun r hr => ?_⟩
    rw [hw] at hr
    cases hr

theorem Chained.exists_follows {db : Database Value} {done : List TableId} {js : List Join}
    (h : Chained done js) {w b : JoinedRow Value} (hb : Follows w b done)
    (hjs : ∀ j ∈ js, j.Met db w ∨ w j.table.id = none ∧ j.isInner = false) :
    ∃ b' ∈ runAll db js b, Follows w b' (done ++ js.map (·.table.id)) := by
  induction h generalizing b with
  | nil => exact ⟨b, List.mem_singleton_self b, by simpa using hb⟩
  | @cons done j js hforeign hreference hnew _ ih =>
    have hne : j.foreignKey.table ≠ j.table.id := fun he => hnew (he ▸ hforeign)
    obtain ⟨b₁, hb₁, hrow⟩ := exists_run hne hreference (hb _ hforeign)
      (hjs j List.mem_cons_self)
    have hfollows : Follows w b₁ (done ++ [j.table.id]) := by
      intro t ht r hr
      by_cases he : t = j.table.id
      · subst he
        exact hrow r hr
      · rw [run_frame hb₁ he]
        exact hb t ((List.mem_append.mp ht).resolve_right (by simpa using he)) r hr
    obtain ⟨b', hb', hall⟩ := ih hfollows fun k hk => hjs k (List.mem_cons_of_mem _ hk)
    refine ⟨b', List.mem_flatMap.mpr ⟨b₁, hb₁, hb'⟩, ?_⟩
    simpa using hall

end Join

namespace Statement

variable {c : Catalog} {usage : UsageMap} {purposes : UsageSet} {s : Statement}

theorem Draws.chained (h : c.WellFormed) (hd : s.Draws c usage purposes) :
    Join.Chained [s.root.id] s.joins := by
  have hall : ∀ later earlier, s.joins = earlier ++ later →
      Join.Chained (s.root.id :: earlier.map (·.table.id)) later := by
    intro later
    induction later with
    | nil => exact fun _ _ => .nil
    | cons j later ih =>
      intro earlier hj
      obtain ⟨r, hr, hchild, hreference, t, ht, hparent, hforeign⟩ := hd.join_scope h hj
      refine .cons ?_ hreference.1 ?_ ?_
      · rw [hforeign.1]
        simpa using List.mem_map_of_mem (f := (·.id)) ht
      · have hn := hd.nodup_ids h
        rw [tables, hj, List.map_append, ← List.cons_append, List.map_append] at hn
        have hdisjoint := (List.nodup_append.mp hn).2.2
        intro hm
        refine hdisjoint _ ?_ _ (List.mem_map_of_mem List.mem_cons_self) rfl
        simpa [Function.comp_def] using hm
      · have hrest := ih (earlier ++ [j]) (by simpa using hj)
        simpa using hrest
  exact hall s.joins [] rfl

end Statement

namespace Catalog

variable {c : Catalog} {usage usage' : UsageMap}

theorem join?_rejoin {r : RelationEntry} {k : Join} (h : c.join? usage r = some k)
    (usage' : UsageMap) : c.join? usage' r =
      some { k with isInner := r.mandatory || (usage'.get r.child).isOnly .filter } := by
  obtain ⟨t, ht, h⟩ := Option.bind_eq_some_iff.mp h
  obtain ⟨f, hf, h⟩ := Option.bind_eq_some_iff.mp h
  obtain ⟨g, hg, h⟩ := Option.bind_eq_some_iff.mp h
  cases h
  simp [join?, ht, hf, hg]

theorem mem_joins {purposes : UsageSet} {j : Join} : j ∈ c.joins usage purposes ↔
    ∃ r ∈ c.requiredRelations (usage.tablesWithAny purposes), c.join? usage r = some j :=
  List.mem_filterMap

theorem joinOf_of_join? (h : c.Sound) {r : RelationEntry} (hr : r ∈ c.relations) {j : Join}
    (hj : c.join? usage r = some j) : c.JoinOf usage r j := by
  obtain ⟨k, hk, hof⟩ := join?_some h usage hr
  rw [hj, Option.some.injEq] at hk
  exact hk ▸ hof

end Catalog

/-- Each inner join of the second query is one of the first, and there it is an inner join too
unless the condition restricts its table. -/
def Query.Secures (first second : Query) : Prop :=
  ∀ k ∈ second.statement.joins, k.isInner = true → ∃ isInner,
    { k with isInner } ∈ first.statement.joins ∧
      (isInner = true ∨ ∃ p ∈ first.statement.predicates, p.Restricts k.table.id)

namespace Query

variable {c : Catalog} {usage usage' : UsageMap} {purposes purposes' : UsageSet}
  {first second : Query} {Value : Type} {db : Server Value} {b : JoinedRow Value}

theorem same_link (hc : c.WellFormed) (hd : first.statement.Draws c usage purposes)
    (hd' : second.statement.Draws c usage' purposes') {j k : Join} (hj : j ∈ first.statement.joins)
    (hk : k ∈ second.statement.joins) (he : j.table.id = k.table.id) :
    j = { k with isInner := j.isInner } := by
  rw [hd.joins] at hj
  rw [hd'.joins] at hk
  obtain ⟨r, hr, hj⟩ := Catalog.mem_joins.mp hj
  obtain ⟨q, hq, hk⟩ := Catalog.mem_joins.mp hk
  have hr := Catalog.requiredRelations_subset hc hr
  have hq := Catalog.requiredRelations_subset hc hq
  have hchild : r.child = q.child := by
    rw [← (Catalog.joinOf_of_join? hc.toSound hr hj).id hc.toSound, he,
      (Catalog.joinOf_of_join? hc.toSound hq hk).id hc.toSound]
  obtain rfl := hc.relation_of_child hr hq hchild
  rw [Catalog.join?_rejoin hk usage, Option.some.injEq] at hj
  rw [← hj]

theorem joined_from_root (hb : b ∈ first.selectedRows db) :
    ∃ row ∈ db.rows first.statement.root.name,
      b ∈ Join.runAll db.toDatabase first.statement.joins
        (JoinedRow.empty.put first.statement.root.id row) :=
  List.mem_flatMap.mp (mem_selectedRows.mp hb).1

theorem Secures.met_or_absent (hc : c.WellFormed) (h : first.Secures second)
    (hd : first.statement.Draws c usage purposes) (hd' : second.statement.Draws c usage' purposes')
    (hb : b ∈ first.selectedRows db) : ∀ k ∈ second.statement.joins,
      k.Met db.toDatabase b ∨ b k.table.id = none ∧ k.isInner = false := by
  obtain ⟨row, -, hrun⟩ := joined_from_root hb
  have hroot : second.statement.root = first.statement.root :=
    Option.some.inj (hd'.root.symm.trans hd.root)
  have habsent : ∀ t, t ≠ first.statement.root.id →
      JoinedRow.empty.put first.statement.root.id row t = none := fun t ht =>
    JoinedRow.put_of_ne ht
  have hmet := (hd.chained hc).met_or_absent hrun fun j hj =>
    habsent _ fun he => (hd.chained hc).not_mem hj (by simp [he])
  intro k hk
  cases hin : k.isInner with
  | true =>
    obtain ⟨isInner, hj, hwhy⟩ := h k hk hin
    rcases hmet _ hj with hm | ⟨hnone, hout⟩
    · exact .inl hm
    · -- an outer join of the first query is secured by the condition
      exfalso
      obtain ⟨p, hp, hrestricts⟩ := hwhy.resolve_left (by simpa using hout)
      exact hrestricts.not_true db first.arguments hnone ((mem_selectedRows.mp hb).2 p hp)
  | false =>
    by_cases hj : ∃ j ∈ first.statement.joins, j.table.id = k.table.id
    · obtain ⟨j, hj, he⟩ := hj
      have hlink := same_link hc hd hd' hj hk he
      rcases hmet j hj with hm | ⟨hnone, -⟩
      · rw [hlink] at hm
        exact .inl hm
      · exact .inr ⟨he ▸ hnone, rfl⟩
    · refine .inr ⟨?_, rfl⟩
      rw [Join.runAll_frame hrun fun j hj' he => hj ⟨j, hj', he.symm⟩]
      apply habsent
      intro he
      exact (hd'.chained hc).not_mem hk (by simp [hroot, he])

theorem Secures.follows (hc : c.WellFormed) (h : first.Secures second)
    (hd : first.statement.Draws c usage purposes) (hd' : second.statement.Draws c usage' purposes')
    (hb : b ∈ first.selectedRows db) :
    (∀ k ∈ second.statement.joins, k.isInner = true → k.Met db.toDatabase b) ∧
      ∃ b' ∈ second.statement.joinedRows db.toDatabase,
        Join.Follows b b' (second.statement.tables.map (·.id)) := by
  have hmet := h.met_or_absent hc hd hd' hb
  refine ⟨fun k hk hin => (hmet k hk).resolve_right (by simp [hin]), ?_⟩
  obtain ⟨row, hrow, hrun⟩ := joined_from_root hb
  have hroot : second.statement.root = first.statement.root :=
    Option.some.inj (hd'.root.symm.trans hd.root)
  have hstart : Join.Follows b (JoinedRow.empty.put second.statement.root.id row)
      [second.statement.root.id] := by
    intro t ht r hr
    rw [List.mem_singleton.mp ht, hroot] at hr ⊢
    rwa [Join.runAll_frame hrun fun j hj he => (hd.chained hc).not_mem hj (by simp [← he])] at hr
  obtain ⟨b', hb', hfollows⟩ := (hd'.chained hc).exists_follows hstart hmet
  refine ⟨b', List.mem_flatMap.mpr ⟨row, hroot ▸ hrow, hb'⟩, ?_⟩
  simpa [Statement.tables, Function.comp_def] using hfollows

end Query

namespace Session

variable {Id Model : Type} {c : Catalog} {s : Session Id Model}

theorem Reachable.secures (hc : c.WellFormed) (hs : s.Reachable c) (hp : s.isProcessed = true)
    (fields : List FieldId) {first second : Query}
    (hd : first.statement.Draws c s.draft.usage (.ofList idPurposes))
    (hpred : first.statement.predicates = s.draft.predicates ++ c.softDeletes.map .isFalse)
    (hd' : second.statement.Draws c (s.select fields).draft.usage (.ofList rowPurposes)) :
    first.Secures second := by
  have hm := hs.marked hc.toSound
  intro k hk hin
  rw [hd'.joins] at hk
  obtain ⟨r, hr, hk⟩ := Catalog.mem_joins.mp hk
  have hr := Catalog.requiredRelations_subset hc hr
  have hof := Catalog.joinOf_of_join? hc.toSound hr hk
  -- the tag of its table that makes the join an inner one has it joined for the ids, too
  have hjoined : ∀ u ∈ idPurposes, s.draft.usage.Has r.child u →
      { k with isInner := r.mandatory || (s.draft.usage.get r.child).isOnly .filter } ∈
        first.statement.joins := by
    intro u hu htag
    rw [hd.joins, Catalog.mem_joins]
    exact ⟨r, (Catalog.mem_requiredRelations hc).mpr ⟨hr, _, hm.used hu htag, .refl c _⟩,
      Catalog.join?_rejoin hk _⟩
  rw [hof.inner, Bool.or_eq_true] at hin
  rcases hin with hmandatory | honly
  · have htag : s.draft.usage.Has r.child .mandatory := by
      rw [hs.usage_compiled hc.toSound hp (by decide)]
      exact (c.compile_mandatory _ _).mpr ⟨r, hr, hmandatory, rfl⟩
    exact ⟨_, hjoined .mandatory (by decide) htag, .inl (by simp [hmandatory])⟩
  · have htag : s.draft.usage.Has r.child .filter := by
      have hselected : (s.select fields).draft.usage.Has r.child .filter :=
        ((UsageSet.isOnly_iff _ .filter).mp honly .filter).mpr rfl
      rw [hs.usage_compiled hc.toSound hp (by decide)]
      rwa [(hs.select fields).usage_compiled hc.toSound hp (by decide)] at hselected
    refine ⟨_, hjoined .filter (by decide) htag, .inr ?_⟩
    rw [hpred, hof.id hc.toSound]
    exact hs.restricted hc.toSound hp htag

/-- No row for which an id was found is lost by the joins of the query for rows: each inner join of
it is one of the query for ids, by an inner join there or with a filter or a soft delete on its
table, so that the row has its match. -/
theorem page_rows_kept {t : Table} (h : Catalog.build t = .ok c) (hs : s.Reachable c)
    (hp : s.isProcessed = true) {idField : FieldId} (hid : (c.column? idField).isSome)
    {fields : List FieldId} (hf : ∃ i ∈ fields, (c.column? i).isSome)
    {encode : Id → Except String Json} {ids : List Id} {values : List Json}
    (hids : ids.mapM encode = .ok values) :
    ∃ first second, (s.select [idField]).idQuery = .ok first ∧
      ((s.select [idField]).select fields).rowQuery encode idField ids = .ok second ∧
      first.Secures second ∧
      ∀ (Value : Type) (db : Server Value), ∀ b ∈ first.selectedRows db,
        (∀ k ∈ second.statement.joins, k.isInner = true → k.Met db.toDatabase b) ∧
          ∃ b' ∈ second.statement.joinedRows db.toDatabase,
            Join.Follows b b' (second.statement.tables.map (·.id)) := by
  have hc := Catalog.build_wellFormed h
  have hs₁ := hs.select [idField]
  have hs₂ := hs₁.select fields
  have hcat := (hs.marked hc.toSound).catalog
  have hcat₁ := (hs₁.marked hc.toSound).catalog
  obtain ⟨f, hidf⟩ := Option.isSome_iff_exists.mp hid
  obtain ⟨first, hfirst, hd, -, -, hpred⟩ := idQuery_ok hc (hs₁.marked hc.toSound) hp
    (select_selection_ne hcat ⟨idField, List.mem_singleton_self _, hid⟩)
  obtain ⟨second, hsecond, hd', -⟩ := rowQuery_ok hc (hs₂.marked hc.toSound) hp
    (select_selection_ne hcat₁ hf) hidf hids
  have hsecures := hs₁.secures hc hp fields hd hpred hd'
  exact ⟨first, second, hfirst, hsecond, hsecures, fun Value db b hb =>
    hsecures.follows hc hd hd' hb⟩

theorem page_rows_kept_shop : (shopSession lampRequest).isProcessed = true ∧
    ∃ first second, ((shopSession lampRequest).select [5]).idQuery = .ok first ∧
      (((shopSession lampRequest).select [5]).select [8]).rowQuery .ok 5 [.nat 7] = .ok second ∧
      categoryJoin ∈ first.statement.joins ∧
      { categoryJoin with isInner := true } ∈ second.statement.joins ∧ first.Secures second ∧
      ∀ (Value : Type) (db : Server Value), ∀ b ∈ first.selectedRows db,
        Join.Met db.toDatabase b { categoryJoin with isInner := true } := by
  have hp : (shopSession lampRequest).isProcessed = true := by decide
  have hjoins : (∃ q, ((shopSession lampRequest).select [5]).idQuery = .ok q ∧
      categoryJoin ∈ q.statement.joins) ∧
      ∃ q, (((shopSession lampRequest).select [5]).select [8]).rowQuery .ok 5 [.nat 7] = .ok q ∧
        { categoryJoin with isInner := true } ∈ q.statement.joins :=
    ⟨⟨_, rfl, by decide⟩, ⟨_, rfl, by decide⟩⟩
  obtain ⟨⟨q₁, hq₁, houter⟩, q₂, hq₂, hinner⟩ := hjoins
  have hid : (Catalog.shopCatalog.column? 5).isSome := by decide
  have hids : [Json.nat 7].mapM Except.ok = .ok (α := List Json) (ε := String) [.nat 7] := rfl
  obtain ⟨first, second, hfirst, hsecond, hsecures, hrows⟩ := page_rows_kept Catalog.build_shop
    (shopSession_reachable lampRequest) hp hid
    ⟨8, List.mem_singleton_self 8, by decide⟩ hids
  obtain rfl : q₁ = first := by simpa [hq₁] using hfirst
  obtain rfl : q₂ = second := by simpa [hq₂] using hsecond
  exact ⟨hp, q₁, q₂, hfirst, hsecond, houter, hinner, hsecures, fun Value db b hb =>
    (hrows Value db b hb).1 _ hinner rfl⟩

end Session
end Listing
