import Listing.Proofs.JoinedRows
import Listing.Proofs.QueryScope

namespace Listing

def Catalog.IsMandatory (c : Catalog) (t : TableId) : Prop :=
  ∃ r ∈ c.relations, r.child = t ∧ r.mandatory = true

theorem Catalog.JoinOf.isInner_iff {c : Catalog} (h : c.Sound) {usage : UsageMap}
    {r : RelationEntry} (hr : r ∈ c.relations) {j : Join} (hj : c.JoinOf usage r j)
    (hf : ¬ usage.Has j.table.id .filter) : j.isInner = true ↔ c.IsMandatory j.table.id := by
  rw [hj.id h] at hf ⊢
  have ho : (usage.get r.child).isOnly .filter = false := by
    rw [Bool.eq_false_iff]
    intro ho
    exact hf (((usage.get r.child).isOnly_iff .filter).mp ho .filter |>.mpr rfl)
  rw [hj.inner, ho, Bool.or_false]
  constructor
  · intro hm
    exact ⟨r, hr, rfl, hm⟩
  · rintro ⟨q, hq, he, hm⟩
    rwa [h.relation_of_child hr hq he.symm]

namespace Statement

variable {c : Catalog} {usage : UsageMap} {purposes : UsageSet} {s : Statement}
  {earlier later : List Join} {j k : Join}

theorem Draws.joinOf_mem (h : c.WellFormed) (hd : s.Draws c usage purposes) (hj : j ∈ s.joins) :
    ∃ r ∈ c.relations, c.JoinOf usage r j := by
  obtain ⟨r, hr, hof⟩ := forall₂_mem_right (hd.joinOf h) hj
  exact ⟨r, Catalog.requiredRelations_subset h hr, hof⟩

theorem Draws.not_below_earlier (h : c.WellFormed) (hd : s.Draws c usage purposes)
    (hj : s.joins = earlier ++ j :: later) (hk : k ∈ earlier) :
    ¬ c.AtOrBelow j.table.id k.table.id := by
  have hall := hd.joinOf h
  rw [hj] at hall
  obtain ⟨rs, r, _, hrs, hbefore, hof, _⟩ := forall₂_split hall
  obtain ⟨p, hp, hpk⟩ := forall₂_mem_right hbefore hk
  have hmem : ∀ q ∈ rs ++ r :: _, q ∈ c.relations := fun q hq =>
    Catalog.requiredRelations_subset h (hrs ▸ hq)
  have hpr := hmem p (List.mem_append_left _ hp)
  have hrr := hmem r (List.mem_append_right _ List.mem_cons_self)
  have hord := Catalog.pairwise_requiredRelations h (usage.tablesWithAny purposes)
  rw [hrs, List.pairwise_append] at hord
  rw [hof.id h.toSound, hpk.id h.toSound]
  exact (hord.2.2 p hp r List.mem_cons_self).not_below h.toSound hpr hrr

theorem Draws.foreign_below (h : c.WellFormed) (hd : s.Draws c usage purposes)
    (hj : s.joins = earlier ++ j :: later) (hk : k ∈ later)
    (hb : c.AtOrBelow j.table.id k.table.id) :
    c.AtOrBelow j.table.id k.foreignKey.table ∧ k.foreignKey.table ≠ k.table.id := by
  have hks : k ∈ s.joins := hj ▸ List.mem_append_right _ (List.mem_cons_of_mem _ hk)
  obtain ⟨r, hr, hof⟩ := hd.joinOf_mem h hks
  have hne : j.table.id ≠ k.table.id := by
    have hn := (List.nodup_cons.mp (hd.nodup_ids h)).2
    simp only [hj, List.map_append, List.map_cons, List.map_map] at hn
    have hn := (List.nodup_cons.mp (List.nodup_append.mp hn).2.1).1
    exact fun he => hn (he ▸ List.mem_map_of_mem (f := fun j : Join => j.table.id) hk)
  have hid := hof.id h.toSound
  rw [hid] at hb hne ⊢
  rw [hof.foreign]
  exact ⟨(hb.cases_child h.toSound hr).resolve_left hne, Nat.ne_of_lt (h.ascends r hr)⟩

theorem Draws.absent (h : c.WellFormed) (hd : s.Draws c usage purposes)
    (hj : s.joins = earlier ++ j :: later) {Value : Type} {db : Database Value}
    {b : JoinedRow Value} (hb : b ∈ s.rowsAfter db earlier) {t : TableId}
    (ht : c.AtOrBelow j.table.id t) : b t = none := by
  obtain ⟨row, _, hb⟩ := List.mem_flatMap.mp hb
  have hroot : t ≠ s.root.id := by
    obtain ⟨r, hr, hof⟩ := hd.joinOf_mem h (hj ▸ List.mem_append_right _ List.mem_cons_self)
    have hlt := h.ascends r hr
    rw [← hof.id h.toSound] at hlt
    rw [h.table_id _ _ hd.root]
    have hle := ht.le h.toSound
    simp only [Catalog.root]
    lia
  rw [Join.runAll_frame hb fun k hk he => hd.not_below_earlier h hj hk (he ▸ ht),
    JoinedRow.put_of_ne hroot]
  rfl

open Classical in
theorem Draws.runAll_outer (h : c.WellFormed) (hd : s.Draws c usage purposes)
    (hj : s.joins = earlier ++ j :: later) (hout : j.isInner = false)
    (hbelow : ∀ k ∈ later, c.AtOrBelow j.table.id k.table.id → k.isInner = false) {Value : Type}
    {db : Database Value} {b : JoinedRow Value} (hb : b ∈ s.rowsAfter db earlier)
    (hnone : j.related db b = []) : Join.runAll db (j :: later) b =
      Join.runAll db (later.filter fun k => ¬ c.AtOrBelow j.table.id k.table.id) b := by
  rw [Join.runAll, Join.run_outer hout hnone, List.flatMap_singleton]
  apply Join.runAll_absent db (c.AtOrBelow j.table.id)
  · intro t ht
    exact hd.absent h hj hb ht
  · intro k hk hkb
    obtain ⟨hf, hne⟩ := hd.foreign_below h hj hk hkb
    exact ⟨hf, hne, hbelow k hk hkb⟩

end Statement

namespace Session

variable {Id Model : Type} {c : Catalog} {s : Session Id Model} {q : Query}

inductive Issues (s : Session Id Model) (q : Query) : Prop
  | ids : s.idQuery = .ok q → Issues s q
  | rows (encode : Id → Except String Json) (idField : FieldId) (ids : List Id) :
      s.rowQuery encode idField ids = .ok q → Issues s q

theorem catalog_of_ready {x : Catalog × TableEntry} (h : s.ready = .ok x) :
    s.catalog = some x.1 ∧ x.1.table? Catalog.root = some x.2 := by
  rw [ready] at h
  split at h
  · cases h
  · rename_i c root hroot
    split_ifs at h
    cases h
    obtain ⟨c, hcatalog, hroot⟩ := Option.bind_eq_some_iff.mp hroot
    obtain ⟨root, hroot, he⟩ := Option.map_eq_some_iff.mp hroot
    cases he
    exact ⟨hcatalog, hroot⟩

theorem Marked.ready_inv (h : s.Marked c) {x : Catalog × TableEntry} (hr : s.ready = .ok x) :
    x.1 = c ∧ c.table? Catalog.root = some x.2 := by
  obtain ⟨hcatalog, hroot⟩ := catalog_of_ready hr
  obtain rfl : c = x.1 := Option.some.inj (h.catalog.symm.trans hcatalog)
  exact ⟨rfl, hroot⟩

theorem Issues.inv (hq : s.Issues q) : ∃ x us, s.ready = .ok x ∧
    q.statement.columns = s.selection ∧ q.statement.root = x.2 ∧
    q.statement.joins = x.1.joins s.draft.usage (.ofList us) := by
  cases hq with
  | ids hq =>
    obtain ⟨x, hr, hq⟩ := of_bind_ok hq
    cases hq
    exact ⟨x, idPurposes, hr, rfl, rfl, rfl⟩
  | rows encode idField ids hq =>
    obtain ⟨c, root, f, values, hr, -, -, rfl⟩ := rowQuery_ok_iff.mp hq
    exact ⟨(c, root), rowPurposes, hr, rfl, rfl, rfl⟩

theorem Issues.draws (h : s.Marked c) (hq : s.Issues q) :
    ∃ us, q.statement.Draws c s.draft.usage (.ofList us) := by
  obtain ⟨x, us, hr, -, hroot, hjoins⟩ := hq.inv
  obtain ⟨hx, ht⟩ := h.ready_inv hr
  exact ⟨us, by rw [ht, hroot], by rw [hjoins, hx]⟩

open Classical in
/-- Below an outer join whose tables take no part in filters, exactly the mandatory relations are
inner joins. If there are none, a row that has no related row over the outer join goes through all
that is joined below as it is. -/
theorem outer_join_kept {t : Table} (h : Catalog.build t = .ok c) (hs : s.Reachable c)
    (hq : s.Issues q) {earlier later : List Join} {j : Join}
    (hj : q.statement.joins = earlier ++ j :: later) (hout : j.isInner = false)
    (hfilter : ∀ u, c.AtOrBelow j.table.id u → ¬ s.draft.usage.Has u .filter) :
    (∀ k ∈ q.statement.joins, c.AtOrBelow j.table.id k.table.id →
      (k.isInner = true ↔ c.IsMandatory k.table.id)) ∧
    ((∀ k ∈ later, c.AtOrBelow j.table.id k.table.id → ¬ c.IsMandatory k.table.id) →
      ∀ (Value : Type) (db : Database Value), ∀ b ∈ q.statement.rowsAfter db earlier,
        j.related db b = [] → Join.runAll db (j :: later) b =
          Join.runAll db (later.filter fun k => ¬ c.AtOrBelow j.table.id k.table.id) b) := by
  have hc := Catalog.build_wellFormed h
  obtain ⟨us, hd⟩ := hq.draws (hs.marked hc.toSound)
  have hkind : ∀ k ∈ q.statement.joins, c.AtOrBelow j.table.id k.table.id →
      (k.isInner = true ↔ c.IsMandatory k.table.id) := by
    intro k hk hb
    obtain ⟨r, hr, hof⟩ := hd.joinOf_mem hc hk
    exact hof.isInner_iff hc.toSound hr (hfilter _ hb)
  refine ⟨hkind, fun hnone Value db b hb hrel => ?_⟩
  apply hd.runAll_outer hc hj hout _ hb hrel
  intro k hk hkb
  have hks : k ∈ q.statement.joins := hj ▸ List.mem_append_right _ (List.mem_cons_of_mem _ hk)
  rw [Bool.eq_false_iff]
  intro hi
  exact hnone k hk hkb ((hkind k hks hkb).mp hi)

def categoryJoin : Join where
  isInner := false
  table := ⟨1, "category", some "c"⟩
  foreignKey := ⟨2, 0, "product", { name := "category_id" }⟩
  referenceKey := categoryId

def brandJoin : Join where
  isInner := false
  table := ⟨3, "brand", none⟩
  foreignKey := ⟨3, 0, "product", { name := "brand_id" }⟩
  referenceKey := ⟨9, 3, "brand", { name := "id" }⟩

def sectionJoin : Join where
  isInner := true
  table := ⟨2, "section", none⟩
  foreignKey := ⟨7, 1, "c", { name := "section_id" }⟩
  referenceKey := ⟨8, 2, "section", { name := "id" }⟩

theorem filters_root {t : Table} (h : Catalog.build t = .ok c) (hm : s.Marked c)
    (hs : s.draft.usage.tablesWithAny (.ofList [.filter]) ⊆ [Catalog.root]) {t u : TableId}
    (ht : 0 < t) (hb : c.AtOrBelow t u) : ¬ s.draft.usage.Has u .filter := by
  intro hu
  have hroot := List.mem_singleton.mp (hs (hm.used (List.mem_singleton_self Usage.filter) hu))
  have hle := hb.le (Catalog.build_wellFormed h).toSound
  rw [hroot] at hle
  exact Nat.not_le_of_lt ht hle

def looseShop : Table := { Catalog.shop with
  relations := [
    ({ foreignKey := "category_id", referenceKey := "id" },
      { name := "category"
        label := some "c"
        fields := [{ name := "id" }, { name := "name" }, { name := "section_id" }]
        relations := [
          ({ foreignKey := "section_id", referenceKey := "id" },
            { name := "section", fields := [{ name := "id" }] })] }),
    ({ foreignKey := "brand_id", referenceKey := "id" },
      { name := "brand", fields := [{ name := "id" }] })] }

def looseCatalog : Catalog := (Catalog.build looseShop).toOption.getD {}

theorem build_looseShop : Catalog.build looseShop = .ok looseCatalog := by rfl

def looseSession : Session Json Json := ((ofCatalog looseCatalog).setRequest {}).1

theorem outer_join_kept_shop : ∃ q, (looseSession.select [8, 9]).Issues q ∧
    q.statement.joins = [categoryJoin, brandJoin, { sectionJoin with isInner := false }] ∧
    ∀ (Value : Type) (db : Database Value), ∀ b ∈ q.statement.rowsAfter db [],
      categoryJoin.related db b = [] →
        Join.runAll db [categoryJoin, brandJoin, { sectionJoin with isInner := false }] b =
          Join.runAll db [brandJoin] b := by
  have hc := (Catalog.build_wellFormed build_looseShop).toSound
  have hs : (looseSession.select [8, 9]).Reachable looseCatalog :=
    (Reachable.request {} .start).select [8, 9]
  have hrow : ∃ q, (looseSession.select [8, 9]).rowQuery .ok 0 [.nat 7] = .ok q ∧
      q.statement.joins =
        [] ++ categoryJoin :: [brandJoin, { sectionJoin with isInner := false }] :=
    ⟨_, rfl, by decide⟩
  obtain ⟨q, hq, hj⟩ := hrow
  have hsection : looseCatalog.AtOrBelow 1 2 := by
    have hr : (⟨0, 1, 2, 7, 8, false⟩ : RelationEntry) ∈ looseCatalog.relations := by decide
    exact .child hr
  have hbrand : ¬ looseCatalog.AtOrBelow 1 3 := by
    intro hb
    have hr : (⟨2, 0, 3, 3, 9, false⟩ : RelationEntry) ∈ looseCatalog.relations := by decide
    rcases hb.cases_child hc hr with he | hb
    · exact absurd he (by decide)
    · exact absurd (hb.le hc) (by decide)
  obtain ⟨-, hkept⟩ := outer_join_kept build_looseShop hs (.rows .ok 0 [.nat 7] hq) hj rfl
    fun u hb => filters_root build_looseShop (hs.marked hc) (by decide) (by decide) hb
  refine ⟨q, .rows .ok 0 [.nat 7] hq, hj, fun Value db b hb hnone => ?_⟩
  have hoptional : ∀ t, ¬ looseCatalog.IsMandatory t := by
    rintro t ⟨r, hr, -, hmandatory⟩
    have hall : looseCatalog.relations.all (fun r => !r.mandatory) = true := by decide
    simpa [hmandatory] using List.all_eq_true.mp hall r hr
  rw [hkept (fun k _ _ => hoptional k.table.id) Value db b hb hnone]
  simp [brandJoin, sectionJoin, categoryJoin, hbrand, hsection]

def looseProduct : Database Nat where
  rows t := if t = "product" then [fun f => if f = "id" then some 1 else none] else []
  equal v w := v == w

/-- The section that every category has is joined by an inner join under the outer one, which loses
the products without a category. -/
theorem outer_join_undone_shop : ∃ q, ((shopSession {}).select [0]).idQuery = .ok q ∧
    q.statement.joins = [categoryJoin, brandJoin, sectionJoin] ∧
    categoryJoin.isInner = false ∧
    (∀ u, Catalog.shopCatalog.AtOrBelow 1 u →
      ¬ ((shopSession {}).select [0]).draft.usage.Has u .filter) ∧
    Catalog.shopCatalog.AtOrBelow 1 sectionJoin.table.id ∧ sectionJoin.isInner = true ∧
    (q.statement.rowsAfter looseProduct [categoryJoin, brandJoin]).length = 1 ∧
    q.statement.joinedRows looseProduct = [] := by
  have hm := ((shopSession_reachable {}).select [0]).marked
    (Catalog.build_wellFormed Catalog.build_shop).toSound
  have hr : (⟨0, 1, 2, 7, 8, true⟩ : RelationEntry) ∈ Catalog.shopCatalog.relations := by decide
  refine ⟨_, rfl, by decide, rfl, fun u hb => ?_, .child hr, rfl, by decide, ?_⟩
  · exact filters_root Catalog.build_shop hm (by decide) (by decide) hb
  · exact List.length_eq_zero_iff.mp (by decide)

end Session
end Listing
