import Listing.Proofs.Layout

namespace Listing.Catalog

/-- A walk from the root meets the one relation before the other: on the way to it, or at the
table where their ways part. -/
def Before (c : Catalog) (r s : RelationEntry) : Prop :=
  c.AtOrBelow r.child s.parent ∨ ∃ p ∈ c.relations, ∃ q ∈ c.relations,
    p.parent = q.parent ∧ p.id < q.id ∧ c.AtOrBelow p.child r.child ∧ c.AtOrBelow q.child s.child

variable {c : Catalog}

theorem Sound.relation_ext (h : c.Sound) {r s : RelationEntry} (hr : r ∈ c.relations)
    (hs : s ∈ c.relations) (he : r.id = s.id) : r = s := by
  obtain ⟨i, hi⟩ := List.mem_iff_getElem?.mp hr
  obtain ⟨j, hj⟩ := List.mem_iff_getElem?.mp hs
  rw [h.relation_id i r hi, h.relation_id j s hj] at he
  rw [he, hj] at hi
  exact (Option.some.inj hi).symm

theorem Sound.relation_of_child (h : c.Sound) {r s : RelationEntry} (hr : r ∈ c.relations)
    (hs : s ∈ c.relations) (he : r.child = s.child) : r = s :=
  List.inj_on_of_nodup_map h.children hr hs he

theorem Descends.le (h : c.Sound) {t u : TableId} {n : Nat} (hd : c.Descends t n u) :
    t + n ≤ u := by
  induction hd with
  | here => exact Nat.le_refl t
  | step _ hr ih =>
    have := h.ascends _ hr
    lia

theorem AtOrBelow.le (h : c.Sound) {t u : TableId} (hb : c.AtOrBelow t u) : t ≤ u := by
  obtain ⟨n, hn⟩ := hb
  have := hn.le h
  lia

theorem AtOrBelow.cases_child (h : c.Sound) {t : TableId} {r : RelationEntry}
    (hr : r ∈ c.relations) (hb : c.AtOrBelow t r.child) :
    t = r.child ∨ c.AtOrBelow t r.parent := by
  obtain ⟨n, hn⟩ := hb
  generalize hu : r.child = u at hn
  cases hn with
  | here => exact .inl rfl
  | @step n s hd hs =>
    obtain rfl := h.relation_of_child hr hs hu
    exact .inr ⟨n, hd⟩

theorem Descends.head {t u : TableId} {n : Nat} (hd : c.Descends t (n + 1) u) :
    ∃ r ∈ c.relations, r.parent = t ∧ c.Descends r.child n u := by
  induction n generalizing u with
  | zero =>
    cases hd with
    | @step _ r hd hr =>
      cases hd
      exact ⟨r, hr, rfl, .here⟩
  | succ n ih =>
    cases hd with
    | step hd hr =>
      obtain ⟨s, hs, hp, hd⟩ := ih hd
      exact ⟨s, hs, hp, .step hd hr⟩

theorem Descends.depth_unique (h : c.Sound) {t u : TableId} {n m : Nat} (hn : c.Descends t n u)
    (hm : c.Descends t m u) : n = m := by
  induction hn generalizing m with
  | here =>
    have := hm.le h
    lia
  | @step n r hd hr ih =>
    generalize hu : r.child = u at hm
    cases hm with
    | here =>
      have := hd.le h
      have := h.ascends r hr
      lia
    | @step m s hd' hs =>
      obtain rfl := h.relation_of_child hr hs hu
      rw [ih hd']

theorem AtOrBelow.lt_sibling (h : c.Sound) {p q : RelationEntry} (hp : p ∈ c.relations)
    (hq : q ∈ c.relations) (hpq : p.parent = q.parent) (hlt : p.child < q.child) {w : TableId}
    (hw : c.AtOrBelow p.child w) : w < q.child := by
  induction w using Nat.strongRecOn with
  | ind w ih =>
    obtain ⟨n, hn⟩ := hw
    cases hn with
    | here => exact hlt
    | @step n r hd hr =>
      have hrp := h.ascends r hr
      have hprev : c.AtOrBelow p.child (r.child - 1) := AtOrBelow.trans ⟨n, hd⟩ (h.depth_first r hr)
      have hle := ih (r.child - 1) (by lia) hprev
      -- the child itself cannot be the sibling, which hangs on the table above `p`
      have hne : r.child ≠ q.child := by
        intro he
        obtain rfl := h.relation_of_child hr hq he
        have := AtOrBelow.le h ⟨n, hd⟩
        have := h.ascends p hp
        lia
      lia

theorem Sound.sibling_lt (h : c.Sound) {p q : RelationEntry} (hp : p ∈ c.relations)
    (hq : q ∈ c.relations) (hpq : p.parent = q.parent) (hlt : p.id < q.id) : p.child < q.child := by
  obtain ⟨i, hi⟩ := List.mem_iff_getElem?.mp hp
  obtain ⟨j, hj⟩ := List.mem_iff_getElem?.mp hq
  obtain ⟨hil, rfl⟩ := List.getElem?_eq_some_iff.mp hi
  obtain ⟨hjl, rfl⟩ := List.getElem?_eq_some_iff.mp hj
  rw [h.relation_id i _ hi, h.relation_id j _ hj] at hlt
  exact List.pairwise_iff_getElem.mp h.siblings i j hil hjl hlt hpq

theorem Before.child_lt (h : c.Sound) {r s : RelationEntry} (hs : s ∈ c.relations)
    (hb : c.Before r s) : r.child < s.child := by
  rcases hb with hb | ⟨p, hp, q, hq, hpq, hlt, hpr, hqs⟩
  · exact Nat.lt_of_le_of_lt (hb.le h) (h.ascends s hs)
  · exact Nat.lt_of_lt_of_le (hpr.lt_sibling h hp hq hpq (h.sibling_lt hp hq hpq hlt)) (hqs.le h)

end Listing.Catalog
