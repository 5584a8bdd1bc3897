import Listing.Catalog.Usage
import Mathlib.Data.List.Basic

namespace Listing

namespace UsageSet

@[simp] theorem contains_empty (u : Usage) : empty.contains u = false := by cases u <;> rfl

@[simp] theorem contains_insert (s : UsageSet) (u v : Usage) :
    (s.insert u).contains v = true ↔ v = u ∨ s.contains v = true := by
  cases u <;> cases v <;> simp [insert, put, contains]

@[simp] theorem contains_erase (s : UsageSet) (u v : Usage) :
    (s.erase u).contains v = true ↔ v ≠ u ∧ s.contains v = true := by
  cases u <;> cases v <;> simp [erase, put, contains]

theorem ext_contains {s t : UsageSet} (h : ∀ u, s.contains u = true ↔ t.contains u = true) :
    s = t := by
  have hb : ∀ u, s.contains u = t.contains u := fun u => Bool.eq_iff_iff.mpr (h u)
  ext1
  · exact hb .select
  · exact hb .search
  · exact hb .filter
  · exact hb .sort
  · exact hb .mandatory

theorem contains_ofList (us : List Usage) (u : Usage) :
    (ofList us).contains u = true ↔ u ∈ us := by
  have h : ∀ s : UsageSet,
      (us.foldl insert s).contains u = true ↔ u ∈ us ∨ s.contains u = true := by
    induction us with
    | nil => simp
    | cons v us ih =>
      intro s
      rw [List.foldl_cons, ih, contains_insert, List.mem_cons]
      constructor
      · rintro (h | h | h)
        · exact .inl (.inr h)
        · exact .inl (.inl h)
        · exact .inr h
      · rintro ((h | h) | h)
        · exact .inr (.inl h)
        · exact .inl h
        · exact .inr (.inr h)
  simpa [ofList] using h empty

theorem isEmpty_iff (s : UsageSet) : s.isEmpty = true ↔ ∀ u, s.contains u = false := by
  simp only [isEmpty, decide_eq_true_eq]
  constructor
  · rintro rfl u
    exact contains_empty u
  · intro h
    exact ext_contains fun u => by simp [h u]

theorem isOnly_iff (s : UsageSet) (u : Usage) :
    s.isOnly u = true ↔ ∀ v, s.contains v = true ↔ v = u := by
  simp only [isOnly, decide_eq_true_eq]
  constructor
  · rintro rfl v
    simp
  · intro h
    exact ext_contains fun v => by simp [h v]

theorem intersects_iff (s t : UsageSet) :
    s.intersects t = true ↔ ∃ u, s.contains u = true ∧ t.contains u = true := by
  simp only [intersects, List.any_eq_true, Bool.and_eq_true]
  constructor
  · rintro ⟨u, _, h⟩
    exact ⟨u, h⟩
  · rintro ⟨u, h⟩
    exact ⟨u, by cases u <;> simp [Usage.all], h⟩

end UsageSet

namespace UsageMap

def Has (m : UsageMap) (t : TableId) (u : Usage) : Prop := (m.get t).contains u = true

structure Ordered (m : UsageMap) : Prop where
  ascending : m.entries.Pairwise fun e f => e.1 < f.1
  used : ∀ e ∈ m.entries, e.2.isEmpty = false

theorem lookup_cons_ite (k t : TableId) (s : UsageSet) (es : List (TableId × UsageSet)) :
    ((k, s) :: es).lookup t = if t = k then some s else es.lookup t := by
  by_cases h : t = k
  · simp [h]
  · have hb : (t == k) = false := beq_eq_false_iff_ne.mpr h
    simp [List.lookup_cons, hb, h]

theorem lookup_of_forall_lt {es : List (TableId × UsageSet)} {t : TableId} (h : ∀ e ∈ es, t < e.1) :
    es.lookup t = none := by
  rw [List.lookup_eq_none_iff]
  intro e he
  exact bne_iff_ne.mpr (Nat.ne_of_lt (h e he))

theorem lookup_eq_some_iff {es : List (TableId × UsageSet)} {t : TableId} {s : UsageSet}
    (h : es.Pairwise fun e f => e.1 < f.1) : es.lookup t = some s ↔ (t, s) ∈ es := by
  induction es with
  | nil => simp
  | cons e es ih =>
    obtain ⟨k, s'⟩ := e
    rw [List.pairwise_cons] at h
    rw [lookup_cons_ite, List.mem_cons, Prod.mk.injEq]
    by_cases hk : t = k
    · have hn : (t, s) ∉ es := fun hm => Nat.lt_irrefl k (hk ▸ h.1 _ hm)
      simp only [hk, if_true, Option.some.injEq, true_and, hk ▸ hn, or_false]
      exact eq_comm
    · simp [hk, ih h.2]

theorem lookup_markEntries {es : List (TableId × UsageSet)} (h : es.Pairwise fun e f => e.1 < f.1)
    (t : TableId) (u : Usage) (t' : TableId) :
    (markEntries t u es).lookup t' =
      if t' = t then some (((es.lookup t).getD .empty).insert u) else es.lookup t' := by
  induction es with
  | nil => simp [markEntries, lookup_cons_ite]
  | cons e es ih =>
    obtain ⟨k, s⟩ := e
    rw [List.pairwise_cons] at h
    rw [markEntries]
    by_cases hlt : t < k
    · have hn : ((k, s) :: es).lookup t = none := lookup_of_forall_lt fun e he => by
        rcases List.mem_cons.mp he with rfl | he
        · exact hlt
        · exact Nat.lt_trans hlt (h.1 e he)
      rw [if_pos hlt, lookup_cons_ite, hn]
      rfl
    · rw [if_neg hlt]
      by_cases heq : t = k
      · subst heq
        by_cases ht : t' = t <;> simp [lookup_cons_ite, ht]
      · by_cases ht : t' = k
        · subst ht
          simp [heq, Ne.symm heq]
        · simp [lookup_cons_ite, heq, ht, ih h.2]

theorem pairwise_markEntries {es : List (TableId × UsageSet)}
    (h : es.Pairwise fun e f => e.1 < f.1) (t : TableId) (u : Usage) :
    (markEntries t u es).Pairwise fun e f => e.1 < f.1 := by
  induction es with
  | nil => simp [markEntries]
  | cons e es ih =>
    obtain ⟨k, s⟩ := e
    rw [List.pairwise_cons] at h
    rw [markEntries]
    split_ifs with hlt heq
    · refine List.pairwise_cons.mpr ⟨fun e he => ?_, List.pairwise_cons.mpr h⟩
      rcases List.mem_cons.mp he with rfl | he
      · exact hlt
      · exact Nat.lt_trans hlt (h.1 e he)
    · exact List.pairwise_cons.mpr h
    · refine List.pairwise_cons.mpr ⟨fun e he => ?_, ih h.2⟩
      have hl := (lookup_eq_some_iff (ih h.2)).mpr he
      rw [lookup_markEntries h.2] at hl
      by_cases ht : e.1 = t
      · simp only [ht]
        lia
      · rw [if_neg ht] at hl
        exact h.1 e ((lookup_eq_some_iff h.2).mp hl)

theorem Ordered.empty : Ordered .empty := ⟨.nil, by simp [UsageMap.empty]⟩

theorem get_mark {m : UsageMap} (h : m.Ordered) (t : TableId) (u : Usage) (t' : TableId) :
    (m.mark t u).get t' = if t' = t then (m.get t).insert u else m.get t' := by
  simp only [get, mark, lookup_markEntries h.ascending]
  split_ifs <;> rfl

theorem Ordered.mark {m : UsageMap} (h : m.Ordered) (t : TableId) (u : Usage) :
    (m.mark t u).Ordered := by
  refine ⟨pairwise_markEntries h.ascending t u, fun e he => ?_⟩
  have hl := (lookup_eq_some_iff (pairwise_markEntries h.ascending t u)).mpr he
  rw [lookup_markEntries h.ascending] at hl
  by_cases ht : e.1 = t
  · rw [if_pos ht, Option.some.injEq] at hl
    rw [Bool.eq_false_iff, ← hl, ne_eq, UsageSet.isEmpty_iff]
    intro hn
    have := (UsageSet.contains_insert ((m.entries.lookup t).getD .empty) u u).mpr (.inl rfl)
    simp [hn u] at this
  · rw [if_neg ht] at hl
    exact h.used e ((lookup_eq_some_iff h.ascending).mp hl)

theorem Ordered.unmarkAll {m : UsageMap} (h : m.Ordered) (u : Usage) : (m.unmarkAll u).Ordered := by
  refine ⟨?_, fun e he => ?_⟩
  · apply List.Pairwise.filter
    exact List.pairwise_map.mpr h.ascending
  · simpa using (List.mem_filter.mp he).2

theorem mem_unmarkAll {m : UsageMap} {t : TableId} {s : UsageSet} (u : Usage) :
    (t, s) ∈ (m.unmarkAll u).entries ↔
      s.isEmpty = false ∧ ∃ s', (t, s') ∈ m.entries ∧ s = s'.erase u := by
  simp only [UsageMap.unmarkAll, List.mem_filter, List.mem_map, Prod.mk.injEq]
  constructor
  · rintro ⟨⟨e, he, rfl, rfl⟩, hs⟩
    exact ⟨by simpa using hs, e.2, he, rfl⟩
  · rintro ⟨hs, s', hm, rfl⟩
    exact ⟨⟨(t, s'), hm, rfl, rfl⟩, by simpa using hs⟩

theorem lookup_unmarkAll {m : UsageMap} (h : m.Ordered) (u : Usage) (t : TableId) :
    (m.unmarkAll u).entries.lookup t = (m.entries.lookup t).bind fun s =>
      if (s.erase u).isEmpty then none else some (s.erase u) := by
  apply Option.ext
  intro s
  rw [lookup_eq_some_iff (h.unmarkAll u).ascending, mem_unmarkAll, Option.bind_eq_some_iff]
  simp only [lookup_eq_some_iff h.ascending]
  constructor
  · rintro ⟨hs, s', hm, rfl⟩
    exact ⟨s', hm, by simp [hs]⟩
  · rintro ⟨s', hm, hs⟩
    split_ifs at hs with hempty
    cases hs
    exact ⟨Bool.eq_false_iff.mpr hempty, s', hm, rfl⟩

theorem has_iff_mem {m : UsageMap} (h : m.Ordered) (t : TableId) (u : Usage) :
    m.Has t u ↔ ∃ s, (t, s) ∈ m.entries ∧ s.contains u = true := by
  simp only [Has, get]
  cases hl : m.entries.lookup t with
  | none =>
    simp only [Option.getD_none, UsageSet.contains_empty, Bool.false_eq_true, false_iff]
    rintro ⟨s, hs, _⟩
    rw [(lookup_eq_some_iff h.ascending).mpr hs] at hl
    cases hl
  | some s =>
    simp only [Option.getD_some]
    constructor
    · intro hs
      exact ⟨s, (lookup_eq_some_iff h.ascending).mp hl, hs⟩
    · rintro ⟨s', hs', hu⟩
      rw [(lookup_eq_some_iff h.ascending).mpr hs', Option.some.injEq] at hl
      exact hl ▸ hu

@[simp] theorem not_has_empty (t : TableId) (u : Usage) : ¬ (empty : UsageMap).Has t u := by
  simp [Has, get, UsageMap.empty]

theorem has_mark {m : UsageMap} (h : m.Ordered) (t : TableId) (u : Usage) (t' : TableId)
    (u' : Usage) : (m.mark t u).Has t' u' ↔ (t' = t ∧ u' = u) ∨ m.Has t' u' := by
  simp only [Has, get_mark h]
  by_cases ht : t' = t
  · simp [ht]
  · simp [ht]

theorem has_unmarkAll {m : UsageMap} (h : m.Ordered) (u : Usage) (t : TableId) (u' : Usage) :
    (m.unmarkAll u).Has t u' ↔ u' ≠ u ∧ m.Has t u' := by
  rw [has_iff_mem (h.unmarkAll u), has_iff_mem h]
  constructor
  · rintro ⟨s, hs, hu⟩
    obtain ⟨_, s', hm, rfl⟩ := (mem_unmarkAll u).mp hs
    obtain ⟨hne, hc⟩ := (UsageSet.contains_erase s' u u').mp hu
    exact ⟨hne, s', hm, hc⟩
  · rintro ⟨hne, s', hm, hc⟩
    have he : (s'.erase u).contains u' = true := (UsageSet.contains_erase s' u u').mpr ⟨hne, hc⟩
    refine ⟨s'.erase u, (mem_unmarkAll u).mpr ⟨?_, s', hm, rfl⟩, he⟩
    rw [Bool.eq_false_iff, ne_eq, UsageSet.isEmpty_iff]
    intro hn
    simp [hn u'] at he

theorem mem_tablesWithAny {m : UsageMap} (h : m.Ordered) (us : UsageSet) (t : TableId) :
    t ∈ m.tablesWithAny us ↔ ∃ u, us.contains u = true ∧ m.Has t u := by
  simp only [tablesWithAny, List.mem_map, List.mem_filter, UsageSet.intersects_iff, has_iff_mem h]
  constructor
  · rintro ⟨⟨k, s⟩, ⟨hm, u, hs, hu⟩, rfl⟩
    exact ⟨u, hu, s, hm, hs⟩
  · rintro ⟨u, hu, s, hm, hs⟩
    exact ⟨(t, s), ⟨hm, u, hs, hu⟩, rfl⟩

theorem pairwise_tablesWithAny {m : UsageMap} (h : m.Ordered) (us : UsageSet) :
    (m.tablesWithAny us).Pairwise (· < ·) := by
  apply List.pairwise_map.mpr
  exact h.ascending.filter _

theorem mem_tablesWithAny_ofList {m : UsageMap} (h : m.Ordered) (us : List Usage) (t : TableId) :
    t ∈ m.tablesWithAny (.ofList us) ↔ ∃ u ∈ us, m.Has t u := by
  simp only [mem_tablesWithAny h, UsageSet.contains_ofList]

theorem foldl_mark {α : Type} {m : UsageMap} (h : m.Ordered) (table : α → TableId) (u : Usage)
    (xs : List α) : (xs.foldl (fun m x => m.mark (table x) u) m).Ordered ∧ ∀ t u',
      (xs.foldl (fun m x => m.mark (table x) u) m).Has t u' ↔
        (u' = u ∧ ∃ x ∈ xs, table x = t) ∨ m.Has t u' := by
  induction xs generalizing m with
  | nil => simp [h]
  | cons x xs ih =>
    obtain ⟨ho, hh⟩ := ih (h.mark (table x) u)
    refine ⟨ho, fun t u' => ?_⟩
    rw [List.foldl_cons, hh, has_mark h]
    simp only [List.mem_cons, exists_eq_or_imp]
    constructor
    · rintro (⟨rfl, hx⟩ | ⟨rfl, rfl⟩ | hm)
      · exact .inl ⟨rfl, .inr hx⟩
      · exact .inl ⟨rfl, .inl rfl⟩
      · exact .inr hm
    · rintro (⟨rfl, rfl | hx⟩ | hm)
      · exact .inr (.inl ⟨rfl, rfl⟩)
      · exact .inl ⟨rfl, hx⟩
      · exact .inr (.inr hm)

theorem Ordered.mem_iff {m : UsageMap} (h : m.Ordered) {t : TableId} {s : UsageSet} :
    (t, s) ∈ m.entries ↔ s.isEmpty = false ∧ m.get t = s := by
  rw [← lookup_eq_some_iff h.ascending, get]
  constructor
  · intro hl
    exact ⟨h.used _ ((lookup_eq_some_iff h.ascending).mp hl), by rw [hl]; rfl⟩
  · rintro ⟨hs, rfl⟩
    cases hl : m.entries.lookup t with
    | none => simp [hl, UsageSet.isEmpty] at hs
    | some s => rfl

theorem Ordered.nodup {m : UsageMap} (h : m.Ordered) : m.entries.Nodup := by
  refine h.ascending.imp fun {e f} hlt heq => ?_
  rw [heq] at hlt
  exact Nat.lt_irrefl f.1 hlt

theorem Ordered.ext {m m' : UsageMap} (h : m.Ordered) (h' : m'.Ordered)
    (hhas : ∀ t u, m.Has t u ↔ m'.Has t u) : m = m' := by
  have hget : ∀ t, m.get t = m'.get t := fun t => UsageSet.ext_contains (hhas t)
  have hperm : m.entries.Perm m'.entries := by
    rw [List.perm_ext_iff_of_nodup h.nodup h'.nodup]
    rintro ⟨t, s⟩
    rw [h.mem_iff, h'.mem_iff, hget]
  have hentries : m.entries = m'.entries :=
    hperm.eq_of_pairwise (fun _ _ _ _ hlt hgt => absurd hgt (Nat.lt_asymm hlt)) h.ascending
      h'.ascending
  obtain ⟨entries⟩ := m
  obtain ⟨entries'⟩ := m'
  exact congrArg UsageMap.mk hentries

theorem unmarkAll_foldl_mark {α : Type} {m : UsageMap} (h : m.Ordered) (table : α → TableId)
    (u : Usage) (xs : List α) :
    (xs.foldl (fun m x => m.mark (table x) u) (m.unmarkAll u)).unmarkAll u = m.unmarkAll u := by
  obtain ⟨ho, htag⟩ := foldl_mark (h.unmarkAll u) table u xs
  refine (ho.unmarkAll u).ext (h.unmarkAll u) fun t v => ?_
  rw [has_unmarkAll ho, htag, has_unmarkAll h]
  constructor
  · rintro ⟨hne, ⟨heq, -⟩ | hkept⟩
    · exact absurd heq hne
    · exact hkept
  · exact fun hkept => ⟨hkept.1, .inr hkept⟩

end UsageMap
end Listing
