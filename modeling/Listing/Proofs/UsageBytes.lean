import Listing.Proofs.UsageTags
import Mathlib.Data.List.Induction

namespace Listing

def Usage.bit : Usage → UInt8
  | .select => 1
  | .search => (1 : UInt8) <<< 1
  | .filter => (1 : UInt8) <<< 2
  | .sort => (1 : UInt8) <<< 3
  | .mandatory => (1 : UInt8) <<< 4

structure UsageByte where
  bits : UInt8 := 0
deriving DecidableEq, Repr

namespace UsageByte

def insert (b : UsageByte) (u : Usage) : UsageByte := ⟨b.bits ||| u.bit⟩

def erase (b : UsageByte) (u : Usage) : UsageByte := ⟨b.bits &&& ~~~u.bit⟩

def contains (b : UsageByte) (u : Usage) : Bool := b.bits &&& u.bit != 0

def intersects (a b : UsageByte) : Bool := a.bits &&& b.bits != 0

def isEmpty (b : UsageByte) : Bool := b.bits == 0

def ofList (us : List Usage) : UsageByte := us.foldl insert {}

theorem intersects_insert (a b : UsageByte) (u : Usage) :
    a.intersects (b.insert u) = (a.intersects b || a.contains u) := by
  have hbits : a.bits &&& (b.bits ||| u.bit) = a.bits &&& b.bits ||| a.bits &&& u.bit := by
    apply UInt8.eq_of_toBitVec_eq
    exact BitVec.and_or_distrib_left
  rw [Bool.eq_iff_iff, Bool.or_eq_true]
  simp only [intersects, contains, insert, hbits, bne_iff_ne, ne_eq, UInt8.or_eq_zero_iff]
  exact Decidable.not_and_iff_or_not

theorem intersects_ofList (a : UsageByte) (us : List Usage) :
    a.intersects (ofList us) = us.any a.contains := by
  induction us using List.reverseRecOn with
  | nil => simp [intersects, ofList]
  | append_singleton us u ih =>
    rw [ofList, List.foldl_append, List.foldl_cons, List.foldl_nil, intersects_insert]
    rw [ofList] at ih
    rw [ih, List.any_append, List.any_cons, List.any_nil, Bool.or_false]

end UsageByte

def UsageSet.byte (s : UsageSet) : UsageByte := .ofList s.toList

namespace UsageSet

theorem byte_insert (s : UsageSet) (u : Usage) : (s.insert u).byte = s.byte.insert u := by
  obtain ⟨a, b, c, d, e⟩ := s
  cases u <;> revert a b c d e <;> decide

theorem byte_erase (s : UsageSet) (u : Usage) : (s.erase u).byte = s.byte.erase u := by
  obtain ⟨a, b, c, d, e⟩ := s
  cases u <;> revert a b c d e <;> decide

theorem byte_isEmpty (s : UsageSet) : s.byte.isEmpty = s.isEmpty := by
  obtain ⟨a, b, c, d, e⟩ := s
  revert a b c d e
  decide

theorem byte_contains (s : UsageSet) (u : Usage) : s.byte.contains u = s.contains u := by
  obtain ⟨a, b, c, d, e⟩ := s
  cases u <;> revert a b c d e <;> decide

theorem byte_intersects (s t : UsageSet) : s.byte.intersects t.byte = s.intersects t := by
  calc s.byte.intersects t.byte
      = t.toList.any s.byte.contains := UsageByte.intersects_ofList s.byte t.toList
    _ = t.toList.any s.contains := by rw [funext s.byte_contains]
    _ = s.intersects t := by
      rw [toList, List.any_filter, intersects]
      simp only [Bool.and_comm]

theorem byte_injective : Function.Injective byte := by
  intro s t h
  apply ext_contains
  intro u
  rw [← byte_contains, ← byte_contains, h]

end UsageSet

structure HashedUsage where
  bytes : Std.HashMap TableId UsageByte := ∅

namespace HashedUsage

def mark (h : HashedUsage) (t : TableId) (u : Usage) : HashedUsage :=
  ⟨h.bytes.alter t fun b => some ((b.getD {}).insert u)⟩

def unmarkAll (h : HashedUsage) (u : Usage) : HashedUsage :=
  ⟨h.bytes.filterMap fun _ b => if (b.erase u).isEmpty then none else some (b.erase u)⟩

def get (h : HashedUsage) (t : TableId) : UsageByte := h.bytes.getD t {}

def isEmpty (h : HashedUsage) : Bool := h.bytes.isEmpty

instance : BEq HashedUsage := ⟨fun h h' => h.bytes == h'.bytes⟩

def tablesAmong (entries : List (TableId × UsageByte)) (us : UsageByte) : List TableId :=
  ((entries.filter fun e => e.2.intersects us).map (·.1)).mergeSort fun t u => decide (t ≤ u)

structure Keeps (h : HashedUsage) (m : UsageMap) : Prop where
  ordered : m.Ordered
  lookup : ∀ t, h.bytes[t]? = (m.entries.lookup t).map UsageSet.byte

variable {h h' : HashedUsage} {m m' : UsageMap}

theorem Keeps.empty : Keeps {} .empty := by
  refine ⟨.empty, fun t => ?_⟩
  simp [UsageMap.empty]

theorem getD_map_byte (s : Option UsageSet) :
    (s.map UsageSet.byte).getD {} = (s.getD .empty).byte := by
  cases s <;> rfl

theorem Keeps.mark (hk : h.Keeps m) (t : TableId) (u : Usage) :
    (h.mark t u).Keeps (m.mark t u) := by
  refine ⟨hk.ordered.mark t u, fun t' => ?_⟩
  rw [HashedUsage.mark, UsageMap.mark, Std.HashMap.getElem?_alter, hk.lookup, hk.lookup,
    UsageMap.lookup_markEntries hk.ordered.ascending]
  by_cases ht : t' = t
  · rw [if_pos (beq_iff_eq.mpr ht.symm), if_pos ht, Option.map_some, getD_map_byte,
      UsageSet.byte_insert]
  · rw [if_neg fun hb => ht (eq_of_beq hb).symm, if_neg ht]

theorem Keeps.unmarkAll (hk : h.Keeps m) (u : Usage) : (h.unmarkAll u).Keeps (m.unmarkAll u) := by
  refine ⟨hk.ordered.unmarkAll u, fun t => ?_⟩
  rw [HashedUsage.unmarkAll, Std.HashMap.getElem?_filterMap', hk.lookup,
    UsageMap.lookup_unmarkAll hk.ordered]
  cases m.entries.lookup t with
  | none => rfl
  | some s =>
    rw [Option.map_some, Option.bind_some, Option.bind_some, ← UsageSet.byte_erase,
      UsageSet.byte_isEmpty]
    split_ifs <;> rfl

theorem Keeps.get (hk : h.Keeps m) (t : TableId) : h.get t = (m.get t).byte := by
  rw [HashedUsage.get, Std.HashMap.getD_eq_getD_getElem?, hk.lookup, getD_map_byte,
    UsageMap.get]

theorem Keeps.used (hk : h.Keeps m) {t : TableId} {b : UsageByte} (hb : h.bytes[t]? = some b) :
    b.isEmpty = false := by
  rw [hk.lookup, Option.map_eq_some_iff] at hb
  obtain ⟨s, hs, rfl⟩ := hb
  rw [UsageSet.byte_isEmpty]
  exact hk.ordered.used _ ((UsageMap.lookup_eq_some_iff hk.ordered.ascending).mp hs)

theorem Keeps.toList_perm (hk : h.Keeps m) :
    h.bytes.toList.Perm (m.entries.map fun e => (e.1, e.2.byte)) := by
  have hlisted : h.bytes.toList.Nodup := by
    apply Std.HashMap.distinct_keys_toList.imp
    rintro e f hne rfl
    exact absurd (beq_self_eq_true e.1) (Bool.eq_false_iff.mp hne)
  have hkept : (m.entries.map fun e => (e.1, e.2.byte)).Nodup := by
    apply List.pairwise_map.mpr
    apply hk.ordered.ascending.imp
    intro e f hlt heq
    exact Nat.ne_of_lt hlt (Prod.mk.inj heq).1
  rw [List.perm_ext_iff_of_nodup hlisted hkept]
  rintro ⟨t, b⟩
  rw [Std.HashMap.mem_toList_iff_getElem?_eq_some, hk.lookup, Option.map_eq_some_iff, List.mem_map]
  simp only [UsageMap.lookup_eq_some_iff hk.ordered.ascending]
  constructor
  · rintro ⟨s, hs, rfl⟩
    exact ⟨(t, s), hs, rfl⟩
  · rintro ⟨e, he, heq⟩
    cases heq
    exact ⟨e.2, he, rfl⟩

theorem Keeps.isEmpty (hk : h.Keeps m) : h.isEmpty = m.isEmpty := by
  rw [HashedUsage.isEmpty, UsageMap.isEmpty, ← Std.HashMap.isEmpty_toList,
    hk.toList_perm.isEmpty_eq, List.isEmpty_map]

theorem Keeps.tablesAmong (hk : h.Keeps m) {entries : List (TableId × UsageByte)}
    (he : entries.Perm h.bytes.toList) (us : UsageSet) :
    HashedUsage.tablesAmong entries us.byte = m.tablesWithAny us := by
  have hsame : m.tablesWithAny us = (((m.entries.map fun e => (e.1, e.2.byte)).filter fun e =>
      e.2.intersects us.byte).map (·.1)) := by
    rw [List.filter_map, List.map_map]
    simp only [Function.comp_def, UsageSet.byte_intersects]
    rfl
  have hperm : (HashedUsage.tablesAmong entries us.byte).Perm (m.tablesWithAny us) := by
    rw [hsame]
    exact (List.mergeSort_perm _ _).trans (((he.trans hk.toList_perm).filter _).map _)
  have hsorted : (HashedUsage.tablesAmong entries us.byte).Pairwise (· ≤ ·) := by
    apply (List.pairwise_mergeSort _ _ _).imp of_decide_eq_true
    · intro t u v htu huv
      exact decide_eq_true (Nat.le_trans (of_decide_eq_true htu) (of_decide_eq_true huv))
    · intro t u
      simpa using Nat.le_total t u
  -- no table is listed twice, so both lists are in the one order that there is
  apply hperm.eq_of_pairwise (fun t u _ _ => Nat.le_antisymm) hsorted
  exact (UsageMap.pairwise_tablesWithAny hk.ordered us).imp Nat.le_of_lt

theorem Keeps.beq_iff (hk : h.Keeps m) (hk' : h'.Keeps m') : (h == h') = true ↔ m = m' := by
  change (h.bytes == h'.bytes) = true ↔ m = m'
  rw [Std.HashMap.beq_iff_equiv]
  constructor
  · intro heq
    apply hk.ordered.ext hk'.ordered
    intro t u
    have hget : (m.get t).byte = (m'.get t).byte := by
      rw [← hk.get, ← hk'.get]
      exact heq.getD_eq
    rw [UsageMap.Has, UsageMap.Has, UsageSet.byte_injective hget]
  · rintro rfl
    apply Std.HashMap.Equiv.of_forall_getElem?_eq
    intro t
    rw [hk.lookup, hk'.lookup]

end HashedUsage
end Listing
