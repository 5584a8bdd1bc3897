import Listing.Catalog.Build
import Mathlib.Data.List.Induction
import Mathlib.Data.List.Nodup

namespace Listing

structure Site where
  table : TableId
  tableName : String
  reference : String
  field : Field
deriving DecidableEq, Repr

namespace Site

def qualifiedKey (n : Site) : String := n.tableName ++ "." ++ n.field.name

def keyAfter (taken : List String) (n : Site) : String :=
  if n.field.key ∈ taken then n.qualifiedKey else n.field.key

def keys (ns : List Site) : List String := ns.foldl (fun taken n => taken ++ [n.keyAfter taken]) []

def Stuck (taken : List String) (n : Site) : Prop :=
  n.field.key ∈ taken ∧ n.qualifiedKey ∈ taken

theorem keys_concat (ns : List Site) (n : Site) :
    keys (ns ++ [n]) = keys ns ++ [n.keyAfter (keys ns)] := by
  rw [keys, List.foldl_append]
  rfl

theorem exists_keys_append (ns ms : List Site) :
    ∃ ks, keys (ns ++ ms) = keys ns ++ ks ∧ ks.length = ms.length := by
  induction ms using List.reverseRecOn with
  | nil => exact ⟨[], by simp⟩
  | append_singleton ms m ih =>
    obtain ⟨ks, hks, hlength⟩ := ih
    refine ⟨ks ++ [m.keyAfter (keys (ns ++ ms))], ?_, by simp [hlength]⟩
    rw [← List.append_assoc, keys_concat, hks, List.append_assoc]

theorem length_keys (ns : List Site) : (keys ns).length = ns.length := by
  obtain ⟨ks, hks, hlength⟩ := exists_keys_append [] ns
  rw [List.nil_append] at hks
  rw [hks, ← hlength]
  rfl

theorem exists_keys_split (earlier later : List Site) (n : Site) :
    ∃ ks, keys (earlier ++ n :: later) = keys earlier ++ n.keyAfter (keys earlier) :: ks ∧
      ks.length = later.length := by
  obtain ⟨ks, hks, hlength⟩ := exists_keys_append (earlier ++ [n]) later
  rw [keys_concat, List.append_assoc, List.append_assoc] at hks
  exact ⟨ks, hks, hlength⟩

theorem not_stuck_of_nodup {earlier later : List Site} {n : Site}
    (h : (keys (earlier ++ n :: later)).Nodup) : ¬ n.Stuck (keys earlier) := by
  rintro ⟨hown, hqualified⟩
  obtain ⟨ks, hks, -⟩ := exists_keys_split earlier later n
  rw [hks, List.nodup_append] at h
  have hkey : n.keyAfter (keys earlier) = n.qualifiedKey := if_pos hown
  exact h.2.2 _ hqualified _ List.mem_cons_self hkey.symm

end Site

namespace Catalog

variable {c : Catalog} {n : Site}

theorem isKeyTaken_iff {key : String} : c.isKeyTaken key = true ↔ key ∈ c.index.map (·.1) := by
  simp [isKeyTaken]

theorem freeKey?_some {key : String} (h : c.freeKey? n.tableName n.field = some key) :
    key = n.keyAfter (c.index.map (·.1)) ∧ key ∉ c.index.map (·.1) := by
  simp only [freeKey?, Bool.not_eq_true', Bool.eq_false_iff, ne_eq, isKeyTaken_iff] at h
  rw [Site.keyAfter]
  split_ifs at h with hown hqualified
  · obtain rfl := Option.some.inj h
    exact ⟨(if_pos hown).symm, hqualified⟩
  · obtain rfl := Option.some.inj h
    exact ⟨(if_neg hown).symm, hown⟩

theorem freeKey?_none (h : c.freeKey? n.tableName n.field = none) :
    n.Stuck (c.index.map (·.1)) := by
  simp only [freeKey?, Bool.not_eq_true', Bool.eq_false_iff, ne_eq, isKeyTaken_iff] at h
  split_ifs at h with hown hqualified
  exact ⟨hown, hqualified⟩

end Catalog
end Listing
