import Listing.Text.Lowercase
import Mathlib.Data.List.Basic

namespace Listing.Text

namespace CaseRun

def isPlaced (r : CaseRun) : Bool :=
  0x61 ≤ r.lower &&
    (r.lower + (r.last - r.first) < 0xD800 ||
      0xDFFF < r.lower && r.lower + (r.last - r.first) < 0x110000)

def isApart (r q : CaseRun) : Bool :=
  Nat.blt q.last r.lower || Nat.blt (r.lower + (r.last - r.first)) q.first ||
    (Nat.beq r.step 2 || Nat.beq r.first r.last) && Nat.beq q.step 2 &&
      Nat.beq ((r.lower + q.first) % 2) 1

variable {r q : CaseRun} {n m : Nat}

theorem apply_eq (r : CaseRun) (n : Nat) : r.apply? n =
    if r.first ≤ n ∧ n ≤ r.last ∧ (n - r.first) % r.step = 0 then some (r.lower + (n - r.first))
    else none := rfl

theorem apply_some_iff : r.apply? n = some m ↔
    r.first ≤ n ∧ n ≤ r.last ∧ (n - r.first) % r.step = 0 ∧ m = r.lower + (n - r.first) := by
  rw [apply_eq]
  split_ifs with h
  · simp [h, eq_comm]
  · simp only [false_iff]
    rintro ⟨h₁, h₂, h₃, -⟩
    exact h ⟨h₁, h₂, h₃⟩

theorem toNat_ofNat (hr : r.isPlaced = true) (h : r.apply? n = some m) :
    (Char.ofNat m).toNat = m ∧ 0x61 ≤ m := by
  obtain ⟨hfirst, hlast, -, rfl⟩ := apply_some_iff.mp h
  simp only [isPlaced, Bool.and_eq_true, Bool.or_eq_true, decide_eq_true_eq] at hr
  obtain ⟨hlower, hvalid⟩ := hr
  have hchar : (r.lower + (n - r.first)).isValidChar := by
    rw [Nat.isValidChar]
    omega
  rw [Char.ofNat, dif_pos hchar]
  exact ⟨rfl, by omega⟩

theorem apply_eq_none (hrq : r.isApart q = true) (h : r.apply? n = some m) :
    q.apply? m = none := by
  obtain ⟨hfirst, hlast, hstep, rfl⟩ := apply_some_iff.mp h
  rw [apply_eq, if_neg]
  rintro ⟨hqfirst, hqlast, hqstep⟩
  simp only [isApart, Bool.and_eq_true, Bool.or_eq_true, Nat.blt_eq, Nat.beq_eq] at hrq
  rcases hrq with (hbelow | habove) | ⟨⟨hr, hq⟩, hodd⟩
  · omega
  · omega
  · rw [hq] at hqstep
    rcases hr with hr | hr
    · rw [hr] at hstep
      omega
    · omega

end CaseRun

theorem lowerRuns_placed : ∀ r ∈ lowerRuns, r.isPlaced = true := by
  have hall : lowerRuns.all CaseRun.isPlaced = true := by decide +kernel
  exact List.all_eq_true.mp hall

theorem lowerRuns_apart : ∀ r ∈ lowerRuns, ∀ q ∈ lowerRuns, r.isApart q = true := by
  have hall : (lowerRuns.all fun r => lowerRuns.all r.isApart) = true := by decide +kernel
  intro r hr
  exact List.all_eq_true.mp (List.all_eq_true.mp hall r hr)

def dottedRun : CaseRun := ⟨0x130, 0x130, 1, 0⟩

theorem lowerRuns_apart_dotted : ∀ r ∈ lowerRuns, r.isApart dottedRun = true := by
  have hall : (lowerRuns.all fun r => r.isApart dottedRun) = true := by decide +kernel
  exact List.all_eq_true.mp hall

def IsLower (c : Char) : Prop := c ≠ 'Σ' ∧ lowerChar c = [c]

variable {c d : Char} {s : List Char}

theorem toNat_of_isUpper (h : c.isUpper = true) : 0x41 ≤ c.toNat ∧ c.toNat ≤ 0x5A := by
  obtain ⟨hfirst, hlast⟩ := of_decide_eq_true h
  exact ⟨UInt32.le_iff_toNat_le.mp hfirst, UInt32.le_iff_toNat_le.mp hlast⟩

theorem toLower_of_not_isUpper (h : ¬ c.isUpper = true) : c.toLower = c :=
  dif_neg fun hrange => h (decide_eq_true hrange)

theorem toNat_toLower_of_isUpper (h : c.isUpper = true) : c.toLower.toNat = c.toNat + 32 := by
  obtain ⟨hfirst, hlast⟩ := toNat_of_isUpper h
  have hshift : (32 : UInt32).toNat = 32 := rfl
  have hlower : c.toLower.val = c.val + 32 := congrArg Char.val (dif_pos (of_decide_eq_true h))
  rw [← Char.toNat_val, hlower, UInt32.toNat_add, hshift, Char.toNat_val]
  omega

theorem toNat_toLower (h : c.toNat < 0x80) : c.toLower.toNat < 0x80 ∧
    (c.toLower = c ∨ 0x61 ≤ c.toLower.toNat) := by
  by_cases hupper : c.isUpper = true
  · obtain ⟨hfirst, hlast⟩ := toNat_of_isUpper hupper
    rw [toNat_toLower_of_isUpper hupper]
    omega
  · rw [toLower_of_not_isUpper hupper]
    exact ⟨h, .inl rfl⟩

theorem not_isUpper_toLower (c : Char) : ¬ c.toLower.isUpper = true := by
  intro h
  obtain ⟨hfirst, hlast⟩ := toNat_of_isUpper h
  by_cases hupper : c.isUpper = true
  · rw [toNat_toLower_of_isUpper hupper] at hlast
    obtain ⟨hlow, -⟩ := toNat_of_isUpper hupper
    omega
  · rw [toLower_of_not_isUpper hupper] at h
    exact hupper h

theorem isLower_of_runs (hdotted : c ≠ 'İ') (hruns : ∀ r ∈ lowerRuns, r.apply? c.toNat = none) :
    IsLower c := by
  have hnone : (lowerRuns.findSome? fun r => r.apply? c.toNat) = none :=
    List.findSome?_eq_none_iff.mpr hruns
  constructor
  · rintro rfl
    have hsome : (lowerRuns.findSome? fun r => r.apply? 'Σ'.toNat) = some 0x3C3 := by rfl
    rw [hnone] at hsome
    cases hsome
  · rw [lowerChar, if_neg hdotted, hnone]
    split_ifs with hascii
    · rw [toLower_of_not_isUpper]
      intro hupper
      obtain ⟨hfirst, hlast⟩ := toNat_of_isUpper hupper
      have hlatin := hruns ⟨0x41, 0x5A, 1, 0x61⟩ List.mem_cons_self
      rw [CaseRun.apply_eq, if_pos ⟨hfirst, hlast, Nat.mod_one _⟩] at hlatin
      cases hlatin
    · rfl

theorem isLower_toLower (h : c.toNat < 0x80) : IsLower c.toLower := by
  have hascii := (toNat_toLower h).1
  constructor
  · intro hsigma
    rw [hsigma] at hascii
    exact absurd hascii (by decide)
  · rw [lowerChar, if_pos hascii, toLower_of_not_isUpper (not_isUpper_toLower c)]

theorem mem_lowerChar (hc : c ≠ 'Σ') (h : d ∈ lowerChar c) :
    IsLower d ∧ (d = c ∨ 0x61 ≤ d.toNat) := by
  by_cases hascii : c.toNat < 0x80
  · rw [lowerChar, if_pos hascii, List.mem_singleton] at h
    rw [h]
    exact ⟨isLower_toLower hascii, (toNat_toLower hascii).2⟩
  by_cases hdotted : c = 'İ'
  · rw [lowerChar, if_neg hascii, if_pos hdotted] at h
    have hforms : d = 'i' ∨ d = '\u0307' := by simpa using h
    rcases hforms with rfl | rfl
    · exact ⟨⟨by decide, by rfl⟩, .inr (by decide)⟩
    · exact ⟨⟨by decide, by rfl⟩, .inr (by decide)⟩
  cases hfind : lowerRuns.findSome? fun r => r.apply? c.toNat with
  | none =>
    have hsame : lowerChar c = [c] := by rw [lowerChar, if_neg hascii, if_neg hdotted, hfind]
    rw [hsame, List.mem_singleton] at h
    rw [h]
    exact ⟨⟨hc, hsame⟩, .inl rfl⟩
  | some n =>
    rw [lowerChar, if_neg hascii, if_neg hdotted, hfind, List.mem_singleton] at h
    obtain ⟨r, hr, happly⟩ := List.exists_of_findSome?_eq_some hfind
    obtain ⟨hn, hlower⟩ := CaseRun.toNat_ofNat (lowerRuns_placed r hr) happly
    rw [← h] at hn
    refine ⟨isLower_of_runs ?_ fun q hq => ?_, .inr (hn ▸ hlower)⟩
    · rintro rfl
      have hnone := CaseRun.apply_eq_none (lowerRuns_apart_dotted r hr) happly
      rw [← hn] at hnone
      cases hnone
    · rw [hn]
      exact CaseRun.apply_eq_none (lowerRuns_apart r hr q hq) happly

theorem exists_lowerFrom_cons (b : Bool) (c : Char) (s : List Char) : ∃ b' form,
    lowerFrom b (c :: s) = form ++ lowerFrom b' s ∧
      (c ≠ 'Σ' ∧ form = lowerChar c ∨ c = 'Σ' ∧ (form = ['σ'] ∨ form = ['ς'])) := by
  by_cases hc : c = 'Σ'
  · rw [lowerFrom, if_pos hc]
    refine ⟨_, [if b && !startsCased s then 'ς' else 'σ'], rfl, .inr ⟨hc, ?_⟩⟩
    split_ifs
    · exact .inr rfl
    · exact .inl rfl
  · rw [lowerFrom, if_neg hc]
    exact ⟨_, lowerChar c, rfl, .inl ⟨hc, rfl⟩⟩

theorem isLower_lowerFrom {b : Bool} (h : d ∈ lowerFrom b s) : IsLower d := by
  induction s generalizing b with
  | nil => cases h
  | cons c s ih =>
    obtain ⟨b', form, heq, hform⟩ := exists_lowerFrom_cons b c s
    rw [heq, List.mem_append] at h
    rcases h with h | h
    · rcases hform with ⟨hc, rfl⟩ | ⟨-, rfl | rfl⟩
      · exact (mem_lowerChar hc h).1
      · rw [List.mem_singleton.mp h]
        exact ⟨by decide, by rfl⟩
      · rw [List.mem_singleton.mp h]
        exact ⟨by decide, by rfl⟩
    · exact ih h

theorem lowerFrom_of_isLower (h : ∀ c ∈ s, IsLower c) (b : Bool) : lowerFrom b s = s := by
  induction s generalizing b with
  | nil => rfl
  | cons c s ih =>
    obtain ⟨hc, hform⟩ := h c List.mem_cons_self
    simp only [lowerFrom, hc, if_false, hform, ih fun x hx => h x (List.mem_cons_of_mem _ hx)]
    rfl

theorem mem_lowerFrom_iff (hc : c.toNat < 0x61) (hupper : ¬ c.isUpper = true) (b : Bool) :
    c ∈ lowerFrom b s ↔ c ∈ s := by
  have hsame : lowerChar c = [c] := by
    rw [lowerChar, if_pos (by omega), toLower_of_not_isUpper hupper]
  have hne : ∀ d : Char, 0x61 ≤ d.toNat → c ≠ d := by
    rintro d hd rfl
    omega
  induction s generalizing b with
  | nil => rfl
  | cons x s ih =>
    obtain ⟨b', form, heq, hform⟩ := exists_lowerFrom_cons b x s
    have hhead : c ∈ form ↔ c = x := by
      rcases hform with ⟨hx, rfl⟩ | ⟨rfl, rfl | rfl⟩
      · constructor
        · intro h
          exact (mem_lowerChar hx h).2.resolve_right (by omega)
        · rintro rfl
          rw [hsame]
          exact List.mem_singleton_self c
      · simp [hne 'σ' (by decide), hne 'Σ' (by decide)]
      · simp [hne 'ς' (by decide), hne 'Σ' (by decide)]
    have hrest : c ∈ lowerFrom b' s ↔ c ∈ s := ih b'
    rw [heq, List.mem_append, hhead, hrest, List.mem_cons]

end Listing.Text
