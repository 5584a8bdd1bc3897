import Listing.Proofs.JsonText
import Listing.Proofs.LowerForms
import Mathlib.Algebra.Group.Int.Defs
import Mathlib.Algebra.Group.Nat.Defs
import Mathlib.Data.List.TakeWhile

namespace Listing

def IsNumeral (ds : List Char) : Prop := ds ≠ [] ∧ ∀ d ∈ ds, d.isDigit = true

inductive Writes : List Char → Int → Prop
  | unsigned {ds : List Char} : IsNumeral ds → Writes ds (Nat.ofDigitChars 10 ds 0)
  | plus {ds : List Char} : IsNumeral ds → Writes ('+' :: ds) (Nat.ofDigitChars 10 ds 0)
  | minus {ds : List Char} : IsNumeral ds → Writes ('-' :: ds) (-(Nat.ofDigitChars 10 ds 0 : Int))

theorem isNumeral_iff {ds : List Char} :
    IsNumeral ds ↔ ¬ (ds.isEmpty || !ds.all isDigit) = true := by
  simp [IsNumeral, Node.isDigit_eq]

theorem splitSign_of_head {w : List Char} (hminus : w.head? ≠ some '-')
    (hplus : w.head? ≠ some '+') : splitSign w = (false, w) := by
  rw [splitSign.eq_def]
  split
  · exact absurd rfl hminus
  · exact absurd rfl hplus
  · rfl

theorem IsNumeral.splitSign {ds : List Char} (h : IsNumeral ds) : splitSign ds = (false, ds) := by
  have hhead : ∀ c, c.isDigit = false → ds.head? ≠ some c := by
    intro c hc hhead
    rw [h.2 c (List.mem_of_head? hhead)] at hc
    cases hc
  exact splitSign_of_head (hhead _ rfl) (hhead _ rfl)

theorem writes_iff {w : List Char} {i : Int} : Writes w i ↔ IsNumeral (splitSign w).2 ∧
    (if (splitSign w).1 then -(digitsValue (splitSign w).2 : Int)
      else digitsValue (splitSign w).2) = i := by
  constructor
  · intro h
    cases h with
    | unsigned h =>
      rw [h.splitSign]
      exact ⟨h, rfl⟩
    | plus h => exact ⟨h, rfl⟩
    | minus h => exact ⟨h, rfl⟩
  · rintro ⟨h, rfl⟩
    unfold splitSign at h ⊢
    split at h
    · exact .minus h
    · exact .plus h
    · exact .unsigned h

theorem readWhole?_eq_some {w : List Char} {i : Int} : readWhole? w = some i ↔ Writes w i := by
  rw [writes_iff, isNumeral_iff, readWhole?]
  by_cases h : ((splitSign w).2.isEmpty || !(splitSign w).2.all isDigit) = true
  · simp only [h, if_true, not_true_eq_false, false_and, reduceCtorEq]
  · simp only [h, if_false, not_false_eq_true, true_and, Option.some.injEq, Bool.false_eq_true]

def InInt64 (i : Int) : Prop := -2 ^ 63 ≤ i ∧ i < 2 ^ 63

theorem readInt64?_eq_some {w : List Char} {i : Int} :
    readInt64? w = some i ↔ Writes w i ∧ InInt64 i := by
  have hpow : Int.pow 2 63 = 2 ^ 63 := rfl
  rw [readInt64?, Option.filter_eq_some_iff, readWhole?_eq_some, hpow, Bool.and_eq_true,
    decide_eq_true_iff, decide_eq_true_iff, InInt64]

theorem readInt64?_eq_none {w : List Char} :
    readInt64? w = none ↔ ∀ i, Writes w i → ¬ InInt64 i := by
  simp only [Option.eq_none_iff_forall_ne_some, ne_eq, readInt64?_eq_some, not_and]

namespace Binary64

theorem divEven_le (num den : Nat) : divEven num den ≤ num / den + 1 := by
  simp only [divEven]
  split <;> omega

theorem floorLog2_one {num : Nat} (h : num ≠ 0) : floorLog2 num 1 = num.log2 := by
  have hself := Nat.log2_self_le h
  have hone : Nat.log2 1 = 0 := by decide
  simp [floorLog2, hself, hone]

theorem divEven_cut_le {num e : Nat} (h : num.log2 = 52 + e) :
    divEven num (1 * Nat.pow 2 e) ≤ 2 ^ 53 := by
  have hcut : num / (1 * Nat.pow 2 e) < 2 ^ 53 := by
    rw [Nat.one_mul, Nat.pow_eq, Nat.div_lt_iff_lt_mul (Nat.two_pow_pos e), ← Nat.pow_add]
    have hself := Nat.lt_log2_self (n := num)
    rwa [h, Nat.add_right_comm] at hself
  have hround := divEven_le num (1 * Nat.pow 2 e)
  omega

theorem divEven_fill_le {num e : Nat} (h : num.log2 + e = 52) :
    divEven (num * Nat.pow 2 e) 1 ≤ 2 ^ 53 := by
  have hfill : num * Nat.pow 2 e < 2 ^ 53 := by
    have hself := Nat.mul_lt_mul_of_pos_right (Nat.lt_log2_self (n := num)) (Nat.two_pow_pos e)
    rwa [← Nat.pow_add, Nat.add_right_comm, h] at hself
  have hround := divEven_le (num * Nat.pow 2 e) 1
  rw [Nat.div_one] at hround
  omega

theorem magnitude_one_lt {num : Nat} (h : num.log2 < 1023) : magnitude num 1 < infinityBits := by
  have hinfinity : infinityBits = 2047 * 2 ^ 52 := rfl
  have hpow : Nat.pow 2 52 = 2 ^ 52 := rfl
  by_cases hzero : num = 0
  · rw [magnitude, if_pos hzero]
    omega
  · have hmax : max ((num.log2 : Int) - 52) (-1074) = (num.log2 : Int) - 52 := by omega
    simp only [magnitude, if_neg hzero, floorLog2_one hzero, hmax, hpow]
    -- the exponent is at most `log2 num + 1022`, and the significand may carry once into it
    apply Nat.lt_of_le_of_lt (Nat.min_le_left _ _)
    split
    · have hcut : divEven num (1 * Nat.pow 2 ((num.log2 : Int) - 52).toNat) ≤ 2 ^ 53 :=
        divEven_cut_le (by omega)
      omega
    · have hfill : divEven (num * Nat.pow 2 (-((num.log2 : Int) - 52)).toNat) 1 ≤ 2 ^ 53 :=
        divEven_fill_le (by omega)
      omega

theorem isFinite_withSign {negative : Bool} {magnitude : Nat} (h : magnitude < infinityBits) :
    (withSign negative magnitude).isFinite = true := by
  have hinfinity : infinityBits = 2047 * 2 ^ 52 := rfl
  have hsign : (if negative then Nat.pow 2 63 else 0) = 0 ∨
      (if negative then Nat.pow 2 63 else 0) = 2 ^ 63 := by
    cases negative
    · exact .inl rfl
    · exact .inr rfl
  have h52 : Nat.pow 2 52 = 2 ^ 52 := rfl
  have h11 : Nat.pow 2 11 = 2 ^ 11 := rfl
  simp only [isFinite, exponentField, withSign, h52, h11, UInt64.toNat_ofNat',
    decide_eq_true_iff]
  omega

theorem not_isFinite_infinity (negative : Bool) :
    (withSign negative infinityBits).isFinite = false := by
  cases negative <;> decide

theorem isFinite_whole {m : Nat} (negative : Bool) (h : m.log2 < 1023) :
    (ofScientific negative m 0).isFinite = true := by
  rw [ofScientific]
  split
  · exact isFinite_withSign (by decide)
  · have hpow : m * Nat.pow 10 (0 : Int).toNat = m := Nat.mul_one m
    rw [if_neg (by decide), if_pos (Int.le_refl 0), ofRatio, hpow]
    exact isFinite_withSign (magnitude_one_lt h)

end Binary64

theorem IsNumeral.not_mem_map_toLower {ds : List Char} (h : IsNumeral ds) {c : Char}
    (hc : c.isDigit = false) : c ∉ ds.map Char.toLower := by
  intro hmem
  obtain ⟨d, hd, rfl⟩ := List.mem_map.mp hmem
  have hdigit := h.2 d hd
  have hlower : d.toLower = d := by
    refine Text.toLower_of_not_isUpper fun hupper => ?_
    have hfirst := (Text.toNat_of_isUpper hupper).1
    have hlast := (Char.isDigit_iff_toNat.mp hdigit).2
    have hnine : '9'.toNat = 57 := rfl
    omega
  rw [hlower, hdigit] at hc
  cases hc

theorem IsNumeral.readUnsigned? {ds : List Char} (h : IsNumeral ds) (negative : Bool) :
    readUnsigned? negative ds = some (.ofScientific negative (digitsValue ds) 0) := by
  have hdigits : ∀ d ∈ ds, isDigit d = true := fun d hd => (Node.isDigit_eq d).trans (h.2 d hd)
  have hwhole : ds.takeWhile isDigit = ds := List.takeWhile_eq_self_iff.mpr hdigits
  have hrest : ds.dropWhile isDigit = [] := List.dropWhile_eq_nil_iff.mpr hdigits
  simp [Listing.readUnsigned?, hwhole, hrest, h.1, readExponent?]

theorem readReal?_of_writes {w : List Char} {i : Int} (h : Writes w i) :
    ∃ negative, readReal? w = some (.ofScientific negative i.natAbs 0) := by
  obtain ⟨hds, rfl⟩ := writes_iff.mp h
  have hn : 'n' ∉ (splitSign w).2.map Char.toLower := hds.not_mem_map_toLower rfl
  have hword : ∀ word : List Char, 'n' ∈ word → (splitSign w).2.map Char.toLower ≠ word := by
    rintro word hmem rfl
    exact hn hmem
  have habs : (if (splitSign w).1 then -(digitsValue (splitSign w).2 : Int)
      else digitsValue (splitSign w).2).natAbs = digitsValue (splitSign w).2 := by
    split
    · rw [Int.natAbs_neg, Int.natAbs_natCast]
    · rw [Int.natAbs_natCast]
  refine ⟨(splitSign w).1, ?_⟩
  simp only [readReal?, hword "inf".toList (by decide), hword "infinity".toList (by decide),
    hword "nan".toList (by decide), or_self, if_false, hds.readUnsigned?, habs]

theorem isFinite_of_readInt64? {w : List Char} {i : Int} {x : Binary64}
    (h : readInt64? w = some i) (hx : readReal? w = some x) : x.isFinite = true := by
  obtain ⟨hw, hlow, hhigh⟩ := readInt64?_eq_some.mp h
  obtain ⟨negative, hreal⟩ := readReal?_of_writes hw
  cases hreal.symm.trans hx
  apply Binary64.isFinite_whole
  by_cases hzero : i.natAbs = 0
  · rw [hzero]
    decide
  · have hbits : i.natAbs < 2 ^ 64 := by omega
    have hlog := (Nat.log2_lt hzero).mpr hbits
    omega

def unboundedWords : List (List Char) := ["inf".toList, "infinity".toList, "nan".toList]

theorem exists_readReal?_word {sign word : List Char} (hsign : sign ∈ [[], ['+'], ['-']])
    (hword : word.map Char.toLower ∈ unboundedWords) :
    ∃ x, readReal? (sign ++ word) = some x ∧ x.isFinite = false := by
  have hhead : ∀ c, c.toLower = c → (∀ w ∈ unboundedWords, w.head? ≠ some c) →
      word.head? ≠ some c := by
    intro c hc hwords hhead
    apply hwords _ hword
    rw [List.head?_map, hhead, Option.map_some, hc]
  have hplain := splitSign_of_head (hhead '-' rfl (by decide)) (hhead '+' rfl (by decide))
  have hsplit : ∃ negative, splitSign (sign ++ word) = (negative, word) := by
    simp only [List.mem_cons, List.not_mem_nil, or_false] at hsign
    rcases hsign with rfl | rfl | rfl
    · exact ⟨false, hplain⟩
    · exact ⟨false, rfl⟩
    · exact ⟨true, rfl⟩
  obtain ⟨negative, hsplit⟩ := hsplit
  simp only [readReal?, hsplit]
  simp only [unboundedWords, List.mem_cons, List.not_mem_nil, or_false] at hword
  rcases hword with hinf | hinfinity | hnan
  · rw [if_pos (.inl hinf)]
    exact ⟨_, rfl, Binary64.not_isFinite_infinity negative⟩
  · rw [if_pos (.inr hinfinity)]
    exact ⟨_, rfl, Binary64.not_isFinite_infinity negative⟩
  · rw [hnan, if_neg (by decide), if_pos rfl]
    exact ⟨_, rfl, by decide⟩

end Listing
