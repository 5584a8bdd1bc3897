import Mathlib.Data.Nat.Digits.Lemmas
import Mathlib.Tactic.Ring
import Listing.Database.Cell
import Listing.Proofs.Numerals

/-!
Decimals that are whole numbers. The groups that a decimal arrives in are its digits to the base of
ten thousand, and none of them is lost as they are added up and take the places of the decimal.
-/
namespace Listing

theorem foldl_digits_lt {ds : List Char} (h : ∀ d ∈ ds, d.isDigit = true) (a : Nat) :
    ds.foldl (fun n c => 10 * n + (c.toNat - '0'.toNat)) a < (a + 1) * 10 ^ ds.length := by
  induction ds generalizing a with
  | nil => simp
  | cons d ds ih =>
    obtain ⟨hd, hds⟩ := List.forall_mem_cons.mp h
    have hstep : 10 * a + (d.toNat - '0'.toNat) + 1 ≤ (a + 1) * 10 := by
      have hnine : d.toNat ≤ 57 := (Char.isDigit_iff_toNat.mp hd).2
      have hzero : '0'.toNat = 48 := rfl
      omega
    calc ds.foldl (fun n c => 10 * n + (c.toNat - '0'.toNat)) (10 * a + (d.toNat - '0'.toNat))
        < (10 * a + (d.toNat - '0'.toNat) + 1) * 10 ^ ds.length := ih hds _
      _ ≤ (a + 1) * 10 * 10 ^ ds.length := Nat.mul_le_mul_right _ hstep
      _ = (a + 1) * 10 ^ (ds.length + 1) := by ring

theorem digitsValue_lt {ds : List Char} (h : ∀ d ∈ ds, d.isDigit = true) :
    digitsValue ds < 10 ^ ds.length := by
  simpa [digitsValue] using foldl_digits_lt h 0

theorem digitsValue_zeros (ds : List Char) (k : Nat) :
    digitsValue (ds ++ List.replicate k '0') = digitsValue ds * 10 ^ k := by
  induction k with
  | zero => simp
  | succ k ih =>
    have hlast : digitsValue (ds ++ List.replicate (k + 1) '0') =
        10 * digitsValue (ds ++ List.replicate k '0') := by
      rw [List.replicate_succ', ← List.append_assoc, digitsValue, List.foldl_append]
      rfl
    rw [hlast, ih]
    ring

namespace Decimal96

theorem digits_of_groups {n count : Nat} (h : n < 10000 ^ count) :
    (groupsOf n count).dropWhile (· == 0) = (Nat.digits 10000 n).reverse := by
  induction count generalizing n with
  | zero =>
    obtain rfl : n = 0 := by simpa using h
    rfl
  | succ count ih =>
    have hdiv : n / 10000 < 10000 ^ count := by
      rw [Nat.div_lt_iff_lt_mul (by decide)]
      rwa [Nat.pow_succ] at h
    rw [groupsOf, List.dropWhile_append, ih hdiv]
    by_cases hzero : n = 0
    · subst hzero
      rfl
    · rw [Nat.digits_def' (by decide) (Nat.pos_of_ne_zero hzero), List.reverse_cons]
      by_cases hlast : n / 10000 = 0
      · have hmod : n % 10000 ≠ 0 := by omega
        simp [hlast, hmod]
      · have hne : Nat.digits 10000 (n / 10000) ≠ [] := Nat.digits_ne_nil_iff_ne_zero.mpr hlast
        simp [hne]

theorem add?_whole {a b : Nat} (h : a + b < limit) : add? ⟨a, 0⟩ ⟨b, 0⟩ = some ⟨a + b, 0⟩ := by
  have hexact : Binary64.divEven (a + b) 1 = a + b := by
    simp [Binary64.divEven, Nat.mod_one]
  simp [add?, fitFrom, hexact, h]

theorem group?_whole {g w : Nat} (hw : w ≤ 7) (h : g * 10000 ^ w < limit) :
    group? g w = some ⟨g * 10000 ^ w, 0⟩ := by
  have hrange : ¬ ((w : Int) < -7 ∨ (7 : Int) < w) := by omega
  rw [group?, if_neg hrange, if_pos (Int.natCast_nonneg w), Int.toNat_natCast, Nat.pow_eq,
    if_pos h]

theorem sumFrom_whole {gs : List Nat} {k a : Nat} (hlength : gs.length + k ≤ 8)
    (h : a + Nat.ofDigits 10000 gs.reverse * 10000 ^ k < limit) :
    sumFrom ⟨a, 0⟩ ((gs.length : Int) - 1 + k) gs =
      some ⟨a + Nat.ofDigits 10000 gs.reverse * 10000 ^ k, 0⟩ := by
  induction gs generalizing a with
  | nil => simp [sumFrom]
  | cons g gs ih =>
    have hvalue : Nat.ofDigits 10000 (g :: gs).reverse * 10000 ^ k =
        g * 10000 ^ (gs.length + k) + Nat.ofDigits 10000 gs.reverse * 10000 ^ k := by
      rw [List.reverse_cons, Nat.ofDigits_append, Nat.ofDigits_singleton, List.length_reverse]
      ring
    rw [List.length_cons] at hlength
    rw [hvalue, ← Nat.add_assoc] at h ⊢
    have hweight : (((g :: gs).length : Int) - 1 + k) = ((gs.length + k : Nat) : Int) := by
      rw [List.length_cons]
      omega
    have hgroup : group? g ((gs.length + k : Nat) : Int) = some ⟨g * 10000 ^ (gs.length + k), 0⟩ :=
      group?_whole (by omega) (by omega)
    have hadd : add? ⟨a, 0⟩ ⟨g * 10000 ^ (gs.length + k), 0⟩ =
        some ⟨a + g * 10000 ^ (gs.length + k), 0⟩ := add?_whole (by omega)
    have hnext : (((gs.length + k : Nat) : Int) - 1) = (gs.length : Int) - 1 + k := by omega
    rw [sumFrom, hweight, hgroup, Option.bind_eq_bind, Option.bind_some, hadd, Option.bind_some,
      hnext]
    exact ih (by omega) h

theorem ofDigits_drop_zeros (ds : List Nat) :
    Nat.ofDigits 10000 (ds.drop (ds.takeWhile (· == 0)).length) *
      10000 ^ (ds.takeWhile (· == 0)).length = Nat.ofDigits 10000 ds := by
  induction ds with
  | nil => rfl
  | cons d ds ih =>
    by_cases hd : d = 0
    · subst hd
      rw [List.takeWhile_cons_of_pos rfl, List.length_cons, List.drop_succ_cons, Nat.ofDigits_cons,
        ← ih]
      ring
    · rw [List.takeWhile_cons_of_neg (by simpa using hd), List.length_nil, List.drop_zero,
        Nat.pow_zero, Nat.mul_one]

theorem sumFrom_padded {ds : List Nat} (hlength : ds.length ≤ 8)
    (h : Nat.ofDigits 10000 ds < limit) (depth : Nat) :
    sumFrom ⟨0, 0⟩ (((List.replicate depth 0 ++ ds).length : Int) - 1 - depth)
      ((List.replicate depth 0 ++ ds).reverse.take ((List.replicate depth 0 ++ ds).length -
        ((List.replicate depth 0 ++ ds).takeWhile (· == 0)).length)) =
      some ⟨Nat.ofDigits 10000 ds, 0⟩ := by
  -- the zeros to drop are those behind the point and the last ones of the number
  have htrailing : ((List.replicate depth 0 ++ ds).takeWhile (· == 0)).length =
      depth + (ds.takeWhile (· == 0)).length := by
    rw [List.takeWhile_append_of_pos (by simp), List.length_append, List.length_replicate]
  have hvalue := ofDigits_drop_zeros ds
  have hzeros := (List.takeWhile_sublist (· == 0) (l := ds)).length_le
  rw [htrailing, List.length_append, List.length_replicate]
  generalize (ds.takeWhile (· == 0)).length = zeros at hvalue hzeros
  have hkept : (List.replicate depth 0 ++ ds).reverse.take
      (depth + ds.length - (depth + zeros)) = (ds.drop zeros).reverse := by
    have hdrop : depth + ds.length - (depth + ds.length - (depth + zeros)) = depth + zeros := by
      omega
    rw [List.take_reverse, List.length_append, List.length_replicate, hdrop, ← List.drop_drop,
      List.drop_left' List.length_replicate]
  have hdropped : (ds.drop zeros).reverse.length = ds.length - zeros := by
    rw [List.length_reverse, List.length_drop]
  have hweight : ((depth + ds.length : Nat) : Int) - 1 - depth =
      ((ds.drop zeros).reverse.length : Int) - 1 + zeros := by
    omega
  have hsum : 0 + Nat.ofDigits 10000 (ds.drop zeros).reverse.reverse * 10000 ^ zeros =
      Nat.ofDigits 10000 ds := by
    rw [List.reverse_reverse, hvalue, Nat.zero_add]
  rw [hkept, hweight, sumFrom_whole (by omega) (hsum.trans_lt h), hsum]

theorem ofGroups?_whole {n depth count : Nat} (h : n < 10000 ^ count) (hn : n < 2 ^ 64) :
    ofGroups? (groupsOf (n * 10000 ^ depth) (depth + count)) depth = some ⟨n, 0⟩ := by
  have hcount : n * 10000 ^ depth < 10000 ^ (depth + count) := by
    rw [Nat.pow_add, Nat.mul_comm]
    exact Nat.mul_lt_mul_of_pos_left h (Nat.pow_pos (by decide))
  rw [ofGroups?, digits_of_groups hcount]
  by_cases hzero : n = 0
  · subst hzero
    rw [Nat.zero_mul, Nat.digits_zero]
    rfl
  · have hlength : (Nat.digits 10000 n).length ≤ 5 :=
      (Nat.digits_length_le_iff (by decide) n).mpr (by omega)
    have hlimit : Nat.ofDigits 10000 (Nat.digits 10000 n) < limit := by
      rw [Nat.ofDigits_digits]
      exact hn.trans (by decide)
    have hsum := sumFrom_padded (by omega) hlimit depth
    rw [Nat.ofDigits_digits] at hsum
    rw [Nat.mul_comm n, Nat.digits_base_pow_mul (by decide) (Nat.pos_of_ne_zero hzero)]
    simpa only [List.length_reverse, List.reverse_reverse] using hsum

theorem extend_value {n : Nat} {x : Decimal96} (h : x.coefficient = n * 10 ^ x.places) (k : Nat) :
    (x.extend k).coefficient = n * 10 ^ (x.extend k).places := by
  induction k generalizing x with
  | zero => exact h
  | succ k ih =>
    rw [extend]
    split
    · apply ih
      rw [h]
      ring
    · exact h

theorem ofDigits?_whole {whole : List Char} (hwhole : ∀ d ∈ whole, d.isDigit = true)
    (hvalue : digitsValue whole < 2 ^ 64) (k : Nat) : ∃ x,
    ofDigits? whole (List.replicate k '0') = some x ∧
      x.coefficient = digitsValue whole * 10 ^ x.places := by
  have hn : digitsValue (whole ++ List.replicate k '0') * Nat.pow 10 (4 * ((k + 3) / 4) - k) =
      digitsValue whole * 10000 ^ ((k + 3) / 4) := by
    have hbase : (10000 : Nat) = 10 ^ 4 := rfl
    rw [digitsValue_zeros, Nat.pow_eq, Nat.mul_assoc, ← Nat.pow_add, hbase, ← Nat.pow_mul]
    congr 2
    omega
  have hcount : digitsValue whole < 10000 ^ ((whole.length + 3) / 4) := by
    have hbase : (10000 : Nat) = 10 ^ 4 := rfl
    rw [hbase, ← Nat.pow_mul]
    apply Nat.lt_of_lt_of_le (digitsValue_lt hwhole)
    exact Nat.pow_le_pow_right (by decide) (by omega)
  have hwhole : (⟨digitsValue whole, 0⟩ : Decimal96).coefficient = digitsValue whole * 10 ^ 0 :=
    (Nat.mul_one _).symm
  refine ⟨_, ?_, extend_value hwhole k⟩
  rw [ofDigits?]
  simp only [List.length_replicate, hn, ofGroups?_whole hcount hvalue, Option.map_some, rescale]
  rw [if_neg (Nat.not_lt_zero k), Nat.sub_zero]

theorem whole?_eq_some {x : Decimal96} {n : Nat} (h : x.coefficient = n * 10 ^ x.places) :
    x.whole? = some n := by
  have hpos : 0 < 10 ^ x.places := Nat.pow_pos (by decide)
  rw [whole?, h, Nat.pow_eq, Nat.mul_mod_left, if_pos rfl, Nat.mul_div_cancel n hpos]

end Decimal96

end Listing
