import Listing.Proofs.ArgumentKinds
import Listing.Proofs.QueryScope
import Listing.Proofs.WholeDecimals

namespace Listing

def InJson (i : Int) : Prop := -2 ^ 63 ≤ i ∧ i < 2 ^ 64

instance (i : Int) : Decidable (InInt64 i) :=
  inferInstanceAs (Decidable (-2 ^ 63 ≤ i ∧ i < 2 ^ 63))

instance (i : Int) : Decidable (InJson i) :=
  inferInstanceAs (Decidable (-2 ^ 63 ≤ i ∧ i < 2 ^ 64))

theorem InJson.inInt64_iff {i : Int} (h : InJson i) : InInt64 i ↔ i < 2 ^ 63 :=
  and_iff_right h.1

namespace Binary64

/-- The nearest multiple of `2 ^ 11`, counted in these. From `2 ^ 63` to `2 ^ 64` there are no other
whole numbers in double precision. -/
def coarse (i : Int) : Nat := divEven i.toNat (2 ^ 11)

theorem magnitude_of_log2 {num e : Nat} (h : num.log2 = 52 + e) (he : e ≤ 900) :
    magnitude num 1 = (e + 1074) * 2 ^ 52 + divEven num (2 ^ e) := by
  have hinfinity : infinityBits = 2047 * 2 ^ 52 := rfl
  have hne : num ≠ 0 := by
    rintro rfl
    rw [Nat.log2_zero] at h
    omega
  have hmax : max ((num.log2 : Int) - 52) (-1074) = e := by omega
  have hexponent : ((e : Int) + 1074).toNat = e + 1074 := by omega
  have hcut := divEven_cut_le h
  rw [Nat.one_mul, Nat.pow_eq] at hcut
  simp only [magnitude, if_neg hne, floorLog2_one hne, hmax, if_pos (Int.natCast_nonneg e),
    Int.toNat_natCast, hexponent, Nat.one_mul, Nat.pow_eq]
  apply Nat.min_eq_left
  rw [hinfinity]
  omega

theorem withSign_inj {a b : Nat} (ha : a < 2 ^ 64) (hb : b < 2 ^ 64) :
    withSign false a = withSign false b ↔ a = b := by
  have hbits : ∀ n < 2 ^ 64, (withSign false n).bits.toNat = n := by
    intro n hn
    rw [withSign, UInt64.toNat_ofNat', if_neg Bool.false_ne_true, Nat.zero_add]
    exact Nat.mod_eq_of_lt hn
  constructor
  · intro h
    rw [← hbits a ha, h, hbits b hb]
  · rintro rfl
    rfl

section Large

variable {i j : Int}

theorem log2_large (hi : 2 ^ 63 ≤ i) (hi' : i < 2 ^ 64) : i.toNat.log2 = 52 + 11 := by
  rw [Nat.log2_eq_iff (by omega)]
  omega

theorem ofInt_large (hi : 2 ^ 63 ≤ i) (hi' : i < 2 ^ 64) :
    ofInt i = withSign false (1085 * 2 ^ 52 + coarse i) := by
  have hpositive : ¬ i < 0 := by omega
  have habs : i.natAbs = i.toNat := by omega
  rw [ofInt, ofRatio, habs, magnitude_of_log2 (log2_large hi hi') (by decide),
    decide_eq_false hpositive]
  rfl

theorem coarse_le (hi : 2 ^ 63 ≤ i) (hi' : i < 2 ^ 64) : coarse i ≤ 2 ^ 53 := by
  have hcut := divEven_cut_le (log2_large hi hi')
  rwa [Nat.one_mul, Nat.pow_eq] at hcut

theorem ofInt_eq_iff (hi : 2 ^ 63 ≤ i) (hi' : i < 2 ^ 64) (hj : 2 ^ 63 ≤ j) (hj' : j < 2 ^ 64) :
    ofInt i = ofInt j ↔ coarse i = coarse j := by
  have hcoarse := coarse_le hi hi'
  have hcoarse' := coarse_le hj hj'
  rw [ofInt_large hi hi', ofInt_large hj hj', withSign_inj (by omega) (by omega)]
  exact Nat.add_left_cancel_iff

end Large

end Binary64

open Binary64

theorem ofJson_large {i : Int} (h : 2 ^ 63 ≤ i) : Argument.ofJson (.int i) = .real (.ofInt i) := by
  have hpow : Int.pow 2 63 = 2 ^ 63 := rfl
  apply if_neg
  rw [hpow]
  omega

theorem ofJson_int_iff {i : Int} (h : InJson i) :
    Argument.ofJson (.int i) = .int i ↔ i < 2 ^ 63 := by
  by_cases hi : i < 2 ^ 63
  · exact iff_of_true (ofJson_int ⟨h.1, hi⟩) hi
  · rw [ofJson_large (by omega)]
    exact iff_of_false nofun hi

theorem ofJson_int_eq_iff {i j : Int} (hi : InJson i) (hj : InJson j) :
    Argument.ofJson (.int i) = Argument.ofJson (.int j) ↔
      i = j ∨ (2 ^ 63 ≤ i ∧ 2 ^ 63 ≤ j ∧ coarse i = coarse j) := by
  by_cases hlow : i < 2 ^ 63
  · rw [(ofJson_int_iff hi).mpr hlow]
    by_cases hlow' : j < 2 ^ 63
    · rw [(ofJson_int_iff hj).mpr hlow', Argument.int.injEq]
      exact (or_iff_left (by omega)).symm
    · rw [ofJson_large (by omega)]
      exact iff_of_false nofun (by omega)
  · rw [ofJson_large (by omega)]
    by_cases hlow' : j < 2 ^ 63
    · rw [(ofJson_int_iff hj).mpr hlow']
      exact iff_of_false nofun (by omega)
    · rw [ofJson_large (by omega), Argument.real.injEq,
        ofInt_eq_iff (by omega) hi.2 (by omega) hj.2]
      constructor
      · intro hcoarse
        exact .inr ⟨by omega, by omega, hcoarse⟩
      · rintro (rfl | ⟨-, -, hcoarse⟩)
        · rfl
        · exact hcoarse

theorem sent_nodup_iff {ids : List Int} (h : ids.Nodup) (hrange : ∀ i ∈ ids, InJson i) :
    (sentArguments (ids.map Json.int)).Nodup ↔
      ids.Pairwise fun i j => 2 ^ 63 ≤ i → 2 ^ 63 ≤ j → coarse i ≠ coarse j := by
  rw [sentArguments, List.map_map, List.Nodup, List.pairwise_map]
  induction h with
  | nil => exact iff_of_true .nil .nil
  | @cons i ids hi _ ih =>
    obtain ⟨hhead, htail⟩ := List.forall_mem_cons.mp hrange
    rw [List.pairwise_cons, List.pairwise_cons, ih htail]
    apply and_congr_left'
    apply forall₂_congr
    intro j hj
    rw [Function.comp_apply, Function.comp_apply, ne_eq, ofJson_int_eq_iff hhead (htail j hj)]
    have hne := hi j hj
    tauto

def signed (negative : Bool) (n : Nat) : Int := if negative then -(n : Int) else n

theorem Cell.decimalValue_whole {negative : Bool} {x : Decimal96} {n : Nat}
    (hx : x.coefficient = n * 10 ^ x.places) (h : InJson (signed negative n)) :
    decimalValue negative x = if signed negative n < 2 ^ 63 then .int (signed negative n)
      else .real (.withSign negative x.toBinary64.bits.toNat) := by
  have hvalue : decimalValue negative x = if InInt64 (signed negative n) then
      Json.int (signed negative n)
        else Json.real (.withSign negative x.toBinary64.bits.toNat) := by
    rw [decimalValue, Decimal96.whole?_eq_some hx]
    rfl
  rw [hvalue]
  simp only [h.inInt64_iff]

theorem Cell.decimalValue_eq_int_iff {negative : Bool} {x : Decimal96} {n : Nat}
    (hx : x.coefficient = n * 10 ^ x.places) (h : InJson (signed negative n)) :
    decimalValue negative x = .int (signed negative n) ↔ signed negative n < 2 ^ 63 := by
  rw [decimalValue_whole hx h]
  split
  · exact iff_of_true rfl ‹_›
  · exact iff_of_false nofun ‹_›

theorem Cell.value?_eq_decimalValue {negative : Bool} {whole : List Char}
    (hwhole : ∀ d ∈ whole, d.isDigit = true) (h : InJson (signed negative (digitsValue whole)))
    (places : Nat) : ∃ x : Decimal96, x.coefficient = digitsValue whole * 10 ^ x.places ∧
      (numeric negative (some (whole, List.replicate places '0'))).value? =
        some (decimalValue negative x) := by
  have hbound : digitsValue whole < 2 ^ 64 := by
    cases negative with
    | false => exact Int.ofNat_lt.mp h.2
    | true =>
      have hlow : -2 ^ 63 ≤ -(digitsValue whole : Int) := h.1
      omega
  obtain ⟨x, hdigits, hx⟩ := Decimal96.ofDigits?_whole hwhole hbound places
  refine ⟨x, hx, ?_⟩
  rw [value?, hdigits, Option.map_some]

theorem Cell.sent_whole_iff {negative : Bool} {whole : List Char}
    (hwhole : ∀ d ∈ whole, d.isDigit = true) (h : InJson (signed negative (digitsValue whole)))
    (places : Nat) :
    (numeric negative (some (whole, List.replicate places '0'))).value?.map Argument.ofJson =
        some (.int (signed negative (digitsValue whole))) ↔
      signed negative (digitsValue whole) < 2 ^ 63 := by
  obtain ⟨x, hx, hvalue⟩ := value?_eq_decimalValue hwhole h places
  rw [hvalue, Option.map_some, Option.some.injEq, decimalValue_whole hx h]
  split
  · exact iff_of_true (ofJson_int (h.inInt64_iff.mpr ‹_›)) ‹_›
  · exact iff_of_false nofun ‹_›

namespace Session

variable {Model : Type} {c : Catalog} {s : Session Int Model}

/-- Whole numbers below `2 ^ 63` are read from decimals of any scale and sent as ids as what they
are. Larger ones are neither, and two of them are sent as one where the nearest multiple of `2 ^ 11`
is the same. -/
theorem integer_ids_kept_iff {t : Table} (h : Catalog.build t = .ok c) (hs : s.Reachable c)
    (hp : s.isProcessed = true) {fields : List FieldId}
    (hfields : ∃ i ∈ fields, (c.column? i).isSome = true) {idField : FieldId}
    (hf : (c.column? idField).isSome = true) {ids : List Int} (hids : ids.Nodup)
    (hrange : ∀ i ∈ ids, InJson i) :
    (∃ q, (s.select fields).rowQuery (fun i => .ok (.int i)) idField ids = .ok q ∧
      q.arguments = ids.map Json.int ∧
      (∀ i ∈ ids, (Argument.ofJson (.int i) = .int i ↔ i < 2 ^ 63)) ∧
      ((sentArguments q.arguments).Nodup ↔
        ids.Pairwise fun i j => 2 ^ 63 ≤ i → 2 ^ 63 ≤ j → coarse i ≠ coarse j)) ∧
    (∀ (negative : Bool) (x : Decimal96) (n : Nat), x.coefficient = n * 10 ^ x.places →
      InJson (signed negative n) →
      (Cell.decimalValue negative x = .int (signed negative n) ↔ signed negative n < 2 ^ 63)) ∧
    ∀ (negative : Bool) (whole : List Char) (places : Nat), (∀ d ∈ whole, d.isDigit = true) →
      InJson (signed negative (digitsValue whole)) →
      ((Cell.numeric negative (some (whole, List.replicate places '0'))).value?.map
          Argument.ofJson = some (.int (signed negative (digitsValue whole))) ↔
        signed negative (digitsValue whole) < 2 ^ 63) := by
  obtain ⟨root, hready⟩ := hs.ready_select h hp hfields
  obtain ⟨f, hf⟩ := Option.isSome_iff_exists.mp hf
  have hwritten : ids.mapM (fun i => Except.ok (ε := String) (.int i)) = .ok (ids.map Json.int) :=
    List.mapM_pure
  have hquery := rowQuery_ok_iff.mpr ⟨c, root, f, _, hready, hf, hwritten, rfl⟩
  refine ⟨⟨_, hquery, rfl, ?_, sent_nodup_iff hids hrange⟩,
    fun negative x n hx hn => Cell.decimalValue_eq_int_iff hx hn,
    fun negative whole places hwhole hn => Cell.sent_whole_iff hwhole hn places⟩
  intro i hi
  exact ofJson_int_iff (hrange i hi)

def numberedShop : Session Int Json := ((ofCatalog Catalog.shopCatalog).setRequest {}).1

theorem numberedShop_reachable : numberedShop.Reachable Catalog.shopCatalog := .request {} .start

def shopIds : List Int := [7, -9223372036854775808, 9223372036854775808, 9223372036854779904]

theorem integer_ids_kept_iff_shop : numberedShop.isProcessed = true ∧ shopIds.Nodup ∧
    (∀ i ∈ shopIds, InJson i) ∧
    (∃ q, (numberedShop.select [0]).rowQuery (fun i => .ok (.int i)) 0 shopIds = .ok q ∧
      (sentArguments q.arguments).Nodup) ∧
    (Cell.numeric true (some (['4', '2'], List.replicate 3 '0'))).value?.map Argument.ofJson =
      some (.int (-42)) := by
  have hp : numberedShop.isProcessed = true := by decide
  have hf : (Catalog.shopCatalog.column? 0).isSome = true := by decide
  have hids : shopIds.Nodup := by decide
  have hrange : ∀ i ∈ shopIds, InJson i := by decide
  obtain ⟨⟨q, hq, -, -, hsent⟩, -, hcell⟩ := integer_ids_kept_iff Catalog.build_shop
    numberedShop_reachable hp ⟨0, List.mem_singleton_self 0, by decide⟩ hf hids hrange
  exact ⟨hp, hids, hrange, ⟨q, hq, hsent.mpr (by decide)⟩,
    (hcell true ['4', '2'] 3 (by simp) (by decide)).mpr (by decide)⟩

theorem integer_ids_merged_shop : Catalog.build Catalog.shop = .ok Catalog.shopCatalog ∧
    numberedShop.isProcessed = true ∧ [9223372036854775808, 9223372036854775809].Nodup ∧
    (∀ i ∈ [9223372036854775808, 9223372036854775809], InJson i) ∧
    (∃ q, (numberedShop.select [0]).rowQuery (fun i => .ok (.int i)) 0
        [9223372036854775808, 9223372036854775809] = .ok q ∧
      sentArguments q.arguments =
        [.real ⟨0x43E0000000000000⟩, .real ⟨0x43E0000000000000⟩] ∧
      ¬ (sentArguments q.arguments).Nodup) ∧
    Cell.decimalValue false ⟨9223372036854775808, 0⟩ = .real ⟨0x43E0000000000000⟩ ∧
    (Cell.numeric false (some ("9223372036854775808".toList, []))).value? =
      some (.real ⟨0x43E0000000000000⟩) := by
  exact ⟨Catalog.build_shop, by decide, by decide, by decide, ⟨_, rfl, by decide +kernel,
    by decide +kernel⟩, by decide +kernel, by decide +kernel⟩

end Session

end Listing
