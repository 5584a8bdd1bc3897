import Listing.Proofs.RowObjects
import Mathlib.Algebra.Order.Floor.Div

namespace Listing

theorem checkedMul?_some {a b n : UInt64} (h : checkedMul? a b = some n) :
    n.toNat = a.toNat * b.toNat := by
  rw [checkedMul?] at h
  split at h
  · rename_i hlt
    rw [← Option.some.inj h, UInt64.toNat_mul]
    exact Nat.mod_eq_of_lt hlt
  · cases h

theorem checkedMul?_none {a b : UInt64} (h : checkedMul? a b = none) :
    UInt64.size ≤ a.toNat * b.toNat := by
  rw [checkedMul?] at h
  split at h
  · cases h
  · rename_i hlt
    exact Nat.le_of_not_lt hlt

theorem toNat_saturatingMul (a b : UInt64) :
    (saturatingMul a b).toNat = min (a.toNat * b.toNat) (UInt64.size - 1) := by
  rw [saturatingMul]
  cases h : checkedMul? a b with
  | none =>
    have hle := checkedMul?_none h
    rw [Nat.min_eq_right (by omega)]
    rfl
  | some n =>
    have hn := checkedMul?_some h
    have hlt := n.toNat_lt_size
    rw [← hn, Nat.min_eq_left (by omega)]
    rfl

def pageStart (limit page : Nat) : Nat := limit * (page - 1)

def pageStop (limit page size : Nat) : Nat := min (limit * page) size

def HasPage (limit page size : Nat) : Prop :=
  1 ≤ page ∧ pageStart limit page < pageStop limit page size

instance (limit page size : Nat) : Decidable (HasPage limit page size) :=
  inferInstanceAs (Decidable (_ ∧ _))

/-- No product that overflows decides on a page of a list whose positions are numbers of 64 bits. -/
theorem pageBounds?_eq (limit page : UInt64) {size : Nat} (h : size < UInt64.size) :
    pageBounds? limit page size =
      if HasPage limit.toNat page.toNat size then
        some (pageStart limit.toNat page.toNat, pageStop limit.toNat page.toNat size)
      else none := by
  have hstop : min (saturatingMul limit page).toNat size =
      pageStop limit.toNat page.toNat size := by
    rw [toNat_saturatingMul, Nat.min_assoc, Nat.min_eq_right (a := UInt64.size - 1) (by omega)]
    rfl
  rw [pageBounds?, hstop]
  by_cases hpage : page = 0
  · subst hpage
    rw [if_pos rfl, if_neg (fun hhas => absurd hhas.1 (by decide))]
    rfl
  · have hone : 1 ≤ page.toNat := by
      have hne : page.toNat ≠ 0 := fun h0 => hpage (UInt64.toNat_inj.mp h0)
      omega
    have hpred : (page - 1).toNat = page.toNat - 1 :=
      UInt64.toNat_sub_of_le page 1 (UInt64.le_iff_toNat_le.mpr hone)
    rw [if_neg hpage]
    cases hstart : checkedMul? (page - 1) limit with
    | none =>
      have hover := checkedMul?_none hstart
      rw [hpred, Nat.mul_comm] at hover
      have hempty : ¬ HasPage limit.toNat page.toNat size := by
        rintro ⟨-, hlt⟩
        rw [pageStart, pageStop] at hlt
        omega
      rw [if_neg hempty]
      rfl
    | some start =>
      have hstart := checkedMul?_some hstart
      rw [hpred, Nat.mul_comm] at hstart
      have hhas : HasPage limit.toNat page.toNat size ↔
          start.toNat < pageStop limit.toNat page.toNat size := by
        rw [HasPage, hstart]
        exact and_iff_right hone
      simp only [hhas, ← hstart, pageStart, bind, Option.bind]

theorem take_append_extract {α : Type} (xs : List α) {a b : Nat} (h : a ≤ b) :
    xs.take a ++ xs.extract a b = xs.take b := by
  rw [List.extract_eq_take_drop, ← List.drop_take]
  have hprefix : (xs.take b).take a = xs.take a := by
    rw [List.take_take, Nat.min_eq_left h]
  rw [← hprefix]
  exact List.take_append_drop a (xs.take b)

theorem extract_pageStop {α : Type} (xs : List α) (limit page : Nat) :
    xs.extract (pageStart limit page) (pageStop limit page xs.length) =
      xs.extract (pageStart limit page) (limit * page) := by
  have hsame : xs.take (pageStop limit page xs.length) = xs.take (limit * page) := by
    rw [pageStop, ← List.take_eq_take_min]
  rw [List.extract_eq_take_drop, List.extract_eq_take_drop, ← List.drop_take, ← List.drop_take,
    hsame]

theorem flatten_pages {α : Type} (xs : List α) (limit n : Nat) :
    ((List.range' 1 n).map fun page =>
      xs.extract (pageStart limit page) (pageStop limit page xs.length)).flatten =
        xs.take (limit * n) := by
  induction n with
  | zero => simp
  | succ n ih =>
    have hle : limit * n ≤ limit * (n + 1) := Nat.mul_le_mul_left limit (Nat.le_succ n)
    rw [List.range'_concat, List.map_append, List.flatten_append, ih, List.map_singleton,
      List.flatten_singleton, extract_pageStop]
    simp only [pageStart, Nat.one_mul, Nat.add_comm 1 n]
    exact take_append_extract xs hle

theorem hasPage_iff {limit : Nat} (hlimit : 0 < limit) (page size : Nat) :
    HasPage limit page size ↔ 1 ≤ page ∧ page ≤ size ⌈/⌉ limit := by
  have hceil : size ⌈/⌉ limit ≤ page - 1 ↔ size ≤ pageStart limit page :=
    ceilDiv_le_iff_le_mul hlimit
  rw [HasPage, pageStop, Nat.lt_min]
  constructor
  · rintro ⟨hone, -, hlt⟩
    refine ⟨hone, ?_⟩
    by_contra hpast
    have hle := hceil.mp (by omega)
    omega
  · rintro ⟨hone, hle⟩
    have hlt : pageStart limit page < size := by
      by_contra hpast
      have hle' := hceil.mpr (Nat.le_of_not_lt hpast)
      omega
    exact ⟨hone, Nat.mul_lt_mul_of_pos_left (by omega) hlimit, hlt⟩

theorem existsUnique_page {limit size k : Nat} (hlimit : 0 < limit) (hk : k < size) :
    ∃! page, HasPage limit page size ∧ pageStart limit page ≤ k ∧ k < pageStop limit page size := by
  have hdiv : limit * (k / limit) ≤ k := Nat.mul_div_le k limit
  have hnext : k < limit * (k / limit + 1) := Nat.lt_mul_div_succ k hlimit
  refine ⟨k / limit + 1, ⟨⟨Nat.le_add_left 1 _, ?_⟩, ?_, ?_⟩, ?_⟩
  · rw [pageStart, pageStop, Nat.add_sub_cancel, Nat.lt_min]
    omega
  · rw [pageStart, Nat.add_sub_cancel]
    exact hdiv
  · rw [pageStop, Nat.lt_min]
    exact ⟨hnext, hk⟩
  · rintro page ⟨⟨hone, -⟩, hstart, hstop⟩
    rw [pageStop, Nat.lt_min] at hstop
    have hfrom : page - 1 ≤ k / limit := (Nat.le_div_iff_mul_le hlimit).mpr (by
      rw [Nat.mul_comm]
      exact hstart)
    have hto : k / limit < page := (Nat.div_lt_iff_lt_mul hlimit).mpr (by
      rw [Nat.mul_comm]
      exact hstop.1)
    omega

namespace Session

variable {Id Model : Type} {s : Session Id Model} {ids : List Id}

def limit (s : Session Id Model) : Nat := s.request.limit.toNat

def pageNumber (s : Session Id Model) : Nat := s.request.page.toNat

def turnTo (s : Session Id Model) (page : UInt64) : Session Id Model :=
  { s with request := { s.request with page := page } }

@[simp] theorem limit_turnTo (page : UInt64) : (s.turnTo page).limit = s.limit := rfl

@[simp] theorem pageNumber_turnTo (page : UInt64) : (s.turnTo page).pageNumber = page.toNat := rfl

def pageOf (s : Session Id Model) (ids : List Id) : List Id :=
  ids.extract (pageStart s.limit s.pageNumber) (pageStop s.limit s.pageNumber ids.length)

theorem page_eq (h : ids.length < UInt64.size) : s.page ids =
    if HasPage s.limit s.pageNumber ids.length then .ok (s.pageOf ids)
    else .error .pagination := by
  rw [Session.page, pageBounds?_eq _ _ h, ← limit, ← pageNumber, pageOf]
  by_cases hhas : HasPage s.limit s.pageNumber ids.length
  · rw [if_pos hhas, if_pos hhas, List.extract_eq_take_drop, ← List.drop_take]
  · rw [if_neg hhas, if_neg hhas]

theorem page_of_hasPage (h : ids.length < UInt64.size)
    (hhas : HasPage s.limit s.pageNumber ids.length) : s.page ids = .ok (s.pageOf ids) := by
  rw [page_eq h, if_pos hhas]

theorem exists_page_iff (h : ids.length < UInt64.size) :
    (∃ part, s.page ids = .ok part) ↔ HasPage s.limit s.pageNumber ids.length := by
  rw [page_eq h]
  by_cases hhas : HasPage s.limit s.pageNumber ids.length <;> simp [hhas]

theorem metadata_setResult (s : Session Id Model) (ids : List Id) (rows : List Model) :
    (s.setResult ids rows).metadata =
      ⟨rows.length, s.pageNumber, ids.length, ids.length ⌈/⌉ s.limit⟩ := by
  have htotal : (if s.limit = 0 then 0 else (ids.length + s.limit - 1) / s.limit) =
      ids.length ⌈/⌉ s.limit := by
    by_cases hlimit : s.limit = 0
    · rw [if_pos hlimit, hlimit, ceilDiv_zero]
    · rw [if_neg hlimit, Nat.ceilDiv_eq_add_pred_div]
  rw [← htotal]
  rfl

theorem exists_page_turnTo_iff (h : ids.length < UInt64.size) (hlimit : 0 < s.limit)
    (page : UInt64) : (∃ part, (s.turnTo page).page ids = .ok part) ↔
      1 ≤ page.toNat ∧ page.toNat ≤ ids.length ⌈/⌉ s.limit :=
  (exists_page_iff h).trans (hasPage_iff hlimit page.toNat ids.length)

theorem toNat_ofNat_page (h : ids.length < UInt64.size) (hlimit : 0 < s.limit) {page : Nat}
    (hpage : page ≤ ids.length ⌈/⌉ s.limit) : (UInt64.ofNat page).toNat = page := by
  have hall : ids.length ⌈/⌉ s.limit ≤ ids.length :=
    (ceilDiv_le_iff_le_mul hlimit).mpr (Nat.le_mul_of_pos_left _ hlimit)
  exact UInt64.toNat_ofNat_of_lt' (by omega)

theorem mapM_page (h : ids.length < UInt64.size) (hlimit : 0 < s.limit) :
    ∃ parts, (List.range' 1 (ids.length ⌈/⌉ s.limit)).mapM
      (fun page => (s.turnTo (.ofNat page)).page ids) = .ok parts ∧ parts.flatten = ids := by
  refine ⟨_, mapM_eq_ok.mpr (List.forall₂_map_right_iff.mpr (List.forall₂_same.mpr ?_)),
    (flatten_pages ids s.limit _).trans (List.take_of_length_le ?_)⟩
  · intro page hpage
    obtain ⟨hone, hlt⟩ := List.mem_range'_1.mp hpage
    have hle : page ≤ ids.length ⌈/⌉ s.limit := by omega
    have hhas := (hasPage_iff hlimit page ids.length).mpr ⟨hone, hle⟩
    have hnat : (s.turnTo (.ofNat page)).pageNumber = page := toNat_ofNat_page h hlimit hle
    rw [page_of_hasPage h (by rwa [limit_turnTo, hnat]), pageOf, limit_turnTo, hnat]
  · exact (ceilDiv_le_iff_le_mul hlimit).mp le_rfl

/-- Pages are cut out of a list as if numbers had no bounds. Those that there are number as many as
the session reports, and one after another they are the list, with each position on one of them. -/
theorem pages_partition (h : ids.length < UInt64.size) (s : Session Id Model) :
    (s.page ids = if HasPage s.limit s.pageNumber ids.length then
      .ok (ids.extract (pageStart s.limit s.pageNumber) (pageStop s.limit s.pageNumber ids.length))
      else .error .pagination) ∧
    (∀ start stop, pageBounds? s.request.limit s.request.page ids.length = some (start, stop) →
      start = pageStart s.limit s.pageNumber ∧ stop = pageStop s.limit s.pageNumber ids.length ∧
      start < stop ∧ stop ≤ ids.length) ∧
    (0 < s.limit → ∀ (rows : List Model) (n : Nat),
      (s.setResult ids rows).metadata.totalPage = n →
      (∀ page : UInt64, (∃ part, (s.turnTo page).page ids = .ok part) ↔
        1 ≤ page.toNat ∧ page.toNat ≤ n) ∧
      (∃ parts, (List.range' 1 n).mapM (fun page => (s.turnTo (.ofNat page)).page ids) =
        .ok parts ∧ parts.flatten = ids) ∧
      ∀ k < ids.length, ∃! page, (1 ≤ page ∧ page ≤ n) ∧
        pageStart s.limit page ≤ k ∧ k < pageStop s.limit page ids.length) := by
  refine ⟨page_eq h, fun start stop hbounds => ?_, fun hlimit rows n hn => ?_⟩
  · obtain ⟨hlt, hle⟩ := pageBounds?_some hbounds
    rw [pageBounds?_eq _ _ h] at hbounds
    split at hbounds
    · cases hbounds
      exact ⟨rfl, rfl, hlt, hle⟩
    · cases hbounds
  · rw [metadata_setResult] at hn
    subst hn
    refine ⟨exists_page_turnTo_iff h hlimit, mapM_page h hlimit, fun k hk => ?_⟩
    simp only [← hasPage_iff hlimit]
    exact existsUnique_page hlimit hk

def fiveIds : List Json := [.nat 1, .nat 2, .nat 3, .nat 4, .nat 5]

def thirdPage : Session Json Json := shopSession { limit := 2, page := 3 }

theorem pages_partition_five : fiveIds.length < UInt64.size ∧ 0 < thirdPage.limit ∧
    thirdPage.page fiveIds = .ok [.nat 5] ∧
    (thirdPage.setResult fiveIds []).metadata.totalPage = 3 ∧
    (¬ ∃ part, (thirdPage.turnTo 4).page fiveIds = .ok part) ∧
    ∃ parts, (List.range' 1 3).mapM (fun page => (thirdPage.turnTo (.ofNat page)).page fiveIds) =
      .ok parts ∧ parts.flatten = fiveIds := by
  have h : fiveIds.length < UInt64.size := by decide
  have hlimit : 0 < thirdPage.limit := by decide
  have htotal : (thirdPage.setResult fiveIds []).metadata.totalPage = 3 := by decide
  obtain ⟨hpage, -, hpages⟩ := pages_partition h thirdPage
  obtain ⟨hexists, hparts, -⟩ := hpages hlimit [] 3 htotal
  refine ⟨h, hlimit, hpage, htotal, ?_, hparts⟩
  rw [hexists]
  decide

end Session
end Listing
