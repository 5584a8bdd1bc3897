import Mathlib
import Listing.Json.Node
import Listing.Request

namespace Listing

namespace Text

def formBytes : List Char → List UInt8
  | [] => []
  | '+' :: s => 0x20 :: formBytes s
  | '%' :: a :: b :: s => match Node.hexValue? a, Node.hexValue? b with
    | some x, some y => UInt8.ofNat (16 * x + y) :: formBytes s
    | _, _ => String.utf8EncodeChar '%' ++ formBytes (a :: b :: s)
  | c :: s => String.utf8EncodeChar c ++ formBytes s

def formText? (s : List Char) : Option String := String.fromUTF8? (formBytes s).toByteArray

def formPair? (s : List Char) : Option (String × String) := do
  let name ← formText? (s.takeWhile (· ≠ '='))
  let value ← formText? ((s.dropWhile (· ≠ '=')).drop 1)
  some (name, value)

def formDecode? (s : List Char) : Option (List (String × String)) :=
  ((s.splitOn '&').filter (!·.isEmpty)).mapM formPair?

def isFormChar (c : Char) : Bool := c.isAlphanum || ['*', '-', '.', '_', '+', '%'].contains c

theorem formBytes_cons {c : Char} (hplus : c ≠ '+') (hpercent : c ≠ '%') (s : List Char) :
    formBytes (c :: s) = String.utf8EncodeChar c ++ formBytes s := by
  rw [formBytes.eq_def]
  split
  · rename_i h
    cases h
  · rename_i h
    cases h
    contradiction
  · rename_i h
    cases h
    contradiction
  · rename_i h
    cases h
    rfl

theorem upperHexDigit_spec : ∀ n < 16, Node.hexValue? (upperHexDigit n) = some n ∧
    isFormChar (upperHexDigit n) = true := by decide

theorem formSafe_spec : ∀ n < 256, isFormSafe (UInt8.ofNat n) = true →
    isFormChar (Char.ofNat n) = true ∧ Char.ofNat n ≠ '+' ∧ Char.ofNat n ≠ '%' ∧
    String.utf8EncodeChar (Char.ofNat n) = [UInt8.ofNat n] := by decide +kernel

theorem formBytes_formByte (b : UInt8) (s : List Char) :
    formBytes (formByte b ++ s) = b :: formBytes s := by
  have hb := b.toNat_lt
  unfold formByte
  split_ifs with hsafe hspace
  · obtain ⟨-, hplus, hpercent, hbyte⟩ := formSafe_spec b.toNat hb (by simpa using hsafe)
    rw [List.singleton_append, formBytes_cons hplus hpercent, hbyte, UInt8.ofNat_toNat]
    rfl
  · rw [hspace]
    rfl
  · have hhigh := (upperHexDigit_spec (b.toNat / 16) (by omega)).1
    have hlow := (upperHexDigit_spec (b.toNat % 16) (by omega)).1
    have hvalue : 16 * (b.toNat / 16) + b.toNat % 16 = b.toNat := Nat.div_add_mod _ _
    simp only [List.cons_append, List.nil_append, formBytes, hhigh, hlow, hvalue,
      UInt8.ofNat_toNat]

theorem isFormChar_formByte (b : UInt8) : ∀ c ∈ formByte b, isFormChar c = true := by
  have hb := b.toNat_lt
  unfold formByte
  split_ifs with hsafe hspace
  · intro c hc
    rw [List.mem_singleton.mp hc]
    exact (formSafe_spec b.toNat hb (by simpa using hsafe)).1
  · exact List.forall_mem_singleton.mpr (by decide)
  · have hhigh := (upperHexDigit_spec (b.toNat / 16) (by omega)).2
    have hlow := (upperHexDigit_spec (b.toNat % 16) (by omega)).2
    simp only [List.forall_mem_cons, hhigh, hlow, List.not_mem_nil, false_implies, implies_true,
      and_true]
    decide

theorem formBytes_formEncode (s : List Char) : formBytes (formEncode s) = utf8 s := by
  rw [formEncode]
  generalize utf8 s = bytes
  induction bytes with
  | nil => rfl
  | cons b bytes ih => rw [List.flatMap_cons, formBytes_formByte, ih]

theorem formText?_formEncode (t : String) : formText? (formEncode t.toList) = some t := by
  have hbytes : (utf8 t.toList).toByteArray = t.toByteArray := by
    have hlist := String.toByteArray_ofList (l := t.toList)
    rw [String.ofList_toList] at hlist
    exact hlist.symm
  rw [formText?, formBytes_formEncode, hbytes, String.fromUTF8?, dif_pos t.isValidUTF8]
  rfl

theorem isFormChar_formEncode (s : List Char) : ∀ c ∈ formEncode s, isFormChar c = true := by
  intro c hc
  obtain ⟨b, -, hb⟩ := List.mem_flatMap.mp hc
  exact isFormChar_formByte b c hb

def formPair (p : String × String) : List Char :=
  formEncode p.1.toList ++ '=' :: formEncode p.2.toList

theorem not_mem_formEncode {c : Char} (h : isFormChar c = false) (s : List Char) :
    c ∉ formEncode s := by
  intro hc
  rw [isFormChar_formEncode s c hc] at h
  cases h

theorem formPair?_formPair (p : String × String) : formPair? (formPair p) = some p := by
  have hname : ∀ c ∈ formEncode p.1.toList, decide (c ≠ '=') = true := by
    intro c hc
    rw [decide_eq_true_iff]
    rintro rfl
    exact not_mem_formEncode (by decide) _ hc
  have htake : (formPair p).takeWhile (· ≠ '=') = formEncode p.1.toList := by
    rw [formPair, List.takeWhile_append_of_pos hname, List.takeWhile_cons_of_neg (by decide),
      List.append_nil]
  have hdrop : (formPair p).dropWhile (· ≠ '=') = '=' :: formEncode p.2.toList := by
    rw [formPair, List.dropWhile_append_of_pos hname, List.dropWhile_cons_of_neg (by decide)]
  rw [formPair?, htake, hdrop, List.drop_one, List.tail_cons, formText?_formEncode,
    formText?_formEncode]
  rfl

theorem formDecode?_formPairs (pairs : List (String × String)) :
    formDecode? (formPairs pairs).toList = some pairs := by
  have hpairs : (formPairs pairs).toList = List.intercalate ['&'] (pairs.map formPair) :=
    String.toList_ofList
  have hmark : ∀ s ∈ pairs.map formPair, '&' ∉ s := by
    intro s hs hmem
    obtain ⟨p, -, rfl⟩ := List.mem_map.mp hs
    rw [formPair, List.mem_append, List.mem_cons] at hmem
    rcases hmem with hmem | heq | hmem
    · exact not_mem_formEncode (by decide) _ hmem
    · cases heq
    · exact not_mem_formEncode (by decide) _ hmem
  have hread : (pairs.map formPair).mapM formPair? = some pairs := by
    clear hpairs hmark
    induction pairs with
    | nil => rfl
    | cons p pairs ih =>
      rw [List.map_cons, List.mapM_cons, formPair?_formPair, ih]
      rfl
  have hkeep : (pairs.map formPair).filter (!·.isEmpty) = pairs.map formPair := by
    rw [List.filter_eq_self]
    intro s hs
    obtain ⟨p, -, rfl⟩ := List.mem_map.mp hs
    simp [formPair]
  cases pairs with
  | nil => rfl
  | cons p pairs =>
    rw [formDecode?, hpairs, List.splitOn_intercalate '&' hmark (by simp), hkeep, hread]

theorem formPairs_chars (pairs : List (String × String)) :
    ∀ c ∈ (formPairs pairs).toList, isFormChar c = true ∨ c = '&' ∨ c = '=' := by
  have hpair : ∀ s ∈ pairs.map formPair, ∀ c ∈ s, isFormChar c = true ∨ c = '&' ∨ c = '=' := by
    intro s hs c hc
    obtain ⟨p, -, rfl⟩ := List.mem_map.mp hs
    rw [formPair, List.mem_append, List.mem_cons] at hc
    rcases hc with hc | rfl | hc
    · exact .inl (isFormChar_formEncode _ c hc)
    · exact .inr (.inr rfl)
    · exact .inl (isFormChar_formEncode _ c hc)
  intro c hc
  have hmem : c ∈ List.intercalate ['&'] (pairs.map formPair) := by
    rwa [formPairs, String.toList_ofList] at hc
  generalize pairs.map formPair = texts at hpair hmem
  induction texts with
  | nil => cases hmem
  | cons s texts ih =>
    have hrest := ih fun t ht => hpair t (List.mem_cons_of_mem s ht)
    cases texts with
    | nil =>
      rw [List.intercalate_singleton] at hmem
      exact hpair s List.mem_cons_self c hmem
    | cons t texts =>
      rw [List.intercalate_cons_cons, List.mem_append, List.mem_append] at hmem
      rcases hmem with (hmem | hmem) | hmem
      · exact hpair s List.mem_cons_self c hmem
      · exact .inr (.inl (List.mem_singleton.mp hmem))
      · exact hrest hmem

end Text

namespace Request

def linkPairs (r : Request) : List (String × String) :=
  [("limit", toString r.limit.toNat), ("page", toString r.page.toNat)] ++
    if r.search = "" then [] else [("search", r.search)]

theorem link_eq (r : Request) : r.link = "?" ++ Text.formPairs r.linkPairs := by
  rw [link, linkPairs]
  by_cases h : r.search = "" <;> simp [h]

theorem linkPairs_inj {r r' : Request} : r.linkPairs = r'.linkPairs ↔
    r.limit = r'.limit ∧ r.page = r'.page ∧ r.search = r'.search := by
  constructor
  · intro h
    simp only [linkPairs, List.cons_append, List.nil_append, List.cons.injEq, Prod.mk.injEq,
      true_and] at h
    obtain ⟨hlimit, hpage, hsearch⟩ := h
    -- `Std.Data.String.ToNat`, where decimals are read back, comes with the whole of Mathlib only
    refine ⟨UInt64.toNat_inj.mp (Nat.repr_injective hlimit),
      UInt64.toNat_inj.mp (Nat.repr_injective hpage), ?_⟩
    split_ifs at hsearch with h₁ h₂ h₂
    · rw [h₁, h₂]
    · simpa using hsearch
  · rintro ⟨hlimit, hpage, hsearch⟩
    rw [linkPairs, linkPairs, hlimit, hpage, hsearch]

theorem link_lossless (r : Request) :
    (∃ query, r.link.toList = '?' :: query ∧
      (∀ c ∈ query, Text.isFormChar c = true ∨ c = '&' ∨ c = '=') ∧
      Text.formDecode? query = some r.linkPairs) ∧
    (toString r.limit.toNat).toNat? = some r.limit.toNat ∧
    (toString r.page.toNat).toNat? = some r.page.toNat ∧
    ∀ r' : Request, r.link = r'.link ↔
      r.limit = r'.limit ∧ r.page = r'.page ∧ r.search = r'.search := by
  have hquery : ∀ r : Request, r.link.toList = '?' :: (Text.formPairs r.linkPairs).toList := by
    intro r
    rw [link_eq, String.toList_append]
    rfl
  refine ⟨⟨_, hquery r, Text.formPairs_chars _, Text.formDecode?_formPairs _⟩,
    Nat.toNat?_repr _, Nat.toNat?_repr _, fun r' => ?_⟩
  rw [← linkPairs_inj]
  constructor
  · intro h
    have hlist := congrArg String.toList h
    rw [hquery, hquery, List.cons.injEq] at hlist
    have hdecode := congrArg Text.formDecode? hlist.2
    rwa [Text.formDecode?_formPairs, Text.formDecode?_formPairs, Option.some.injEq] at hdecode
  · intro h
    rw [link_eq, link_eq, h]

end Request
end Listing
