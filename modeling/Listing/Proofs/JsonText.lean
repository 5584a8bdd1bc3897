import Mathlib.Data.Nat.Basic
import Listing.Json.Decode

namespace Listing

namespace Json

mutual
def IsExact : Json → Prop
  | .number (.whole i) => -Int.pow 2 63 ≤ i ∧ i < Int.pow 2 64
  | .number (.real _) => False
  | .array items => ItemsExact items
  | .object entries => EntriesExact entries
  | .null | .bool _ | .string _ => True

def ItemsExact : List Json → Prop
  | [] => True
  | x :: xs => x.IsExact ∧ ItemsExact xs

def EntriesExact : List (String × Json) → Prop
  | [] => True
  | (_, x) :: es => x.IsExact ∧ EntriesExact es
end

end Json

namespace Node

def Follows (s : List Char) : Prop := ∀ c ∈ s.head?, c = ',' ∨ c = ']' ∨ c = '\x7d'

theorem follows_cons {c : Char} (h : c = ',' ∨ c = ']' ∨ c = '\x7d') (s : List Char) :
    Follows (c :: s) := by
  intro x hx
  cases hx
  exact h

theorem Follows.not_digit {s : List Char} (h : Follows s) : ∀ c ∈ s.head?, isDigit c = false := by
  intro c hc
  rcases h c hc with rfl | rfl | rfl <;> rfl

theorem hex4?_hexDigits : ∀ n < 0x20, ∃ a b c d, Text.hexDigits 4 n = [a, b, c, d] ∧
    hex4? a b c d = some n := by
  have hall : ∀ n < 0x20, hex4? (Text.hexDigit (n / 16 / 16 / 16 % 16))
      (Text.hexDigit (n / 16 / 16 % 16)) (Text.hexDigit (n / 16 % 16))
      (Text.hexDigit (n % 16)) = some n := by decide
  exact fun n hn => ⟨_, _, _, _, rfl, hall n hn⟩

theorem readUnits_stringChar (c : Char) (s : List Char) : readUnits (Json.stringChar c ++ s) =
    (readUnits s).map fun p => (c.toNat :: p.1, p.2) := by
  have hbind : ∀ n, ((readUnits s).bind fun p => some (n :: p.1, p.2)) =
      (readUnits s).map fun p => (n :: p.1, p.2) := by
    intro n
    cases readUnits s <;> rfl
  unfold Json.stringChar
  split_ifs with h₁ h₂ h₃ h₄ h₅ h₆ h₇ h₈
  · subst h₁
    exact hbind _
  · subst h₂
    exact hbind _
  · subst h₃
    exact hbind _
  · subst h₄
    exact hbind _
  · subst h₅
    exact hbind _
  · subst h₆
    exact hbind _
  · subst h₇
    exact hbind _
  · obtain ⟨a, b, d, e, hd, hx⟩ := hex4?_hexDigits c.toNat h₈
    simp only [hd, List.cons_append, List.nil_append, readUnits, hx, Option.bind_eq_bind,
      Option.bind_some]
    exact hbind _
  · rw [List.singleton_append, readUnits.eq_def]
    split
    · rename_i h
      cases h
    · rename_i h
      cases h
      exact absurd rfl h₁
    · rename_i h
      cases h
      exact absurd rfl h₂
    · rename_i h
      cases h
      exact absurd rfl h₂
    · rename_i h
      cases h
      rw [if_neg (by simp only [h₂, h₈, or_self, not_false_eq_true])]
      exact hbind _

theorem readUnits_chars (cs s : List Char) :
    readUnits (cs.flatMap Json.stringChar ++ '"' :: s) = some (cs.map Char.toNat, s) := by
  induction cs with
  | nil => rfl
  | cons c cs ih =>
    rw [List.flatMap_cons, List.append_assoc, readUnits_stringChar, ih]
    rfl

theorem joinHalves_toNat (cs : List Char) : joinHalves (cs.map Char.toNat) = some cs := by
  induction cs with
  | nil => rfl
  | cons c cs ih =>
    have hc : c.toNat < 0xD800 ∨ 0xDFFF < c.toNat ∧ c.toNat < 0x110000 := c.valid
    have hhigh : isHighHalf c.toNat = false := by
      simp only [isHighHalf, Bool.and_eq_false_iff, decide_eq_false_iff_not]
      omega
    have hlow : isLowHalf c.toNat = false := by
      simp only [isLowHalf, Bool.and_eq_false_iff, decide_eq_false_iff_not]
      omega
    rw [List.map_cons, joinHalves.eq_def]
    simp only [hhigh, hlow, ih, Bool.false_eq_true, if_false, Char.ofNat_toNat, Option.map_some]

theorem readString_text (t : String) (s : List Char) :
    readString (t.toList.flatMap Json.stringChar ++ '"' :: s) = some (some t, s) := by
  rw [readString, readUnits_chars]
  simp [joinHalves_toNat]

theorem isDigit_eq (c : Char) : isDigit c = c.isDigit := by
  simp [isDigit, Char.isDigit, Char.le_def]

theorem isDigit_toDigits {n : Nat} : ∀ c ∈ Nat.toDigits 10 n, isDigit c = true := by
  intro c hc
  rw [isDigit_eq]
  exact Nat.isDigit_of_mem_toDigits (by decide) (by decide) hc

theorem digitsValue_toDigits (n : Nat) : digitsValue (Nat.toDigits 10 n) = n := by
  have hvalue := Nat.ofDigitChars_ten_toDigits (n := n)
  rwa [Nat.ofDigitChars_eq_foldl] at hvalue

theorem toDigits_eq_cons (n : Nat) : ∃ d ds, Nat.toDigits 10 n = d :: ds ∧ isDigit d = true ∧
    (0 < n → d ≠ '0') := by
  induction n using Nat.strongRecOn with
  | ind n ih =>
    rw [Nat.toDigits_eq_if (by decide)]
    split
    · rename_i hlt
      have hall : ∀ m < 10, isDigit (Nat.digitChar m) = true ∧
          (0 < m → Nat.digitChar m ≠ '0') := by decide
      exact ⟨_, [], rfl, hall n hlt⟩
    · obtain ⟨d, ds, hds, hdigit, hzero⟩ := ih (n / 10) (by omega)
      exact ⟨d, _, by rw [hds]; rfl, hdigit, fun _ => hzero (by omega)⟩

theorem readWholePart_toDigits (n : Nat) {s : List Char} (hs : Follows s) :
    readWholePart (Nat.toDigits 10 n ++ s) = some (Nat.toDigits 10 n, s) := by
  have htake : (Nat.toDigits 10 n ++ s).takeWhile isDigit = Nat.toDigits 10 n := by
    rw [List.takeWhile_append_of_pos isDigit_toDigits]
    cases s with
    | nil => simp
    | cons c s => simp [hs.not_digit c rfl]
  have hdrop : (Nat.toDigits 10 n ++ s).dropWhile isDigit = s := by
    rw [List.dropWhile_append_of_pos isDigit_toDigits]
    cases s with
    | nil => simp
    | cons c s => simp [hs.not_digit c rfl]
  rcases Nat.eq_zero_or_pos n with rfl | hn
  · rfl
  · rw [readWholePart.eq_def]
    split
    · rename_i u h
      obtain ⟨d, ds, hds, -, hzero⟩ := toDigits_eq_cons n
      rw [hds] at h
      cases h
      exact absurd rfl (hzero hn)
    · rw [htake, hdrop]
      simp [Nat.toDigits_ne_nil]

theorem readFraction_follows {s : List Char} (hs : Follows s) : readFraction s = some ([], s) := by
  rw [readFraction.eq_def]
  split
  · rcases hs _ rfl with h | h | h <;> cases h
  · rfl

theorem readExponent_follows {s : List Char} (hs : Follows s) :
    readExponent s = some (none, s) := by
  cases s with
  | nil => rfl
  | cons c s => rcases hs c rfl with rfl | rfl | rfl <;> rfl

theorem numberValue_intText {i : Int} (hlow : -Int.pow 2 63 ≤ i) (hhigh : i < Int.pow 2 64) :
    numberValue (decide (i < 0)) (Nat.toDigits 10 i.natAbs) [] none = some (.whole i) := by
  have hnat : Nat.pow 2 63 = 9223372036854775808 ∧ Nat.pow 2 64 = 18446744073709551616 := by decide
  have hint : Int.pow 2 63 = 9223372036854775808 ∧ Int.pow 2 64 = 18446744073709551616 := by decide
  rw [hint.1] at hlow
  rw [hint.2] at hhigh
  rw [numberValue, digitsValue_toDigits, hnat.1, hnat.2]
  by_cases hneg : i < 0
  · have habs : -(i.natAbs : Int) = i := by omega
    rw [if_neg (by simp [hneg]), if_pos (by simp [hneg]; omega), habs]
  · have habs : (i.natAbs : Int) = i := by omega
    rw [if_pos (by simp [hneg]; omega), habs]

theorem readNumber_intText {i : Int} (hlow : -Int.pow 2 63 ≤ i) (hhigh : i < Int.pow 2 64)
    {s : List Char} (hs : Follows s) :
    readNumber (Json.intText i ++ s) = some (.number (some (.whole i)), s) := by
  have hwhole := readWholePart_toDigits i.natAbs hs
  have hnumber := numberValue_intText hlow hhigh
  rw [Json.intText]
  split
  · rename_i hneg
    rw [decide_eq_true hneg] at hnumber
    simp [readNumber, hwhole, readFraction_follows hs, readExponent_follows hs, hnumber]
  · rename_i hneg
    rw [decide_eq_false hneg] at hnumber
    obtain ⟨d, ds, hds, hdigit, -⟩ := toDigits_eq_cons i.natAbs
    have hminus : d ≠ '-' := by
      rintro rfl
      cases hdigit
    have hsign : (d == '-') = false := beq_eq_false_iff_ne.mpr hminus
    rw [hds] at hwhole hnumber ⊢
    rw [List.cons_append] at hwhole ⊢
    simp [readNumber, hsign, hwhole, readFraction_follows hs, readExponent_follows hs,
      hnumber]

theorem number_head_ne {d : Char} (hd : d = '-' ∨ isDigit d = true) :
    ∀ c ∈ ['[', '\x7b', 'n', 't', 'f', '"', ' ', '\n', '\r', '\t', ']'], d ≠ c := by
  have hall : ['[', '\x7b', 'n', 't', 'f', '"', ' ', '\n', '\r', '\t', ']'].all
      (fun c => !(c == '-' || isDigit c)) = true := by decide
  rintro c hc rfl
  have hno := List.all_eq_true.mp hall d hc
  simp only [Bool.not_eq_true', Bool.or_eq_false_iff, beq_eq_false_iff_ne] at hno
  rcases hd with hd | hd
  · exact hno.1 hd
  · rw [hno.2] at hd
    cases hd

theorem readValue_number {d : Char} (hd : d = '-' ∨ isDigit d = true) (n : Nat) (s : List Char) :
    readValue (n + 1) (d :: s) = readNumber (d :: s) := by
  have hne := number_head_ne hd
  simp only [List.forall_mem_cons] at hne
  have hscalar : readScalar (d :: s) = readNumber (d :: s) := by
    rw [readScalar.eq_def]
    split <;> simp_all
  rw [readValue.eq_def]
  split <;> simp_all

theorem intText_eq_cons (i : Int) : ∃ d u, Json.intText i = d :: u ∧
    (d = '-' ∨ isDigit d = true) := by
  obtain ⟨d, ds, hds, hdigit, -⟩ := toDigits_eq_cons i.natAbs
  rw [Json.intText]
  split
  · exact ⟨'-', _, rfl, .inl rfl⟩
  · exact ⟨d, ds, hds, .inr hdigit⟩

theorem chars_eq_cons {v : Json} (hv : v.IsExact) :
    ∃ c u, v.chars = c :: u ∧ isSpace c = false ∧ c ≠ ']' := by
  cases v with
  | null => exact ⟨_, _, rfl, by decide⟩
  | bool b => cases b <;> exact ⟨_, _, rfl, by decide⟩
  | number x =>
    cases x with
    | whole i =>
      obtain ⟨d, u, hu, hd⟩ := intText_eq_cons i
      refine ⟨d, u, hu, ?_⟩
      have hne := number_head_ne hd
      simp only [List.forall_mem_cons] at hne
      simp [isSpace, hne]
    | real x => exact hv.elim
  | string t => exact ⟨_, _, rfl, by decide⟩
  | array items => exact ⟨_, _, rfl, by decide⟩
  | object entries => exact ⟨_, _, rfl, by decide⟩

theorem skip_chars {v : Json} (hv : v.IsExact) (s : List Char) :
    skip (v.chars ++ s) = v.chars ++ s := by
  obtain ⟨c, u, hc, hspace, -⟩ := chars_eq_cons hv
  simp [skip, hc, hspace]

theorem itemsChars_eq_cons {x : Json} {xs : List Json} (hv : Json.ItemsExact (x :: xs)) :
    ∃ c u, Json.itemsChars (x :: xs) = c :: u ∧ isSpace c = false ∧ c ≠ ']' := by
  obtain ⟨c, u, hc, hhead⟩ := chars_eq_cons hv.1
  cases xs with
  | nil => exact ⟨c, u, hc, hhead⟩
  | cons y ys => exact ⟨c, _, by rw [Json.itemsChars, hc]; rfl, hhead⟩

-- Every step but the one into a list takes a character, so twice the length is enough for both.
mutual
theorem readValue_chars : ∀ (v : Json) (n : Nat) (s : List Char), v.IsExact →
    2 * v.chars.length ≤ n → Follows s → readValue n (v.chars ++ s) = some (ofJson v, s)
  | .null, n + 1, s, _, _, _ => by simp [Json.chars, readValue, readScalar, ofJson]
  | .bool true, n + 1, s, _, _, _ => by simp [Json.chars, readValue, readScalar, ofJson]
  | .bool false, n + 1, s, _, _, _ => by simp [Json.chars, readValue, readScalar, ofJson]
  | .number (.whole i), n + 1, s, hv, _, hs => by
    have hnumber := readNumber_intText hv.1 hv.2 hs
    obtain ⟨d, u, hu, hd⟩ := intText_eq_cons i
    simp only [Json.chars, Json.numberText, ofJson]
    rw [hu] at hnumber ⊢
    rw [List.cons_append] at hnumber ⊢
    rw [readValue_number hd, hnumber]
  | .number (.real _), _ + 1, _, hv, _, _ => hv.elim
  | .string t, n + 1, s, _, _, _ => by
    simp [Json.chars, Json.stringText, readValue, readScalar, readString_text, ofJson]
  | .array [], n + 1, s, _, _, _ => by
    simp [Json.chars, Json.itemsChars, readValue, skip, isSpace, ofJson, ofItems]
  | .array (x :: xs), n + 1, s, hv, hn, _ => by
    have hitems := readItems_chars x xs n s hv (by
      simp only [Json.chars, List.length_append, List.length_cons, List.length_nil] at hn
      omega)
    obtain ⟨c, u, hc, hspace, hclose⟩ := itemsChars_eq_cons hv
    simp only [Json.chars, List.cons_append, List.append_assoc, List.nil_append, readValue, ofJson]
    rw [hc] at hitems ⊢
    rw [List.cons_append] at hitems ⊢
    have hskip : skip (c :: (u ++ ']' :: s)) = c :: (u ++ ']' :: s) := by simp [skip, hspace]
    rw [hskip]
    split
    · rename_i h
      cases h
      exact absurd rfl hclose
    · rw [hitems]
      rfl
  | .object [], n + 1, s, _, _, _ => by
    simp [Json.chars, Json.entriesChars, readValue, skip, isSpace, ofJson, ofEntries]
  | .object (e :: es), n + 1, s, hv, hn, _ => by
    have hentries := readEntries_chars e es n s hv (by
      simp only [Json.chars, List.length_append, List.length_cons, List.length_nil] at hn
      omega)
    obtain ⟨u, hu⟩ : ∃ u, Json.entriesChars (e :: es) = '"' :: u := by
      cases es <;> exact ⟨_, rfl⟩
    simp only [Json.chars, List.cons_append, List.append_assoc, List.nil_append, readValue, ofJson]
    rw [hu] at hentries ⊢
    rw [List.cons_append] at hentries ⊢
    have hskip : skip ('"' :: (u ++ '\x7d' :: s)) = '"' :: (u ++ '\x7d' :: s) := by
      simp [skip, isSpace]
    rw [hskip]
    simp [hentries]
  | v, 0, s, hv, hn, _ => by
    obtain ⟨c, u, hc, -, -⟩ := chars_eq_cons hv
    simp [hc] at hn

theorem readItems_chars : ∀ (x : Json) (xs : List Json) (n : Nat) (s : List Char),
    Json.ItemsExact (x :: xs) → 2 * (Json.itemsChars (x :: xs)).length + 1 ≤ n →
    readItems n (Json.itemsChars (x :: xs) ++ ']' :: s) = some (ofItems (x :: xs), s)
  | x, [], n + 1, s, hv, hn => by
    rw [Json.itemsChars] at hn ⊢
    have hx := readValue_chars x n (']' :: s) hv.1 (by omega) (follows_cons (by decide) s)
    rw [readItems, skip_chars hv.1, hx]
    simp [skip, isSpace, ofItems]
  | x, y :: ys, n + 1, s, hv, hn => by
    simp only [Json.itemsChars, List.length_append, List.length_cons] at hn
    have hx := readValue_chars x n (',' :: (Json.itemsChars (y :: ys) ++ ']' :: s)) hv.1 (by omega)
      (follows_cons (by decide) _)
    have hys := readItems_chars y ys n s hv.2 (by omega)
    rw [Json.itemsChars, List.append_assoc, List.cons_append, readItems, skip_chars hv.1, hx]
    simp [skip, isSpace, ofItems, hys]
  | _, _, 0, _, _, hn => by omega

theorem readEntries_chars : ∀ (e : String × Json) (es : List (String × Json)) (n : Nat)
    (s : List Char), Json.EntriesExact (e :: es) →
    2 * (Json.entriesChars (e :: es)).length + 1 ≤ n →
    readEntries n (Json.entriesChars (e :: es) ++ '\x7d' :: s) = some (ofEntries (e :: es), s)
  | (k, x), [], n + 1, s, hv, hn => by
    simp only [Json.entriesChars, List.length_append, List.length_cons] at hn
    have hx := readValue_chars x n ('\x7d' :: s) hv.1 (by omega) (follows_cons (by decide) s)
    have hkey := readString_text k (':' :: (x.chars ++ '\x7d' :: s))
    have htext : Json.entriesChars [(k, x)] ++ '\x7d' :: s = '"' ::
        (k.toList.flatMap Json.stringChar ++ '"' :: ':' :: (x.chars ++ '\x7d' :: s)) := by
      simp [Json.entriesChars, Json.stringText]
    have hquote : ∀ u, skip ('"' :: u) = '"' :: u := fun u => rfl
    have hcolon : ∀ u, skip (':' :: u) = ':' :: u := fun u => rfl
    have hclose : skip ('\x7d' :: s) = '\x7d' :: s := rfl
    rw [htext, readEntries, hquote]
    simp only [hkey, hcolon, skip_chars hv.1, hx, hclose, Option.bind_eq_bind, Option.bind_some]
    rfl
  | (k, x), e :: es, n + 1, s, hv, hn => by
    simp only [Json.entriesChars, List.length_append, List.length_cons] at hn
    have hes := readEntries_chars e es n s hv.2 (by omega)
    generalize hrest : Json.entriesChars (e :: es) ++ '\x7d' :: s = rest at hes
    have hx := readValue_chars x n (',' :: rest) hv.1 (by omega) (follows_cons (by decide) _)
    have hkey := readString_text k (':' :: (x.chars ++ ',' :: rest))
    have htext : Json.entriesChars ((k, x) :: e :: es) ++ '\x7d' :: s = '"' ::
        (k.toList.flatMap Json.stringChar ++ '"' :: ':' :: (x.chars ++ ',' :: rest)) := by
      simp [Json.entriesChars, Json.stringText, ← hrest]
    have hquote : ∀ u, skip ('"' :: u) = '"' :: u := fun u => rfl
    have hcolon : ∀ u, skip (':' :: u) = ':' :: u := fun u => rfl
    have hcomma : skip (',' :: rest) = ',' :: rest := rfl
    rw [htext, readEntries, hquote]
    simp only [hkey, hcolon, skip_chars hv.1, hx, hcomma, hes, Option.bind_eq_bind,
      Option.bind_some]
    rfl
  | _, _, 0, _, _, hn => by omega
end

theorem ofChars?_chars {v : Json} (hv : v.IsExact) : ofChars? v.chars = some (ofJson v) := by
  have hskip := skip_chars hv []
  have hread := readValue_chars v (2 * v.chars.length + 2) [] hv (by omega) (by simp [Follows])
  rw [List.append_nil] at hskip hread
  rw [ofChars?, hskip, hread]
  rfl

theorem ofChars?_text {v : Json} (hv : v.IsExact) :
    ofChars? v.text.toList = some (ofJson v) := by
  rw [Json.text, String.toList_ofList, ofChars?_chars hv]

mutual
theorem ofJson_injective : ∀ v w : Json, ofJson v = ofJson w → v = w
  | .null, w, h => by cases w <;> simp_all [ofJson]
  | .bool b, w, h => by cases w <;> simp_all [ofJson]
  | .number n, w, h => by cases w <;> simp_all [ofJson]
  | .string s, w, h => by cases w <;> simp_all [ofJson]
  | .array xs, w, h => by
    cases w with
    | array ys =>
      simp only [ofJson, array.injEq] at h
      rw [ofItems_injective xs ys h]
    | null => cases h
    | bool b => cases h
    | number n => cases h
    | string s => cases h
    | object fs => cases h
  | .object es, w, h => by
    cases w with
    | object fs =>
      simp only [ofJson, object.injEq] at h
      rw [ofEntries_injective es fs h]
    | null => cases h
    | bool b => cases h
    | number n => cases h
    | string s => cases h
    | array ys => cases h

theorem ofItems_injective : ∀ xs ys : List Json, ofItems xs = ofItems ys → xs = ys
  | [], [], _ => rfl
  | [], _ :: _, h => by cases h
  | _ :: _, [], h => by cases h
  | x :: xs, y :: ys, h => by
    simp only [ofItems, List.cons.injEq] at h
    rw [ofJson_injective x y h.1, ofItems_injective xs ys h.2]

theorem ofEntries_injective : ∀ es fs : List (String × Json), ofEntries es = ofEntries fs → es = fs
  | [], [], _ => rfl
  | [], _ :: _, h => by cases h
  | _ :: _, [], h => by cases h
  | (k, x) :: es, (l, y) :: fs, h => by
    simp only [ofEntries, List.cons.injEq, Prod.mk.injEq, Option.some.injEq] at h
    obtain ⟨⟨rfl, hx⟩, hes⟩ := h
    rw [ofJson_injective x y hx, ofEntries_injective es fs hes]
end

end Node

theorem Json.text_injective {v w : Json} (hv : v.IsExact) (hw : w.IsExact) (h : v.text = w.text) :
    v = w := by
  have hread := Node.ofChars?_text hv
  rw [h, Node.ofChars?_text hw, Option.some.injEq] at hread
  exact Node.ofJson_injective v w hread.symm

theorem decodeText_text {α : Type} (d : Decoder α) {v : Json} (hv : v.IsExact) {a : α}
    (h : d (.ofJson v) = .ok a) : decodeText d v.text = .ok a := by
  rw [decodeText, Node.ofChars?_text hv]
  simp only [decodeNode, h]

end Listing
