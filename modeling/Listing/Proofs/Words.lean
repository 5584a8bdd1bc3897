import Listing.Text.Blank
import Mathlib.Data.List.TakeWhile

namespace Listing.Text

def AllBlank (s : List Char) : Prop := ∀ c ∈ s, isBlank c = true

instance (s : List Char) : Decidable (AllBlank s) :=
  decidable_of_iff (s.all isBlank = true) List.all_eq_true

structure IsWord (w : List Char) : Prop where
  ne_nil : w ≠ []
  not_blank : ∀ c ∈ w, isBlank c = false

theorem isWord_iff {w : List Char} : w ≠ [] ∧ w.any isBlank = false ↔ IsWord w := by
  rw [List.any_eq_false]
  simp only [Bool.not_eq_true]
  exact ⟨fun ⟨hne, h⟩ => ⟨hne, h⟩, fun ⟨hne, h⟩ => ⟨hne, h⟩⟩

instance (w : List Char) : Decidable (IsWord w) := decidable_of_iff _ isWord_iff

def EndsWord (s : List Char) : Prop := ∀ c ∈ s.head?, isBlank c = true

inductive HasWords : List Char → List (List Char) → Prop
  | nil : HasWords [] []
  | blank {c : Char} {s : List Char} {ws : List (List Char)} :
      isBlank c = true → HasWords s ws → HasWords (c :: s) ws
  | word {w s : List Char} {ws : List (List Char)} :
      IsWord w → EndsWord s → HasWords s ws → HasWords (w ++ s) (w :: ws)

theorem EndsWord.nil : EndsWord [] := by simp [EndsWord]

theorem EndsWord.blank {c : Char} (hc : isBlank c = true) (s : List Char) : EndsWord (c :: s) := by
  simpa [EndsWord] using hc

theorem AllBlank.endsWord {s : List Char} (h : AllBlank s) : EndsWord s := by
  cases s with
  | nil => exact .nil
  | cons c s => exact .blank (h c List.mem_cons_self) s

theorem EndsWord.append {s t : List Char} (hs : EndsWord s) (ht : EndsWord t) :
    EndsWord (s ++ t) := by
  cases s with
  | nil => exact ht
  | cons c s => exact hs

theorem IsWord.not_endsWord {w : List Char} (hw : IsWord w) (s : List Char) :
    ¬ EndsWord (w ++ s) := by
  obtain ⟨c, w, rfl⟩ := List.exists_cons_of_ne_nil hw.ne_nil
  intro h
  have hblank := h c rfl
  rw [hw.not_blank c List.mem_cons_self] at hblank
  cases hblank

theorem wordsFrom_nil {w : List Char} (hw : w ≠ []) : wordsFrom w [] = [w.reverse] := by
  cases w with
  | nil => exact absurd rfl hw
  | cons x w => rfl

theorem wordsFrom_letter {c : Char} (hc : isBlank c = false) (w s : List Char) :
    wordsFrom w (c :: s) = wordsFrom (c :: w) s := by
  have hne : ¬ isBlank c = true := by simp [hc]
  cases w with
  | nil => exact if_neg hne
  | cons x w => exact if_neg hne

theorem wordsFrom_blank {c : Char} (hc : isBlank c = true) {w : List Char} (hw : w ≠ [])
    (s : List Char) : wordsFrom w (c :: s) = w.reverse :: words s := by
  cases w with
  | nil => exact absurd rfl hw
  | cons x w => exact if_pos hc

theorem words_blank {c : Char} (hc : isBlank c = true) (s : List Char) :
    words (c :: s) = words s := if_pos hc

theorem wordsFrom_append {w : List Char} (hw : ∀ c ∈ w, isBlank c = false) (v s : List Char) :
    wordsFrom v (w ++ s) = wordsFrom (w.reverse ++ v) s := by
  induction w generalizing v with
  | nil => rfl
  | cons c w ih =>
    obtain ⟨hc, hw⟩ := List.forall_mem_cons.mp hw
    rw [List.cons_append, wordsFrom_letter hc, ih hw, List.reverse_cons, List.append_assoc,
      List.singleton_append]

theorem words_word {w s : List Char} (hw : IsWord w) (hs : EndsWord s) :
    words (w ++ s) = w :: words s := by
  have hne : w.reverse ≠ [] := mt List.reverse_eq_nil_iff.mp hw.ne_nil
  rw [words, wordsFrom_append hw.not_blank, List.append_nil]
  cases s with
  | nil =>
    rw [wordsFrom_nil hne, List.reverse_reverse]
    rfl
  | cons c s => rw [wordsFrom_blank (hs c rfl) hne, List.reverse_reverse, words_blank (hs c rfl)]

theorem hasWords_wordsFrom {v : List Char} (hv : ∀ c ∈ v, isBlank c = false) (s : List Char) :
    HasWords (v.reverse ++ s) (wordsFrom v s) := by
  -- `v` is the word under way, which the scan keeps in reverse
  have hword : v ≠ [] → IsWord v.reverse := fun hne =>
    ⟨mt List.reverse_eq_nil_iff.mp hne, fun c hc => hv c (List.mem_reverse.mp hc)⟩
  induction s generalizing v with
  | nil =>
    cases v with
    | nil => exact .nil
    | cons c v => exact .word (hword (List.cons_ne_nil c v)) .nil .nil
  | cons c s ih =>
    by_cases hc : isBlank c = true
    · have hrest : HasWords s (words s) := ih (List.forall_mem_nil _) fun hne => absurd rfl hne
      cases v with
      | nil =>
        rw [← words, words_blank hc]
        exact .blank hc hrest
      | cons x v =>
        rw [wordsFrom_blank hc (List.cons_ne_nil x v)]
        exact .word (hword (List.cons_ne_nil x v)) (.blank hc s) (.blank hc hrest)
    · have hc : isBlank c = false := by simpa using hc
      have hcv : ∀ x ∈ c :: v, isBlank x = false := List.forall_mem_cons.mpr ⟨hc, hv⟩
      rw [wordsFrom_letter hc]
      simpa using ih hcv fun hne => ⟨by simp, fun x hx => hcv x (List.mem_reverse.mp hx)⟩

theorem words_eq_iff {s : List Char} {ws : List (List Char)} : words s = ws ↔ HasWords s ws := by
  constructor
  · rintro rfl
    exact hasWords_wordsFrom (List.forall_mem_nil _) s
  · intro h
    induction h with
    | nil => rfl
    | blank hc _ ih => rw [words_blank hc, ih]
    | word hw hs _ ih => rw [words_word hw hs, ih]

theorem hasWords_nil_iff {s : List Char} : HasWords s [] ↔ AllBlank s := by
  constructor
  · intro h
    generalize hws : ([] : List (List Char)) = ws at h
    induction h with
    | nil => simp [AllBlank]
    | blank hc _ ih => exact List.forall_mem_cons.mpr ⟨hc, ih hws⟩
    | word => cases hws
  · intro h
    induction s with
    | nil => exact .nil
    | cons c s ih =>
      obtain ⟨hc, hs⟩ := List.forall_mem_cons.mp h
      exact .blank hc (ih hs)

theorem HasWords.append_blanks {s tail : List Char} {ws : List (List Char)} (h : HasWords s ws)
    (ht : AllBlank tail) : HasWords (s ++ tail) ws := by
  induction h with
  | nil => exact hasWords_nil_iff.mpr ht
  | blank hc _ ih => exact .blank hc ih
  | word hw hs _ ih =>
    rw [List.append_assoc]
    exact .word hw (hs.append ht.endsWord) ih

theorem words_append_blanks {tail : List Char} (ht : AllBlank tail) (s : List Char) :
    words (s ++ tail) = words s :=
  words_eq_iff.mpr ((words_eq_iff.mp rfl).append_blanks ht)

theorem HasWords.first {s w : List Char} {ws : List (List Char)} (h : HasWords s (w :: ws)) :
    ∃ lead rest, s = lead ++ (w ++ rest) ∧ AllBlank lead ∧ IsWord w ∧ EndsWord rest ∧
      HasWords rest ws := by
  generalize hws : w :: ws = vs at h
  induction h with
  | nil => cases hws
  | @blank c s vs hc _ ih =>
    obtain ⟨lead, rest, rfl, hl, hrest⟩ := ih hws
    exact ⟨c :: lead, rest, rfl, List.forall_mem_cons.mpr ⟨hc, hl⟩, hrest⟩
  | @word v s vs hv hs h =>
    cases hws
    exact ⟨[], s, rfl, by simp [AllBlank], hv, hs, h⟩

structure IsTrimmed (s : List Char) : Prop where
  first : ∀ c ∈ s.head?, isBlank c = false
  last : ∀ c ∈ s.getLast?, isBlank c = false

theorem IsWord.isTrimmed {w : List Char} (hw : IsWord w) : IsTrimmed w :=
  ⟨fun c hc => hw.not_blank c (List.mem_of_mem_head? hc),
    fun c hc => hw.not_blank c (List.mem_of_mem_getLast? hc)⟩

theorem IsWord.isTrimmed_append {w v : List Char} (hw : IsWord w) (hv : IsTrimmed v) (hne : v ≠ [])
    (between : List Char) : IsTrimmed (w ++ (between ++ v)) where
  first := by
    obtain ⟨c, w, rfl⟩ := List.exists_cons_of_ne_nil hw.ne_nil
    exact hw.isTrimmed.first
  last := by
    have hlast : (w ++ (between ++ v)).getLast? = v.getLast? := by
      rw [← List.append_assoc, List.getLast?_append, Option.or_eq_left_of_isSome]
      simpa using hne
    rw [hlast]
    exact hv.last

theorem trimStart_blanks {lead : List Char} (hl : AllBlank lead) (s : List Char) :
    trimStart (lead ++ s) = trimStart s := List.dropWhile_append_of_pos hl

theorem trimStart_of_first {s : List Char} (h : ∀ c ∈ s.head?, isBlank c = false) :
    trimStart s = s := by
  cases s with
  | nil => rfl
  | cons c s => exact List.dropWhile_cons_of_neg (by simp [h c rfl])

theorem trimEnd_eq (s : List Char) : trimEnd s = (trimStart s.reverse).reverse := rfl

theorem trimEnd_blanks {tail : List Char} (ht : AllBlank tail) (s : List Char) :
    trimEnd (s ++ tail) = trimEnd s := by
  have hr : AllBlank tail.reverse := fun c hc => ht c (List.mem_reverse.mp hc)
  rw [trimEnd_eq, List.reverse_append, trimStart_blanks hr, trimEnd_eq]

theorem trimEnd_of_last {s : List Char} (h : ∀ c ∈ s.getLast?, isBlank c = false) :
    trimEnd s = s := by
  rw [trimEnd_eq, trimStart_of_first (by rwa [List.head?_reverse]), List.reverse_reverse]

theorem head?_append_of_ne_nil {s : List Char} (hs : s ≠ []) (t : List Char) :
    (s ++ t).head? = s.head? := by
  obtain ⟨c, s, rfl⟩ := List.exists_cons_of_ne_nil hs
  rfl

theorem exists_trimEnd (s : List Char) : ∃ tail, s = trimEnd s ++ tail ∧ AllBlank tail ∧
    ∀ c ∈ (trimEnd s).getLast?, isBlank c = false := by
  refine ⟨(s.reverse.takeWhile isBlank).reverse, ?_, fun c hc => ?_, fun c hc => ?_⟩
  · rw [trimEnd, ← List.reverse_append, List.takeWhile_append_dropWhile, List.reverse_reverse]
  · exact List.mem_takeWhile_imp (List.mem_reverse.mp hc)
  · rw [trimEnd, List.getLast?_reverse] at hc
    have hhead := List.head?_dropWhile_not isBlank s.reverse
    rw [Option.mem_def.mp hc] at hhead
    simpa using hhead

theorem IsTrimmed.trim_eq {s : List Char} (h : IsTrimmed s) : trim s = s := by
  rw [trim, trimStart_of_first h.first, trimEnd_of_last h.last]

theorem IsTrimmed.trim_around {s lead tail : List Char} (h : IsTrimmed s) (hne : s ≠ [])
    (hl : AllBlank lead) (ht : AllBlank tail) : trim (lead ++ (s ++ tail)) = s := by
  have hfirst : ∀ c ∈ (s ++ tail).head?, isBlank c = false := by
    rw [head?_append_of_ne_nil hne]
    exact h.first
  rw [trim, trimStart_blanks hl, trimStart_of_first hfirst, trimEnd_blanks ht,
    trimEnd_of_last h.last]

theorem cutAtBlank_append {w : List Char} (hw : ∀ c ∈ w, isBlank c = false) {c : Char}
    (hc : isBlank c = true) (s : List Char) : cutAtBlank (w ++ c :: s) = some (w, s) := by
  induction w with
  | nil => simp [cutAtBlank, hc]
  | cons x w ih =>
    obtain ⟨hx, hw⟩ := List.forall_mem_cons.mp hw
    simp [cutAtBlank, hx, ih hw]

theorem cutAtBlank_of_not_blank {w : List Char} (hw : ∀ c ∈ w, isBlank c = false) :
    cutAtBlank w = none := by
  induction w with
  | nil => rfl
  | cons x w ih =>
    obtain ⟨hx, hw⟩ := List.forall_mem_cons.mp hw
    simp [cutAtBlank, hx, ih hw]

end Listing.Text
