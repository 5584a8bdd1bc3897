import Listing.Proofs.Words
import Listing.Query.Values

/-!
How the text of a list of values divides into values. It has one division: gaps of blanks, and
between them values in quotation marks or without any. The scan finds this division, so that it
passes over nothing but blanks.
-/
namespace Listing

open Text

inductive ValueToken where
  | quoted (mark : Char) (value : List Char)
  | bare (value : List Char)
deriving DecidableEq, Repr

namespace ValueToken

def value : ValueToken → List Char
  | .quoted _ value => value
  | .bare value => value

def chars : ValueToken → List Char
  | .quoted mark value => mark :: (value ++ [mark])
  | .bare value => value

end ValueToken

def StartsQuoted (mark : Char) (s : List Char) : Prop := ∃ t, s = mark :: t ∧ mark ∈ t

/-- A text, the value that it starts with and what follows. Quotation marks go before blanks: only
where no mark with a partner stands does a value go on to the next blank. -/
inductive Starts : List Char → ValueToken → List Char → Prop
  | double {v rest : List Char} : '"' ∉ v →
      Starts ('"' :: (v ++ '"' :: rest)) (.quoted '"' v) rest
  | single {v rest : List Char} : '\'' ∉ v →
      Starts ('\'' :: (v ++ '\'' :: rest)) (.quoted '\'' v) rest
  | bare {w rest : List Char} : IsWord w → EndsWord rest → ¬ StartsQuoted '"' (w ++ rest) →
      ¬ StartsQuoted '\'' (w ++ rest) → Starts (w ++ rest) (.bare w) rest

inductive Divides : List Char → List (List Char × ValueToken) → List Char → Prop
  | done {tail : List Char} : AllBlank tail → Divides tail [] tail
  | value {gap s rest tail : List Char} {token : ValueToken}
      {parts : List (List Char × ValueToken)} :
      AllBlank gap → Starts s token rest → Divides rest parts tail →
      Divides (gap ++ s) ((gap, token) :: parts) tail

variable {s s' rest rest' : List Char} {token token' : ValueToken}

theorem Starts.chars_append (h : Starts s token rest) : s = token.chars ++ rest := by
  cases h with
  | double => simp [ValueToken.chars]
  | single => simp [ValueToken.chars]
  | bare => rfl

theorem Starts.not_blank (h : Starts s token rest) : ∀ c ∈ s.head?, isBlank c = false := by
  cases h with
  | double =>
    rintro c ⟨⟩
    rfl
  | single =>
    rintro c ⟨⟩
    rfl
  | @bare w rest hw _ _ _ =>
    rw [head?_append_of_ne_nil hw.ne_nil]
    exact hw.isTrimmed.first

theorem Starts.ne_nil (h : Starts s token rest) : s ≠ [] := by
  cases h with
  | double => exact List.cons_ne_nil _ _
  | single => exact List.cons_ne_nil _ _
  | bare hw => exact List.append_ne_nil_of_left_ne_nil hw.ne_nil _

theorem front_unique {p : Char → Bool} {v v' s s' : List Char} (hv : ∀ c ∈ v, p c = true)
    (hv' : ∀ c ∈ v', p c = true) (hs : ∀ c ∈ s.head?, p c = false)
    (hs' : ∀ c ∈ s'.head?, p c = false) (h : v ++ s = v' ++ s') : v = v' ∧ s = s' := by
  have hstop : ∀ {t : List Char}, (∀ c ∈ t.head?, p c = false) → t.dropWhile p = t := by
    intro t ht
    cases t with
    | nil => rfl
    | cons c t => exact List.dropWhile_cons_of_neg (by simp [ht c rfl])
  have hrest := congrArg (List.dropWhile p) h
  rw [List.dropWhile_append_of_pos hv, List.dropWhile_append_of_pos hv', hstop hs, hstop hs']
    at hrest
  rw [hrest] at h
  exact ⟨List.append_cancel_right h, hrest⟩

theorem quoted_unique {mark : Char} {v v' : List Char} (hv : mark ∉ v) (hv' : mark ∉ v')
    (h : v ++ mark :: rest = v' ++ mark :: rest') : v = v' ∧ rest = rest' := by
  have hother : ∀ {w : List Char}, mark ∉ w → ∀ c ∈ w, (c != mark) = true := by
    intro w hw c hc
    rw [bne_iff_ne]
    rintro rfl
    exact hw hc
  obtain ⟨hv, hrest⟩ := front_unique (p := (· != mark)) (hother hv) (hother hv') (by simp)
    (by simp) h
  exact ⟨hv, List.tail_eq_of_cons_eq hrest⟩

theorem word_unique {w w' : List Char} (hw : IsWord w) (hw' : IsWord w') (hr : EndsWord rest)
    (hr' : EndsWord rest') (h : w ++ rest = w' ++ rest') : w = w' ∧ rest = rest' := by
  apply front_unique (p := fun c => !isBlank c) _ _ _ _ h
  · exact fun c hc => by simp [hw.not_blank c hc]
  · exact fun c hc => by simp [hw'.not_blank c hc]
  · exact fun c hc => by simp [hr c hc]
  · exact fun c hc => by simp [hr' c hc]

theorem startsQuoted_quoted (mark : Char) (v rest : List Char) :
    StartsQuoted mark (mark :: (v ++ mark :: rest)) := ⟨_, rfl, by simp⟩

theorem Starts.unique (h : Starts s token rest) (h' : Starts s token' rest') :
    token = token' ∧ rest = rest' := by
  generalize hs : s = s' at h'
  cases h with
  | double hv =>
    cases h' with
    | double hv' =>
      obtain ⟨rfl, rfl⟩ := quoted_unique hv hv' (List.tail_eq_of_cons_eq hs)
      exact ⟨rfl, rfl⟩
    | single => exact absurd (List.head_eq_of_cons_eq hs) (by decide)
    | bare _ _ hdouble _ =>
      rw [← hs] at hdouble
      exact absurd (startsQuoted_quoted _ _ _) hdouble
  | single hv =>
    cases h' with
    | double => exact absurd (List.head_eq_of_cons_eq hs) (by decide)
    | single hv' =>
      obtain ⟨rfl, rfl⟩ := quoted_unique hv hv' (List.tail_eq_of_cons_eq hs)
      exact ⟨rfl, rfl⟩
    | bare _ _ _ hsingle =>
      rw [← hs] at hsingle
      exact absurd (startsQuoted_quoted _ _ _) hsingle
  | bare hw hends hdouble hsingle =>
    cases h' with
    | double =>
      rw [hs] at hdouble
      exact absurd (startsQuoted_quoted _ _ _) hdouble
    | single =>
      rw [hs] at hsingle
      exact absurd (startsQuoted_quoted _ _ _) hsingle
    | bare hw' hends' _ _ =>
      obtain ⟨rfl, rfl⟩ := word_unique hw hw' hends hends' hs
      exact ⟨rfl, rfl⟩

theorem gap_unique {gap gap' : List Char} (hgap : AllBlank gap) (hgap' : AllBlank gap')
    (hs : ∀ c ∈ s.head?, isBlank c = false) (hs' : ∀ c ∈ s'.head?, isBlank c = false)
    (h : gap ++ s = gap' ++ s') : gap = gap' ∧ s = s' :=
  front_unique hgap hgap' hs hs' h

theorem Starts.not_allBlank (h : Starts s token rest) (gap : List Char) :
    ¬ AllBlank (gap ++ s) := by
  intro hblank
  obtain ⟨c, t, rfl⟩ := List.exists_cons_of_ne_nil h.ne_nil
  have hc := h.not_blank c rfl
  rw [hblank c (by simp)] at hc
  cases hc

theorem Divides.unique {parts parts' : List (List Char × ValueToken)} {tail tail' : List Char}
    (h : Divides s parts tail) (h' : Divides s parts' tail') : parts = parts' ∧ tail = tail' := by
  induction h generalizing parts' with
  | @done tail hblank =>
    generalize hs : tail = s' at h'
    cases h' with
    | done => exact ⟨rfl, rfl⟩
    | value _ hstart _ =>
      rw [hs] at hblank
      exact absurd hblank (hstart.not_allBlank _)
  | @value gap s rest tail token parts hgap hstart _ ih =>
    generalize hs : gap ++ s = s' at h'
    cases h' with
    | done hblank =>
      rw [← hs] at hblank
      exact absurd hblank (hstart.not_allBlank _)
    | value hgap' hstart' hrest' =>
      obtain ⟨rfl, rfl⟩ := gap_unique hgap hgap' hstart.not_blank hstart'.not_blank hs
      obtain ⟨rfl, rfl⟩ := hstart.unique hstart'
      obtain ⟨rfl, rfl⟩ := ih hrest'
      exact ⟨rfl, rfl⟩

theorem opensQuote_iff {c : Char} {rest : List Char} : opensQuote c rest = true ↔
    StartsQuoted '"' (c :: rest) ∨ StartsQuoted '\'' (c :: rest) := by
  have hmark : ∀ mark, StartsQuoted mark (c :: rest) ↔ c = mark ∧ c ∈ rest := by
    intro mark
    constructor
    · rintro ⟨t, heq, hmem⟩
      cases heq
      exact ⟨rfl, hmem⟩
    · rintro ⟨rfl, hmem⟩
      exact ⟨rest, rfl, hmem⟩
  rw [hmark, hmark, ← or_and_right]
  simp [opensQuote]

theorem exists_starts {c : Char} (hc : isBlank c = false) (s : List Char) :
    ∃ token rest, Starts (c :: s) token rest := by
  by_cases hdouble : StartsQuoted '"' (c :: s)
  · obtain ⟨t, heq, hmem⟩ := hdouble
    cases heq
    obtain ⟨v, rest, rfl, hv⟩ := List.eq_append_cons_of_mem hmem
    exact ⟨_, rest, .double hv⟩
  by_cases hsingle : StartsQuoted '\'' (c :: s)
  · obtain ⟨t, heq, hmem⟩ := hsingle
    cases heq
    obtain ⟨v, rest, rfl, hv⟩ := List.eq_append_cons_of_mem hmem
    exact ⟨_, rest, .single hv⟩
  have hword : IsWord (c :: s.takeWhile fun d => !isBlank d) := by
    refine ⟨List.cons_ne_nil _ _, List.forall_mem_cons.mpr ⟨hc, fun d hd => ?_⟩⟩
    simpa using List.mem_takeWhile_imp hd
  have hends : EndsWord (s.dropWhile fun d => !isBlank d) := by
    intro d hd
    have hhead := List.head?_dropWhile_not (fun d => !isBlank d) s
    rw [Option.mem_def.mp hd] at hhead
    simpa using hhead
  have hs : c :: s = (c :: s.takeWhile fun d => !isBlank d) ++ s.dropWhile fun d => !isBlank d := by
    rw [List.cons_append, List.takeWhile_append_dropWhile]
  rw [hs] at hdouble hsingle ⊢
  exact ⟨_, _, .bare hword hends hdouble hsingle⟩

theorem Starts.length_lt (h : Starts s token rest) : rest.length < s.length := by
  cases h with
  | double => simp only [List.length_cons, List.length_append]; omega
  | single => simp only [List.length_cons, List.length_append]; omega
  | @bare w rest hw _ _ _ =>
    have hpos := List.length_pos_iff.mpr hw.ne_nil
    rw [List.length_append]
    omega

theorem exists_divides (s : List Char) : ∃ parts tail, Divides s parts tail := by
  induction hn : s.length using Nat.strong_induction_on generalizing s with
  | _ n ih =>
    subst hn
    have hs : s = s.takeWhile isBlank ++ s.dropWhile isBlank :=
      List.takeWhile_append_dropWhile.symm
    have hgap : AllBlank (s.takeWhile isBlank) := fun c hc => List.mem_takeWhile_imp hc
    cases hrest : s.dropWhile isBlank with
    | nil =>
      rw [hrest, List.append_nil] at hs
      rw [hs]
      exact ⟨[], _, .done hgap⟩
    | cons c t =>
      have hc : isBlank c = false := by
        have hhead := List.head?_dropWhile_not isBlank s
        rw [hrest] at hhead
        simpa using hhead
      obtain ⟨token, rest, hstart⟩ := exists_starts hc t
      have hlt : rest.length < s.length := by
        have hshort := hstart.length_lt
        have hlength := congrArg List.length hs
        rw [hrest, List.length_append] at hlength
        omega
      obtain ⟨parts, tail, hparts⟩ := ih rest.length hlt rest rfl
      rw [hs, hrest]
      exact ⟨_, tail, .value hgap hstart hparts⟩

theorem scanValues_gap {gap : List Char} (hgap : AllBlank gap) (s : List Char) :
    scanValues .gap [] (gap ++ s) = scanValues .gap [] s := by
  induction gap with
  | nil => rfl
  | cons c gap ih =>
    obtain ⟨hc, hgap⟩ := List.forall_mem_cons.mp hgap
    rw [List.cons_append, scanValues, if_pos hc, ih hgap]

theorem scanValues_quoted {mark : Char} {v : List Char} (hv : mark ∉ v) (u rest : List Char) :
    scanValues (.quoted mark) u (v ++ mark :: rest) =
      (u.reverse ++ v) :: scanValues .gap [] rest := by
  induction v generalizing u with
  | nil => rw [List.nil_append, scanValues, if_pos rfl, List.append_nil]
  | cons c v ih =>
    obtain ⟨hc, hv⟩ := List.ne_and_not_mem_of_not_mem_cons hv
    rw [List.cons_append, scanValues, if_neg hc.symm, ih hv, List.reverse_cons, List.append_assoc,
      List.singleton_append]

theorem scanValues_bare {w : List Char} (hw : ∀ c ∈ w, isBlank c = false) (hr : EndsWord rest)
    (u : List Char) :
    scanValues .bare u (w ++ rest) = (u.reverse ++ w) :: scanValues .gap [] rest := by
  induction w generalizing u with
  | nil =>
    rw [List.nil_append, List.append_nil]
    cases rest with
    | nil => rfl
    | cons c rest =>
      have hc := hr c rfl
      rw [scanValues, if_pos hc, scanValues, if_pos hc]
  | cons c w ih =>
    obtain ⟨hc, hw⟩ := List.forall_mem_cons.mp hw
    rw [List.cons_append, scanValues, if_neg (by simp [hc]), ih hw, List.reverse_cons,
      List.append_assoc, List.singleton_append]

theorem Starts.scanValues (h : Starts s token rest) :
    scanValues .gap [] s = token.value :: scanValues .gap [] rest := by
  cases h with
  | @double v rest hv =>
    have hopens := opensQuote_iff.mpr (.inl (startsQuoted_quoted '"' v rest))
    rw [Listing.scanValues, if_neg (by decide), if_pos hopens, scanValues_quoted hv]
    rfl
  | @single v rest hv =>
    have hopens := opensQuote_iff.mpr (.inr (startsQuoted_quoted '\'' v rest))
    rw [Listing.scanValues, if_neg (by decide), if_pos hopens, scanValues_quoted hv]
    rfl
  | @bare w rest hw hends hdouble hsingle =>
    obtain ⟨c, w, rfl⟩ := List.exists_cons_of_ne_nil hw.ne_nil
    obtain ⟨hc, hw⟩ := List.forall_mem_cons.mp hw.not_blank
    have hbare : ¬ opensQuote c (w ++ rest) = true := by
      rw [opensQuote_iff]
      exact not_or.mpr ⟨hdouble, hsingle⟩
    rw [List.cons_append, Listing.scanValues, if_neg (by simp [hc]), if_neg hbare,
      scanValues_bare hw hends]
    rfl

theorem Divides.scanValues {parts : List (List Char × ValueToken)} {tail : List Char}
    (h : Divides s parts tail) : scanValues .gap [] s = parts.map (·.2.value) := by
  induction h with
  | @done tail hblank =>
    have hscan := scanValues_gap hblank []
    rwa [List.append_nil] at hscan
  | value hgap hstart _ ih => rw [scanValues_gap hgap, hstart.scanValues, ih, List.map_cons]

theorem Divides.text {parts : List (List Char × ValueToken)} {tail : List Char}
    (h : Divides s parts tail) : s = parts.flatMap (fun p => p.1 ++ p.2.chars) ++ tail := by
  induction h with
  | done => rfl
  | value _ hstart _ ih =>
    rw [List.flatMap_cons, hstart.chars_append, ih]
    simp only [List.append_assoc]

theorem Divides.blank {parts : List (List Char × ValueToken)} {tail : List Char}
    (h : Divides s parts tail) : (∀ p ∈ parts, AllBlank p.1) ∧ AllBlank tail := by
  induction h with
  | done hblank => exact ⟨List.forall_mem_nil _, hblank⟩
  | value hgap _ _ ih => exact ⟨List.forall_mem_cons.mpr ⟨hgap, ih.1⟩, ih.2⟩

def isVisible (c : Char) : Bool := !isBlank c

theorem filter_isVisible {gap : List Char} (h : AllBlank gap) : gap.filter isVisible = [] := by
  rw [List.filter_eq_nil_iff]
  intro c hc
  simp [isVisible, h c hc]

theorem Divides.visible {parts : List (List Char × ValueToken)} {tail : List Char}
    (h : Divides s parts tail) :
    s.filter isVisible = parts.flatMap fun p => p.2.chars.filter isVisible := by
  induction h with
  | done hblank => exact filter_isVisible hblank
  | value hgap hstart _ ih =>
    rw [List.filter_append, filter_isVisible hgap, hstart.chars_append, List.filter_append, ih]
    rfl

def enclosed (text : List Char) : List Char := stripClosing (stripOpening (trim text))

theorem stripOpening_of_head {s : List Char} (h : s.head? ≠ some '(') : stripOpening s = s := by
  unfold stripOpening
  split
  · exact absurd rfl h
  · rfl

theorem stripClosing_append (s : List Char) : stripClosing (s ++ [')']) = s := by
  rw [stripClosing, List.getLast?_concat, if_pos rfl, List.dropLast_concat]

theorem stripClosing_of_last {s : List Char} (h : s.getLast? ≠ some ')') : stripClosing s = s :=
  if_neg h

structure Encloses (raw opening inner closing : List Char) : Prop where
  text : trim raw = opening ++ (inner ++ closing)
  opening : opening = ['('] ∨ opening = [] ∧ (trim raw).head? ≠ some '('
  closing : closing = [')'] ∨ closing = [] ∧ inner.getLast? ≠ some ')'

theorem exists_opening (s : List Char) : ∃ opening, s = opening ++ stripOpening s ∧
    (opening = ['('] ∨ opening = [] ∧ s.head? ≠ some '(') := by
  by_cases h : s.head? = some '('
  · obtain ⟨t, rfl⟩ := List.head?_eq_some_iff.mp h
    exact ⟨['('], rfl, .inl rfl⟩
  · exact ⟨[], (stripOpening_of_head h).symm, .inr ⟨rfl, h⟩⟩

theorem exists_closing (s : List Char) : ∃ closing, s = stripClosing s ++ closing ∧
    (closing = [')'] ∨ closing = [] ∧ (stripClosing s).getLast? ≠ some ')') := by
  by_cases h : s.getLast? = some ')'
  · obtain ⟨t, rfl⟩ := List.getLast?_eq_some_iff.mp h
    exact ⟨[')'], by rw [stripClosing_append], .inl rfl⟩
  · rw [stripClosing_of_last h]
    exact ⟨[], (List.append_nil s).symm, .inr ⟨rfl, h⟩⟩

theorem exists_encloses (text : List Char) :
    ∃ opening closing, Encloses text opening (enclosed text) closing := by
  obtain ⟨opening, hopening, ho⟩ := exists_opening (trim text)
  obtain ⟨closing, hclosing, hc⟩ := exists_closing (stripOpening (trim text))
  rw [hclosing] at hopening
  exact ⟨opening, closing, hopening, ho, hc⟩

def voidValues : List (List Char) := [[], ['('], [')'], ['(', ')']]

theorem isVoid_iff {v : List Char} : isVoid v = true ↔ trim v ∈ voidValues := by
  simp [isVoid, voidValues, or_assoc]

theorem splitValues_eq_some {text : List Char} {values : List (List Char)} :
    splitValues text = some values ↔ scanValues .gap [] (enclosed text) = values ∧ values ≠ [] ∧
      ∀ v ∈ values, trim v ∉ voidValues := by
  simp only [splitValues, enclosed]
  split
  · rename_i h
    simp only [Bool.or_eq_true, List.isEmpty_iff, List.any_eq_true, isVoid_iff] at h
    simp only [reduceCtorEq, false_iff]
    rintro ⟨rfl, hne, hvalues⟩
    rcases h with h | ⟨v, hv, hvoid⟩
    · exact hne h
    · exact hvalues v hv hvoid
  · rename_i h
    simp only [Bool.or_eq_true, List.isEmpty_iff, List.any_eq_true, isVoid_iff, not_or,
      not_exists, not_and] at h
    rw [Option.some.injEq]
    constructor
    · rintro rfl
      exact ⟨rfl, h⟩
    · exact fun hvalues => hvalues.1

theorem splitValues_eq_none {text : List Char} : splitValues text = none ↔
    scanValues .gap [] (enclosed text) = [] ∨
      ∃ v ∈ scanValues .gap [] (enclosed text), trim v ∈ voidValues := by
  rw [Option.eq_none_iff_forall_ne_some]
  simp only [ne_eq, splitValues_eq_some]
  constructor
  · intro h
    by_contra hnot
    simp only [not_or, not_exists, not_and] at hnot
    exact h _ ⟨rfl, hnot⟩
  · rintro h values ⟨rfl, hne, hvalues⟩
    rcases h with h | ⟨v, hv, hvoid⟩
    · exact hne h
    · exact hvalues v hv hvoid

/-- A text without the parentheses around it divides in just one way into values with gaps between
them. The gaps are blank, so that each visible character is in one value. The values are read in
order, unless there is none or one of them says nothing. -/
theorem splitValues_division (text : List Char) :
    (∃ opening closing, Encloses text opening (enclosed text) closing) ∧
    ∃ parts tail, Divides (enclosed text) parts tail ∧
      (∀ parts' tail', Divides (enclosed text) parts' tail' → parts' = parts ∧ tail' = tail) ∧
      enclosed text = parts.flatMap (fun p => p.1 ++ p.2.chars) ++ tail ∧
      (∀ p ∈ parts, AllBlank p.1) ∧ AllBlank tail ∧
      ((enclosed text).filter isVisible = parts.flatMap fun p => p.2.chars.filter isVisible) ∧
      (splitValues text = none ↔ parts = [] ∨ ∃ p ∈ parts, trim p.2.value ∈ voidValues) ∧
      ∀ values, splitValues text = some values → values = parts.map (·.2.value) := by
  obtain ⟨parts, tail, h⟩ := exists_divides (enclosed text)
  refine ⟨exists_encloses text, parts, tail, h, fun _ _ h' => h'.unique h, h.text, h.blank.1,
    h.blank.2, h.visible, ?_, fun values hvalues => ?_⟩
  · rw [splitValues_eq_none, h.scanValues]
    simp only [List.map_eq_nil_iff, List.mem_map, exists_exists_and_eq_and]
  · rw [← h.scanValues]
    exact (splitValues_eq_some.mp hvalues).1.symm

example : splitValues " (a'b c' \"d ( e\"'f' \"g) ".toList =
    some ["a'b".toList, "c'".toList, "d ( e".toList, "f".toList, "\"g".toList] := by rfl

end Listing
