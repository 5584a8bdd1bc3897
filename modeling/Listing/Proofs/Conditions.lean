import Mathlib.Data.List.Basic
import Listing.Text.Quoted

namespace Listing

inductive Lexeme where
  | word (text : List Char)
  | quoted (name : List Char)
  | mark (c : Char)
deriving DecidableEq, Repr

/-- Points belong to words, so that a qualifier is never a word of its own. -/
def isWordChar (c : Char) : Bool :=
  c.isAlphanum || c == '_' || c == '$' || c == '.' || 0x80 ≤ c.toNat

def wordUnderWay (word : List Char) : List Lexeme := if word = [] then [] else [.word word]

mutual
def lexFrom (word : List Char) : List Char → List Lexeme
  | [] => wordUnderWay word
  | c :: s =>
    if isWordChar c then lexFrom (word ++ [c]) s
    else if c = '"' then wordUnderWay word ++ lexQuoted [] s
    else if c = ' ' ∨ c = '\n' then wordUnderWay word ++ lexFrom [] s
    else wordUnderWay word ++ .mark c :: lexFrom [] s

def lexQuoted (name : List Char) : List Char → List Lexeme
  | [] => [.quoted name]
  | '"' :: '"' :: s => lexQuoted (name ++ ['"']) s
  | '"' :: s => .quoted name :: lexFrom [] s
  | c :: s => lexQuoted (name ++ [c]) s
end

def lex (s : String) : List Lexeme := lexFrom [] s.toList

namespace Lexeme

def isKeyword (keyword : String) : Lexeme → Bool
  | .word w => w.map Char.toLower == keyword.toList
  | .quoted _ | .mark _ => false

def isWord : Lexeme → Bool
  | .word _ => true
  | .quoted _ | .mark _ => false

def isOr (l : Lexeme) : Bool := l.isKeyword "or"

def isAnd (l : Lexeme) : Bool := l.isKeyword "and"

def isClosing (l : Lexeme) : Bool := l == .mark ')'

def depth (d : Nat) (l : Lexeme) : Nat :=
  if l = .mark '(' then d + 1 else if l = .mark ')' then d - 1 else d

end Lexeme

open Lexeme

def splitOutside (k : Lexeme → Bool) : Nat → List Lexeme → List (List Lexeme)
  | _, [] => [[]]
  | d, l :: ls =>
    if d = 0 ∧ k l = true then [] :: splitOutside k (l.depth d) ls
    else (splitOutside k (l.depth d) ls).modifyHead (l :: ·)

def disjuncts (ls : List Lexeme) : List (List Lexeme) := splitOutside isOr 0 ls

def conjuncts (ls : List Lexeme) : List (List Lexeme) := splitOutside isAnd 0 ls

def closeGroup : Nat → List Lexeme → Option (List Lexeme × List Lexeme)
  | _, [] => none
  | d, l :: ls =>
    if d = 0 ∧ l.isClosing = true then some ([], ls)
    else (closeGroup (l.depth d) ls).map fun p => (l :: p.1, p.2)

def ungroup? : List Lexeme → Option (List Lexeme)
  | .mark '(' :: ls => match closeGroup 0 ls with
    | some (inner, []) => some inner
    | _ => none
  | _ => none

mutual
inductive Holds (test : List Lexeme → Prop) : List Lexeme → Prop
  | intro {ls d : List Lexeme} :
      d ∈ disjuncts ls → (∀ a ∈ conjuncts d, HoldsPart test a) → Holds test ls

inductive HoldsPart (test : List Lexeme → Prop) : List Lexeme → Prop
  | test {a : List Lexeme} : ungroup? a = none → test a → HoldsPart test a
  | group {a inner : List Lexeme} : ungroup? a = some inner → Holds test inner → HoldsPart test a
end

def Breaks (s : List Char) : Prop := ∀ c ∈ s.head?, isWordChar c = false ∧ c ≠ '"'

theorem lexFrom_break {s : List Char} (h : Breaks s) (word : List Char) :
    lexFrom word s = wordUnderWay word ++ lexFrom [] s := by
  cases s with
  | nil => simp [lexFrom, wordUnderWay]
  | cons c s =>
    obtain ⟨hc, hq⟩ := h c rfl
    simp only [lexFrom, hc, hq, Bool.false_eq_true, if_false]
    split <;> simp [wordUnderWay]

theorem lexFrom_append {u s : List Char} (hu : '"' ∉ u) (hs : Breaks s) (word : List Char) :
    lexFrom word (u ++ s) = lexFrom word u ++ lexFrom [] s := by
  induction u generalizing word with
  | nil => simpa [lexFrom] using lexFrom_break hs word
  | cons c u ih =>
    have hc : c ≠ '"' := fun he => hu (he ▸ List.mem_cons_self)
    have hrest := ih fun hm => hu (List.mem_cons_of_mem _ hm)
    simp only [List.cons_append, lexFrom, hc, if_false]
    split_ifs <;> simp [hrest]

theorem lexFrom_append_of_last {u : List Char} {c : Char} (hu : '"' ∉ u)
    (hc : isWordChar c = false) (hq : c ≠ '"') (s word : List Char) :
    lexFrom word (u ++ c :: s) = lexFrom word (u ++ [c]) ++ lexFrom [] s := by
  have hbreak : ∀ s, Breaks (c :: s) := by
    intro s x hx
    cases hx
    exact ⟨hc, hq⟩
  have hone : lexFrom [] (c :: s) = lexFrom [] [c] ++ lexFrom [] s := by
    simp only [lexFrom, hc, hq, Bool.false_eq_true, if_false]
    split <;> simp [wordUnderWay]
  rw [lexFrom_append hu (hbreak s), lexFrom_append hu (hbreak []), hone, List.append_assoc]

theorem lexFrom_word {u : List Char} (hu : ∀ c ∈ u, isWordChar c = true) (word s : List Char) :
    lexFrom word (u ++ s) = lexFrom (word ++ u) s := by
  induction u generalizing word with
  | nil => simp
  | cons c u ih =>
    have hc := hu c List.mem_cons_self
    have hrest := ih (fun x hx => hu x (List.mem_cons_of_mem _ hx)) (word ++ [c])
    simpa [lexFrom, hc] using hrest

theorem lexQuoted_identifier {s : List Char} (hs : Breaks s) (name cs : List Char) :
    lexQuoted name (Text.doubleMarks cs ++ '"' :: s) = .quoted (name ++ cs) :: lexFrom [] s := by
  induction cs generalizing name with
  | nil =>
    cases s with
    | nil => simp [Text.doubleMarks, lexQuoted]
    | cons c s =>
      have hc := (hs c rfl).2
      simp [Text.doubleMarks, lexQuoted, hc]
  | cons c cs ih =>
    by_cases hc : c = '"'
    · subst hc
      simp [Text.doubleMarks, lexQuoted, ih]
    · simp [Text.doubleMarks, lexQuoted, hc, ih]

def depthAfter (d : Nat) (ls : List Lexeme) : Nat := ls.foldl Lexeme.depth d

def Free (k : Lexeme → Bool) : Nat → List Lexeme → Prop
  | _, [] => True
  | d, l :: ls => ¬ (d = 0 ∧ k l = true) ∧ Free k (l.depth d) ls

theorem depthAfter_append (d : Nat) (xs ys : List Lexeme) :
    depthAfter d (xs ++ ys) = depthAfter (depthAfter d xs) ys := List.foldl_append

theorem free_append {k : Lexeme → Bool} {d : Nat} {xs ys : List Lexeme} :
    Free k d (xs ++ ys) ↔ Free k d xs ∧ Free k (depthAfter d xs) ys := by
  induction xs generalizing d with
  | nil => simp [Free, depthAfter]
  | cons x xs ih =>
    rw [List.cons_append, Free, Free, ih, and_assoc]
    rfl

theorem Free.mono {k k' : Lexeme → Bool} (hk : ∀ l, k' l = true → k l = true) {d : Nat}
    {ls : List Lexeme} (h : Free k d ls) : Free k' d ls := by
  induction ls generalizing d with
  | nil => trivial
  | cons l ls ih => exact ⟨fun hl => h.1 ⟨hl.1, hk l hl.2⟩, ih h.2⟩

theorem Free.deeper {d : Nat} {ls : List Lexeme} (h : Free isClosing d ls) :
    depthAfter (d + 1) ls = depthAfter d ls + 1 ∧ ∀ k, Free k (d + 1) ls := by
  induction ls generalizing d with
  | nil => exact ⟨rfl, fun _ => trivial⟩
  | cons l ls ih =>
    have hstep : l.depth (d + 1) = l.depth d + 1 := by
      have hl := h.1
      simp only [isClosing, beq_iff_eq, not_and] at hl
      simp only [Lexeme.depth]
      split_ifs with ho hc
      · rfl
      · have hd : d ≠ 0 := fun hd => hl hd hc
        omega
      · rfl
    obtain ⟨hdepth, hfree⟩ := ih h.2
    refine ⟨?_, fun k => ⟨by simp, ?_⟩⟩
    · simpa only [depthAfter, List.foldl_cons, hstep] using hdepth
    · rw [hstep]
      exact hfree k

theorem splitOutside_append {k : Lexeme → Bool} {d : Nat} {xs : List Lexeme} (h : Free k d xs)
    (ys : List Lexeme) : splitOutside k d (xs ++ ys) =
      (splitOutside k (depthAfter d xs) ys).modifyHead (xs ++ ·) := by
  induction xs generalizing d with
  | nil => exact (congrFun List.modifyHead_id _).symm
  | cons x xs ih =>
    rw [List.cons_append, splitOutside, if_neg h.1, ih h.2, List.modifyHead_modifyHead]
    rfl

theorem splitOutside_free {k : Lexeme → Bool} {d : Nat} {ls : List Lexeme} (h : Free k d ls) :
    splitOutside k d ls = [ls] := by
  have hsplit := splitOutside_append h []
  simpa [splitOutside] using hsplit

theorem closeGroup_append {d : Nat} {xs : List Lexeme} (h : Free isClosing d xs)
    (hd : depthAfter d xs = 0) (rest : List Lexeme) :
    closeGroup d (xs ++ .mark ')' :: rest) = some (xs, rest) := by
  induction xs generalizing d with
  | nil =>
    obtain rfl : d = 0 := hd
    rfl
  | cons x xs ih => rw [List.cons_append, closeGroup, if_neg h.1, ih h.2 hd]; rfl

def Lexeme.isStructural (l : Lexeme) : Bool := l.isOr || l.isAnd || l.isClosing

def Lexeme.isSimple (l : Lexeme) : Bool := !l.isStructural && l != .mark '('

structure IsPart (ls : List Lexeme) : Prop where
  free : Free isStructural 0 ls
  depth : depthAfter 0 ls = 0

namespace IsPart

variable {xs ys : List Lexeme}

theorem of_simple {ls : List Lexeme} (h : ls.all isSimple = true) : IsPart ls := by
  induction ls with
  | nil => exact ⟨trivial, rfl⟩
  | cons l ls ih =>
    rw [List.all_cons, Bool.and_eq_true] at h
    obtain ⟨hl, hrest⟩ := h
    simp only [isSimple, Bool.and_eq_true, Bool.not_eq_true', bne_iff_ne] at hl
    obtain ⟨hs, ho⟩ := hl
    have hc : l ≠ .mark ')' := by
      rintro rfl
      cases hs
    have hdepth : l.depth 0 = 0 := by simp [Lexeme.depth, ho, hc]
    obtain ⟨hfree, hd⟩ := ih hrest
    refine ⟨⟨by simp [hs], hdepth.symm ▸ hfree⟩, ?_⟩
    simpa [depthAfter, hdepth] using hd

theorem append (hx : IsPart xs) (hy : IsPart ys) : IsPart (xs ++ ys) where
  free := free_append.mpr ⟨hx.free, hx.depth.symm ▸ hy.free⟩
  depth := by rw [depthAfter_append, hx.depth, hy.depth]

theorem unclosed (h : IsPart xs) : Free isClosing 0 xs :=
  h.free.mono fun l hl => by simp [isStructural, hl]

theorem no_or (h : IsPart xs) : Free isOr 0 xs := h.free.mono fun l hl => by simp [isStructural, hl]

theorem no_and (h : IsPart xs) : Free isAnd 0 xs :=
  h.free.mono fun l hl => by simp [isStructural, hl]

theorem enclosed (hc : Free isClosing 0 xs) (hd : depthAfter 0 xs = 0) :
    IsPart (.mark '(' :: (xs ++ [.mark ')'])) := by
  obtain ⟨hdepth, hfree⟩ := hc.deeper
  rw [hd] at hdepth
  have hopen : Lexeme.depth 0 (.mark '(') = 1 := rfl
  constructor
  · refine ⟨by decide, free_append.mpr ⟨hfree _, ?_⟩⟩
    rw [hopen, hdepth]
    exact ⟨by decide, trivial⟩
  · rw [depthAfter, List.foldl_cons, hopen]
    change depthAfter 1 (xs ++ [.mark ')']) = 0
    rw [depthAfter_append, hdepth]
    rfl

end IsPart

theorem ungroup?_enclosed {ls : List Lexeme} (hc : Free isClosing 0 ls)
    (hd : depthAfter 0 ls = 0) : ungroup? (.mark '(' :: (ls ++ [.mark ')'])) = some ls := by
  simp [ungroup?, closeGroup_append hc hd]

theorem ungroup?_eq_none {ls : List Lexeme} (h : ls.head? ≠ some (.mark '(')) :
    ungroup? ls = none := by
  rw [ungroup?.eq_def]
  split
  · simp at h
  · rfl

section Joined

variable {parts : List (List Lexeme)} {k : Lexeme → Bool} {sep : Lexeme}

theorem depth_joined (hp : ∀ p ∈ parts, IsPart p) (hs : sep.depth 0 = 0) :
    depthAfter 0 ([sep].intercalate parts) = 0 := by
  induction parts with
  | nil => rfl
  | cons p ps ih =>
    have hhead := hp p List.mem_cons_self
    have htail := ih fun q hq => hp q (List.mem_cons_of_mem _ hq)
    cases ps with
    | nil => simpa using hhead.depth
    | cons q ps =>
      rw [List.intercalate_cons_cons, depthAfter_append, depthAfter_append, hhead.depth]
      simpa [depthAfter, hs] using htail

theorem free_joined (hp : ∀ p ∈ parts, Free k 0 p ∧ depthAfter 0 p = 0) (hs : sep.depth 0 = 0)
    (hk : k sep = false) : Free k 0 ([sep].intercalate parts) := by
  induction parts with
  | nil => trivial
  | cons p ps ih =>
    obtain ⟨hfree, hdepth⟩ := hp p List.mem_cons_self
    have htail := ih fun q hq => hp q (List.mem_cons_of_mem _ hq)
    cases ps with
    | nil => simpa using hfree
    | cons q ps =>
      rw [List.intercalate_cons_cons, List.append_assoc]
      refine free_append.mpr ⟨hfree, ?_⟩
      rw [hdepth]
      exact ⟨by simp [hk], hs.symm ▸ htail⟩

theorem splitOutside_joined (hp : ∀ p ∈ parts, Free k 0 p ∧ depthAfter 0 p = 0)
    (hs : sep.depth 0 = 0) (hk : k sep = true) (hne : parts ≠ []) :
    splitOutside k 0 ([sep].intercalate parts) = parts := by
  induction parts with
  | nil => exact absurd rfl hne
  | cons p ps ih =>
    obtain ⟨hfree, hdepth⟩ := hp p List.mem_cons_self
    cases ps with
    | nil => simpa using splitOutside_free hfree
    | cons q ps =>
      have htail := ih (fun r hr => hp r (List.mem_cons_of_mem _ hr)) (List.cons_ne_nil q ps)
      rw [List.intercalate_cons_cons, List.append_assoc, splitOutside_append hfree, hdepth,
        List.singleton_append, splitOutside, if_pos ⟨rfl, hk⟩, hs, htail]
      simp

end Joined

section Meaning

variable {test : List Lexeme → Prop} {parts : List (List Lexeme)} {sep : Lexeme}

theorem holdsPart_test {a : List Lexeme} (h : ungroup? a = none) : HoldsPart test a ↔ test a := by
  constructor
  · rintro (⟨-, ht⟩ | ⟨hu, -⟩)
    · exact ht
    · rw [h] at hu
      cases hu
  · exact .test h

theorem holdsPart_group {a inner : List Lexeme} (h : ungroup? a = some inner) :
    HoldsPart test a ↔ Holds test inner := by
  constructor
  · rintro (⟨hu, -⟩ | ⟨hu, hi⟩)
    · rw [h] at hu
      cases hu
    · cases h.symm.trans hu
      exact hi
  · exact .group h

theorem holds_iff {ls : List Lexeme} :
    Holds test ls ↔ ∃ d ∈ disjuncts ls, ∀ a ∈ conjuncts d, HoldsPart test a := by
  constructor
  · rintro ⟨hd, ha⟩
    exact ⟨_, hd, ha⟩
  · rintro ⟨d, hd, ha⟩
    exact .intro hd ha

def andWord : Lexeme := .word ['A', 'N', 'D']

def orWord : Lexeme := .word ['O', 'R']

theorem disjuncts_and (hp : ∀ p ∈ parts, IsPart p) :
    disjuncts ([andWord].intercalate parts) = [[andWord].intercalate parts] :=
  splitOutside_free (free_joined (fun p h => ⟨(hp p h).no_or, (hp p h).depth⟩) rfl rfl)

theorem conjuncts_and (hp : ∀ p ∈ parts, IsPart p) (hne : parts ≠ []) :
    conjuncts ([andWord].intercalate parts) = parts :=
  splitOutside_joined (fun p h => ⟨(hp p h).no_and, (hp p h).depth⟩) rfl rfl hne

theorem disjuncts_or (hp : ∀ p ∈ parts, IsPart p) (hne : parts ≠ []) :
    disjuncts ([orWord].intercalate parts) = parts :=
  splitOutside_joined (fun p h => ⟨(hp p h).no_or, (hp p h).depth⟩) rfl rfl hne

theorem holds_and (hp : ∀ p ∈ parts, IsPart p) (hne : parts ≠ []) :
    Holds test ([andWord].intercalate parts) ↔ ∀ p ∈ parts, HoldsPart test p := by
  rw [holds_iff, disjuncts_and hp]
  simp [conjuncts_and hp hne]

theorem holds_or (hp : ∀ p ∈ parts, IsPart p) (ht : ∀ p ∈ parts, ungroup? p = none)
    (hne : parts ≠ []) :
    Holds test ([orWord].intercalate parts) ↔ ∃ p ∈ parts, test p := by
  have hone : ∀ p ∈ parts, conjuncts p = [p] := fun p h => splitOutside_free (hp p h).no_and
  rw [holds_iff, disjuncts_or hp hne]
  constructor
  · rintro ⟨p, h, ha⟩
    rw [hone p h] at ha
    exact ⟨p, h, (holdsPart_test (ht p h)).mp (ha p (List.mem_singleton_self p))⟩
  · rintro ⟨p, h, ha⟩
    refine ⟨p, h, fun a hm => ?_⟩
    rw [hone p h, List.mem_singleton] at hm
    exact hm ▸ (holdsPart_test (ht p h)).mpr ha

theorem group_or (hp : ∀ p ∈ parts, IsPart p) :
    IsPart (.mark '(' :: ([orWord].intercalate parts ++ [.mark ')'])) ∧
      ungroup? (.mark '(' :: ([orWord].intercalate parts ++ [.mark ')'])) =
        some ([orWord].intercalate parts) := by
  have hdepth := depth_joined hp (show orWord.depth 0 = 0 from rfl)
  have hfree := free_joined (fun p h => ⟨(hp p h).unclosed, (hp p h).depth⟩)
    (show orWord.depth 0 = 0 from rfl) rfl
  exact ⟨.enclosed hfree hdepth, ungroup?_enclosed hfree hdepth⟩

end Meaning
end Listing
