import Mathlib.Data.List.Chain
import Listing.Proofs.Conditions
import Listing.Proofs.Placeholders

namespace Listing

open Lexeme

def IsPlainName (name : String) : Prop := ∀ c ∈ name.toList, isWordChar c = true

namespace Piece

def lexemes : Piece → List Lexeme
  | .column f => [.word (f.qualifier.toList ++ ['.']), .quoted f.field.name.toList]
  | .table t => lex t.statement
  | .fixed s => lex s
  | .argument n => [.word (placeholder n).toList]

def Plain : Piece → Prop
  | .column f => IsPlainName f.qualifier
  | .table _ => False
  | .fixed s => s ∈ fixedTexts
  | .argument _ => True

def isBreak (c : Char) : Bool := !isWordChar c && c != '"'

def startsApart : Piece → Bool
  | .fixed s => s.toList.head?.any isBreak
  | .column _ | .table _ | .argument _ => false

def endsApart : Piece → Bool
  | .fixed s => s.toList.getLast?.any isBreak
  | .column _ | .table _ | .argument _ => false

def Apart (p q : Piece) : Prop := p.endsApart = true ∨ q.startsApart = true

theorem isBreak_iff {c : Char} : isBreak c = true ↔ isWordChar c = false ∧ c ≠ '"' := by
  simp [isBreak]

theorem placeholder_word (n : Nat) : ∀ c ∈ (placeholder n).toList, isWordChar c = true := by
  intro c hc
  simp only [placeholder, String.toList_append, Nat.toString_eq_ofList_toDigits,
    String.toList_ofList, List.mem_append] at hc
  rcases hc with hc | hc
  · obtain rfl : c = '$' := by simpa using hc
    rfl
  · have hd := Nat.isDigit_of_mem_toDigits (by decide) (by decide) hc
    simp [isWordChar, Char.isAlphanum, hd]

theorem breaks_of_startsApart {p : Piece} (h : p.startsApart = true) (s : List Char) :
    Breaks (p.text.toList ++ s) := by
  cases p with
  | fixed t =>
    simp only [startsApart] at h
    cases ht : t.toList with
    | nil => simp [ht] at h
    | cons c u =>
      simp only [ht, List.head?_cons, Option.any_some] at h
      intro x hx
      simp only [text, ht, List.cons_append, List.head?_cons, Option.mem_some] at hx
      exact hx ▸ isBreak_iff.mp h
  | column f => cases h
  | table t => cases h
  | argument n => cases h

theorem lexFrom_text {p : Piece} (hp : p.Plain) {s : List Char}
    (h : p.endsApart = true ∨ Breaks s) :
    lexFrom [] (p.text.toList ++ s) = p.lexemes ++ lexFrom [] s := by
  cases p with
  | column f =>
    have hs : Breaks s := h.resolve_left (by simp [endsApart])
    have hq : ∀ c ∈ f.qualifier.toList ++ ['.'], isWordChar c = true := by
      intro c hc
      rcases List.mem_append.mp hc with hc | hc
      · exact hp c hc
      · obtain rfl := List.mem_singleton.mp hc
        rfl
    have htext : (Piece.column f).text.toList ++ s = (f.qualifier.toList ++ ['.']) ++
        ('"' :: (Text.doubleMarks f.field.name.toList ++ '"' :: s)) := by
      simp [text, Column.statement, Text.identifier]
    have hmark : isWordChar '"' = false := by decide
    rw [htext, lexFrom_word hq, List.nil_append, lexFrom]
    simp [hmark, lexQuoted_identifier hs, wordUnderWay, lexemes]
  | table t => exact hp.elim
  | fixed t =>
    have hquote : '"' ∉ t.toList := by
      have hall : ∀ t ∈ fixedTexts, '"' ∉ t.toList := by decide
      exact hall t hp
    rcases h with h | h
    · simp only [endsApart] at h
      rcases List.eq_nil_or_concat t.toList with ht | ⟨u, c, ht⟩
      · simp [ht] at h
      · rw [List.concat_eq_append] at ht
        have hu : '"' ∉ u := fun hm => hquote (ht ▸ List.mem_append_left _ hm)
        simp only [ht, List.getLast?_concat, Option.any_some] at h
        obtain ⟨hc, hq⟩ := isBreak_iff.mp h
        simp only [text, lexemes, lex, ht, List.append_assoc, List.singleton_append]
        exact lexFrom_append_of_last hu hc hq s []
    · exact lexFrom_append hquote h []
  | argument n =>
    have hs : Breaks s := h.resolve_left (by simp [endsApart])
    have hne : (placeholder n).toList ≠ [] := by simp [placeholder]
    have hword := lexFrom_word (placeholder_word n) [] s
    rw [lexFrom_break hs, List.nil_append] at hword
    simpa [text, lexemes, wordUnderWay, hne] using hword

theorem lexFrom_textOf {ps : List Piece} (hp : ∀ p ∈ ps, p.Plain) (hc : ps.IsChain Apart)
    {s : List Char} (hs : Breaks s) :
    lexFrom [] ((textOf ps).toList ++ s) = ps.flatMap lexemes ++ lexFrom [] s := by
  induction ps with
  | nil => simp
  | cons p ps ih =>
    have hhead := hp p List.mem_cons_self
    have hrest := ih (fun q hq => hp q (List.mem_cons_of_mem _ hq)) hc.tail
    have happly : p.endsApart = true ∨ Breaks ((textOf ps).toList ++ s) := by
      cases ps with
      | nil => exact .inr hs
      | cons q qs =>
        refine (List.isChain_cons_cons.mp hc).1.imp_right fun hq => ?_
        rw [textOf_cons, String.toList_append, List.append_assoc]
        exact breaks_of_startsApart hq _
    rw [textOf_cons, String.toList_append, List.append_assoc, lexFrom_text hhead happly, hrest,
      List.flatMap_cons, List.append_assoc]

theorem lexemes_textOf {ps : List Piece} (hp : ∀ p ∈ ps, p.Plain) (hc : ps.IsChain Apart) :
    lex (textOf ps) = ps.flatMap lexemes := by
  have hs : Breaks [] := by simp [Breaks]
  simpa [lex, lexFrom, wordUnderWay] using lexFrom_textOf hp hc hs

theorem isChain_around {t : String} (ps : List Piece) {qs : List Piece}
    (hs : (Piece.fixed t).startsApart = true) (he : (Piece.fixed t).endsApart = true) :
    (ps ++ .fixed t :: qs).IsChain Apart ↔ ps.IsChain Apart ∧ qs.IsChain Apart := by
  have hstart : ∀ p, Apart p (.fixed t) := fun p => .inr hs
  have hend : ∀ q, Apart (.fixed t) q := fun q => .inl he
  rw [List.isChain_append, List.isChain_cons]
  simp [hstart, hend]

theorem isChain_separated {separator : String} (hs : (Piece.fixed separator).startsApart = true)
    (he : (Piece.fixed separator).endsApart = true) {pss : List (List Piece)}
    (h : ∀ ps ∈ pss, ps.IsChain Apart) : (separated separator pss).IsChain Apart := by
  induction pss with
  | nil => exact .nil
  | cons ps pss ih =>
    have hhead := h ps List.mem_cons_self
    have htail := ih fun qs hq => h qs (List.mem_cons_of_mem _ hq)
    cases pss with
    | nil => exact hhead
    | cons qs pss => exact (isChain_around _ hs he).mpr ⟨hhead, htail⟩

theorem flatMap_separated (separator : String) (pss : List (List Piece)) :
    (separated separator pss).flatMap lexemes =
      (lex separator).intercalate (pss.map (·.flatMap lexemes)) := by
  induction pss with
  | nil => rfl
  | cons ps pss ih =>
    cases pss with
    | nil => simp [separated]
    | cons qs pss =>
      rw [separated, List.flatMap_append, List.flatMap_cons, ih]
      simp [lexemes, List.intercalate_cons_cons]

theorem plain_fixed {s : String} (h : s ∈ fixedTexts) : (Piece.fixed s).Plain := h

theorem plain_typedArgument (kind : FieldKind) (n : Nat) :
    ∀ p ∈ typedArgument kind n, p.Plain := by
  cases kind <;> simp [typedArgument, Plain, fixedTexts]

theorem plain_comparand {f : Column} (hf : IsPlainName f.qualifier) :
    ∀ p ∈ comparand f, p.Plain := by
  cases h : f.field.kind <;> simp [comparand, h, Plain, hf, fixedTexts]

theorem chain_typedArgument (kind : FieldKind) (n : Nat) :
    (typedArgument kind n).IsChain Apart := by
  cases kind <;> simp [typedArgument, Apart, startsApart, isBreak, isWordChar]

theorem chain_comparand (f : Column) : (comparand f).IsChain Apart := by
  cases h : f.field.kind <;> simp [comparand, h, Apart, startsApart, isBreak, isWordChar]

end Piece

def Predicate.Plain (p : Predicate) : Prop := ∀ f ∈ p.columns, IsPlainName f.qualifier

def SearchTest.lexemes (t : SearchTest) : List Lexeme := t.pieces.flatMap Piece.lexemes

def Predicate.lexemes (p : Predicate) : List Lexeme := p.pieces.flatMap Piece.lexemes

theorem SearchTest.plain_pieces {t : SearchTest} (ht : IsPlainName t.column.qualifier) :
    ∀ p ∈ t.pieces, p.Plain := by
  cases t with
  | startsWith f n =>
    have hf : IsPlainName f.qualifier := ht
    simp [pieces, Piece.Plain, hf, Piece.fixedTexts]
  | contains f n =>
    have hf : IsPlainName f.qualifier := ht
    simp [pieces, Piece.Plain, hf, Piece.fixedTexts]

theorem SearchTest.chain_pieces (t : SearchTest) : t.pieces.IsChain Piece.Apart := by
  cases t <;> simp [pieces, Piece.Apart, Piece.startsApart, Piece.endsApart, Piece.isBreak,
    isWordChar]

namespace Predicate

theorem plain_pieces {p : Predicate} (hp : p.Plain) : ∀ q ∈ p.pieces, q.Plain := by
  cases p with
  | anyOf tests =>
    cases tests with
    | nil => simp [pieces, Piece.Plain, Piece.fixedTexts]
    | cons t ts =>
      have hsep : ∀ q ∈ Piece.separated " OR " ((t :: ts).map (·.pieces)), q.Plain := by
        apply Piece.forall_mem_separated (Piece.plain_fixed (by decide))
        rw [List.forall_mem_map]
        exact fun u hu => SearchTest.plain_pieces (hp u.column (List.mem_map_of_mem hu))
      simp only [pieces, List.forall_mem_append, List.forall_mem_cons]
      exact ⟨⟨Piece.plain_fixed (by decide), hsep⟩, Piece.plain_fixed (by decide),
        List.forall_mem_nil _⟩
  | compare f op n =>
    have hf := Piece.plain_comparand (hp f List.mem_cons_self)
    have hn := Piece.plain_typedArgument f.field.kind n
    simp only [pieces, List.forall_mem_append, List.forall_mem_cons]
    have hsign : (Piece.fixed op.sign).Plain := Piece.plain_fixed (by cases op <;> decide)
    exact ⟨hf, Piece.plain_fixed (by decide), hsign, Piece.plain_fixed (by decide), hn⟩
  | among f ns =>
    have hf := Piece.plain_comparand (hp f List.mem_cons_self)
    have hsep : ∀ q ∈ Piece.separated "," (ns.map (Piece.typedArgument f.field.kind)),
        q.Plain := by
      apply Piece.forall_mem_separated (Piece.plain_fixed (by decide))
      rw [List.forall_mem_map]
      exact fun n _ => Piece.plain_typedArgument f.field.kind n
    simp only [pieces, List.forall_mem_append, List.forall_mem_cons]
    exact ⟨⟨hf, Piece.plain_fixed (by decide), hsep⟩, Piece.plain_fixed (by decide),
      List.forall_mem_nil _⟩
  | isFalse f =>
    have hf : (Piece.column f).Plain := hp f List.mem_cons_self
    simp only [pieces, List.forall_mem_cons]
    exact ⟨hf, Piece.plain_fixed (by decide), List.forall_mem_nil _⟩
  | idAmong f ns =>
    have hf := Piece.plain_comparand (hp f List.mem_cons_self)
    have hsep : ∀ q ∈ Piece.separated ", " (ns.map fun n => [.argument n]), q.Plain := by
      apply Piece.forall_mem_separated (Piece.plain_fixed (by decide))
      simp [Piece.Plain]
    simp only [pieces, List.forall_mem_append, List.forall_mem_cons]
    exact ⟨⟨hf, Piece.plain_fixed (by decide), hsep⟩, Piece.plain_fixed (by decide),
      List.forall_mem_nil _⟩
  | never => simp [pieces, Piece.Plain, Piece.fixedTexts]

theorem chain_pieces (p : Predicate) : p.pieces.IsChain Piece.Apart := by
  cases p with
  | anyOf tests =>
    cases tests with
    | nil => exact .singleton _
    | cons t ts =>
      have hsep : (Piece.separated " OR " ((t :: ts).map (·.pieces))).IsChain Piece.Apart := by
        apply Piece.isChain_separated (by decide) (by decide)
        simp [SearchTest.chain_pieces]
      have hclose := (Piece.isChain_around _ (t := ")") (by decide) (by decide)).mpr ⟨hsep, .nil⟩
      exact (Piece.isChain_around [] (t := "(") (by decide) (by decide)).mpr ⟨.nil, hclose⟩
  | compare f op n =>
    have hvalue := (Piece.isChain_around [.fixed op.sign] (t := " ") (by decide)
      (by decide)).mpr ⟨.singleton _, Piece.chain_typedArgument f.field.kind n⟩
    exact (Piece.isChain_around _ (by decide) (by decide)).mpr ⟨Piece.chain_comparand f, hvalue⟩
  | among f ns =>
    have hsep : (Piece.separated "," (ns.map (Piece.typedArgument f.field.kind))).IsChain
        Piece.Apart := by
      apply Piece.isChain_separated (by decide) (by decide)
      simp [Piece.chain_typedArgument]
    have hlist := (Piece.isChain_around _ (t := " IN (") (by decide) (by decide)).mpr
      ⟨Piece.chain_comparand f, hsep⟩
    exact (Piece.isChain_around _ (by decide) (by decide)).mpr ⟨hlist, .nil⟩
  | isFalse f => simp [pieces, Piece.Apart, Piece.startsApart, Piece.isBreak, isWordChar]
  | idAmong f ns =>
    have hsep : (Piece.separated ", " (ns.map fun n => [.argument n])).IsChain Piece.Apart := by
      apply Piece.isChain_separated (by decide) (by decide)
      simp
    have hlist := (Piece.isChain_around _ (t := " IN (") (by decide) (by decide)).mpr
      ⟨Piece.chain_comparand f, hsep⟩
    exact (Piece.isChain_around _ (by decide) (by decide)).mpr ⟨hlist, .nil⟩
  | never => exact .singleton _

end Predicate

namespace Piece

def isSimple (p : Piece) : Bool := p.lexemes.all Lexeme.isSimple

theorem simple_column (f : Column) : (Piece.column f).isSimple = true := by
  have hkeyword : ∀ keyword : String, keyword.toList.getLast? ≠ some '.' →
      isKeyword keyword (.word (f.qualifier.toList ++ ['.'])) = false := by
    intro keyword hk
    simp only [isKeyword, beq_eq_false_iff_ne]
    intro he
    apply hk
    rw [← he]
    simp
  have hor := hkeyword "or" (by decide)
  have hand := hkeyword "and" (by decide)
  have hname : ∀ keyword, isKeyword keyword (.quoted f.field.name.toList) = false := fun _ => rfl
  simp [isSimple, lexemes, Lexeme.isSimple, isStructural, isOr, isAnd, hor, hand, hname, isClosing]

theorem simple_argument (n : Nat) : (Piece.argument n).isSimple = true := by
  have hkeyword : ∀ keyword : String, keyword.toList.head? ≠ some '$' →
      isKeyword keyword (.word (placeholder n).toList) = false := by
    intro keyword hk
    simp only [isKeyword, beq_eq_false_iff_ne]
    intro he
    apply hk
    rw [← he]
    simp [placeholder]
  have hor := hkeyword "or" (by decide)
  have hand := hkeyword "and" (by decide)
  simp [isSimple, lexemes, Lexeme.isSimple, isStructural, isOr, isAnd, hor, hand, isClosing]

theorem simple_comparand (f : Column) : (comparand f).all isSimple = true := by
  have htext : (Piece.fixed "::text").isSimple = true := by decide
  cases h : f.field.kind <;> simp [-List.all_eq_true, comparand, h, simple_column, htext]

theorem simple_typedArgument (kind : FieldKind) (n : Nat) :
    (typedArgument kind n).all isSimple = true := by
  have htext : (Piece.fixed "::timestamptz").isSimple = true := by decide
  cases kind <;> simp [-List.all_eq_true, typedArgument, simple_argument, htext]

theorem simple_separated {separator : String} {pss : List (List Piece)}
    (hs : (Piece.fixed separator).isSimple = true) (h : ∀ ps ∈ pss, ps.all isSimple = true) :
    (separated separator pss).all isSimple = true := by
  rw [List.all_eq_true]
  exact forall_mem_separated hs fun ps hps => List.all_eq_true.mp (h ps hps)

theorem isPart_of_simple {ps : List Piece} (h : ps.all isSimple = true) :
    IsPart (ps.flatMap lexemes) := by
  apply IsPart.of_simple
  rw [List.all_flatMap]
  exact h

end Piece

theorem SearchTest.isPart (t : SearchTest) : IsPart t.lexemes := by
  cases t with
  | startsWith f n =>
    have htext : (Piece.fixed "::text like ").isSimple = true := by decide
    apply Piece.isPart_of_simple
    simp [-List.all_eq_true, pieces, Piece.simple_column, Piece.simple_argument, htext]
  | contains f n =>
    have hlower : (Piece.fixed "lower(").lexemes = [.word "lower".toList, .mark '('] := by decide
    have hlike : (Piece.fixed ") like ").lexemes = [.mark ')', .word "like".toList] := by decide
    have hcolumn : IsPart (Piece.column f).lexemes := .of_simple (Piece.simple_column f)
    have hgroup := IsPart.enclosed hcolumn.unclosed hcolumn.depth
    have hhead : IsPart [.word "lower".toList] := .of_simple (by decide)
    have htail : IsPart (.word "like".toList :: (Piece.argument n).lexemes) := by
      have hargument : IsPart (Piece.argument n).lexemes := .of_simple (Piece.simple_argument n)
      have hword : IsPart [.word "like".toList] := .of_simple (by decide)
      exact hword.append hargument
    have hall := (hhead.append hgroup).append htail
    simpa [lexemes, pieces, hlower, hlike] using hall

theorem SearchTest.ungroup?_lexemes (t : SearchTest) : ungroup? t.lexemes = none := by
  -- a test starts with a column or with the name of a function, never with a parenthesis
  apply ungroup?_eq_none
  cases t with
  | startsWith f n => simp [lexemes, pieces, Piece.lexemes]
  | contains f n =>
    have hlower : (Piece.fixed "lower(").lexemes = [.word "lower".toList, .mark '('] := by decide
    simp [lexemes, pieces, hlower]

namespace Predicate

def alternatives : List SearchTest → List (List Lexeme)
  | [] => [[.word "FALSE".toList]]
  | tests => tests.map (·.lexemes)

theorem alternatives_ne_nil (tests : List SearchTest) : alternatives tests ≠ [] := by
  cases tests <;> simp [alternatives]

theorem isPart_alternatives (tests : List SearchTest) :
    ∀ a ∈ alternatives tests, IsPart a ∧ ungroup? a = none := by
  cases tests with
  | nil =>
    have hfalse : IsPart [.word "FALSE".toList] := .of_simple (by decide)
    simpa [alternatives] using ⟨hfalse, rfl⟩
  | cons t ts =>
    intro a ha
    obtain ⟨u, -, rfl⟩ := List.mem_map.mp ha
    exact ⟨u.isPart, u.ungroup?_lexemes⟩

theorem lexemes_anyOf (tests : List SearchTest) : lexemes (.anyOf tests) =
    .mark '(' :: ([orWord].intercalate (alternatives tests) ++ [.mark ')']) := by
  have hopen : (Piece.fixed "(").lexemes = [.mark '('] := by decide
  have hclose : (Piece.fixed ")").lexemes = [.mark ')'] := by decide
  have hor : lex " OR " = [orWord] := by decide
  cases tests with
  | nil => decide
  | cons t ts =>
    have hpieces : pieces (.anyOf (t :: ts)) =
        .fixed "(" :: Piece.separated " OR " ((t :: ts).map (·.pieces)) ++ [.fixed ")"] := rfl
    rw [lexemes, hpieces, List.flatMap_append, List.flatMap_cons, Piece.flatMap_separated, hor,
      hopen]
    have hcons : alternatives (t :: ts) = (t :: ts).map (·.lexemes) := rfl
    simp [hcons, hclose, SearchTest.lexemes, Function.comp_def]

theorem isPart_in (f : Column) {inner : List Piece} (h : inner.all Piece.isSimple = true) :
    IsPart ((Piece.comparand f).flatMap Piece.lexemes ++
      .word "IN".toList :: .mark '(' :: (inner.flatMap Piece.lexemes ++ [.mark ')'])) := by
  have hinner := Piece.isPart_of_simple h
  have hgroup := IsPart.enclosed hinner.unclosed hinner.depth
  have hcolumn := Piece.isPart_of_simple (Piece.simple_comparand f)
  have hin : IsPart [.word "IN".toList] := .of_simple (by decide)
  exact hcolumn.append (hin.append hgroup)

theorem isPart (p : Predicate) : IsPart p.lexemes := by
  have hin : (Piece.fixed " IN (").lexemes = [.word "IN".toList, .mark '('] := by decide
  have hclose : (Piece.fixed ")").lexemes = [.mark ')'] := by decide
  cases p with
  | anyOf tests =>
    rw [lexemes_anyOf]
    exact (group_or fun a ha => (isPart_alternatives tests a ha).1).1
  | compare f op n =>
    have hblank : (Piece.fixed " ").isSimple = true := by decide
    have hsign : (Piece.fixed op.sign).isSimple = true := by cases op <;> decide
    apply Piece.isPart_of_simple
    simp [-List.all_eq_true, pieces, hblank, hsign, Piece.simple_comparand,
      Piece.simple_typedArgument]
  | among f ns =>
    have hlist : (Piece.separated "," (ns.map (Piece.typedArgument f.field.kind))).all
        Piece.isSimple = true := by
      apply Piece.simple_separated (by decide)
      simp [-List.all_eq_true, Piece.simple_typedArgument]
    simpa [lexemes, pieces, hin, hclose] using isPart_in f hlist
  | isFalse f =>
    have htext : (Piece.fixed " is false").isSimple = true := by decide
    apply Piece.isPart_of_simple
    simp [-List.all_eq_true, pieces, Piece.simple_column, htext]
  | idAmong f ns =>
    have hlist : (Piece.separated ", " (ns.map fun n => [.argument n])).all
        Piece.isSimple = true := by
      apply Piece.simple_separated (by decide)
      simp [-List.all_eq_true, Piece.simple_argument]
    simpa [lexemes, pieces, hin, hclose] using isPart_in f hlist
  | never => exact .of_simple (by decide)

theorem ungroup?_anyOf (tests : List SearchTest) :
    ungroup? (lexemes (.anyOf tests)) = some ([orWord].intercalate (alternatives tests)) := by
  rw [lexemes_anyOf]
  exact (group_or fun a ha => (isPart_alternatives tests a ha).1).2

theorem ungroup?_lexemes {p : Predicate} (h : ∀ tests, p ≠ .anyOf tests) :
    ungroup? p.lexemes = none := by
  have hcolumn : ∀ (f : Column) ls,
      ungroup? ((Piece.comparand f).flatMap Piece.lexemes ++ ls) = none := by
    intro f ls
    apply ungroup?_eq_none
    cases hk : f.field.kind <;> simp [Piece.comparand, hk, Piece.lexemes]
  cases p with
  | anyOf tests => exact absurd rfl (h tests)
  | compare f op n => simpa [lexemes, pieces] using hcolumn f _
  | among f ns => simpa [lexemes, pieces] using hcolumn f _
  | isFalse f => exact ungroup?_eq_none (by simp [lexemes, pieces, Piece.lexemes])
  | idAmong f ns => simpa [lexemes, pieces] using hcolumn f _
  | never => decide

theorem lexemes_text {p : Predicate} (hp : p.Plain) : lex p.text = p.lexemes := by
  rw [← p.textOf_pieces]
  exact Piece.lexemes_textOf (plain_pieces hp) p.chain_pieces

end Predicate

theorem SearchTest.lexemes_text {t : SearchTest} (ht : IsPlainName t.column.qualifier) :
    lex t.text = t.lexemes := by
  rw [← t.textOf_pieces]
  exact Piece.lexemes_textOf (plain_pieces ht) t.chain_pieces

def IsTest (ls : List Lexeme) : Prop :=
  disjuncts ls = [ls] ∧ conjuncts ls = [ls] ∧ ungroup? ls = none

theorem IsPart.isTest {ls : List Lexeme} (h : IsPart ls) (hu : ungroup? ls = none) : IsTest ls :=
  ⟨splitOutside_free h.no_or, splitOutside_free h.no_and, hu⟩

def searchTexts : List SearchTest → List String
  | [] => ["FALSE"]
  | tests => tests.map (·.text)

def Predicate.IsRead : Predicate → Prop
  | .anyOf tests => ∃ inner, ungroup? (lex (Predicate.anyOf tests).text) = some inner ∧
      disjuncts inner = (searchTexts tests).map lex ∧ ∀ a ∈ disjuncts inner, IsTest a
  | p => IsTest (lex p.text)

def Predicate.IsTrue (test : List Lexeme → Prop) : Predicate → Prop
  | .anyOf tests => ∃ s ∈ searchTexts tests, test (lex s)
  | p => test (lex p.text)

namespace Predicate

theorem alternatives_eq {tests : List SearchTest} (hp : (Predicate.anyOf tests).Plain) :
    alternatives tests = (searchTexts tests).map lex := by
  cases tests with
  | nil => decide
  | cons t ts =>
    have htexts : ∀ u ∈ t :: ts, u.lexemes = lex u.text := fun u hu =>
      (SearchTest.lexemes_text (hp u.column (List.mem_map_of_mem hu))).symm
    have heq := List.map_congr_left htexts
    simpa [alternatives, searchTexts, Function.comp_def] using heq

theorem isRead {p : Predicate} (hp : p.Plain) : p.IsRead := by
  by_cases h : ∃ tests, p = .anyOf tests
  · obtain ⟨tests, rfl⟩ := h
    have hparts := isPart_alternatives tests
    have hsplit := disjuncts_or (fun a ha => (hparts a ha).1) (alternatives_ne_nil tests)
    refine ⟨_, ?_, hsplit.trans (alternatives_eq hp), fun a ha => ?_⟩
    · rw [lexemes_text hp]
      exact ungroup?_anyOf tests
    · rw [hsplit] at ha
      exact (hparts a ha).1.isTest (hparts a ha).2
  · have hne : ∀ tests, p ≠ .anyOf tests := fun tests he => h ⟨tests, he⟩
    have htest : IsTest (lex p.text) := by
      rw [lexemes_text hp]
      exact p.isPart.isTest (ungroup?_lexemes hne)
    cases p with
    | anyOf tests => exact absurd rfl (hne tests)
    | compare f op n => exact htest
    | among f ns => exact htest
    | isFalse f => exact htest
    | idAmong f ns => exact htest
    | never => exact htest

theorem isTrue_iff {p : Predicate} (h : ∀ tests, p ≠ .anyOf tests) (test : List Lexeme → Prop) :
    p.IsTrue test ↔ test (lex p.text) := by
  cases p with
  | anyOf tests => exact absurd rfl (h tests)
  | compare f op n => rfl
  | among f ns => rfl
  | isFalse f => rfl
  | idAmong f ns => rfl
  | never => rfl

theorem holdsPart_iff {p : Predicate} (hp : p.Plain) (test : List Lexeme → Prop) :
    HoldsPart test p.lexemes ↔ p.IsTrue test := by
  by_cases h : ∃ tests, p = .anyOf tests
  · obtain ⟨tests, rfl⟩ := h
    have hparts := isPart_alternatives tests
    rw [holdsPart_group (ungroup?_anyOf tests), holds_or (fun a ha => (hparts a ha).1)
      (fun a ha => (hparts a ha).2) (alternatives_ne_nil tests), alternatives_eq hp]
    simp [IsTrue]
  · have hne : ∀ tests, p ≠ .anyOf tests := fun tests he => h ⟨tests, he⟩
    rw [holdsPart_test (ungroup?_lexemes hne), isTrue_iff hne, lexemes_text hp]

end Predicate

def conditionMarks : List Char := ['(', ')', ',', ':', '=', '!', '<', '>']

theorem Piece.mark_mem {ps : List Piece} (h : ∀ p ∈ ps, p.Plain) {c : Char}
    (hc : .mark c ∈ ps.flatMap Piece.lexemes) : c ∈ conditionMarks := by
  have hfixed : ∀ s ∈ fixedTexts, ∀ l ∈ lex s,
      l ∈ conditionMarks.map .mark ∨ l.isWord = true := by decide
  obtain ⟨p, hp, hc⟩ := List.mem_flatMap.mp hc
  cases p with
  | column f => simp [lexemes] at hc
  | table t => exact (h _ hp).elim
  | fixed s =>
    rcases hfixed s (h _ hp) _ hc with hm | hm
    · simpa using hm
    · cases hm
  | argument n => simp [lexemes] at hc

structure Statement.ReadAsConjunction (s : Statement) : Prop where
  empty : s.predicates = [] → s.whereText = ""
  reads : s.predicates ≠ [] → ∃ ls, lex s.whereText = .word "WHERE".toList :: ls ∧
    (∀ c, .mark c ∈ ls → c ∈ conditionMarks) ∧ disjuncts ls = [ls] ∧
    conjuncts ls = s.predicates.map (fun p => lex p.text) ∧
    ∀ test, Holds test ls ↔ ∀ p ∈ s.predicates, p.IsTrue test
  parts : ∀ p ∈ s.predicates, p.IsRead

theorem Statement.lexemes_where {s : Statement} (hp : ∀ p ∈ s.predicates, p.Plain)
    (hne : s.predicates ≠ []) : (∀ c, .mark c ∈ lex s.whereText → c ∈ conditionMarks) ∧
      lex s.whereText =
        .word "WHERE".toList :: [andWord].intercalate (s.predicates.map (·.lexemes)) := by
  have hopen : (Piece.fixed "\nWHERE ").lexemes = [.word "WHERE".toList] := by decide
  have hand : lex "\nAND " = [andWord] := by decide
  have htext : s.whereText = Piece.textOf (.fixed "\nWHERE " ::
      Piece.separated "\nAND " (s.predicates.map (·.pieces))) := by
    simp [whereText, hne, Piece.text, Function.comp_def]
  have hplain : ∀ q ∈ Piece.fixed "\nWHERE " ::
      Piece.separated "\nAND " (s.predicates.map (·.pieces)), q.Plain := by
    rw [List.forall_mem_cons]
    refine ⟨Piece.plain_fixed (by decide),
      Piece.forall_mem_separated (Piece.plain_fixed (by decide)) ?_⟩
    rw [List.forall_mem_map]
    exact fun p h => Predicate.plain_pieces (hp p h)
  have hchain : (Piece.fixed "\nWHERE " ::
      Piece.separated "\nAND " (s.predicates.map (·.pieces))).IsChain Piece.Apart := by
    have hsep : (Piece.separated "\nAND " (s.predicates.map (·.pieces))).IsChain Piece.Apart := by
      apply Piece.isChain_separated (by decide) (by decide)
      simp [Predicate.chain_pieces]
    exact (Piece.isChain_around [] (by decide) (by decide)).mpr ⟨.nil, hsep⟩
  have hread := Piece.lexemes_textOf hplain hchain
  rw [htext, hread]
  refine ⟨fun c hc => Piece.mark_mem hplain hc, ?_⟩
  rw [List.flatMap_cons, Piece.flatMap_separated, hopen, hand]
  simp [Predicate.lexemes, Function.comp_def]

theorem Statement.readAsConjunction {s : Statement} (hp : ∀ p ∈ s.predicates, p.Plain) :
    s.ReadAsConjunction where
  empty h := by simp [whereText, h]
  reads hne := by
    obtain ⟨hmarks, hread⟩ := lexemes_where hp hne
    have hparts : ∀ a ∈ s.predicates.map (·.lexemes), IsPart a := by
      rw [List.forall_mem_map]
      exact fun p _ => p.isPart
    have hsome : s.predicates.map (·.lexemes) ≠ [] := by simpa using hne
    refine ⟨_, hread, fun c hc => hmarks c ?_, disjuncts_and hparts, ?_, fun test => ?_⟩
    · rw [hread]
      exact List.mem_cons_of_mem _ hc
    · rw [conjuncts_and hparts hsome]
      exact List.map_congr_left fun p h => (Predicate.lexemes_text (hp p h)).symm
    · rw [holds_and hparts hsome, List.forall_mem_map]
      exact forall₂_congr fun p h => Predicate.holdsPart_iff (hp p h) test
  parts p h := p.isRead (hp p h)

end Listing
