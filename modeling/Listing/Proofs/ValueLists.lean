import Listing.Proofs.FilterText
import Listing.Proofs.ValueTokens

namespace Listing

open Text

theorem Encloses.paired_iff {raw opening inner closing : List Char}
    (h : Encloses raw opening inner closing) :
    (closing = [')'] → opening = ['(']) ↔
      (trim raw).head? = some '(' ∨ (trim raw).getLast? ≠ some ')' := by
  have htext := h.text
  rcases h.opening with rfl | ⟨rfl, ho⟩
  · simp [htext]
  · rcases h.closing with rfl | ⟨rfl, hc⟩
    · have hlast : (trim raw).getLast? = some ')' := by
        rw [htext, List.nil_append, List.getLast?_concat]
      simp [ho, hlast]
    · rw [List.nil_append, List.append_nil] at htext
      simp [htext, hc]

def IsMark (c : Char) : Prop := c = '"' ∨ c = '\''

theorem IsMark.not_blank {mark : Char} (h : IsMark mark) : isBlank mark = false := by
  rcases h with rfl | rfl <;> rfl

theorem IsMark.ne_opening {mark : Char} (h : IsMark mark) : mark ≠ '(' := by
  rcases h with rfl | rfl <;> decide

theorem IsMark.ne_closing {mark : Char} (h : IsMark mark) : mark ≠ ')' := by
  rcases h with rfl | rfl <;> decide

inductive Quotes : List (List Char) → List Char → Prop
  | one {mark : Char} {v : List Char} : IsMark mark → mark ∉ v → Quotes [v] (mark :: (v ++ [mark]))
  | more {mark : Char} {v gap text : List Char} {vs : List (List Char)} : IsMark mark → mark ∉ v →
      AllBlank gap → gap ≠ [] → Quotes vs text →
      Quotes (v :: vs) (mark :: (v ++ mark :: (gap ++ text)))

theorem exists_quotes {values : List (List Char)} (hne : values ≠ [])
    (h : ∀ v ∈ values, '"' ∉ v ∨ '\'' ∉ v) : ∃ text, Quotes values text := by
  induction values with
  | nil => exact absurd rfl hne
  | cons v vs ih =>
    obtain ⟨hv, hvs⟩ := List.forall_mem_cons.mp h
    obtain ⟨mark, hmark, hv⟩ : ∃ mark, IsMark mark ∧ mark ∉ v := by
      rcases hv with hv | hv
      · exact ⟨'"', .inl rfl, hv⟩
      · exact ⟨'\'', .inr rfl, hv⟩
    cases vs with
    | nil => exact ⟨_, .one hmark hv⟩
    | cons w vs =>
      obtain ⟨text, htext⟩ := ih (List.cons_ne_nil w vs) hvs
      have hgap : AllBlank [' '] := by decide
      exact ⟨_, .more hmark hv hgap (List.cons_ne_nil _ _) htext⟩

theorem Starts.quoted {mark : Char} {v : List Char} (hmark : IsMark mark) (hv : mark ∉ v)
    (rest : List Char) : Starts (mark :: (v ++ mark :: rest)) (.quoted mark v) rest := by
  rcases hmark with rfl | rfl
  · exact .double hv
  · exact .single hv

variable {values : List (List Char)} {text : List Char}

theorem Quotes.scanValues (h : Quotes values text) : scanValues .gap [] text = values := by
  induction h with
  | one hmark hv =>
    rw [(Starts.quoted hmark hv []).scanValues]
    rfl
  | more hmark hv hgap _ _ ih =>
    rw [(Starts.quoted hmark hv _).scanValues, scanValues_gap hgap, ih]
    rfl

theorem Quotes.head (h : Quotes values text) : ∃ mark, IsMark mark ∧ text.head? = some mark := by
  cases h with
  | one hmark _ => exact ⟨_, hmark, rfl⟩
  | more hmark _ _ _ _ => exact ⟨_, hmark, rfl⟩

theorem Quotes.last (h : Quotes values text) :
    ∃ mark, IsMark mark ∧ text.getLast? = some mark := by
  induction h with
  | @one mark v hmark _ => exact ⟨mark, hmark, by rw [← List.cons_append, List.getLast?_concat]⟩
  | more _ _ _ _ _ ih =>
    obtain ⟨mark, hmark, hlast⟩ := ih
    refine ⟨mark, hmark, ?_⟩
    rw [← List.cons_append, ← List.cons_append, ← List.append_assoc, List.getLast?_append, hlast,
      Option.some_or]

theorem Quotes.ne_nil (h : Quotes values text) : values ≠ [] := by
  cases h <;> exact List.cons_ne_nil _ _

theorem Quotes.isTrimmed (h : Quotes values text) : IsTrimmed text := by
  obtain ⟨mark, hmark, hhead⟩ := h.head
  obtain ⟨mark', hmark', hlast⟩ := h.last
  constructor
  · intro c hc
    rw [hhead, Option.mem_some_iff] at hc
    rw [← hc]
    exact hmark.not_blank
  · intro c hc
    rw [hlast, Option.mem_some_iff] at hc
    rw [← hc]
    exact hmark'.not_blank

def Listed (text list : List Char) : Prop := list = text ∨ list = '(' :: (text ++ [')'])

theorem Listed.isTrimmed {list : List Char} (hlist : Listed text list) (h : Quotes values text) :
    IsTrimmed list := by
  rcases hlist with rfl | rfl
  · exact h.isTrimmed
  · constructor
    · rintro c ⟨⟩
      rfl
    · intro c hc
      rw [← List.cons_append, List.getLast?_concat, Option.mem_some_iff] at hc
      rw [← hc]
      rfl

theorem Listed.strip {list : List Char} (hlist : Listed text list) (h : Quotes values text) :
    enclosed list = text := by
  rw [enclosed, (hlist.isTrimmed h).trim_eq]
  rcases hlist with rfl | rfl
  · obtain ⟨mark, hmark, hhead⟩ := h.head
    obtain ⟨mark', hmark', hlast⟩ := h.last
    rw [stripOpening_of_head, stripClosing_of_last]
    · rw [hlast, ne_eq, Option.some.injEq]
      exact hmark'.ne_closing
    · rw [hhead, ne_eq, Option.some.injEq]
      exact hmark.ne_opening
  · rw [stripOpening, stripClosing_append]

theorem Quotes.splitValues {list : List Char} (h : Quotes values text) (hlist : Listed text list)
    (hvalues : ∀ v ∈ values, trim v ∉ voidValues) : splitValues list = some values := by
  rw [splitValues_eq_some, hlist.strip h]
  exact ⟨h.scanValues, h.ne_nil, hvalues⟩

theorem scanValues_word {w : List Char} (hw : IsWord w) (hdouble : '"' ∉ w) (hsingle : '\'' ∉ w) :
    scanValues .gap [] w = [w] := by
  have hquoted : ∀ mark, mark ∉ w → ¬ StartsQuoted mark (w ++ []) := by
    rintro mark hmark ⟨t, ht, -⟩
    rw [List.append_nil] at ht
    exact hmark (ht ▸ List.mem_cons_self)
  have hstart := Starts.bare hw .nil (hquoted _ hdouble) (hquoted _ hsingle)
  rw [List.append_nil] at hstart
  rw [hstart.scanValues]
  rfl

section Words

variable {w : List Char} (hw : IsWord w) (hdouble : '"' ∉ w) (hsingle : '\'' ∉ w)
  (hopening : w.head? ≠ some '(')

include hw hdouble hsingle hopening

theorem splitValues_inner (hne : w ≠ [')']) (raw : List Char) (henclosed : enclosed raw = w) :
    splitValues raw = some [w] := by
  rw [splitValues_eq_some, henclosed]
  refine ⟨scanValues_word hw hdouble hsingle, List.cons_ne_nil _ _, ?_⟩
  intro v hv
  rw [List.mem_singleton.mp hv, hw.isTrimmed.trim_eq]
  simp only [voidValues, List.mem_cons, List.not_mem_nil, or_false, not_or]
  refine ⟨hw.ne_nil, ?_, hne, ?_⟩
  · rintro rfl
    exact hopening rfl
  · rintro rfl
    exact hopening rfl

end Words

theorem enclosed_word {w : List Char} (hw : IsWord w) (h : w.head? ≠ some '(') :
    enclosed w = stripClosing w := by
  rw [enclosed, hw.isTrimmed.trim_eq, stripOpening_of_head h]

theorem splitValues_cut {w : List Char} (hw : IsWord (w ++ [')'])) (hdouble : '"' ∉ w ++ [')'])
    (hsingle : '\'' ∉ w ++ [')']) (hopening : (w ++ [')']).head? ≠ some '(') (hne : w ≠ [])
    (hclosing : w ≠ [')']) : splitValues (w ++ [')']) = some [w] := by
  have henclosed := enclosed_word hw hopening
  rw [stripClosing_append] at henclosed
  rw [head?_append_of_ne_nil hne] at hopening
  have hword : IsWord w := ⟨hne, fun c hc => hw.not_blank c (List.mem_append_left _ hc)⟩
  exact splitValues_inner hword (mt (List.mem_append_left _) hdouble)
    (mt (List.mem_append_left _) hsingle) hopening hclosing _ henclosed

namespace Filter

variable {c : Catalog} {scope : FilterScope} {f : Column} {op : FilterOperator}

structure Binds (c : Catalog) (scope : FilterScope) (raw : String) (f : Filter) : Prop where
  accepted : accept c scope raw = .ok f
  taken : ∀ (k : Compiled) (n : Nat), k.takeFilter c scope n raw = k.addFilter f
  refusals : (c.compile (scope.only [raw])).refusals = Search.refused c
  predicates : (c.compile (scope.only [raw])).draft.predicates = [f.predicate 1]
  arguments : (c.compile (scope.only [raw])).draft.arguments = f.test.values

theorem binds_of_accept {raw : String} {f : Filter} (h : accept c scope raw = .ok f) :
    Binds c scope raw f := by
  have htaken : ∀ (k : Compiled) (n : Nat), k.takeFilter c scope n raw = k.addFilter f := by
    intro k n
    rw [Compiled.takeFilter_eq, h]
  obtain ⟨hrefusals, hpredicates, harguments⟩ :=
    Compiled.sorted_nil c ((Compiled.searched c "").addFilter f)
  have hcompile : c.compile (scope.only [raw]) =
      ((Compiled.searched c "").addFilter f).sorted c [] := by
    rw [c.compile_only, Compiled.takeFilters, Compiled.takeFilters, htaken]
  rw [← hcompile] at hrefusals hpredicates harguments
  exact ⟨h, htaken, hrefusals, hpredicates, harguments⟩

theorem isWord_operator {name : List Char} (h : FilterOperator.ofName? name = some op) :
    IsWord name := by
  rw [FilterOperator.ofName?] at h
  split_ifs at h with heq hne hlt hlte hgt hgte hin
  · exact heq ▸ by decide
  · exact hne ▸ by decide
  · exact hlt ▸ by decide
  · exact hlte ▸ by decide
  · exact hgt ▸ by decide
  · exact hgte ▸ by decide
  · exact hin ▸ by decide

theorem Written.accept {raw key operator value : List Char} (h : Written raw key operator value)
    (hfield : c.indexed? (String.ofList key) = some f) (hallows : scope.allows f.field = true)
    (hop : FilterOperator.ofName? operator = some op) :
    accept c scope (String.ofList raw) = match test? op f.field.kind value with
      | none => .error (.filterValue f.field.kind)
      | some test => .ok ⟨f, test⟩ := by
  obtain ⟨text, hparts, htrim⟩ := h.parts?
  have htest : test? op f.field.kind text = test? op f.field.kind value := by
    simp only [test?, splitValues_trim htrim h.trimmed]
  cases hvalue : test? op f.field.kind value with
  | none => simp only [Filter.accept, String.toList_ofList, hparts, usable_of hfield hallows, hop,
      htest, hvalue]
  | some test => simp only [Filter.accept, String.toList_ofList, hparts, usable_of hfield hallows,
      hop, htest, hvalue]

theorem exists_string_test {value : List Char} {values : List (List Char)}
    (h : splitValues value = some values) (hop : op = .among ∨ values.length = 1) :
    ∃ test, test? op .string value = some test ∧ test.operator = op ∧
      test.values = values.map fun v => .string (String.ofList v) := by
  have hfits : Fits op .string value := by
    refine ⟨values, h, fun v _ => rfl, ?_⟩
    rcases hop with rfl | hone
    · exact .inr ⟨rfl, List.length_pos_iff.mpr (splitValues_ne_nil h)⟩
    · exact .inl hone
  obtain ⟨test, htest⟩ := exists_test_iff.mpr hfits
  obtain ⟨values', hsplit, hvalues, _⟩ := test?_some htest
  cases h.symm.trans hsplit
  refine ⟨test, htest, operator_of_test? htest, ?_⟩
  apply (List.map_inj_right fun _ _ => Option.some.inj).mp
  rw [← hvalues, List.map_map]
  rfl

/-- Every list of values can be asked for, as long as each value says something and lacks one of the
two quotation marks. In marks that they lack, with any blanks between them, in parentheses or not,
the values are bound just as they are, one argument for each in their order. -/
theorem quoted_values_bound {key operator : List Char} {values : List (List Char)}
    (hkey : IsWord key) (hfield : c.indexed? (String.ofList key) = some f)
    (hallows : scope.allows f.field = true) (hkind : f.field.kind = .string)
    (hop : FilterOperator.ofName? operator = some op) (hcount : op = .among ∨ values.length = 1)
    (hne : values ≠ []) (hvoid : ∀ v ∈ values, trim v ∉ voidValues)
    (hmarks : ∀ v ∈ values, '"' ∉ v ∨ '\'' ∉ v) :
    (∃ text, Quotes values text) ∧
    ∀ text list gap gap', Quotes values text → Listed text list → AllBlank gap → gap ≠ [] →
      AllBlank gap' → gap' ≠ [] → ∃ test,
        Binds c scope (String.ofList (key ++ (gap ++ (operator ++ (gap' ++ list))))) ⟨f, test⟩ ∧
        test.operator = op ∧ test.values = values.map fun v => .string (String.ofList v) := by
  refine ⟨exists_quotes hne hmarks, ?_⟩
  intro text list gap gap' hquotes hlist hgap hgapne hgap' hgapne'
  have hlistne : list ≠ [] := by
    obtain ⟨mark, -, hhead⟩ := hquotes.head
    rcases hlist with rfl | rfl
    · rintro rfl
      cases hhead
    · exact List.cons_ne_nil _ _
  have hwritten : Written (key ++ (gap ++ (operator ++ (gap' ++ list)))) key operator list :=
    ⟨hkey, isWord_operator hop, hlist.isTrimmed hquotes, hlistne, [], gap, gap', [],
      List.forall_mem_nil _, hgap, hgapne, hgap', hgapne', List.forall_mem_nil _, by simp⟩
  obtain ⟨test, htest, hoperator, hvalues⟩ :=
    exists_string_test (hquotes.splitValues hlist hvoid) hcount
  refine ⟨test, binds_of_accept ?_, hoperator, hvalues⟩
  rw [hwritten.accept hfield hallows hop, hkind, htest]

def sayings : List (List Char) := ["red  lamp)".toList, "it's\n".toList, "say \"()\"".toList]

def quotedSayings : List Char := "'red  lamp)'\t\"it's\n\"  'say \"()\"'".toList

theorem quotedSayings_quotes : Quotes sayings quotedSayings := by
  have hblank : AllBlank ['\t'] ∧ AllBlank [' ', ' '] := ⟨by decide, by decide⟩
  exact .more (.inr rfl) (by decide) hblank.1 (by decide)
    (.more (.inl rfl) (by decide) hblank.2 (by decide) (.one (.inr rfl) (by decide)))

theorem quoted_values_bound_shop :
    IsWord "name".toList ∧ Catalog.shopCatalog.indexed? "name" = some Catalog.nameColumn ∧
    sayings ≠ [] ∧ (∀ v ∈ sayings, trim v ∉ voidValues) ∧
    (∀ v ∈ sayings, '"' ∉ v ∨ '\'' ∉ v) ∧ ∃ test,
      Binds Catalog.shopCatalog .request
        (String.ofList ("name in (".toList ++ (quotedSayings ++ [')'])))
        ⟨Catalog.nameColumn, test⟩ ∧
      test.values = [.string "red  lamp)", .string "it's\n", .string "say \"()\""] := by
  have hkey : IsWord "name".toList := by decide
  have hvoid : ∀ v ∈ sayings, trim v ∉ voidValues := by decide
  have hmarks : ∀ v ∈ sayings, '"' ∉ v ∨ '\'' ∉ v := by decide
  have hblank : AllBlank [' '] := by decide
  have hfield : Catalog.shopCatalog.indexed? (String.ofList "name".toList) =
      some Catalog.nameColumn := rfl
  have hallows : FilterScope.request.allows Catalog.nameColumn.field = true := rfl
  have hop : FilterOperator.ofName? "in".toList = some .among := rfl
  obtain ⟨-, hbinds⟩ :=
    quoted_values_bound hkey hfield hallows rfl hop (.inl rfl) (by decide) hvoid hmarks
  obtain ⟨test, hbinds, -, hvalues⟩ := hbinds quotedSayings _ [' '] [' '] quotedSayings_quotes
    (.inr rfl) hblank (by decide) hblank (by decide)
  exact ⟨hkey, rfl, by decide, hvoid, hmarks, test, hbinds, hvalues⟩

theorem written_word {key v : String} (hkey : IsWord key.toList) (hv : IsWord v.toList) :
    Written (key ++ " eq " ++ v).toList key.toList "eq".toList v.toList := by
  have hblank : AllBlank [' '] := by decide
  refine ⟨hkey, by decide, hv.isTrimmed, hv.ne_nil, [], [' '], [' '], [],
    List.forall_mem_nil _, hblank, by decide, hblank, by decide, List.forall_mem_nil _, ?_⟩
  simp [String.toList_append]

theorem test?_word {value : List Char} {w : String} (h : splitValues value = some [w.toList]) :
    test? (.compare .eq) .string value = some (.compare .eq (.string w)) := by
  simp [test?, h, typedValue, String.ofList_toList]

theorem accept_word {key v : String} (hkey : IsWord key.toList) (hfield : c.indexed? key = some f)
    (hfilterable : f.field.filterable = true) (hkind : f.field.kind = .string)
    (hv : IsWord v.toList) : accept c .request (key ++ " eq " ++ v) =
      match test? (.compare .eq) .string v.toList with
      | none => .error (.filterValue .string)
      | some test => .ok ⟨f, test⟩ := by
  have hkey' : c.indexed? (String.ofList key.toList) = some f := by rwa [String.ofList_toList]
  have hallows : FilterScope.request.allows f.field = true := hfilterable
  have haccept := (written_word hkey hv).accept hkey' hallows rfl
  rwa [String.ofList_toList, hkind] at haccept

theorem Binds.unique {raw : String} {g g' : Filter} (h : Binds c scope raw g)
    (h' : Binds c scope raw g') : g = g' :=
  Except.ok.inj (h.accepted.symm.trans h'.accepted)

theorem ne_append_closing (w : String) : w ++ ")" ≠ w := by
  intro heq
  have hlength := congrArg String.length heq
  rw [String.length_append] at hlength
  have hone : ")".length = 1 := rfl
  omega

/-- A word without quotation marks and without an opening parenthesis in front is bound as it is,
unless it ends with a closing one, which is then missing from the value: at either end of a text of
values a parenthesis is taken off whether there is one at the other end or not. -/
theorem word_bound_iff {key v : String} (hkey : IsWord key.toList)
    (hfield : c.indexed? key = some f) (hfilterable : f.field.filterable = true)
    (hkind : f.field.kind = .string) (hv : IsWord v.toList) (hdouble : '"' ∉ v.toList)
    (hsingle : '\'' ∉ v.toList) (hopening : v.toList.head? ≠ some '(') (hclosing : v ≠ ")") :
    (Binds c .request (key ++ " eq " ++ v) ⟨f, .compare .eq (.string v)⟩ ↔
      v.toList.getLast? ≠ some ')') ∧
    (∀ w, v = w ++ ")" → w ≠ ")" →
      Binds c .request (key ++ " eq " ++ v) ⟨f, .compare .eq (.string w)⟩) ∧
    (v = "))" → Answers c .request (key ++ " eq " ++ v) "value must be a valid string format") ∧
    ∀ raw, ∃ opening closing parts tail, Encloses raw opening (enclosed raw) closing ∧
      Divides (enclosed raw) parts tail ∧
      (∀ values, splitValues raw = some values → values = parts.map (·.2.value)) ∧
      ((closing = [')'] → opening = ['(']) ↔
        (trim raw).head? = some '(' ∨ (trim raw).getLast? ≠ some ')') := by
  have haccept := accept_word hkey hfield hfilterable hkind hv
  have hbinds : ∀ w : String, splitValues v.toList = some [w.toList] →
      Binds c .request (key ++ " eq " ++ v) ⟨f, .compare .eq (.string w)⟩ := by
    intro w hsplit
    rw [test?_word hsplit] at haccept
    exact binds_of_accept haccept
  have hcut : ∀ w, v = w ++ ")" → w ≠ ")" →
      Binds c .request (key ++ " eq " ++ v) ⟨f, .compare .eq (.string w)⟩ := by
    rintro w rfl hw
    have hclosed : (w ++ ")").toList = w.toList ++ [')'] := String.toList_append ..
    apply hbinds
    rw [hclosed] at hv hdouble hsingle hopening ⊢
    refine splitValues_cut hv hdouble hsingle hopening ?_ fun h => hw (String.toList_inj.mp h)
    intro hnil
    rw [String.toList_eq_nil_iff.mp hnil] at hclosing
    exact hclosing rfl
  have hvoid : v = "))" →
      Answers c .request (key ++ " eq " ++ v) "value must be a valid string format" := by
    rintro rfl
    exact ⟨_, haccept, rfl⟩
  refine ⟨⟨fun hbound hlast => ?_, fun hlast => ?_⟩, hcut, hvoid, fun raw => ?_⟩
  · obtain ⟨w, hw⟩ := List.getLast?_eq_some_iff.mp hlast
    obtain rfl : v = String.ofList w ++ ")" := by
      rw [← String.toList_inj, String.toList_append, String.toList_ofList, hw]
      rfl
    by_cases hparen : String.ofList w = ")"
    · obtain ⟨e, he, -⟩ := hvoid (by rw [hparen]; rfl)
      cases hbound.accepted.symm.trans he
    · have hsame := hbound.unique (hcut _ rfl hparen)
      simp only [Filter.mk.injEq, FilterTest.compare.injEq, Json.string.injEq, true_and] at hsame
      exact ne_append_closing _ hsame
  · apply hbinds
    have henclosed := enclosed_word hv hopening
    rw [stripClosing_of_last hlast] at henclosed
    exact splitValues_inner hv hdouble hsingle hopening
      (fun h => hclosing (String.toList_inj.mp h)) _ henclosed
  · obtain ⟨opening, closing, hencloses⟩ := exists_encloses raw
    obtain ⟨parts, tail, hparts⟩ := exists_divides (enclosed raw)
    refine ⟨opening, closing, parts, tail, hencloses, hparts, fun values hvalues => ?_,
      hencloses.paired_iff⟩
    rw [← hparts.scanValues]
    exact (splitValues_eq_some.mp hvalues).1.symm

theorem word_bound_iff_shop :
    IsWord "name".toList ∧ Catalog.shopCatalog.indexed? "name" = some Catalog.nameColumn ∧
    IsWord "lamp(2)-b".toList ∧ '"' ∉ "lamp(2)-b".toList ∧ '\'' ∉ "lamp(2)-b".toList ∧
    "lamp(2)-b".toList.head? ≠ some '(' ∧ "lamp(2)-b" ≠ ")" ∧
    Binds Catalog.shopCatalog .request "name eq lamp(2)-b"
      ⟨Catalog.nameColumn, .compare .eq (.string "lamp(2)-b")⟩ := by
  have hkey : IsWord "name".toList := by decide
  have hv : IsWord "lamp(2)-b".toList := by decide
  have hdouble : '"' ∉ "lamp(2)-b".toList := by decide
  have hsingle : '\'' ∉ "lamp(2)-b".toList := by decide
  obtain ⟨hbinds, -⟩ :=
    word_bound_iff (c := Catalog.shopCatalog) (f := Catalog.nameColumn) hkey rfl rfl
    rfl hv hdouble hsingle (by decide) (by decide)
  exact ⟨hkey, rfl, hv, hdouble, hsingle, by decide, by decide, hbinds.mpr (by decide)⟩

/-- The bracket at the end of a value is lost. -/
theorem bracketed_word_cut_shop :
    IsWord "name".toList ∧ Catalog.shopCatalog.indexed? "name" = some Catalog.nameColumn ∧
    Catalog.nameColumn.field.filterable = true ∧ Catalog.nameColumn.field.kind = .string ∧
    IsWord "lamp(2)".toList ∧ '"' ∉ "lamp(2)".toList ∧ '\'' ∉ "lamp(2)".toList ∧
    "lamp(2)".toList.head? ≠ some '(' ∧ "lamp(2)" ≠ ")" ∧
    ¬ Binds Catalog.shopCatalog .request "name eq lamp(2)"
      ⟨Catalog.nameColumn, .compare .eq (.string "lamp(2)")⟩ ∧
    (Catalog.shopCatalog.compile { filters := ["name eq lamp(2)"] }).draft.arguments =
      [.string "lamp(2"] ∧
    Encloses "lamp(2)".toList [] (enclosed "lamp(2)".toList) [')'] := by
  have haccept : accept Catalog.shopCatalog .request "name eq lamp(2)" =
      .ok ⟨Catalog.nameColumn, .compare .eq (.string "lamp(2")⟩ := by rfl
  refine ⟨by decide, rfl, rfl, rfl, by decide, by decide, by decide,
    by decide, by decide, fun hbinds => ?_, by rfl, by rfl, .inr ⟨rfl, by decide⟩, .inl rfl⟩
  have hsame := hbinds.accepted.symm.trans haccept
  exact absurd hsame (by decide)

end Filter
end Listing
