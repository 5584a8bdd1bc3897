import Mathlib.Data.List.Infix
import Mathlib.Data.List.TakeWhile
import Listing.Proofs.LowerForms
import Listing.Proofs.SearchPass

namespace Listing

namespace Like

inductive Item where
  | run
  | one
  | only (c : Char)
deriving DecidableEq

def isSign (c : Char) : Bool := c == '%' || c == '_' || c == '\\'

/-- The items of a pattern, or of what follows a backslash in it. A backslash at the very end, which
servers refuse, stands for nothing. -/
def items (escaped : Bool) : List Char → List Item
  | [] => []
  | c :: p =>
    if escaped then .only c :: items false p
    else if c = '\\' then items true p
    else if c = '%' then .run :: items false p
    else if c = '_' then .one :: items false p
    else .only c :: items false p

def fits : List Item → List Char → Bool
  | [], x => x.isEmpty
  | .run :: p, x => x.tails.any fun y => fits p y
  | .one :: _, [] => false
  | .one :: p, _ :: x => fits p x
  | .only _ :: _, [] => false
  | .only c :: p, d :: x => c == d && fits p x

end Like

def like (pattern text : String) : Bool := Like.fits (Like.items false pattern.toList) text.toList

namespace Like

variable {p : List Item} {w x : List Char} {c : Char}

theorem isSign_iff : isSign c = true ↔ c = '%' ∨ c = '_' ∨ c = '\\' := by
  simp [isSign, or_assoc]

theorem fits_run : fits (.run :: p) x = true ↔ ∃ u y, x = u ++ y ∧ fits p y = true := by
  simp only [fits, List.any_eq_true, List.mem_tails]
  constructor
  · rintro ⟨y, ⟨u, rfl⟩, hy⟩
    exact ⟨u, y, rfl, hy⟩
  · rintro ⟨u, y, rfl, hy⟩
    exact ⟨y, List.suffix_append u y, hy⟩

theorem fits_only : fits (.only c :: p) x = true ↔ ∃ y, x = c :: y ∧ fits p y = true := by
  cases x with
  | nil => simp [fits]
  | cons d x =>
    simp only [fits, Bool.and_eq_true, beq_iff_eq, List.cons.injEq]
    constructor
    · rintro ⟨rfl, hx⟩
      exact ⟨x, ⟨rfl, rfl⟩, hx⟩
    · rintro ⟨y, ⟨rfl, rfl⟩, hx⟩
      exact ⟨rfl, hx⟩

theorem fits_text : fits (w.map .only ++ p) x = true ↔ ∃ y, x = w ++ y ∧ fits p y = true := by
  induction w generalizing x with
  | nil => simp
  | cons c w ih =>
    rw [List.map_cons, List.cons_append, fits_only]
    constructor
    · rintro ⟨y, rfl, hy⟩
      obtain ⟨z, rfl, hz⟩ := ih.mp hy
      exact ⟨z, rfl, hz⟩
    · rintro ⟨z, rfl, hz⟩
      exact ⟨w ++ z, rfl, ih.mpr ⟨z, rfl, hz⟩⟩

theorem fits_end (x : List Char) : fits [.run] x = true :=
  fits_run.mpr ⟨x, [], (List.append_nil x).symm, rfl⟩

def Plain (w : List Char) : Prop := ∀ c ∈ w, isSign c = false

instance (w : List Char) : Decidable (Plain w) :=
  inferInstanceAs (Decidable (∀ c ∈ w, isSign c = false))

theorem items_plain (hw : Plain w) (p : List Char) :
    items false (w ++ p) = w.map .only ++ items false p := by
  induction w with
  | nil => rfl
  | cons c w ih =>
    have hc : ¬ (c = '%' ∨ c = '_' ∨ c = '\\') := by
      rw [← isSign_iff, hw c List.mem_cons_self]
      nofun
    simp only [not_or] at hc
    obtain ⟨hrun, hone, hescape⟩ := hc
    simp only [List.cons_append, items, hrun, hone, hescape, if_false, Bool.false_eq_true,
      ih fun d hd => hw d (List.mem_cons_of_mem _ hd), List.map_cons]

theorem fits_startsWith (hw : Plain w) :
    fits (items false (w ++ ['%'])) x = true ↔ w <+: x := by
  rw [items_plain hw, fits_text]
  constructor
  · rintro ⟨y, rfl, -⟩
    exact List.prefix_append w y
  · rintro ⟨y, rfl⟩
    exact ⟨y, rfl, fits_end y⟩

theorem fits_contains (hw : Plain w) :
    fits (items false ('%' :: w ++ ['%'])) x = true ↔ w <:+: x := by
  have hitems : items false ('%' :: w ++ ['%']) = .run :: items false (w ++ ['%']) := rfl
  rw [hitems, fits_run]
  constructor
  · rintro ⟨u, y, rfl, hy⟩
    exact ((fits_startsWith hw).mp hy).isInfix.trans (List.suffix_append u y).isInfix
  · rintro ⟨u, v, rfl⟩
    exact ⟨u, w ++ v, List.append_assoc u w v, (fits_startsWith hw).mpr (List.prefix_append w v)⟩

def sample (escaped : Bool) : List Char → List Char
  | [] => if escaped then ['%'] else []
  | c :: w =>
    if escaped then c :: sample false w
    else if c = '\\' then sample true w
    else if c = '%' then sample false w
    else if c = '_' then 'a' :: sample false w
    else c :: sample false w

theorem fits_sample (escaped : Bool) (w : List Char) :
    fits (items escaped (w ++ ['%'])) (sample escaped w) = true := by
  induction w generalizing escaped with
  | nil => cases escaped <;> rfl
  | cons c w ih =>
    rw [List.cons_append, items, sample]
    split_ifs
    · exact fits_only.mpr ⟨_, rfl, ih false⟩
    · exact ih true
    · exact fits_run.mpr ⟨[], _, rfl, ih false⟩
    · exact ih false
    · exact fits_only.mpr ⟨_, rfl, ih false⟩

theorem length_sample (escaped : Bool) (w : List Char) :
    (sample escaped w).length ≤ w.length + escaped.toNat := by
  induction w generalizing escaped with
  | nil => cases escaped <;> simp [sample]
  | cons c w ih =>
    have hplain : (sample false w).length ≤ w.length := ih false
    have hescaped : (sample true w).length ≤ w.length + 1 := ih true
    rw [sample, List.length_cons]
    split_ifs
    · rw [List.length_cons]
      omega
    · omega
    · omega
    · rw [List.length_cons]
      omega
    · rw [List.length_cons]
      omega

theorem mem_sample {escaped : Bool} {d : Char} (h : d ∈ sample escaped w) :
    d ∈ w ∨ d = 'a' ∨ d = '%' := by
  induction w generalizing escaped with
  | nil =>
    rw [sample] at h
    split_ifs at h
    · exact .inr (.inr (List.mem_singleton.mp h))
    · cases h
  | cons c w ih =>
    have hkeep : ∀ {b}, d ∈ sample b w → d ∈ c :: w ∨ d = 'a' ∨ d = '%' :=
      fun hd => (ih hd).imp_left (List.mem_cons_of_mem c)
    have hhead : d ∈ c :: sample false w → d ∈ c :: w ∨ d = 'a' ∨ d = '%' := by
      intro hd
      rcases List.mem_cons.mp hd with rfl | hd
      · exact .inl List.mem_cons_self
      · exact hkeep hd
    rw [sample] at h
    split_ifs at h
    · exact hhead h
    · exact hkeep h
    · exact hkeep h
    · rcases List.mem_cons.mp h with rfl | h
      · exact .inr (.inl rfl)
      · exact hkeep h
    · exact hhead h

theorem plain_of_sample (h : sample false w = w) : Plain w := by
  induction w with
  | nil => nofun
  | cons c w ih =>
    have hshort := length_sample false w
    rw [sample, if_neg Bool.false_ne_true] at h
    -- each sign is left out of the sample, which is too short then, or replaced
    split_ifs at h with hescape hrun hone
    · cases w with
      | nil =>
        injection h with hpercent
        exact absurd (hpercent.trans hescape) (by decide)
      | cons d w =>
        have hrest := length_sample false w
        have hlength := congrArg List.length h
        simp only [sample, if_true, List.length_cons, Bool.toNat_false] at hlength hrest
        omega
    · rw [h, List.length_cons, Bool.toNat_false] at hshort
      omega
    · injection h with ha
      exact absurd (ha.trans hone) (by decide)
    · injection h with _ h
      intro d hd
      rcases List.mem_cons.mp hd with rfl | hd
      · rw [Bool.eq_false_iff, ne_eq, isSign_iff]
        simp only [hescape, hrun, hone, or_self, not_false_eq_true]
      · exact ih h d hd

theorem not_infix_sample (hw : ¬ Plain w) : ¬ w <:+: sample false w := by
  intro h
  apply hw
  apply plain_of_sample
  exact (h.eq_of_length_le (length_sample false w)).symm

theorem isSign_of_isDigit (h : isDigit c = true) : isSign c = false := by
  by_contra hsign
  rw [Bool.not_eq_false, isSign_iff] at hsign
  rcases hsign with rfl | rfl | rfl <;> exact absurd h (by decide)

theorem plain_of_digits (h : ∀ c ∈ w, isDigit c = true) : Plain w :=
  fun c hc => isSign_of_isDigit (h c hc)

theorem plain_cons (hc : isSign c = false) (hw : Plain w) : Plain (c :: w) :=
  List.forall_mem_cons.mpr ⟨hc, hw⟩

theorem plain_of_splitSign (h : Plain (splitSign w).2) : Plain w := by
  unfold splitSign at h
  split at h
  · exact plain_cons rfl h
  · exact plain_cons rfl h
  · exact h

theorem plain_of_readWhole {i : Int} (h : readWhole? w = some i) : Plain w := by
  apply plain_of_splitSign
  simp only [readWhole?] at h
  by_cases hdigits : (splitSign w).2.all isDigit = true
  · exact plain_of_digits (List.all_eq_true.mp hdigits)
  · rw [Bool.not_eq_true] at hdigits
    rw [hdigits, Bool.not_false, Bool.or_true, if_pos rfl] at h
    cases h

theorem plain_of_readExponent {i : Int} (h : readExponent? w = some i) : Plain w := by
  cases w with
  | nil => nofun
  | cons c w =>
    rw [readExponent?] at h
    split_ifs at h with hc
    rcases hc with rfl | rfl
    · exact plain_cons rfl (plain_of_readWhole h)
    · exact plain_cons rfl (plain_of_readWhole h)

theorem plain_takeWhile (w : List Char) : Plain (w.takeWhile isDigit) :=
  plain_of_digits fun _ hc => List.mem_takeWhile_imp hc

theorem plain_of_dropWhile (h : Plain (w.dropWhile isDigit)) : Plain w := by
  rw [← List.takeWhile_append_dropWhile (p := isDigit) (l := w)]
  exact List.forall_mem_append.mpr ⟨plain_takeWhile w, h⟩

theorem plain_of_readUnsigned {negative : Bool} {v : Binary64}
    (h : readUnsigned? negative w = some v) : Plain w := by
  apply plain_of_dropWhile
  simp only [readUnsigned?] at h
  split_ifs at h
  obtain ⟨e, he, -⟩ := Option.map_eq_some_iff.mp h
  split at he
  · rename_i r heq
    rw [heq]
    exact plain_cons rfl (plain_of_dropWhile (plain_of_readExponent he))
  · exact plain_of_readExponent he

theorem isSign_toLower (h : isSign c = true) : isSign c.toLower = true := by
  rcases isSign_iff.mp h with rfl | rfl | rfl <;> rfl

theorem plain_of_map_toLower (h : Plain (w.map Char.toLower)) : Plain w := by
  intro c hc
  rw [Bool.eq_false_iff]
  intro hsign
  have hlower := h c.toLower (List.mem_map_of_mem hc)
  rw [isSign_toLower hsign] at hlower
  cases hlower

theorem plain_of_readReal (h : (readReal? w).isSome = true) : Plain w := by
  apply plain_of_splitSign
  obtain ⟨v, hv⟩ := Option.isSome_iff_exists.mp h
  simp only [readReal?] at hv
  split_ifs at hv with hinf hnan
  · apply plain_of_map_toLower
    rcases hinf with heq | heq <;> rw [heq] <;> simp [Plain, isSign]
  · apply plain_of_map_toLower
    rw [hnan]
    simp [Plain, isSign]
  · exact plain_of_readUnsigned hv

theorem like_startsWith {term : String} (hterm : Plain term.toList) (x : String) :
    like (term ++ "%") x = true ↔ term.toList <+: x.toList := by
  rw [like, String.toList_append]
  exact fits_startsWith hterm

theorem like_contains {term : String} (hterm : Plain term.toList) (x : String) :
    like ("%" ++ term ++ "%") x = true ↔ term.toList <:+: x.toList := by
  rw [like, String.toList_append, String.toList_append]
  exact fits_contains hterm

theorem plain_iff : Plain w ↔ ∀ c, isSign c = true → c ∉ w := by
  constructor
  · intro hw c hsign hc
    rw [hw c hc] at hsign
    cases hsign
  · intro hw c hc
    by_contra hsign
    exact hw c (by simpa using hsign) hc

theorem plain_lowercase (term : String) :
    Plain (Text.lowercase term).toList ↔ Plain term.toList := by
  have hmem : ∀ c, isSign c = true → (c ∈ (Text.lowercase term).toList ↔ c ∈ term.toList) := by
    intro c hsign
    rw [Text.lowercase, String.toList_ofList]
    rcases isSign_iff.mp hsign with rfl | rfl | rfl
    · exact Text.mem_lowerFrom_iff (by decide) (by decide) false
    · exact Text.mem_lowerFrom_iff (by decide) (by decide) false
    · exact Text.mem_lowerFrom_iff (by decide) (by decide) false
  rw [plain_iff, plain_iff]
  constructor
  · exact fun h c hsign => mt (hmem c hsign).mpr (h c hsign)
  · exact fun h c hsign => mt (hmem c hsign).mp (h c hsign)

theorem lowercase_sample (term : String) :
    Text.lowercase (String.ofList (sample false (Text.lowercase term).toList)) =
      String.ofList (sample false (Text.lowercase term).toList) := by
  rw [Text.lowercase, String.toList_ofList, Text.lowerFrom_of_isLower]
  intro c hc
  rcases mem_sample hc with hc | rfl | rfl
  · rw [Text.lowercase, String.toList_ofList] at hc
    exact Text.isLower_lowerFrom hc
  · exact ⟨by decide, by rfl⟩
  · exact ⟨by decide, by rfl⟩

theorem like_sample (term : String) :
    like ("%" ++ term ++ "%") (String.ofList (sample false term.toList)) = true := by
  have hitems : items false (['%'] ++ term.toList ++ ['%']) =
      .run :: items false (term.toList ++ ['%']) := rfl
  have hpercent : "%".toList = ['%'] := rfl
  rw [like, String.toList_append, String.toList_append, hpercent, String.toList_ofList, hitems,
    fits_run]
  exact ⟨[], _, rfl, fits_sample false term.toList⟩

theorem literal_iff (term : String) :
    (∀ x, like ("%" ++ Text.lowercase term ++ "%") (Text.lowercase x) = true ↔
      (Text.lowercase term).toList <:+: (Text.lowercase x).toList) ↔ Plain term.toList := by
  rw [← plain_lowercase]
  constructor
  · intro h
    by_contra hplain
    have hsample := h (String.ofList (sample false (Text.lowercase term).toList))
    rw [lowercase_sample, String.toList_ofList] at hsample
    exact not_infix_sample hplain (hsample.mp (like_sample _))
  · exact fun hplain x => like_contains hplain (Text.lowercase x)

end Like

namespace Catalog

variable {c : Catalog} {r : Request}

theorem compile_tested {f : Column} (hterm : r.search ≠ "") (hf : f ∈ Search.tested c r.search) :
    ∃ tests n, .anyOf tests ∈ (c.compile r).draft.predicates ∧ Search.test f n ∈ tests ∧
      (c.compile r).draft.arguments[n - 1]? = some (Search.pattern r.search f) := by
  have hempty : r.search.isEmpty = false := by simpa using hterm
  have hcolumns : c.searchColumns.isEmpty = false := by
    rw [List.isEmpty_eq_false_iff]
    exact List.ne_nil_of_mem (List.mem_of_mem_filter hf)
  have hclauses : Search.clauses c r.search = [Search.clause c r.search] := by
    rw [Search.clauses, hempty, hcolumns]
    rfl
  obtain ⟨i, hi⟩ := List.mem_iff_getElem?.mp hf
  refine ⟨((Search.tested c r.search).zipIdx 1).map fun e => Search.test e.1 e.2, i + 1, ?_, ?_, ?_⟩
  · rw [compile_predicates_eq, clauses, hclauses, List.append_assoc, List.singleton_append,
      Clause.numbered]
    exact List.mem_cons_self
  · refine List.mem_map.mpr ⟨(f, i + 1), ?_, rfl⟩
    rw [List.mk_mem_zipIdx_iff_le_and_getElem?_sub]
    exact ⟨Nat.le_add_left 1 i, hi⟩
  · rw [compile_arguments_eq, clauses, hclauses, List.append_assoc, List.singleton_append,
      List.flatMap_cons, Nat.add_sub_cancel]
    have hargument : (Search.clause c r.search).arguments[i]? =
        some (Search.pattern r.search f) := by
      simp [Search.clause, Clause.arguments, hi]
    rw [List.getElem?_append_left (List.getElem?_eq_some_iff.mp hargument).1, hargument]

/-- A search finds a term in a column of text exactly where it occurs, if no sign of a pattern is in
the term, and only then. In a column of numbers it finds a number exactly at the start. -/
theorem search_literal_iff (hterm : r.search ≠ "") {f : Column} (hf : f ∈ c.columns)
    (hs : f.field.searchable = true) :
    (f.field.kind ≠ .numeric → ∃ tests n pattern,
      .anyOf tests ∈ (c.compile r).draft.predicates ∧ .contains f n ∈ tests ∧
      (c.compile r).draft.arguments[n - 1]? = some (.string pattern) ∧
      ((∀ x, like pattern (Text.lowercase x) = true ↔
        (Text.lowercase r.search).toList <:+: (Text.lowercase x).toList) ↔
          Like.Plain r.search.toList)) ∧
    (f.field.kind = .numeric → Search.isNumeric r.search = true → ∃ tests n pattern,
      .anyOf tests ∈ (c.compile r).draft.predicates ∧ .startsWith f n ∈ tests ∧
      (c.compile r).draft.arguments[n - 1]? = some (.string pattern) ∧
      ∀ x, like pattern x = true ↔ r.search.toList <+: x.toList) := by
  constructor
  · intro hkind
    have htested : f ∈ Search.tested c r.search := by
      rw [Search.tested_eq]
      simp [hf, hs, hkind]
    obtain ⟨tests, n, hpredicate, htest, hargument⟩ := compile_tested hterm htested
    rw [Search.test_of_ne hkind] at htest
    rw [Search.pattern_of_ne hkind] at hargument
    exact ⟨tests, n, _, hpredicate, htest, hargument, Like.literal_iff r.search⟩
  · intro hkind hnumber
    have htested : f ∈ Search.tested c r.search := by
      rw [Search.tested_eq]
      simp [hf, hs, hnumber]
    obtain ⟨tests, n, hpredicate, htest, hargument⟩ := compile_tested hterm htested
    rw [Search.test_numeric hkind] at htest
    rw [Search.pattern_numeric hkind] at hargument
    exact ⟨tests, n, _, hpredicate, htest, hargument,
      Like.like_startsWith (Like.plain_of_readReal hnumber)⟩

theorem nameColumn_mem : nameColumn ∈ shopCatalog.columns := by decide

theorem search_literal_iff_shop : ({ search := "Lamp" } : Request).search ≠ "" ∧
    nameColumn ∈ shopCatalog.columns ∧ nameColumn.field.searchable = true ∧
    ∃ tests n pattern,
      .anyOf tests ∈ (shopCatalog.compile { search := "Lamp" }).draft.predicates ∧
      .contains nameColumn n ∈ tests ∧
      (shopCatalog.compile { search := "Lamp" }).draft.arguments[n - 1]? = some (.string pattern) ∧
      ∀ x, like pattern (Text.lowercase x) = true ↔
        "lamp".toList <:+: (Text.lowercase x).toList := by
  have hterm : ({ search := "Lamp" } : Request).search ≠ "" := by decide
  obtain ⟨htext, -⟩ := search_literal_iff (r := { search := "Lamp" }) hterm nameColumn_mem rfl
  obtain ⟨tests, n, pattern, hpredicate, htest, hargument, hliteral⟩ := htext nofun
  have hplain : Like.Plain "Lamp".toList := by simp [Like.Plain, Like.isSign]
  have hlower : Text.lowercase "Lamp" = "lamp" := by rfl
  have hfound := hliteral.mpr hplain
  simp only [hlower] at hfound
  exact ⟨hterm, nameColumn_mem, rfl, tests, n, pattern, hpredicate, htest, hargument, hfound⟩

/-- A backslash at the end of a term takes the percent sign behind it for a character. -/
theorem search_not_literal_shop :
    (shopCatalog.compile { search := "50\\" }).draft.predicates =
      [.anyOf [.contains nameColumn 1]] ∧
    (shopCatalog.compile { search := "50\\" }).draft.arguments = [.string "%50\\%"] ∧
    (like "%50\\%" (Text.lowercase "50%") = true ∧
      ¬ (Text.lowercase "50\\").toList <:+: (Text.lowercase "50%").toList) ∧
    (like "%50\\%" (Text.lowercase "50\\") = false ∧
      (Text.lowercase "50\\").toList <:+: (Text.lowercase "50\\").toList) := by
  have hbackslash : Text.lowercase "50\\" = "50\\" := by rfl
  have hpercent : Text.lowercase "50%" = "50%" := by rfl
  rw [hbackslash, hpercent]
  refine ⟨by rfl, by rfl, ⟨by rfl, ?_⟩, by rfl, List.infix_rfl⟩
  intro h
  have hsame := h.eq_of_length_le (by decide)
  exact absurd hsame (by decide)

end Catalog
end Listing
