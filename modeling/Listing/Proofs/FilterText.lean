import Listing.Proofs.FilterPass
import Listing.Proofs.Words

namespace Listing.Filter

open Text

/-- The parts of a filter in its text. The text of the values goes from the third word to the last
character that is not blank. -/
structure Written (raw key operator value : List Char) : Prop where
  isWord_key : IsWord key
  isWord_operator : IsWord operator
  trimmed : IsTrimmed value
  nonempty : value ≠ []
  text : ∃ lead gap gap' tail, AllBlank lead ∧ AllBlank gap ∧ gap ≠ [] ∧ AllBlank gap' ∧
    gap' ≠ [] ∧ AllBlank tail ∧
    raw = lead ++ (key ++ (gap ++ (operator ++ (gap' ++ (value ++ tail)))))

theorem gap_ne_nil {gap w rest : List Char} (hw : IsWord w) (h : EndsWord (gap ++ (w ++ rest))) :
    gap ≠ [] := by
  rintro rfl
  exact hw.not_endsWord rest h

theorem exists_written {raw key operator first : List Char} {others : List (List Char)}
    (h : words raw = key :: operator :: first :: others) :
    ∃ value, Written raw key operator value ∧ words value = first :: others := by
  obtain ⟨lead, r, rfl, hlead, hkey, hends, h⟩ := (words_eq_iff.mp h).first
  obtain ⟨gap, r, rfl, hgap, hoperator, hends', h⟩ := h.first
  obtain ⟨gap', r, rfl, hgap', hfirst, hends'', h⟩ := h.first
  obtain ⟨tail, hvalue, htail, hlast⟩ := exists_trimEnd (first ++ r)
  have hwords : words (trimEnd (first ++ r)) = first :: others := by
    rw [← words_append_blanks htail, ← hvalue]
    exact words_eq_iff.mpr (.word hfirst hends'' h)
  have hne : trimEnd (first ++ r) ≠ [] := by
    intro hnil
    rw [hnil] at hwords
    cases hwords
  have hhead : (trimEnd (first ++ r)).head? = first.head? := by
    rw [← head?_append_of_ne_nil hne tail, ← hvalue, head?_append_of_ne_nil hfirst.ne_nil]
  refine ⟨trimEnd (first ++ r), ⟨hkey, hoperator, ⟨?_, hlast⟩, hne, lead, gap, gap', tail, hlead,
    hgap, gap_ne_nil hoperator hends, hgap', gap_ne_nil hfirst hends', htail, ?_⟩, hwords⟩
  · rw [hhead]
    exact hfirst.isTrimmed.first
  · rw [← hvalue]

theorem trimStart_gap {gap w : List Char} (hgap : AllBlank gap) (hw : IsWord w)
    (rest : List Char) : trimStart (gap ++ (w ++ rest)) = w ++ rest := by
  rw [trimStart_blanks hgap]
  apply trimStart_of_first
  rw [head?_append_of_ne_nil hw.ne_nil]
  exact hw.isTrimmed.first

theorem Written.parts? {raw key operator value : List Char}
    (h : Written raw key operator value) :
    ∃ text, parts? raw = some (key, operator, text) ∧ trim text = value := by
  obtain ⟨lead, gap, gap', tail, hlead, hgap, hne, hgap', hne', htail, rfl⟩ := h.text
  obtain ⟨b, gap, rfl⟩ := List.exists_cons_of_ne_nil hne
  obtain ⟨b', gap', rfl⟩ := List.exists_cons_of_ne_nil hne'
  obtain ⟨hb, hgap⟩ := List.forall_mem_cons.mp hgap
  obtain ⟨hb', hgap'⟩ := List.forall_mem_cons.mp hgap'
  have hvalue : trim (gap' ++ value) = value := by
    have htrim := h.trimmed.trim_around h.nonempty hgap' (List.forall_mem_nil _)
    rwa [List.append_nil] at htrim
  have hall : trim (lead ++ (key ++ (b :: gap ++ (operator ++ (b' :: gap' ++ (value ++ tail)))))) =
      key ++ b :: (gap ++ (operator ++ b' :: (gap' ++ value))) := by
    have htrimmed := h.isWord_key.isTrimmed_append h.trimmed h.nonempty
      (b :: (gap ++ (operator ++ b' :: gap')))
    have htrim := htrimmed.trim_around (by simp) hlead htail
    simpa only [List.append_assoc, List.cons_append] using htrim
  refine ⟨gap' ++ value, ?_, hvalue⟩
  rw [Filter.parts?, hall]
  simp only [Option.bind_eq_bind, cutAtBlank_append h.isWord_key.not_blank hb, Option.bind_some,
    trimStart_gap hgap h.isWord_operator, cutAtBlank_append h.isWord_operator.not_blank hb', hvalue]
  rw [if_neg]
  simpa using h.nonempty

theorem parts?_none {raw : List Char} (h : (words raw).length < 3) : parts? raw = none := by
  match hws : words raw with
  | [] =>
    have hblank := hasWords_nil_iff.mp (words_eq_iff.mp hws)
    have htrim : trim raw = [] := by
      have hstart := trimStart_blanks hblank []
      rw [List.append_nil] at hstart
      rw [trim, hstart]
      rfl
    simp [parts?, htrim, cutAtBlank]
  | [key] =>
    obtain ⟨lead, tail, rfl, hlead, hkey, -, hrest⟩ := (words_eq_iff.mp hws).first
    have htrim := hkey.isTrimmed.trim_around hkey.ne_nil hlead (hasWords_nil_iff.mp hrest)
    simp [parts?, htrim, cutAtBlank_of_not_blank hkey.not_blank]
  | [key, operator] =>
    obtain ⟨lead, r, rfl, hlead, hkey, hends, hr⟩ := (words_eq_iff.mp hws).first
    obtain ⟨gap, tail, rfl, hgap, hoperator, -, hrest⟩ := hr.first
    obtain ⟨b, gap, rfl⟩ := List.exists_cons_of_ne_nil (gap_ne_nil hoperator hends)
    obtain ⟨hb, hgap⟩ := List.forall_mem_cons.mp hgap
    have htrim : trim (lead ++ (key ++ (b :: gap ++ (operator ++ tail)))) =
        key ++ b :: (gap ++ operator) := by
      have htrimmed := hkey.isTrimmed_append hoperator.isTrimmed hoperator.ne_nil (b :: gap)
      have htrim := htrimmed.trim_around (by simp) hlead (hasWords_nil_iff.mp hrest)
      simpa only [List.append_assoc, List.cons_append] using htrim
    have hstart := trimStart_gap hgap hoperator []
    rw [List.append_nil] at hstart
    rw [parts?, htrim]
    simp [cutAtBlank_append hkey.not_blank hb, hstart,
      cutAtBlank_of_not_blank hoperator.not_blank]
  | _ :: _ :: _ :: _ =>
    rw [hws] at h
    simp only [List.length_cons] at h
    omega

theorem splitValues_trim {text value : List Char} (h : trim text = value) (hv : IsTrimmed value) :
    splitValues text = splitValues value := by
  simp only [splitValues, h, hv.trim_eq]

theorem splitValues_ne_nil {value : List Char} {values : List (List Char)}
    (h : splitValues value = some values) : values ≠ [] := by
  rintro rfl
  simp only [splitValues] at h
  split at h
  · cases h
  · rename_i hne
    simp only [Option.some.injEq] at h
    simp [h] at hne

def Fits (op : FilterOperator) (kind : FieldKind) (value : List Char) : Prop :=
  ∃ values, splitValues value = some values ∧ (∀ v ∈ values, (typedValue kind v).isSome = true) ∧
    (values.length = 1 ∨ op = .among ∧ 1 ≤ values.length)

theorem exists_mapM_some {α β : Type} {f : α → Option β} {xs : List α}
    (h : ∀ x ∈ xs, (f x).isSome = true) : ∃ ys, xs.mapM f = some ys := by
  induction xs with
  | nil => exact ⟨[], rfl⟩
  | cons x xs ih =>
    obtain ⟨hx, hxs⟩ := List.forall_mem_cons.mp h
    obtain ⟨y, hy⟩ := Option.isSome_iff_exists.mp hx
    obtain ⟨ys, hys⟩ := ih hxs
    exact ⟨y :: ys, by simp [List.mapM_cons, hy, hys]⟩

theorem isSome_of_map {α β : Type} {f : α → Option β} {xs : List α} {ys : List β}
    (h : xs.map f = ys.map some) : ∀ x ∈ xs, (f x).isSome = true := by
  intro x hx
  have hmem := List.mem_map_of_mem (f := f) hx
  rw [h] at hmem
  obtain ⟨y, -, hy⟩ := List.mem_map.mp hmem
  rw [← hy]
  rfl

theorem exists_test_iff {op : FilterOperator} {kind : FieldKind} {value : List Char} :
    (∃ test, test? op kind value = some test) ↔ Fits op kind value := by
  constructor
  · rintro ⟨test, htest⟩
    obtain ⟨values, hsplit, hvalues, hop⟩ := test?_some htest
    refine ⟨values, hsplit, isSome_of_map hvalues, ?_⟩
    have hlength := congrArg List.length hvalues
    simp only [List.length_map] at hlength
    rcases hop with ⟨o, v, rfl, rfl⟩ | ⟨vs, rfl, rfl⟩
    · exact .inl hlength
    · exact .inr ⟨rfl, List.length_pos_iff.mpr (splitValues_ne_nil hsplit)⟩
  · rintro ⟨values, hsplit, htyped, hop⟩
    obtain ⟨vs, hvs⟩ := exists_mapM_some htyped
    have hlength : values.length = vs.length := by
      simpa using congrArg List.length (mapM_some hvs)
    simp only [test?, hsplit, hvs, Option.bind_eq_bind, Option.bind_some]
    cases op with
    | among => exact ⟨_, rfl⟩
    | compare o =>
      have hone : vs.length = 1 := by
        rcases hop with hop | ⟨hop, -⟩
        · omega
        · cases hop
      obtain ⟨v, rfl⟩ := List.length_eq_one_iff.mp hone
      exact ⟨_, rfl⟩

theorem ofName?_among {name : List Char} :
    FilterOperator.ofName? name = some .among ↔ name = "in".toList := by
  constructor
  · intro h
    by_contra hne
    simp only [FilterOperator.ofName?, if_neg hne] at h
    split_ifs at h
    all_goals cases h
  · rintro rfl
    rfl

def Answers (c : Catalog) (scope : FilterScope) (raw message : String) : Prop :=
  ∃ e, accept c scope raw = .error e ∧ e.message = message

variable {c : Catalog} {scope : FilterScope} {raw : String}

theorem answers_format : Answers c scope raw "invalid format" ↔ parts? raw.toList = none := by
  constructor
  · rintro ⟨e, he, hmessage⟩
    cases refuses_of_error he with
    | format hparts => exact hparts
    | field => exact absurd hmessage (by decide)
    | operator => exact absurd hmessage (by decide)
    | @value key operator value f =>
      cases hkind : f.field.kind <;> rw [hkind] at hmessage <;> exact absurd hmessage (by decide)
  · intro hparts
    exact ⟨.filterFormat, (Refuses.format hparts).accept, rfl⟩

theorem parts?_none_iff {raw : List Char} : parts? raw = none ↔ (words raw).length < 3 := by
  refine ⟨fun h => ?_, parts?_none⟩
  match hws : words raw with
  | [] | [_] | [_, _] => simp
  | _ :: _ :: _ :: _ =>
    obtain ⟨value, hwritten, -⟩ := exists_written hws
    obtain ⟨text, hparts, -⟩ := hwritten.parts?
    cases h.symm.trans hparts

/-- A filter needs three words. The first two are its key and its operator, and all text from the
third on is that of its values, whatever blanks stand between them. If the field, the operator or
the values fail, then the first of these that does is the answer, and otherwise the filter is
accepted. -/
theorem accept_written (c : Catalog) (scope : FilterScope) (raw : String) :
    (Answers c scope raw "invalid format" ↔ (words raw.toList).length < 3) ∧
    ∀ key operator first others, words raw.toList = key :: operator :: first :: others →
      ∃ value, Written raw.toList key operator value ∧ words value = first :: others ∧
        ((∀ f, c.indexed? (String.ofList key) = some f → scope.allows f.field = false) →
          Answers c scope raw "invalid field") ∧
        ∀ f, c.indexed? (String.ofList key) = some f → scope.allows f.field = true →
          (FilterOperator.ofName? operator = none → Answers c scope raw "invalid operator") ∧
          ∀ op, FilterOperator.ofName? operator = some op →
            (op = .among ↔ operator = "in".toList) ∧
            (¬ Fits op f.field.kind value →
              Answers c scope raw ("value must be a valid " ++ f.field.kind.name ++ " format")) ∧
            (Fits op f.field.kind value → ∃ test values,
              accept c scope raw = .ok ⟨f, test⟩ ∧ test.operator = op ∧
              splitValues value = some values ∧
              values.map (typedValue f.field.kind) = test.values.map some) := by
  refine ⟨answers_format.trans parts?_none_iff, fun key operator first others hws => ?_⟩
  obtain ⟨value, hwritten, hwords⟩ := exists_written hws
  obtain ⟨text, hparts, htrim⟩ := hwritten.parts?
  have hsplit := splitValues_trim htrim hwritten.trimmed
  refine ⟨value, hwritten, hwords, fun hfield => ⟨_, (Refuses.field hparts hfield).accept, rfl⟩,
    fun f hfield hallows => ⟨fun hoperator =>
      ⟨_, (Refuses.operator hparts hfield hallows hoperator).accept, rfl⟩, fun op hoperator => ?_⟩⟩
  have htest : ∀ kind, test? op kind text = test? op kind value := by
    intro kind
    simp only [test?, hsplit]
  refine ⟨?_, fun hfits => ?_, fun hfits => ?_⟩
  · rw [← ofName?_among, hoperator, Option.some.injEq]
  · have hnone : test? op f.field.kind text = none := by
      rw [htest, Option.eq_none_iff_forall_ne_some]
      exact fun test ht => hfits (exists_test_iff.mp ⟨test, ht⟩)
    exact ⟨_, (Refuses.value hparts hfield hallows hoperator hnone).accept, rfl⟩
  · obtain ⟨test, ht⟩ := exists_test_iff.mpr hfits
    have haccept : accept c scope raw = .ok ⟨f, test⟩ := by
      simp only [accept, hparts, usable_of hfield hallows, hoperator, htest, ht]
    obtain ⟨-, key', operator', text', values, hparts', -, hoperator', hsplit', hvalues⟩ :=
      reads_of_accept haccept
    cases hparts.symm.trans hparts'
    cases hoperator.symm.trans hoperator'
    exact ⟨test, values, haccept, rfl, by rw [← hsplit, hsplit'], hvalues⟩

def widelySpaced : String := "\u00A0name\tin\u3000 ('red lamp'  desk)\n"

theorem accept_written_shop :
    words widelySpaced.toList = ["name".toList, "in".toList, "('red".toList, "lamp'".toList,
      "desk)".toList] ∧
    accept Catalog.shopCatalog .request widelySpaced =
      .ok ⟨Catalog.nameColumn, .among [.string "red lamp", .string "desk"]⟩ ∧
    ∃ value values, Written widelySpaced.toList "name".toList "in".toList value ∧
      splitValues value = some values ∧
      values.map (typedValue .string) = [some (.string "red lamp"), some (.string "desk")] := by
  have hwords : words widelySpaced.toList = ["name".toList, "in".toList, "('red".toList,
      "lamp'".toList, "desk)".toList] := by rfl
  have haccept : accept Catalog.shopCatalog .request widelySpaced =
      .ok ⟨Catalog.nameColumn, .among [.string "red lamp", .string "desk"]⟩ := by rfl
  obtain ⟨-, hparts⟩ := accept_written Catalog.shopCatalog .request widelySpaced
  obtain ⟨value, hwritten, -, -, hfield⟩ := hparts _ _ _ _ hwords
  obtain ⟨-, hoperator⟩ := hfield Catalog.nameColumn rfl rfl
  obtain ⟨-, hrefused, haccepted⟩ := hoperator .among rfl
  have hfits : Fits .among .string value := by
    by_contra hno
    obtain ⟨e, he, -⟩ := hrefused hno
    cases haccept.symm.trans he
  obtain ⟨test, values, htest, -, hsplit, hvalues⟩ := haccepted hfits
  cases haccept.symm.trans htest
  exact ⟨hwords, haccept, value, values, hwritten, hsplit, hvalues⟩

end Listing.Filter
