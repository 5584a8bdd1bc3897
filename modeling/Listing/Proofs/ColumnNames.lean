import Listing.Proofs.DerivedLists

/-!
A column by its name in a statement. Neither the name of a table nor that of a field is restricted,
so one name of a column may have several places that look like the end of the table's part; the
quotation marks after such a place tell which one is.
-/
namespace Listing

namespace Text

theorem doubleMarks_mark (s : List Char) : doubleMarks ('"' :: s) = '"' :: '"' :: doubleMarks s :=
  if_pos rfl

theorem doubleMarks_cons {c : Char} (hc : c ≠ '"') (s : List Char) :
    doubleMarks (c :: s) = c :: doubleMarks s :=
  if_neg hc

def readMarked : List Char → Option (List Char × List Char)
  | [] => none
  | '"' :: '"' :: s => (readMarked s).map fun r => ('"' :: r.1, r.2)
  | '"' :: s => some ([], s)
  | c :: s => (readMarked s).map fun r => (c :: r.1, r.2)

theorem readMarked_doubleMarks {rest : List Char} (h : rest.head? ≠ some '"') (name : List Char) :
    readMarked (doubleMarks name ++ '"' :: rest) = some (name, rest) := by
  induction name with
  | nil =>
    cases rest with
    | nil => rfl
    | cons c rest =>
      have hc : c ≠ '"' := fun he => h (congrArg some he)
      simp [doubleMarks, readMarked, hc]
  | cons c name ih =>
    by_cases hc : c = '"'
    · rw [hc, doubleMarks_mark, List.cons_append, List.cons_append, readMarked, ih]
      rfl
    · rw [doubleMarks_cons hc, List.cons_append, readMarked, ih]
      · rfl
      · exact fun _ he _ => hc he
      · exact hc

theorem doubleMarks_of_readMarked {s name rest : List Char} (h : readMarked s = some (name, rest)) :
    s = doubleMarks name ++ '"' :: rest ∧ rest.head? ≠ some '"' := by
  induction s using readMarked.induct generalizing name with
  | case1 => cases h
  | case2 s ih =>
    rw [readMarked, Option.map_eq_some_iff] at h
    obtain ⟨⟨tail, rest'⟩, htail, heq⟩ := h
    cases heq
    obtain ⟨hs, hrest⟩ := ih htail
    rw [doubleMarks_mark, List.cons_append, List.cons_append, ← hs]
    exact ⟨rfl, hrest⟩
  | case3 s hs =>
    rw [readMarked] at h
    · cases h
      refine ⟨rfl, fun hmark => ?_⟩
      obtain ⟨s', rfl⟩ := List.head?_eq_some_iff.mp hmark
      exact hs s' rfl
    · exact hs
  | case4 c s hpair hc ih =>
    rw [readMarked, Option.map_eq_some_iff] at h
    · obtain ⟨⟨tail, rest'⟩, htail, heq⟩ := h
      cases heq
      obtain ⟨hs, hrest⟩ := ih htail
      rw [doubleMarks_cons hc, List.cons_append, ← hs]
      exact ⟨rfl, hrest⟩
    · exact hpair
    · exact hc

theorem doubleMarks_injective : Function.Injective doubleMarks := by
  intro s t h
  have hend : ([] : List Char).head? ≠ some '"' := by simp
  have hread := readMarked_doubleMarks hend s
  rw [h, readMarked_doubleMarks hend t] at hread
  cases hread
  rfl

theorem count_doubleMarks (s : List Char) : (doubleMarks s).count '"' = 2 * s.count '"' := by
  induction s with
  | nil => rfl
  | cons c s ih =>
    by_cases hc : c = '"'
    · rw [hc, doubleMarks_mark]
      simp only [List.count_cons_self, ih]
      omega
    · rw [doubleMarks_cons hc, List.count_cons_of_ne hc, List.count_cons_of_ne hc, ih]

theorem exists_doubleMarks_tail {c : Char} (hc : c ≠ '"') {s u v : List Char}
    (h : doubleMarks s = u ++ c :: v) : ∃ t, v = doubleMarks t := by
  induction s generalizing u with
  | nil => simp [doubleMarks] at h
  | cons a s ih =>
    by_cases ha : a = '"'
    · rw [ha, doubleMarks_mark] at h
      rcases u with _ | ⟨x, _ | ⟨y, u⟩⟩
      · injection h with hac
        exact absurd hac.symm hc
      · injection h with _ h
        injection h with hac
        exact absurd hac.symm hc
      · injection h with _ h
        injection h with _ h
        exact ih h
    · rw [doubleMarks_cons ha] at h
      cases u with
      | nil =>
        injection h with _ h
        exact ⟨s, h.symm⟩
      | cons x u =>
        injection h with _ h
        exact ih h

theorem toList_identifier (name : String) :
    (identifier name).toList = '"' :: doubleMarks name.toList ++ ['"'] :=
  String.toList_ofList

def readIdentifier (s : String) : Option (String × String) :=
  match s.toList with
  | '"' :: cs => (readMarked cs).map fun r => (String.ofList r.1, String.ofList r.2)
  | _ => none

theorem toList_identifier_append (name rest : String) : (identifier name ++ rest).toList =
    '"' :: (doubleMarks name.toList ++ '"' :: rest.toList) := by
  rw [String.toList_append, toList_identifier, List.append_assoc]
  rfl

theorem readIdentifier_eq_some {s name rest : String} : readIdentifier s = some (name, rest) ↔
    s = identifier name ++ rest ∧ rest.toList.head? ≠ some '"' := by
  constructor
  · intro h
    rw [readIdentifier] at h
    split at h
    · next cs hs =>
      obtain ⟨⟨name, rest⟩, hread, heq⟩ := Option.map_eq_some_iff.mp h
      cases heq
      obtain ⟨hcs, hrest⟩ := doubleMarks_of_readMarked hread
      rw [← String.toList_inj, toList_identifier_append, String.toList_ofList, String.toList_ofList]
      exact ⟨hs.trans (congrArg _ hcs), hrest⟩
    · cases h
  · rintro ⟨rfl, hrest⟩
    rw [readIdentifier, toList_identifier_append]
    simp only [readMarked_doubleMarks hrest, Option.map_some, String.ofList_toList]

theorem not_identifier_inside (name other : String) (u : List Char) :
    '"' :: doubleMarks name.toList ≠ u ++ '.' :: '"' :: doubleMarks other.toList := by
  intro h
  cases u with
  | nil =>
    injection h with hmark
    exact absurd hmark (by decide)
  | cons x u =>
    -- after a point inside a doubled name the number of marks is even, but here it is odd
    injection h with _ h
    obtain ⟨t, ht⟩ := exists_doubleMarks_tail (by decide) h
    have hcount := congrArg (List.count '"') ht
    rw [List.count_cons_self, count_doubleMarks, count_doubleMarks] at hcount
    omega

theorem append_identifier_inj {p q name other : String} :
    p ++ "." ++ identifier name = q ++ "." ++ identifier other ↔ p = q ∧ name = other := by
  constructor
  · intro h
    have hlist : p.toList ++ '.' :: '"' :: doubleMarks name.toList =
        q.toList ++ '.' :: '"' :: doubleMarks other.toList := by
      have htext := congrArg String.toList h
      simp only [String.toList_append, toList_identifier] at htext
      have hmark : (p.toList ++ '.' :: '"' :: doubleMarks name.toList) ++ ['"'] =
          (q.toList ++ '.' :: '"' :: doubleMarks other.toList) ++ ['"'] := by
        simpa using htext
      exact List.append_cancel_right hmark
    rcases List.append_eq_append_iff.mp hlist with ⟨u, hq, hrest⟩ | ⟨u, hp, hrest⟩
    · cases u with
      | nil =>
        injection hrest with _ hrest
        injection hrest with _ hrest
        rw [List.append_nil] at hq
        exact ⟨String.toList_inj.mp hq.symm, String.toList_inj.mp (doubleMarks_injective hrest)⟩
      | cons x u =>
        injection hrest with _ hrest
        exact absurd hrest (not_identifier_inside name other u)
    · cases u with
      | nil =>
        injection hrest with _ hrest
        injection hrest with _ hrest
        rw [List.append_nil] at hp
        exact ⟨String.toList_inj.mp hp, String.toList_inj.mp (doubleMarks_injective hrest.symm)⟩
      | cons x u =>
        injection hrest with _ hrest
        exact absurd hrest (not_identifier_inside other name u)
  · rintro ⟨rfl, rfl⟩
    rfl

end Text

namespace Catalog

variable {c : Catalog}

theorem Sound.statement_injective (hc : c.Sound)
    (hnames : ∀ u, ((c.columnsOf u).map (·.field.name)).Nodup) {f g : Column}
    (hf : f ∈ c.columns) (hg : g ∈ c.columns) (h : f.statement = g.statement) : f = g := by
  obtain ⟨hqualifier, hname⟩ := Text.append_identifier_inj.mp h
  obtain ⟨t, ht, -, hft⟩ := hc.column_table f hf
  obtain ⟨u, hu, -, hgu⟩ := hc.column_table g hg
  have hreference : t.reference = u.reference := hft.symm.trans (hqualifier.trans hgu)
  have htable : t = u :=
    List.inj_on_of_nodup_map hc.references (List.mem_of_getElem? ht) (List.mem_of_getElem? hu)
      hreference
  have hsame : f.table = g.table := by
    rw [← hc.table_id _ _ ht, htable, hc.table_id _ _ hu]
  exact List.inj_on_of_nodup_map (hnames g.table) (mem_columnsOf.mpr ⟨hf, hsame⟩)
    (mem_columnsOf.mpr ⟨hg, rfl⟩) hname

theorem build_statement_injective {x : Table} (h : build x = .ok c) {f g : Column}
    (hf : f ∈ c.columns) (hg : g ∈ c.columns) (hs : f.statement = g.statement) : f = g := by
  have hc := (build_wellFormed h).toSound
  exact hc.statement_injective ((build_laid h).nodup_names hc) hf hg hs

/-- A column's name in a statement is that of no other column, and its quoted part is read as the
name of the field, whatever follows it but one more mark. -/
theorem statements_identify :
    (Function.Injective fun p : String × String => p.1 ++ "." ++ Text.identifier p.2) ∧
    (∀ s name rest, Text.readIdentifier s = some (name, rest) ↔
      s = Text.identifier name ++ rest ∧ rest.toList.head? ≠ some '"') ∧
    ∀ x c, build x = .ok c →
      (∀ f ∈ c.columns, ∃ t, c.table? f.table = some t ∧
        f.statement = t.reference ++ "." ++ Text.identifier f.field.name) ∧
      (c.columns.map Column.statement).Nodup := by
  refine ⟨?_, fun s name rest => Text.readIdentifier_eq_some, fun x c h => ⟨?_, ?_⟩⟩
  · rintro ⟨p, name⟩ ⟨q, other⟩ h
    obtain ⟨rfl, rfl⟩ := Text.append_identifier_inj.mp h
    rfl
  · intro f hf
    obtain ⟨t, ht, -, hqualifier⟩ := (build_wellFormed h).column_table f hf
    exact ⟨t, ht, by rw [Column.statement, hqualifier]⟩
  · apply (build_wellFormed h).nodup_columns.map_on
    intro f hf g hg
    exact build_statement_injective h hf hg

/-- Without their doubled marks two of its columns would have one name. -/
def lookalikes : Table where
  name := "p"
  fields := [{ name := "id" }, { name := "q\".\"a" }]
  relations := [({ foreignKey := "id", referenceKey := "a" },
    { name := "p.\"q\"", fields := [{ name := "a" }, { name := "\"" }] })]

def lookalikesCatalog : Catalog := (build lookalikes).toOption.getD {}

theorem statements_identify_lookalikes : build lookalikes = .ok lookalikesCatalog ∧
    lookalikesCatalog.columns.map Column.statement =
      ["p.\"id\"", "p.\"q\"\".\"\"a\"", "p.\"q\".\"a\"", "p.\"q\".\"\"\"\""] ∧
    (lookalikesCatalog.columns.map Column.statement).Nodup ∧
    Text.readIdentifier "\"q\"\".\"\"a\" is false" = some ("q\".\"a", " is false") := by
  obtain ⟨-, hread, hbuild⟩ := statements_identify
  refine ⟨rfl, rfl, (hbuild lookalikes _ rfl).2, ?_⟩
  rw [hread]
  exact ⟨rfl, by decide⟩

end Catalog
end Listing
