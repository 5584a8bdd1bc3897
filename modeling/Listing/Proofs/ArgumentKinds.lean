import Listing.Database.Result
import Listing.Proofs.Numerals
import Listing.Proofs.SearchPass
import Listing.Proofs.ValueLists

namespace Listing

/-- What a value of a filter on a column of the kind is sent as. A whole number of 64 bits is sent
as itself, any other number as it is rounded, which must leave it finite. -/
inductive Receives : FieldKind → List Char → Argument → Prop
  | string (v : List Char) : Receives .string v (.text (String.ofList v))
  | date {v : List Char} : Rfc3339.isTimestamp v = true →
      Receives .date v (.text (String.ofList v))
  | boolean (b : Bool) : Receives .boolean (toString b).toList (.bool b)
  | whole {v : List Char} {i : Int} : Writes v i → InInt64 i → Receives .numeric v (.int i)
  | real {v : List Char} {x : Binary64} : (∀ i, Writes v i → ¬ InInt64 i) →
      readReal? v = some x → x.isFinite = true → Receives .numeric v (.real x)

theorem ofJson_int {i : Int} (h : InInt64 i) : Argument.ofJson (.int i) = .int i := if_pos h

theorem sent_typedValue_iff {kind : FieldKind} {v : List Char} {a : Argument} :
    (typedValue kind v).map Argument.ofJson = some a ↔ Receives kind v a := by
  constructor
  · intro h
    obtain ⟨j, hj, rfl⟩ := Option.map_eq_some_iff.mp h
    cases kind with
    | string =>
      cases hj
      exact .string v
    | date =>
      simp only [typedValue] at hj
      split_ifs at hj with htime
      cases hj
      exact .date htime
    | boolean =>
      simp only [typedValue] at hj
      split_ifs at hj with htrue hfalse
      · cases hj
        exact htrue ▸ .boolean true
      · cases hj
        exact hfalse ▸ .boolean false
    | numeric =>
      simp only [typedValue] at hj
      split at hj
      · rename_i i hi
        obtain ⟨hw, hbits⟩ := readInt64?_eq_some.mp hi
        cases hj
        rw [ofJson_int hbits]
        exact .whole hw hbits
      · rename_i hnone
        obtain ⟨x, hx, rfl⟩ := Option.map_eq_some_iff.mp hj
        obtain ⟨hreal, hfinite⟩ := Option.filter_eq_some_iff.mp hx
        exact .real (readInt64?_eq_none.mp hnone) hreal hfinite
  · intro h
    cases h with
    | string => rfl
    | date htime => simp [typedValue, htime, Argument.ofJson]
    | boolean b => cases b <;> rfl
    | whole hw hbits =>
      have hread := readInt64?_eq_some.mpr ⟨hw, hbits⟩
      simp only [typedValue, hread, Option.map_some, ofJson_int hbits]
    | real hnone hreal hfinite =>
      have hread := readInt64?_eq_none.mpr hnone
      simp only [typedValue, hread, hreal, Option.filter_some, hfinite, if_true, Option.map_some]
      rfl

theorem Receives.not_null {kind : FieldKind} {v : List Char} {a : Argument}
    (h : Receives kind v a) : a ≠ .null ∧ ∀ j, a ≠ .json j := by
  cases h <;> exact ⟨nofun, nofun⟩

theorem not_receives_of_not_finite {v : List Char} {x : Binary64} (hx : readReal? v = some x)
    (hfinite : x.isFinite = false) (a : Argument) : ¬ Receives .numeric v a := by
  intro h
  have htrue : x.isFinite = true := by
    cases h with
    | whole hw hbits => exact isFinite_of_readInt64? (readInt64?_eq_some.mpr ⟨hw, hbits⟩) hx
    | real _ hreal hy =>
      cases hreal.symm.trans hx
      exact hy
  rw [hfinite] at htrue
  cases htrue

theorem receives_whole_iff {v : List Char} {i : Int} (hw : Writes v i) (hbits : InInt64 i)
    {a : Argument} : Receives .numeric v a ↔ a = .int i := by
  constructor
  · intro h
    cases h with
    | whole hw' _ =>
      have hsame := (readWhole?_eq_some.mpr hw').symm.trans (readWhole?_eq_some.mpr hw)
      rw [Option.some.inj hsame]
    | real hnone _ _ => exact absurd hbits (hnone i hw)
  · rintro rfl
    exact .whole hw hbits

theorem forall₂_receives_iff {kind : FieldKind} {values : List (List Char)} {args : List Argument} :
    List.Forall₂ (Receives kind) values args ↔
      ∃ vs, values.map (typedValue kind) = vs.map some ∧ sentArguments vs = args := by
  constructor
  · intro h
    induction h with
    | nil => exact ⟨[], rfl, rfl⟩
    | cons hv _ ih =>
      obtain ⟨vs, htyped, hsent⟩ := ih
      obtain ⟨j, hj, rfl⟩ := Option.map_eq_some_iff.mp (sent_typedValue_iff.mpr hv)
      refine ⟨j :: vs, ?_, ?_⟩
      · rw [List.map_cons, hj, htyped, List.map_cons]
      · rw [← hsent]
        rfl
  · rintro ⟨vs, htyped, rfl⟩
    induction values generalizing vs with
    | nil =>
      cases vs with
      | nil => exact .nil
      | cons j vs => cases htyped
    | cons v values ih =>
      cases vs with
      | nil => cases htyped
      | cons j vs =>
        obtain ⟨hj, htyped⟩ := List.cons.inj htyped
        exact .cons (sent_typedValue_iff.mp (by rw [hj]; rfl)) (ih vs htyped)

namespace Filter

variable {c : Catalog} {scope : FilterScope} {raw : String} {f : Column} {op : FilterOperator}
  {values : List (List Char)}

structure Asks (c : Catalog) (scope : FilterScope) (raw : String) (f : Column)
    (op : FilterOperator) (values : List (List Char)) : Prop where
  parts : ∃ key operator value, parts? raw.toList = some (key, operator, value) ∧
    c.indexed? (String.ofList key) = some f ∧ FilterOperator.ofName? operator = some op ∧
    splitValues value = some values
  allowed : scope.allows f.field = true
  count : op = .among ∨ values.length = 1

theorem asks_of_accept {g : Filter} (h : accept c scope raw = .ok g) : ∃ values,
    Asks c scope raw g.column g.test.operator values ∧
    List.Forall₂ (Receives g.column.field.kind) values (sentArguments g.test.values) := by
  obtain ⟨hallows, key, operator, value, values, hparts, hfield, hop, hsplit, htyped⟩ :=
    reads_of_accept h
  refine ⟨values, ⟨⟨key, operator, value, hparts, hfield, hop, hsplit⟩, hallows, ?_⟩,
    forall₂_receives_iff.mpr ⟨_, htyped, rfl⟩⟩
  obtain ⟨column, test⟩ := g
  cases test with
  | compare o v => exact .inr (by simpa [FilterTest.values] using congrArg List.length htyped)
  | among vs => exact .inl rfl

theorem Asks.binds_iff (h : Asks c scope raw f op values) {args : List Argument} :
    (∃ test, Binds c scope raw ⟨f, test⟩ ∧ test.operator = op ∧
      sentArguments test.values = args) ↔ List.Forall₂ (Receives f.field.kind) values args := by
  obtain ⟨⟨key, operator, value, hparts, hfield, hop, hsplit⟩, hallows, hcount⟩ := h
  rw [forall₂_receives_iff]
  constructor
  · rintro ⟨test, hbinds, -, rfl⟩
    obtain ⟨-, key', operator', value', values', hparts', -, -, hsplit', htyped⟩ :=
      reads_of_accept hbinds.accepted
    cases hparts.symm.trans hparts'
    cases hsplit.symm.trans hsplit'
    exact ⟨test.values, htyped, rfl⟩
  · rintro ⟨vs, htyped, rfl⟩
    have hfits : Fits op f.field.kind value := by
      refine ⟨values, hsplit, isSome_of_map htyped, ?_⟩
      rcases hcount with rfl | hone
      · exact .inr ⟨rfl, List.length_pos_iff.mpr (splitValues_ne_nil hsplit)⟩
      · exact .inl hone
    obtain ⟨test, htest⟩ := exists_test_iff.mpr hfits
    obtain ⟨values', hsplit', htyped', -⟩ := test?_some htest
    cases hsplit.symm.trans hsplit'
    have hvalues := (List.map_inj_right fun _ _ => Option.some.inj).mp (htyped'.symm.trans htyped)
    refine ⟨test, binds_of_accept ?_, operator_of_test? htest, by rw [hvalues]⟩
    simp only [accept, hparts, usable_of hfield hallows, hop, htest]

theorem Asks.refused (h : Asks c scope raw f op values) {v : List Char} (hv : v ∈ values)
    (hnone : ∀ a, ¬ Receives f.field.kind v a) :
    accept c scope raw = .error (.filterValue f.field.kind) := by
  obtain ⟨⟨key, operator, value, hparts, hfield, hop, hsplit⟩, hallows, hcount⟩ := h
  apply (Refuses.value hparts hfield hallows hop _).accept
  rw [Option.eq_none_iff_forall_ne_some]
  intro test htest
  obtain ⟨values', hsplit', hfits, -⟩ := exists_test_iff.mp ⟨test, htest⟩
  cases hsplit.symm.trans hsplit'
  obtain ⟨j, hj⟩ := Option.isSome_iff_exists.mp (hfits v hv)
  exact hnone (Argument.ofJson j) (sent_typedValue_iff.mp (by rw [hj]; rfl))

theorem sent_arguments (f : Filter) : sentArguments f.clause.arguments =
    sentArguments f.test.values := by
  simp [Clause.arguments, clause, Function.comp_def]

end Filter

def Request.entries (r : Request) : FilterScope → List String
  | .request => r.filters
  | .trusted => r.localFilters

inductive Takes (c : Catalog) (r : Request) (n : Nat) : Predicate → List Argument → Prop
  | search : Takes c r n
      (.anyOf (((Search.tested c r.search).zipIdx n).map fun e => Search.test e.1 e.2))
      ((Search.tested c r.search).map fun f =>
        .text (if f.field.kind = .numeric then r.search ++ "%"
          else "%" ++ Text.lowercase r.search ++ "%"))
  | filter {scope : FilterScope} {raw : String} {f : Filter} {values : List (List Char)} :
      raw ∈ r.entries scope → Filter.accept c scope raw = .ok f →
      Filter.Asks c scope raw f.column f.test.operator values →
      List.Forall₂ (Receives f.column.field.kind) values (sentArguments f.test.values) →
      Takes c r n (f.predicate n) (sentArguments f.test.values)

inductive Arranged (c : Catalog) (r : Request) : Nat → List Predicate → List Argument → Prop
  | nil (n : Nat) : Arranged c r n [] []
  | cons {n : Nat} {p : Predicate} {args rest : List Argument} {ps : List Predicate} :
      Takes c r n p args → Arranged c r (n + args.length) ps rest →
      Arranged c r n (p :: ps) (args ++ rest)

section Arranged

variable {c : Catalog} {r : Request}

theorem Takes.not_null {n : Nat} {p : Predicate} {args : List Argument} (h : Takes c r n p args) :
    ∀ a ∈ args, a ≠ .null ∧ ∀ j, a ≠ .json j := by
  intro a ha
  cases h with
  | search =>
    obtain ⟨f, -, rfl⟩ := List.mem_map.mp ha
    exact ⟨nofun, nofun⟩
  | filter _ _ _ hvalues =>
    obtain ⟨v, -, hv⟩ := forall₂_mem_right hvalues ha
    exact hv.not_null

theorem Arranged.not_null {n : Nat} {ps : List Predicate} {args : List Argument}
    (h : Arranged c r n ps args) : ∀ a ∈ args, a ≠ .null ∧ ∀ j, a ≠ .json j := by
  induction h with
  | nil => nofun
  | cons hp _ ih => exact List.forall_mem_append.mpr ⟨hp.not_null, ih⟩

theorem Search.takes_clause (n : Nat) : Takes c r n ((Search.clause c r.search).predicate n)
    (sentArguments (Search.clause c r.search).arguments) := by
  have hsent : sentArguments (Search.clause c r.search).arguments =
      (Search.tested c r.search).map fun f =>
        .text (if f.field.kind = .numeric then r.search ++ "%"
          else "%" ++ Text.lowercase r.search ++ "%") := by
    simp only [sentArguments, Clause.arguments, Search.clause, List.map_map]
    apply List.map_congr_left
    intro f _
    simp only [Function.comp_apply]
    by_cases hf : f.field.kind = .numeric
    · rw [Search.pattern_numeric hf, if_pos hf]
      rfl
    · rw [Search.pattern_of_ne hf, if_neg hf]
      rfl
  rw [hsent]
  exact .search

theorem Filter.takes_clause (scope : FilterScope) {f : Filter}
    (hf : f ∈ Filter.accepted c scope (r.entries scope)) (n : Nat) :
    Takes c r n (f.clause.predicate n) (sentArguments f.clause.arguments) := by
  obtain ⟨raw, hraw, haccept⟩ := mem_accepted.mp hf
  obtain ⟨values, hasks, hvalues⟩ := asks_of_accept haccept
  rw [sent_arguments]
  exact .filter hraw haccept hasks hvalues

theorem Catalog.takes_clauses {k : Clause} (hk : k ∈ c.clauses r) (n : Nat) :
    Takes c r n (k.predicate n) (sentArguments k.arguments) := by
  rw [clauses, List.mem_append, List.mem_append] at hk
  rcases hk with (hsearch | hrequest) | htrusted
  · rw [Search.clauses] at hsearch
    split at hsearch
    · cases hsearch
    · rw [List.mem_singleton.mp hsearch]
      exact Search.takes_clause n
  · obtain ⟨f, hf, rfl⟩ := List.mem_map.mp hrequest
    exact Filter.takes_clause .request hf n
  · obtain ⟨f, hf, rfl⟩ := List.mem_map.mp htrusted
    exact Filter.takes_clause .trusted hf n

theorem arranged_numbered {ks : List Clause}
    (h : ∀ k ∈ ks, ∀ n, Takes c r n (k.predicate n) (sentArguments k.arguments)) (n : Nat) :
    Arranged c r n (Clause.numbered n ks) (sentArguments (ks.flatMap (·.arguments))) := by
  induction ks generalizing n with
  | nil => exact .nil n
  | cons k ks ih =>
    obtain ⟨hk, hks⟩ := List.forall_mem_cons.mp h
    have hlength : (sentArguments k.arguments).length = k.arguments.length := List.length_map ..
    have hrest := ih hks (n + k.arguments.length)
    rw [← hlength] at hrest
    rw [Clause.numbered, List.flatMap_cons, sentArguments, List.map_append, ← hlength]
    exact .cons (hk n) hrest

end Arranged

theorem Column.comparand_eq (f : Column) : f.comparand =
    f.statement ++ if f.field.kind = .string then "::text" else "" := by
  rw [comparand]
  cases f.field.kind <;> simp

theorem typedPlaceholder_eq (kind : FieldKind) : typedPlaceholder kind = fun n =>
    "$" ++ toString n ++ if kind = .date then "::timestamptz" else "" := by
  funext n
  cases kind <;> simp [typedPlaceholder, placeholder]

theorem Filter.text_casts (f : Filter) (n : Nat) : (f.predicate n).text =
    f.column.statement ++ (if f.column.field.kind = .string then "::text" else "") ++ " " ++
      f.test.text ((List.range' n f.test.values.length).map fun m =>
        "$" ++ toString m ++ if f.column.field.kind = .date then "::timestamptz" else "") := by
  rw [text_predicate, Column.comparand_eq, typedPlaceholder_eq]

namespace Catalog

/-- Every argument of a request fits the column that it is compared with: patterns of a search and
values for columns of strings and dates are texts, those for columns of booleans are booleans and
those for columns of numbers whole numbers of 64 bits or finite real ones. An entry is accepted
just in case there is such an argument for each of its values, of which a whole number within 64
bits has no other than itself, and a number that is not finite none. Only columns of strings are
cast where they are compared, and only the arguments for columns of dates. -/
theorem arguments_fit (c : Catalog) (r : Request) :
    Arranged c r 1 (c.compile r).draft.predicates (sentArguments (c.compile r).draft.arguments) ∧
    (∀ a ∈ sentArguments (c.compile r).draft.arguments, a ≠ .null ∧ ∀ j, a ≠ .json j) ∧
    (∀ scope raw f op values, Filter.Asks c scope raw f op values →
      (∀ args, (∃ test, Filter.Binds c scope raw ⟨f, test⟩ ∧ test.operator = op ∧
        sentArguments test.values = args) ↔ List.Forall₂ (Receives f.field.kind) values args) ∧
      ∀ v ∈ values, ∀ x, f.field.kind = .numeric → readReal? v = some x → x.isFinite = false →
        ∀ (k : Compiled) n,
          k.takeFilter c scope n raw = k.refuse (scope.position n) (.filterValue .numeric)) ∧
    (∀ v i, Writes v i → InInt64 i → ∀ a, Receives .numeric v a ↔ a = .int i) ∧
    (∀ sign word, sign ∈ [[], ['+'], ['-']] → word.map Char.toLower ∈ unboundedWords →
      ∃ x, readReal? (sign ++ word) = some x ∧ x.isFinite = false) ∧
    (∀ (f : Filter) n, (f.predicate n).text =
      f.column.statement ++ (if f.column.field.kind = .string then "::text" else "") ++ " " ++
        f.test.text ((List.range' n f.test.values.length).map fun m =>
          "$" ++ toString m ++ if f.column.field.kind = .date then "::timestamptz" else "")) ∧
    ∀ f n, (Search.test f n).text =
      if f.field.kind = .numeric then f.statement ++ "::text like $" ++ toString n
      else "lower(" ++ f.statement ++ ") like $" ++ toString n := by
  have harranged : Arranged c r 1 (c.compile r).draft.predicates
      (sentArguments (c.compile r).draft.arguments) := by
    rw [compile_predicates_eq, compile_arguments_eq]
    exact arranged_numbered (fun k hk n => takes_clauses hk n) 1
  refine ⟨harranged, harranged.not_null, ?_, fun v i hw hbits a => receives_whole_iff hw hbits,
    fun sign word hsign hword => exists_readReal?_word hsign hword, Filter.text_casts,
    Search.text_test⟩
  intro scope raw f op values hasks
  refine ⟨fun args => hasks.binds_iff, fun v hv x hkind hx hfinite k n => ?_⟩
  have hrefused := hasks.refused hv
  rw [hkind] at hrefused
  rw [Compiled.takeFilter_eq, hrefused (not_receives_of_not_finite hx hfinite)]

def readingLevel : Column where
  id := 1
  table := 0
  qualifier := "reading"
  field := { name := "level", kind := .numeric, searchable := true, filterable := true }

def readingCatalog : Catalog where
  tables := [⟨0, "reading", none⟩]
  columns :=
    [⟨0, 0, "reading", { name := "site", searchable := true, filterable := true }⟩,
     readingLevel,
     ⟨2, 0, "reading", { name := "valid", kind := .boolean, filterable := true }⟩,
     ⟨3, 0, "reading", { name := "taken", kind := .date, filterable := true }⟩]
  index := [("site", 0), ("level", 1), ("valid", 2), ("taken", 3)]

def readingRequest : Request where
  search := "7"
  filters :=
    ["level in (+007 -9223372036854775808 9223372036854775808 2.5)", "level lt 1e400",
     "taken gte 2024-01-02T03:04:05Z", "valid eq true", "site ne 7"]

theorem arguments_fit_readings :
    sentArguments (readingCatalog.compile readingRequest).draft.arguments =
      [.text "%7%", .text "7%", .int 7, .int (-9223372036854775808), .real ⟨0x43E0000000000000⟩,
       .real ⟨0x4004000000000000⟩, .text "2024-01-02T03:04:05Z", .bool true, .text "7"] ∧
    Arranged readingCatalog readingRequest 1
      (readingCatalog.compile readingRequest).draft.predicates
      (sentArguments (readingCatalog.compile readingRequest).draft.arguments) ∧
    ({} : Compiled).takeFilter readingCatalog .request 2 "level lt 1e400" =
      ({} : Compiled).refuse (.filter 2) (.filterValue .numeric) := by
  obtain ⟨harranged, -, hasked, -⟩ := arguments_fit readingCatalog readingRequest
  have hasks : Filter.Asks readingCatalog .request "level lt 1e400" readingLevel (.compare .lt)
      ["1e400".toList] :=
    ⟨⟨_, _, _, rfl, rfl, rfl, rfl⟩, rfl, .inr rfl⟩
  have hlarge : (readReal? "1e400".toList).map (·.isFinite) = some false := by decide +kernel
  obtain ⟨x, hx, hfinite⟩ := Option.map_eq_some_iff.mp hlarge
  have hrefused := (hasked _ _ _ _ _ hasks).2 _ (List.mem_singleton_self _) x rfl hx hfinite {} 2
  exact ⟨by decide +kernel, harranged, hrefused⟩

end Catalog
end Listing
