import Listing.Proofs.FilterPass
import Listing.Proofs.OperandTypes
import Listing.Proofs.WhereText

namespace Listing

def dropGaps (afterComma : Bool) : List Char → List Char
  | [] => []
  | c :: s => if afterComma && c == ' ' then dropGaps true s else c :: dropGaps (c == ',') s

def SameUpToGaps (s t : String) : Prop := dropGaps false s.toList = dropGaps false t.toList

instance (s t : String) : Decidable (SameUpToGaps s t) :=
  inferInstanceAs (Decidable (dropGaps false s.toList = dropGaps false t.toList))

theorem exists_dropGaps_append (b : Bool) (u : List Char) :
    ∃ b', ∀ v, dropGaps b (u ++ v) = dropGaps b u ++ dropGaps b' v := by
  induction u generalizing b with
  | nil => exact ⟨b, fun v => rfl⟩
  | cons c u ih =>
    by_cases hgap : (b && c == ' ') = true
    · obtain ⟨b', h⟩ := ih true
      refine ⟨b', fun v => ?_⟩
      rw [List.cons_append, dropGaps, if_pos hgap, dropGaps, if_pos hgap]
      exact h v
    · obtain ⟨b', h⟩ := ih (c == ',')
      refine ⟨b', fun v => ?_⟩
      rw [List.cons_append, dropGaps, if_neg hgap, dropGaps, if_neg hgap, h v, List.cons_append]

theorem dropGaps_comma (b : Bool) (u v : List Char) :
    dropGaps b (u ++ ',' :: v) = dropGaps b u ++ ',' :: dropGaps true v := by
  obtain ⟨b', h⟩ := exists_dropGaps_append b u
  rw [h, dropGaps, if_neg (by simp)]
  rfl

theorem mem_dropGaps {b : Bool} {c : Char} (hc : c ≠ ' ') {s : List Char} :
    c ∈ dropGaps b s ↔ c ∈ s := by
  induction s generalizing b with
  | nil => rfl
  | cons d s ih =>
    rw [dropGaps]
    split
    · rename_i hgap
      rw [Bool.and_eq_true, beq_iff_eq] at hgap
      rw [ih, List.mem_cons, hgap.2]
      simp only [hc, false_or]
    · rw [List.mem_cons, List.mem_cons, ih]

theorem dropGaps_joinWith (b : Bool) (ss : List String) (s : List Char) :
    dropGaps b ((joinWith ", " ss).toList ++ s) = dropGaps b ((joinWith "," ss).toList ++ s) := by
  induction ss generalizing b with
  | nil => rfl
  | cons x ss ih =>
    cases ss with
    | nil => rfl
    | cons y ss =>
      have hgap : (joinWith ", " (x :: y :: ss)).toList =
          x.toList ++ ',' :: ' ' :: (joinWith ", " (y :: ss)).toList := by
        simp [joinWith]
      have hplain : (joinWith "," (x :: y :: ss)).toList =
          x.toList ++ ',' :: (joinWith "," (y :: ss)).toList := by
        simp [joinWith]
      rw [hgap, hplain, List.append_assoc, List.append_assoc, List.cons_append, List.cons_append,
        List.cons_append, dropGaps_comma, dropGaps_comma, ← ih true]
      rfl

theorem mem_joinWith {c : Char} {separator : String} (hc : c ∉ separator.toList)
    {ss : List String} : c ∈ (joinWith separator ss).toList ↔ ∃ s ∈ ss, c ∈ s.toList := by
  induction ss with
  | nil => simp [joinWith]
  | cons x ss ih =>
    cases ss with
    | nil => simp [joinWith]
    | cons y ss =>
      have hrest : c ∈ (separator ++ joinWith separator (y :: ss)).toList ↔
          ∃ s ∈ y :: ss, c ∈ s.toList := by
        rw [String.toList_append, List.mem_append, ih]
        exact or_iff_right hc
      rw [joinWith, String.append_assoc, String.toList_append, List.mem_append, hrest]
      simp only [List.mem_cons, exists_eq_or_imp]

theorem typedPlaceholder_of_ne {kind : FieldKind} (h : kind ≠ .date) :
    typedPlaceholder kind = placeholder := by
  funext n
  cases kind with
  | date => exact absurd rfl h
  | numeric | string | boolean => rfl

theorem colon_not_mem_placeholder (n : Nat) : ':' ∉ (placeholder n).toList := by
  intro h
  have hword := Piece.placeholder_word n ':' h
  exact absurd hword (by decide)

theorem colon_mem_typedPlaceholder (n : Nat) : ':' ∈ (typedPlaceholder .date n).toList := by
  rw [typedPlaceholder, String.toList_append]
  exact List.mem_append_right _ (by decide)

theorem Predicate.sameUpToGaps_iff {f : Column} {ns : List Nat} (hne : ns ≠ []) :
    SameUpToGaps (idAmong f ns).text (among f ns).text ↔ f.field.kind ≠ .date := by
  obtain ⟨b, hlists⟩ := exists_dropGaps_append false (f.comparand ++ " IN (").toList
  have hcut : ∀ list, dropGaps false (f.comparand ++ " IN (" ++ list ++ ")").toList =
      dropGaps false (f.comparand ++ " IN (").toList ++ dropGaps b (list.toList ++ ")".toList) := by
    intro list
    rw [String.toList_append, String.toList_append, List.append_assoc, hlists]
  rw [SameUpToGaps, text, text, hcut, hcut, List.append_cancel_left_eq]
  constructor
  · intro hsame hdate
    rw [hdate] at hsame
    -- only the filter's list holds a colon, that of its cast
    obtain ⟨n, hn⟩ := List.exists_mem_of_ne_nil ns hne
    have hcast : ':' ∈ (joinWith "," (ns.map (typedPlaceholder .date))).toList :=
      (mem_joinWith (by decide)).mpr
        ⟨_, List.mem_map_of_mem hn, colon_mem_typedPlaceholder n⟩
    have hmem := (mem_dropGaps (b := b) (c := ':') (by decide)).mpr
      (List.mem_append_left ")".toList hcast)
    rw [← hsame, mem_dropGaps (by decide), List.mem_append] at hmem
    rcases hmem with hids | hclose
    · obtain ⟨s, hs, hcolon⟩ := (mem_joinWith (by decide)).mp hids
      obtain ⟨m, -, rfl⟩ := List.mem_map.mp hs
      exact colon_not_mem_placeholder m hcolon
    · exact absurd hclose (by decide)
  · intro hkind
    rw [typedPlaceholder_of_ne hkind]
    exact dropGaps_joinWith b _ _

theorem DataType.ofName?_ne_time (name : String) : ofName? name ≠ some .time := by
  rw [ofName?]
  split_ifs <;> nofun

theorem FieldKind.operand_of_ne {kind : FieldKind} (h : kind ≠ .date) :
    kind.operand = .argument := by
  funext n
  cases kind with
  | date => exact absurd rfl h
  | numeric | string | boolean => rfl

theorem Atom.wellTyped_among {arguments : List Argument} {e : Operand} {separator : String}
    {es : List Operand} : (among e separator es).WellTyped arguments ↔
      ∃ t, e.HasType arguments t ∧ es ≠ [] ∧ ∀ e' ∈ es, e'.HasType arguments t := by
  constructor
  · rintro ⟨⟩
    exact ⟨_, ‹_›, ‹_›, ‹_›⟩
  · rintro ⟨t, he, hne, hes⟩
    exact .among separator he hne hes

theorem Predicate.wellTyped_idAmong_iff {arguments : List Argument} {f : Column} {ns : List Nat}
    (h : (among f ns).formula.WellTyped arguments) :
    (idAmong f ns).formula.WellTyped arguments ↔ f.field.kind ≠ .date := by
  simp only [formula, Formula.WellTyped, Atom.wellTyped_among] at h ⊢
  constructor
  · rintro ⟨t, hcolumn, hne, hids⟩ hdate
    obtain ⟨n, hn⟩ := List.exists_mem_of_ne_nil _ hne
    rw [Column.operand, hdate, Operand.hasType_column, hdate] at hcolumn
    rw [hcolumn] at hids
    obtain ⟨m, -, rfl⟩ := List.mem_map.mp hn
    cases hids _ hn with
    | argument _ htype => exact DataType.ofName?_ne_time _ htype
  · intro hkind
    rw [FieldKind.operand_of_ne hkind] at h
    exact h

theorem Filter.Asks.accept {c : Catalog} {scope : FilterScope} {raw : String} {f : Column}
    {values : List (List Char)} (h : Asks c scope raw f .among values) {vs : List Json}
    (hvs : values.mapM (typedValue f.field.kind) = some vs) :
    Filter.accept c scope raw = .ok ⟨f, .among vs⟩ := by
  obtain ⟨⟨key, operator, value, hparts, hfield, hop, hsplit⟩, hallows, -⟩ := h
  have htest : test? .among f.field.kind value = some (.among vs) := by
    simp only [test?, hsplit, hvs, Option.bind_eq_bind, Option.bind_some]
  simp only [Filter.accept, hparts, usable_of hfield hallows, hop, htest]

namespace Session

variable {Id Model : Type} {c : Catalog} {s : Session Id Model}

/-- The query for rows compares its column with ids as a filter does with the same values, but for
columns of dates. These the filter casts its placeholders for, and the query for rows does not, so
that the ids are of another type than the column. -/
theorem ids_compared_like_filter_iff {t : Table} (h : Catalog.build t = .ok c)
    (hs : s.Reachable c) (hp : s.isProcessed = true) {fields : List FieldId}
    (hfields : ∃ i ∈ fields, (c.column? i).isSome = true) {idField : FieldId} {f : Column}
    (hf : c.column? idField = some f) {values : List (List Char)} (hne : values ≠ [])
    {vs : List Json} (hvs : values.mapM (typedValue f.field.kind) = some vs)
    {encode : Id → Except String Json} {ids : List Id} (hids : ids.mapM encode = .ok vs) :
    ∃ q, (s.select fields).rowQuery encode idField ids = .ok q ∧
      q.statement.predicates = [.idAmong f (List.range' 1 vs.length)] ∧ q.arguments = vs ∧
      ((Predicate.idAmong f (List.range' 1 vs.length)).formula.WellTyped (sentArguments vs) ↔
        f.field.kind ≠ .date) ∧
      ∀ scope raw, Filter.Asks c scope raw f .among values →
        Filter.accept c scope raw = .ok ⟨f, .among vs⟩ ∧
        (c.compile (scope.only [raw])).draft.predicates = [.among f (List.range' 1 vs.length)] ∧
        (c.compile (scope.only [raw])).draft.arguments = vs ∧
        (Predicate.among f (List.range' 1 vs.length)).formula.WellTyped (sentArguments vs) ∧
        (SameUpToGaps (Predicate.idAmong f (List.range' 1 vs.length)).text
          (Predicate.among f (List.range' 1 vs.length)).text ↔ f.field.kind ≠ .date) := by
  obtain ⟨root, hready⟩ := hs.ready_select h hp hfields
  have hmap := mapM_some hvs
  have hvalues : values.length = vs.length := by simpa using congrArg List.length hmap
  have hpos : 0 < vs.length := by
    rw [← hvalues]
    exact List.length_pos_iff.mpr hne
  have hplaces : List.range' 1 vs.length ≠ [] := by
    rw [ne_eq, List.range'_eq_nil_iff]
    exact Nat.ne_of_gt hpos
  have hquery := rowQuery_ok_iff.mpr ⟨c, root, f, vs, hready, hf, hids, rfl⟩
  have hlength : ids.length = vs.length := (mapM_eq_ok.mp hids).length_eq
  have hsome : ids.isEmpty = false := by
    rw [List.isEmpty_eq_false_iff, ← List.length_pos_iff, hlength]
    exact hpos
  rw [hsome, if_neg Bool.false_ne_true, hlength] at hquery
  have hclause : (Predicate.among f (List.range' 1 vs.length)).formula.WellTyped
      (sentArguments vs) := by
    have hreceives : List.Forall₂ (Receives f.field.kind) values (sentArguments vs) :=
      forall₂_receives_iff.mpr ⟨vs, hmap, rfl⟩
    have htyped := Filter.wellTyped_predicate [] [] (f := ⟨f, .among vs⟩) hne hreceives
    rwa [List.nil_append, List.append_nil] at htyped
  refine ⟨_, hquery, rfl, rfl, Predicate.wellTyped_idAmong_iff hclause, ?_⟩
  intro scope raw hasks
  have hbinds := Filter.binds_of_accept (hasks.accept hvs)
  exact ⟨hbinds.accepted, hbinds.predicates, hbinds.arguments, hclause,
    Predicate.sameUpToGaps_iff hplaces⟩

theorem ids_compared_like_filter_iff_shop :
    (shopSession {}).isProcessed = true ∧ ∃ q,
      ((shopSession {}).select [0]).rowQuery .ok 1 [.string "lamp", .string "desk"] = .ok q ∧
      q.statement.predicates = [.idAmong Catalog.nameColumn [1, 2]] ∧
      (Catalog.shopCatalog.compile
        (FilterScope.request.only ["name in (lamp desk)"])).draft.predicates =
          [.among Catalog.nameColumn [1, 2]] ∧
      SameUpToGaps (Predicate.idAmong Catalog.nameColumn [1, 2]).text
        (Predicate.among Catalog.nameColumn [1, 2]).text := by
  have hp : (shopSession {}).isProcessed = true := by decide
  have hf : Catalog.shopCatalog.column? 1 = some Catalog.nameColumn := by decide
  have hasks : Filter.Asks Catalog.shopCatalog .request "name in (lamp desk)" Catalog.nameColumn
      .among ["lamp".toList, "desk".toList] :=
    ⟨⟨_, _, _, rfl, rfl, rfl, rfl⟩, rfl, .inl rfl⟩
  have hvs : ["lamp".toList, "desk".toList].mapM (typedValue Catalog.nameColumn.field.kind) =
      some [.string "lamp", .string "desk"] := rfl
  have hids : [.string "lamp", .string "desk"].mapM Except.ok =
      Except.ok (ε := String) [Json.string "lamp", .string "desk"] := rfl
  obtain ⟨q, hq, hpredicates, -, -, hfilter⟩ := ids_compared_like_filter_iff Catalog.build_shop
    (shopSession_reachable {}) hp ⟨0, List.mem_singleton_self 0, by decide⟩ hf
    (List.cons_ne_nil _ _) hvs hids
  obtain ⟨-, hclause, -, -, hsame⟩ := hfilter _ _ hasks
  exact ⟨hp, q, hq, hpredicates, hclause, hsame.mpr (by decide)⟩

def readings : Table where
  name := "reading"
  fields := [{ name := "site", searchable := true, filterable := true },
    { name := "level", kind := .numeric, searchable := true, filterable := true },
    { name := "valid", kind := .boolean, filterable := true },
    { name := "taken", kind := .date, filterable := true }]

def takenColumn : Column where
  id := 3
  table := 0
  qualifier := "reading"
  field := { name := "taken", kind := .date, filterable := true }

def readingSession : Session Json Json :=
  ((ofCatalog Catalog.readingCatalog).setRequest { limit := 10, page := 1 }).1

theorem ids_unlike_filter_readings : Catalog.build readings = .ok Catalog.readingCatalog ∧
    readingSession.isProcessed = true ∧ Catalog.readingCatalog.column? 3 = some takenColumn ∧
    typedValue .date "2024-01-02T03:04:05Z".toList = some (.string "2024-01-02T03:04:05Z") ∧
    ∃ q p, (readingSession.select [0]).rowQuery .ok 3 [.string "2024-01-02T03:04:05Z"] = .ok q ∧
      q.statement.predicates = [p] ∧ p.text = "reading.\"taken\" IN ($1)" ∧
      ¬ p.formula.WellTyped (sentArguments q.arguments) ∧
      ∃ clause, Filter.accept Catalog.readingCatalog .request "taken in (2024-01-02T03:04:05Z)" =
          .ok ⟨takenColumn, .among q.arguments⟩ ∧
        (Catalog.readingCatalog.compile (FilterScope.request.only
          ["taken in (2024-01-02T03:04:05Z)"])).draft.predicates = [clause] ∧
        clause.text = "reading.\"taken\" IN ($1::timestamptz)" ∧
        ¬ SameUpToGaps p.text clause.text := by
  refine ⟨by rfl, by decide, by decide, by rfl, _, _, rfl, rfl, by decide, ?_, _, by rfl, rfl,
    by decide, by decide⟩
  intro h
  obtain ⟨t, hcolumn, -, hids⟩ := Atom.wellTyped_among.mp h
  cases Operand.hasType_column.mp hcolumn
  cases hids _ (List.mem_singleton_self _) with
  | argument _ htype => exact DataType.ofName?_ne_time _ htype

end Session

end Listing
