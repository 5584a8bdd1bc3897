import Listing.Proofs.ColumnScope

namespace Listing.Session

variable {Id Model : Type} {c : Catalog} {s : Session Id Model}
  {encode : Id → Except String Json} {idField : FieldId} {ids : List Id} {values : List Json}

def idPurposes : List Usage := [.select, .search, .filter, .sort, .mandatory]

def rowPurposes : List Usage := [.select, .sort]

theorem Marked.used (h : s.Marked c) {us : List Usage} {u : Usage} (hu : u ∈ us) {t : TableId}
    (ht : s.draft.usage.Has t u) : t ∈ s.draft.usage.tablesWithAny (.ofList us) :=
  (UsageMap.mem_tablesWithAny_ofList h.ordered us t).mpr ⟨u, hu, ht⟩

theorem select_selection (h : s.catalog = some c) (fields : List FieldId) :
    (s.select fields).selection = fields.filterMap c.column? := by
  rw [select_eq h]

theorem select_predicates (h : s.catalog = some c) (fields : List FieldId) :
    (s.select fields).draft.predicates = s.draft.predicates := by
  rw [select_eq h]

theorem select_selection_ne (h : s.catalog = some c) {fields : List FieldId}
    (hf : ∃ i ∈ fields, (c.column? i).isSome) : (s.select fields).selection ≠ [] := by
  obtain ⟨i, hi, hc⟩ := hf
  obtain ⟨f, hf⟩ := Option.isSome_iff_exists.mp hc
  rw [select_selection h]
  exact List.ne_nil_of_mem (List.mem_filterMap.mpr ⟨i, hi, hf⟩)

theorem ready_ok (hc : c.WellFormed) (h : s.Marked c) (hp : s.isProcessed = true)
    (hs : s.selection ≠ []) :
    ∃ root, c.table? Catalog.root = some root ∧ s.ready = .ok (c, root) := by
  obtain ⟨root, hr⟩ := Catalog.table?_of_lt hc.root_lt
  exact ⟨root, hr, by simp [ready, h.catalog, hr, hp, hs]⟩

theorem Reachable.ready_select {t : Table} (h : Catalog.build t = .ok c) (hs : s.Reachable c)
    (hp : s.isProcessed = true) {fields : List FieldId}
    (hf : ∃ i ∈ fields, (c.column? i).isSome = true) :
    ∃ root, (s.select fields).ready = .ok (c, root) := by
  have hc := Catalog.build_wellFormed h
  have hsel := select_selection_ne (hs.marked hc.toSound).catalog hf
  obtain ⟨root, -, hready⟩ := ready_ok hc ((hs.select fields).marked hc.toSound) hp hsel
  exact ⟨root, hready⟩

theorem idArguments_eq_ok : idArguments encode ids = .ok values ↔ ids.mapM encode = .ok values := by
  rw [idArguments]
  cases ids.mapM encode <;> simp [Except.mapError]

theorem idQuery_eq {root : TableEntry} (h : s.ready = .ok (c, root)) : s.idQuery = .ok
    ⟨⟨s.selection, root, c.joins s.draft.usage (.ofList idPurposes),
      s.draft.predicates ++ c.softDeletes.map .isFalse, s.order⟩, s.draft.arguments⟩ := by
  rw [idQuery, h]
  rfl

theorem rowQuery_ok_iff {q : Query} : s.rowQuery encode idField ids = .ok q ↔
    ∃ c root f values, s.ready = .ok (c, root) ∧ c.column? idField = some f ∧
      ids.mapM encode = .ok values ∧
      q = ⟨⟨s.selection, root, c.joins s.draft.usage (.ofList rowPurposes),
        [if ids.isEmpty then .never else .idAmong f (List.range' 1 ids.length)], s.order⟩,
        values⟩ := by
  constructor
  · intro h
    obtain ⟨⟨c, root⟩, hready, h⟩ := of_bind_ok h
    cases hf : c.column? idField with
    | none => simp [hf] at h
    | some f =>
      simp only [hf] at h
      obtain ⟨values, hv, h⟩ := of_bind_ok h
      exact ⟨c, root, f, values, hready, hf, idArguments_eq_ok.mp hv, (Except.ok.inj h).symm⟩
  · rintro ⟨c, root, f, values, hready, hf, hv, rfl⟩
    simp only [rowQuery, hready, hf, idArguments_eq_ok.mpr hv, bind, Except.bind]
    rfl

theorem rowQuery_error_iff {e : SessionError} : s.rowQuery encode idField ids = .error e ↔
    s.ready = .error e ∨ ∃ x, s.ready = .ok x ∧
      ((x.1.column? idField = none ∧ e = .unknownIdField idField) ∨
        (x.1.column? idField).isSome = true ∧
          ∃ reason, ids.mapM encode = .error reason ∧ e = .unwritableId reason) := by
  rw [rowQuery]
  cases s.ready with
  | error e' => simp [bind, Except.bind]
  | ok x =>
    cases hf : x.1.column? idField with
    | none => simp [bind, Except.bind, hf, @eq_comm _ e]
    | some f =>
      cases hv : ids.mapM encode <;>
        simp [bind, Except.bind, hf, idArguments, hv, Except.mapError, @eq_comm _ e]

theorem idQuery_ok (hc : c.WellFormed) (h : s.Marked c) (hp : s.isProcessed = true)
    (hs : s.selection ≠ []) : ∃ q, s.idQuery = .ok q ∧
      q.statement.Draws c s.draft.usage (.ofList idPurposes) ∧
      q.statement.columns = s.selection ∧ q.statement.order = s.order ∧
      q.statement.predicates = s.draft.predicates ++ c.softDeletes.map .isFalse := by
  obtain ⟨root, hr, he⟩ := ready_ok hc h hp hs
  exact ⟨_, idQuery_eq he, ⟨hr, rfl⟩, rfl, rfl, rfl⟩

theorem rowQuery_ok (hc : c.WellFormed) (h : s.Marked c) (hp : s.isProcessed = true)
    (hs : s.selection ≠ []) {f : Column} (hf : c.column? idField = some f)
    (hids : ids.mapM encode = .ok values) :
    ∃ q, s.rowQuery encode idField ids = .ok q ∧
      q.statement.Draws c s.draft.usage (.ofList rowPurposes) ∧
      q.statement.columns = s.selection ∧ q.statement.order = s.order ∧
      q.statement.predicates =
        [if ids.isEmpty then .never else .idAmong f (List.range' 1 ids.length)] := by
  obtain ⟨root, hr, he⟩ := ready_ok hc h hp hs
  exact ⟨_, rowQuery_ok_iff.mpr ⟨c, root, f, values, he, hf, hids, rfl⟩, ⟨hr, rfl⟩, rfl, rfl, rfl⟩

theorem Marked.wellScoped (hc : c.WellFormed) (h : s.Marked c) (hp : s.isProcessed = true)
    {us : List Usage} (hsel : .select ∈ us) (hsort : .sort ∈ us) {q : Statement}
    (hd : q.Draws c s.draft.usage (.ofList us)) (hcol : q.columns = s.selection)
    (hord : q.order = s.order) : q.WellScoped c := by
  apply hd.wellScoped hc
  · intro f hf
    rw [hcol] at hf
    have htag := (h.select _).mpr ⟨f, hf, rfl⟩
    exact ⟨h.selection f hf, h.used hsel htag⟩
  · intro o ho
    rw [hord] at ho
    have htag := (h.sort hp _).mpr ⟨o, ho, rfl⟩
    exact ⟨h.order o ho, h.used hsort htag⟩

theorem Marked.covers_predicates (hc : c.WellFormed) (h : s.Marked c) (hp : s.isProcessed = true)
    {q : Statement} (hd : q.Draws c s.draft.usage (.ofList idPurposes))
    (hq : q.predicates = s.draft.predicates ++ c.softDeletes.map .isFalse) :
    ∀ p ∈ q.predicates, ∀ f ∈ p.columns, q.Covers f := by
  intro p hpq f hf
  rw [hq] at hpq
  rcases List.mem_append.mp hpq with hpd | hps
  · obtain ⟨hfc, htag⟩ := h.predicates p hpd f hf
    rcases htag with ht | ht
    · exact hd.covers hc hfc (h.used (by decide) ht)
    · exact hd.covers hc hfc (h.used (by decide) ht)
  · obtain ⟨g, hg, rfl⟩ := List.mem_map.mp hps
    obtain rfl : f = g := by simpa [Predicate.columns] using hf
    exact hd.covers hc (List.mem_of_mem_filter hg) (h.used (by decide) (h.softDelete hp f hg))

/-- Whatever is requested and selected, both queries ask for what they should and have it at hand,
that for ids also the columns of all its predicates, and their texts have each table under the
reference that its columns have. -/
theorem queries_wellScoped {t : Table} (h : Catalog.build t = .ok c) (hs : s.Reachable c)
    (hp : s.isProcessed = true) {fields : List FieldId}
    (hf : ∃ i ∈ fields, (c.column? i).isSome) :
    (∃ q, (s.select fields).idQuery = .ok q ∧
      q.statement.columns = fields.filterMap c.column? ∧ q.statement.order = s.order ∧
      q.statement.predicates = s.draft.predicates ++ c.softDeletes.map .isFalse ∧
      q.statement.WellScoped c ∧ (∀ u ∈ q.statement.tables, u.IntroducedIn q.statement.text) ∧
      ∀ p ∈ q.statement.predicates, ∀ f ∈ p.columns, q.statement.Covers f) ∧
    ∀ (encode : Id → Except String Json) (idField : FieldId) (ids : List Id)
      (values : List Json), (c.column? idField).isSome → ids.mapM encode = .ok values →
      ∃ q, (s.select fields).rowQuery encode idField ids = .ok q ∧
        q.statement.columns = fields.filterMap c.column? ∧ q.statement.order = s.order ∧
        q.statement.WellScoped c ∧
        ∀ u ∈ q.statement.tables, u.IntroducedIn q.statement.text := by
  have hc := Catalog.build_wellFormed h
  have hcat := (hs.marked hc.toSound).catalog
  have hm : (s.select fields).Marked c := (hs.select fields).marked hc.toSound
  have hne := select_selection_ne hcat hf
  rw [← select_selection hcat]
  constructor
  · obtain ⟨q, hq, hd, hcol, hord, hpred⟩ := idQuery_ok hc hm hp hne
    have hw := hm.wellScoped hc hp (by decide) (by decide) hd hcol hord
    have hcov := hm.covers_predicates hc hp hd hpred
    rw [select_predicates hcat] at hpred
    exact ⟨q, hq, hcol, hord, hpred, hw, fun u => Statement.introducedIn_text, hcov⟩
  · intro encode idField ids values hi hids
    obtain ⟨f, hf⟩ := Option.isSome_iff_exists.mp hi
    obtain ⟨q, hq, hd, hcol, hord, -⟩ := rowQuery_ok hc hm hp hne hf hids
    have hw := hm.wellScoped hc hp (by decide) (by decide) hd hcol hord
    exact ⟨q, hq, hcol, hord, hw, fun u => Statement.introducedIn_text⟩

def shopSession (r : Request) : Session Json Json :=
  ((ofCatalog Catalog.shopCatalog).setRequest r).1

def lampRequest : Request where
  limit := 10
  page := 1
  search := "lamp"
  filters := ["category.name eq light"]
  sorts := ["name asc"]

theorem shopSession_reachable (r : Request) : (shopSession r).Reachable Catalog.shopCatalog :=
  .request r .start

def writeText : Json → Except String Json
  | .string s => .ok (.string s)
  | _ => .error "key must be a string"

theorem queries_wellScoped_shop : (shopSession lampRequest).isProcessed = true ∧
    (∃ q, ((shopSession lampRequest).select [0]).idQuery = .ok q ∧
      q.statement.text = joinWith "\n"
        ["SELECT product.\"id\" FROM product",
          "JOIN category c ON product.\"category_id\" = c.\"id\"",
          "LEFT JOIN brand ON product.\"brand_id\" = brand.\"id\"",
          "JOIN section ON c.\"section_id\" = section.\"id\"",
          "WHERE (lower(product.\"name\") like $1)",
          "AND c.\"name\"::text = $2",
          "AND product.\"is_deleted\" is false",
          "ORDER BY product.\"name\" ASC, brand.\"rank\" ASC"] ∧
      q.statement.predicates.length = 3 ∧ q.statement.WellScoped Catalog.shopCatalog ∧
      ∀ p ∈ q.statement.predicates, ∀ f ∈ p.columns, q.statement.Covers f) ∧
    ∃ q, ((shopSession lampRequest).select [0]).rowQuery .ok 0 [.nat 7] = .ok q ∧
      q.statement.text = joinWith "\n"
        ["SELECT product.\"id\" FROM product",
          "LEFT JOIN brand ON product.\"brand_id\" = brand.\"id\"",
          "WHERE product.\"id\" IN ($1)",
          "ORDER BY product.\"name\" ASC, brand.\"rank\" ASC"] ∧
      q.statement.order.length = 2 ∧ q.statement.WellScoped Catalog.shopCatalog := by
  have hp : (shopSession lampRequest).isProcessed = true := by decide
  obtain ⟨⟨q, hq, _, _, hpred, hw, -, hcov⟩, hrow⟩ := queries_wellScoped Catalog.build_shop
    (shopSession_reachable lampRequest) hp ⟨0, List.mem_singleton_self 0, by decide⟩
  obtain ⟨r, hr, _, hord, hwr, -⟩ := hrow .ok 0 [.nat 7] [.nat 7] (by decide) rfl
  refine ⟨hp, ⟨q, hq, ?_, ?_, hw, hcov⟩, r, hr, ?_, ?_, hwr⟩
  · cases hq
    decide +kernel
  · rw [hpred]
    decide
  · cases hr
    decide +kernel
  · rw [hord]
    decide

theorem pageBounds?_some {limit page : UInt64} {size start stop : Nat}
    (h : pageBounds? limit page size = some (start, stop)) : start < stop ∧ stop ≤ size := by
  rw [pageBounds?] at h
  split at h
  · cases h
  · obtain ⟨first, _, h⟩ := Option.bind_eq_some_iff.mp h
    simp only at h
    split at h
    · rename_i hlt
      simp only [Option.some.injEq, Prod.mk.injEq] at h
      obtain ⟨rfl, rfl⟩ := h
      exact ⟨hlt, Nat.min_le_right _ _⟩
    · cases h

theorem page_ne_nil {page : List Id} (h : s.page ids = .ok page) : page ≠ [] := by
  rw [Session.page] at h
  split at h
  · cases h
  · rename_i start stop hb
    obtain ⟨hlt, hle⟩ := pageBounds?_some hb
    simp only [Except.ok.injEq] at h
    subst h
    rw [← List.length_pos_iff]
    simp only [List.length_drop, List.length_take]
    omega

theorem fetchPage_queries (x : Executor Id) (encode : Id → Except String Json)
    (model : Decoder Model) (idField : FieldId) (first : Query) (ids page : List Id) :
    (s.fetchPage x encode model idField first ids page).queries =
      first :: (s.rowQuery encode idField page).toOption.toList := by
  rw [fetchPage]
  cases s.rowQuery encode idField page with
  | error e => rfl
  | ok second =>
    simp only
    split <;> rfl

theorem paginate_queries {x : Executor Id} {model : Decoder Model} {fields : List FieldId}
    {first : Query} {rest : List Query}
    (h : (s.paginate x encode model idField fields).queries = first :: rest) :
    (s.select [idField]).idQuery = .ok first ∧ ∀ second ∈ rest, ∃ page, page ≠ [] ∧
      ((s.select [idField]).select fields).rowQuery encode idField page = .ok second := by
  rw [Session.paginate] at h
  split at h
  · cases h
  · rename_i hid
    rw [hid]
    split at h
    · cases h
      simp
    · split at h
      · cases h
        simp
      · rename_i page hpage
        rw [fetchPage_queries] at h
        cases h
        refine ⟨rfl, fun second hsecond => ⟨page, page_ne_nil hpage, ?_⟩⟩
        cases hrow : ((s.select [idField]).select fields).rowQuery encode idField page with
        | error e => simp [hrow, Except.toOption] at hsecond
        | ok q => simpa [hrow, Except.toOption, eq_comm] using hsecond

def LeadsTo (c : Catalog) (fs : List Column) (t : TableId) : Prop :=
  t = Catalog.root ∨ ∃ f ∈ fs, c.AtOrBelow t f.table

theorem Marked.row_used_iff (h : s.Marked c) (hp : s.isProcessed = true) (t : TableId) :
    (∃ u ∈ s.draft.usage.tablesWithAny (.ofList rowPurposes), c.AtOrBelow t u) ↔
      ∃ f ∈ s.selection ++ s.order.map (·.column), c.AtOrBelow t f.table := by
  simp only [UsageMap.mem_tablesWithAny_ofList h.ordered, rowPurposes, List.mem_cons,
    List.not_mem_nil, or_false, exists_eq_or_imp, exists_eq_left, h.select, h.sort hp,
    List.mem_append, List.mem_map]
  constructor
  · rintro ⟨_, ⟨f, hf, rfl⟩ | ⟨o, ho, rfl⟩, hb⟩
    · exact ⟨f, .inl hf, hb⟩
    · exact ⟨o.column, .inr ⟨o, ho, rfl⟩, hb⟩
  · rintro ⟨f, hf | ⟨o, ho, rfl⟩, hb⟩
    · exact ⟨f.table, .inl ⟨f, hf, rfl⟩, hb⟩
    · exact ⟨o.column.table, .inr ⟨o, ho, rfl⟩, hb⟩

theorem Reachable.rowQuery_covers_iff (hc : c.WellFormed) (hs : s.Reachable c)
    (hp : s.isProcessed = true) {f : Column} (hf : c.column? idField = some f)
    {fields : List FieldId} (hfields : ∃ i ∈ fields, (c.column? i).isSome) (hne : ids ≠ [])
    (hids : ids.mapM encode = .ok values) :
    ∃ q, (s.select fields).rowQuery encode idField ids = .ok q ∧
      q.statement.predicates = [.idAmong f (List.range' 1 ids.length)] ∧
      (q.statement.Covers f ↔
        LeadsTo c (fields.filterMap c.column? ++ s.order.map (·.column)) f.table) := by
  have hm := hs.marked hc.toSound
  have hm' := hm.reselect fields
  obtain ⟨q, hq, hd, _, _, hpred⟩ :=
    rowQuery_ok hc hm' hp (select_selection_ne hm.catalog hfields) hf hids
  refine ⟨q, hq, by simpa [hne] using hpred, ?_⟩
  rw [hd.covers_iff hc (Catalog.column?_mem hf), hm'.row_used_iff hp, select_selection hm.catalog]
  rfl

/-- The query for rows has the column of the ids at hand exactly if it is a column of the root, or
the fields selected or the order lead to its table. A run of the pager asks for ids with that column
at hand, and so for rows only in the same cases. -/
theorem idColumn_covered_iff {t : Table} (h : Catalog.build t = .ok c) (hs : s.Reachable c)
    (hp : s.isProcessed = true) {idField : FieldId} {f : Column}
    (hf : c.column? idField = some f) {fields : List FieldId}
    (hfields : ∃ i ∈ fields, (c.column? i).isSome) (encode : Id → Except String Json) :
    (∀ (ids : List Id) (values : List Json), ids ≠ [] → ids.mapM encode = .ok values →
      ∃ q, (s.select fields).rowQuery encode idField ids = .ok q ∧
      q.statement.predicates = [.idAmong f (List.range' 1 ids.length)] ∧
      (q.statement.Covers f ↔
        LeadsTo c (fields.filterMap c.column? ++ s.order.map (·.column)) f.table)) ∧
    ∀ (x : Executor Id) (model : Decoder Model) (first : Query) (rest : List Query),
      (s.paginate x encode model idField fields).queries = first :: rest →
      (first.statement.WellScoped c ∧ first.statement.columns = [f] ∧ first.statement.Covers f) ∧
      ∀ second ∈ rest, ∃ n, second.statement.predicates = [.idAmong f (List.range' 1 n)] ∧
        (second.statement.Covers f ↔
          LeadsTo c (fields.filterMap c.column? ++ s.order.map (·.column)) f.table) := by
  have hc := Catalog.build_wellFormed h
  refine ⟨fun ids values => hs.rowQuery_covers_iff hc hp hf hfields,
    fun x model first rest hq => ?_⟩
  have hs' := hs.select [idField]
  have hm := hs'.marked hc.toSound
  have hsel : (s.select [idField]).selection = [f] := by
    rw [select_selection (hs.marked hc.toSound).catalog]
    simp [hf]
  obtain ⟨hfirst, hrest⟩ := paginate_queries hq
  constructor
  · obtain ⟨q, hq, hd, hcol, hord, -⟩ := idQuery_ok hc hm hp (by simp [hsel])
    obtain rfl : first = q := by simpa [hfirst] using hq
    have hw := hm.wellScoped hc hp (by decide) (by decide) hd hcol hord
    rw [hsel] at hcol
    exact ⟨hw, hcol, hw.select f (by simp [hcol])⟩
  · intro second hsecond
    obtain ⟨page, hpage, hrow⟩ := hrest second hsecond
    obtain ⟨-, -, -, values, -, -, hids, -⟩ := rowQuery_ok_iff.mp hrow
    obtain ⟨q, hq, hpred, hcov⟩ := hs'.rowQuery_covers_iff hc hp hf hfields hpage hids
    obtain rfl : second = q := by simpa [hrow] using hq
    exact ⟨page.length, hpred, hcov⟩

def categoryId : Column := ⟨5, 1, "c", { name := "id" }⟩

theorem idColumn_covered_iff_shop : Catalog.shopCatalog.column? 5 = some categoryId ∧
    (shopSession lampRequest).isProcessed = true ∧
    ∃ q, ((shopSession lampRequest).select [8]).rowQuery .ok 5 [.nat 7] = .ok q ∧
      q.statement.Covers categoryId := by
  have hp : (shopSession lampRequest).isProcessed = true := by decide
  have hf : Catalog.shopCatalog.column? 5 = some categoryId := by decide
  obtain ⟨hrows, -⟩ := idColumn_covered_iff Catalog.build_shop (shopSession_reachable lampRequest)
    hp hf ⟨8, List.mem_singleton_self 8, by decide⟩ .ok
  obtain ⟨q, hq, _, hcov⟩ := hrows [.nat 7] [.nat 7] (List.cons_ne_nil _ _) rfl
  have hr : (⟨0, 1, 2, 7, 8, true⟩ : RelationEntry) ∈ Catalog.shopCatalog.relations := by decide
  have hg : (⟨8, 2, "section", { name := "id" }⟩ : Column) ∈ [8].filterMap
    Catalog.shopCatalog.column? ++ (shopSession lampRequest).order.map (·.column) := by decide
  exact ⟨hf, hp, q, hq, hcov.mpr (.inr ⟨_, hg, .child hr⟩)⟩

/-- Ids of categories page no products: the second query does not join the table of its ids. -/
theorem idColumn_not_covered_shop : Catalog.build Catalog.shop = .ok Catalog.shopCatalog ∧
    (shopSession {}).isProcessed = true ∧
    Catalog.shopCatalog.column? 5 = some categoryId ∧
    (∃ q, ((shopSession {}).select [5]).idQuery = .ok q ∧ q.statement.Covers categoryId) ∧
    ∃ q, (((shopSession {}).select [5]).select [0]).rowQuery .ok 5 [.nat 7] = .ok q ∧
      q.statement.predicates = [.idAmong categoryId [1]] ∧ ¬ q.statement.Covers categoryId := by
  refine ⟨Catalog.build_shop, by decide, by decide, ⟨_, rfl, ?_⟩, ⟨_, rfl, ?_, ?_⟩⟩
  · decide
  · decide
  · decide

end Listing.Session
