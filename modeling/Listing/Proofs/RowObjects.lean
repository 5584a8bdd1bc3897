import Listing.Database.Result
import Listing.Proofs.OuterJoins
import Mathlib.Data.List.Perm.Subperm
import Mathlib.Data.String.Basic

namespace Listing

def IsLast {α : Type} (es : List (String × α)) (e : String × α) : Prop :=
  ∃ before after, es = before ++ e :: after ∧ ∀ x ∈ after, x.1 ≠ e.1

namespace IsLast

variable {α : Type} {es : List (String × α)} {e x : String × α}

theorem mem (h : IsLast es e) : e ∈ es := by
  obtain ⟨before, after, rfl, -⟩ := h
  exact List.mem_append_right _ List.mem_cons_self

theorem cons_iff : IsLast (x :: es) e ↔ IsLast es e ∨ e = x ∧ ∀ y ∈ es, y.1 ≠ e.1 := by
  constructor
  · rintro ⟨before, after, he, hafter⟩
    cases before with
    | nil =>
      obtain ⟨rfl, rfl⟩ := List.cons_eq_cons.mp he
      exact .inr ⟨rfl, hafter⟩
    | cons y before =>
      obtain ⟨rfl, rfl⟩ := List.cons_eq_cons.mp he
      exact .inl ⟨before, after, rfl, hafter⟩
  · rintro (⟨before, after, rfl, hafter⟩ | ⟨rfl, hall⟩)
    · exact ⟨x :: before, after, rfl, hafter⟩
    · exact ⟨[], es, rfl, hall⟩

theorem unique (h : IsLast es e) (h' : IsLast es x) (hk : e.1 = x.1) : e = x := by
  induction es with
  | nil => cases h.mem
  | cons y es ih =>
    rcases cons_iff.mp h with hl | ⟨rfl, hall⟩
    · rcases cons_iff.mp h' with hl' | ⟨rfl, hall'⟩
      · exact ih hl hl'
      · exact absurd hk (hall' e hl.mem)
    · rcases cons_iff.mp h' with hl' | ⟨rfl, -⟩
      · exact absurd hk.symm (hall x hl'.mem)
      · rfl

theorem of_mem_keys {name : String} (h : name ∈ es.map Prod.fst) : ∃ a, IsLast es (name, a) := by
  induction es with
  | nil => cases h
  | cons y es ih =>
    by_cases hmem : name ∈ es.map Prod.fst
    · obtain ⟨a, ha⟩ := ih hmem
      exact ⟨a, cons_iff.mpr (.inl ha)⟩
    · obtain rfl := (List.mem_cons.mp h).resolve_right hmem
      exact ⟨y.2, cons_iff.mpr (.inr ⟨rfl, fun z hz he => hmem (List.mem_map.mpr ⟨z, hz, he⟩)⟩)⟩

theorem of_nodup (h : (es.map Prod.fst).Nodup) (he : e ∈ es) : IsLast es e := by
  obtain ⟨a, ha⟩ := of_mem_keys (List.mem_map_of_mem (f := Prod.fst) he)
  rwa [List.inj_on_of_nodup_map h he ha.mem rfl]

end IsLast

namespace Json

def Ascending (es : List (String × Json)) : Prop := es.Pairwise fun a b => a.1 < b.1

variable {es start : List (String × Json)} {e : String × Json}

theorem mem_insertEntry (h : Ascending es) (key : String) (value : Json) :
    e ∈ insertEntry key value es ↔ e = (key, value) ∨ e ∈ es ∧ e.1 ≠ key := by
  induction es with
  | nil => simp [insertEntry]
  | cons x es ih =>
    obtain ⟨hx, hes⟩ := List.pairwise_cons.mp h
    rw [insertEntry]
    split_ifs with hlt hkey
    · have hne : e ∈ x :: es → e.1 ≠ key := by
        rintro he
        rcases List.mem_cons.mp he with rfl | he
        · exact hlt.ne'
        · exact (hlt.trans (hx e he)).ne'
      rw [List.mem_cons]
      exact or_congr_right ⟨fun he => ⟨he, hne he⟩, And.left⟩
    · subst hkey
      have hne : e ∈ es → e.1 ≠ x.1 := fun he => (hx e he).ne'
      grind
    · rw [List.mem_cons, ih hes, List.mem_cons]
      have hne : e = x → e.1 ≠ key := fun he hk => hkey (by rw [← hk, he])
      grind

theorem Ascending.insertEntry (h : Ascending es) (key : String) (value : Json) :
    Ascending (insertEntry key value es) := by
  induction es with
  | nil => exact List.pairwise_singleton _ _
  | cons x es ih =>
    obtain ⟨hx, hes⟩ := List.pairwise_cons.mp h
    rw [Json.insertEntry]
    split_ifs with hlt hkey
    · refine List.pairwise_cons.mpr ⟨fun y hy => ?_, h⟩
      rcases List.mem_cons.mp hy with rfl | hy
      · exact hlt
      · exact hlt.trans (hx y hy)
    · subst hkey
      exact List.pairwise_cons.mpr ⟨hx, hes⟩
    · refine List.pairwise_cons.mpr ⟨fun y hy => ?_, ih hes⟩
      rcases (mem_insertEntry hes key value).mp hy with rfl | ⟨hy, -⟩
      · exact lt_of_le_of_ne (not_lt.mp hlt) (Ne.symm hkey)
      · exact hx y hy

theorem mem_foldl_insertEntry (h : Ascending start) (es : List (String × Json)) :
    Ascending (es.foldl (fun es e => insertEntry e.1 e.2 es) start) ∧
      ∀ e, e ∈ es.foldl (fun es e => insertEntry e.1 e.2 es) start ↔
        IsLast es e ∨ e ∈ start ∧ ∀ x ∈ es, x.1 ≠ e.1 := by
  induction es generalizing start with
  | nil => exact ⟨h, fun e => by simp [IsLast]⟩
  | cons x es ih =>
    obtain ⟨hasc, hmem⟩ := ih (h.insertEntry x.1 x.2)
    refine ⟨hasc, fun e => ?_⟩
    rw [List.foldl_cons, hmem, mem_insertEntry h, IsLast.cons_iff, List.forall_mem_cons]
    grind

theorem sortedObject_entries (es : List (String × Json)) :
    ∃ sorted, sortedObject es = .object sorted ∧ Ascending sorted ∧
      ∀ e, e ∈ sorted ↔ IsLast es e := by
  obtain ⟨hasc, hmem⟩ := mem_foldl_insertEntry List.Pairwise.nil es
  exact ⟨_, rfl, hasc, fun e => by simp [hmem e]⟩

end Json

theorem exists_mapM_eq_ok {ε α β : Type} {f : α → Except ε β} {xs : List α} :
    (∃ ys, xs.mapM f = .ok ys) ↔ ∀ x ∈ xs, ∃ y, f x = .ok y := by
  constructor
  · rintro ⟨ys, h⟩ x hx
    obtain ⟨y, -, hy⟩ := forall₂_mem_left (mapM_eq_ok.mp h) hx
    exact ⟨y, hy⟩
  · intro h
    induction xs with
    | nil => exact ⟨[], rfl⟩
    | cons x xs ih =>
      obtain ⟨y, hy⟩ := h x List.mem_cons_self
      obtain ⟨ys, hys⟩ := ih fun x hx => h x (List.mem_cons_of_mem _ hx)
      exact ⟨y :: ys, mapM_eq_ok.mpr (.cons hy (mapM_eq_ok.mp hys))⟩

structure HoldsRow (cells : List (String × Cell)) (entries : List (String × Json)) : Prop where
  ascending : Json.Ascending entries
  mem_keys : ∀ name, name ∈ entries.map Prod.fst ↔ name ∈ cells.map Prod.fst
  mem_entries : ∀ name v, (name, v) ∈ entries ↔
    ∃ cell, IsLast cells (name, cell) ∧ cell.value? = some v

namespace HoldsRow

variable {cells : List (String × Cell)} {entries : List (String × Json)}

theorem nodup_keys (h : HoldsRow cells entries) : (entries.map Prod.fst).Nodup :=
  List.pairwise_map.mpr (h.ascending.imp ne_of_lt)

theorem length_eq_iff (h : HoldsRow cells entries) :
    entries.length = cells.length ↔ (cells.map Prod.fst).Nodup := by
  have hlen : entries.length = cells.length ↔
      (entries.map Prod.fst).length = (cells.map Prod.fst).length := by
    simp only [List.length_map]
  have hsub : entries.map Prod.fst ⊆ cells.map Prod.fst := fun name => (h.mem_keys name).mp
  rw [hlen]
  constructor
  · intro hlen
    have hperm := (List.Nodup.subperm h.nodup_keys hsub).perm_of_length_le hlen.ge
    exact hperm.nodup_iff.mp h.nodup_keys
  · intro hnodup
    exact ((List.perm_ext_iff_of_nodup h.nodup_keys hnodup).mpr h.mem_keys).length_eq

theorem kept (h : HoldsRow cells entries) (hn : (cells.map Prod.fst).Nodup) {name : String}
    {cell : Cell} (hc : (name, cell) ∈ cells) :
    ∃ v, cell.value? = some v ∧ (name, v) ∈ entries := by
  have hkey : name ∈ entries.map Prod.fst := (h.mem_keys name).mpr (List.mem_map_of_mem hc)
  obtain ⟨⟨_, v⟩, hv, rfl⟩ := List.mem_map.mp hkey
  obtain ⟨cell', hlast, hval⟩ := (h.mem_entries _ v).mp hv
  cases (IsLast.of_nodup hn hc).unique hlast rfl
  exact ⟨v, hval, hv⟩

end HoldsRow

section Rows

variable {columns : List ResultColumn} {row : List Cell}

def namedCells (columns : List ResultColumn) (row : List Cell) : List (String × Cell) :=
  (columns.map (·.name)).zip row

theorem namedCells_eq (columns : List ResultColumn) (row : List Cell) :
    namedCells columns row = (columns.zip row).map (Prod.map (·.name) id) := by
  rw [namedCells, ← List.zip_map_left]

theorem lastNamed_isLast {name : String} {x : ResultColumn × Cell}
    (h : lastNamed name columns row = some x) : IsLast (namedCells columns row) (name, x.2) := by
  obtain ⟨hx, as, bs, heq, has⟩ := List.find?_eq_some_iff_append.mp h
  have hzip : columns.zip row = bs.reverse ++ x :: as.reverse := by
    rw [← List.reverse_reverse (columns.zip row), heq]
    simp
  refine ⟨bs.reverse.map (Prod.map (·.name) id), as.reverse.map (Prod.map (·.name) id), ?_, ?_⟩
  · rw [namedCells_eq, hzip, List.map_append, List.map_cons, ← beq_iff_eq.mp hx]
    rfl
  · intro y hy
    obtain ⟨z, hz, rfl⟩ := List.mem_map.mp hy
    simpa using has z (List.mem_reverse.mp hz)

theorem exists_lastNamed (hl : row.length = columns.length) {column : ResultColumn}
    (hc : column ∈ columns) : ∃ x, lastNamed column.name columns row = some x := by
  rw [← List.map_fst_zip hl.ge] at hc
  obtain ⟨x, hx, rfl⟩ := List.mem_map.mp hc
  apply Option.isSome_iff_exists.mp
  exact List.find?_isSome.mpr ⟨x, List.mem_reverse.mpr hx, beq_self_eq_true _⟩

theorem map_fst_namedCells (hl : row.length = columns.length) :
    (namedCells columns row).map Prod.fst = columns.map (·.name) :=
  List.map_fst_zip (by simp [hl])

def readNamed (columns : List ResultColumn) (row : List Cell) (column : ResultColumn) :
    Except ExecutorError (String × Json) :=
  match lastNamed column.name columns row with
  | none => .ok (column.name, .null)
  | some (c, cell) => do .ok (column.name, ← readCell c (Text.literal column.name) cell)

theorem rowEntries_eq (columns : List ResultColumn) (row : List Cell) :
    rowEntries columns row = columns.mapM (readNamed columns row) := rfl

theorem readNamed_eq_ok (hl : row.length = columns.length) {column : ResultColumn}
    (hc : column ∈ columns) {e : String × Json} : readNamed columns row column = .ok e ↔
      e.1 = column.name ∧
        ∃ cell, IsLast (namedCells columns row) (column.name, cell) ∧ cell.value? = some e.2 := by
  obtain ⟨⟨last, cell⟩, hx⟩ := exists_lastNamed hl hc
  have hlast : IsLast (namedCells columns row) (column.name, cell) := lastNamed_isLast hx
  have hcell : ∀ v, (∃ cell', IsLast (namedCells columns row) (column.name, cell') ∧
      cell'.value? = some v) ↔ cell.value? = some v := by
    refine fun v => ⟨?_, fun hv => ⟨cell, hlast, hv⟩⟩
    rintro ⟨cell', hlast', hv⟩
    cases hlast'.unique hlast rfl
    exact hv
  obtain ⟨name, v⟩ := e
  rw [hcell, readNamed, hx]
  simp only [readCell]
  cases cell.value? with
  | none => simp [bind, Except.bind]
  | some w => simp [bind, Except.bind, eq_comm]

theorem readNamed_entries (hl : row.length = columns.length) {es : List (String × Json)}
    (h : columns.mapM (readNamed columns row) = .ok es) :
    (∀ name, name ∈ es.map Prod.fst ↔ name ∈ (namedCells columns row).map Prod.fst) ∧
      ∀ e ∈ es, ∃ cell, IsLast (namedCells columns row) (e.1, cell) ∧
        cell.value? = some e.2 := by
  have hall := mapM_eq_ok.mp h
  rw [map_fst_namedCells hl]
  refine ⟨fun name => ⟨fun hn => ?_, fun hn => ?_⟩, fun e he => ?_⟩
  · obtain ⟨e, he, rfl⟩ := List.mem_map.mp hn
    obtain ⟨column, hc, hce⟩ := forall₂_mem_right hall he
    exact List.mem_map.mpr ⟨column, hc, ((readNamed_eq_ok hl hc).mp hce).1.symm⟩
  · obtain ⟨column, hc, rfl⟩ := List.mem_map.mp hn
    obtain ⟨e, he, hce⟩ := forall₂_mem_left hall hc
    exact List.mem_map.mpr ⟨e, he, ((readNamed_eq_ok hl hc).mp hce).1⟩
  · obtain ⟨column, hc, hce⟩ := forall₂_mem_right hall he
    obtain ⟨hname, hcell⟩ := (readNamed_eq_ok hl hc).mp hce
    rwa [hname]

theorem readRow_holds (hl : row.length = columns.length) {v : Json}
    (h : readRow columns row = .ok v) :
    ∃ entries, v = .object entries ∧ HoldsRow (namedCells columns row) entries := by
  rw [readRow, rowEntries_eq] at h
  cases hread : columns.mapM (readNamed columns row) with
  | error e => simp [hread, Except.map] at h
  | ok es =>
    obtain rfl : Json.sortedObject es = v := by simpa [hread, Except.map] using h
    obtain ⟨hkeys, hentry⟩ := readNamed_entries hl hread
    obtain ⟨sorted, hobj, hasc, hmem⟩ := Json.sortedObject_entries es
    refine ⟨sorted, hobj, hasc, fun name => ?_, fun name v => ?_⟩
    · rw [← hkeys]
      constructor
      · intro hn
        obtain ⟨e, he, rfl⟩ := List.mem_map.mp hn
        exact List.mem_map_of_mem ((hmem e).mp he).mem
      · intro hn
        obtain ⟨w, hw⟩ := IsLast.of_mem_keys hn
        exact List.mem_map_of_mem (f := Prod.fst) ((hmem _).mpr hw)
    · rw [hmem]
      constructor
      · exact fun he => hentry _ he.mem
      · rintro ⟨cell, hlast, hv⟩
        obtain ⟨w, hw⟩ := IsLast.of_mem_keys
          ((hkeys name).mpr (List.mem_map_of_mem (f := Prod.fst) hlast.mem))
        obtain ⟨cell', hlast', hw'⟩ := hentry _ hw.mem
        cases hlast.unique hlast' rfl
        obtain rfl : v = w := Option.some.inj (hv.symm.trans hw')
        exact hw

theorem exists_readRow (hl : row.length = columns.length) :
    (∃ v, readRow columns row = .ok v) ↔
      ∀ e, IsLast (namedCells columns row) e → e.2.value?.isSome := by
  have hrow : (∃ v, readRow columns row = .ok v) ↔
      ∃ es, columns.mapM (readNamed columns row) = .ok es := by
    rw [readRow, rowEntries_eq]
    cases columns.mapM (readNamed columns row) <;> simp [Except.map]
  rw [hrow, exists_mapM_eq_ok]
  constructor
  · rintro h ⟨name, cell⟩ hlast
    have hname := List.mem_map_of_mem (f := Prod.fst) hlast.mem
    rw [map_fst_namedCells hl] at hname
    obtain ⟨column, hc, rfl⟩ := List.mem_map.mp hname
    obtain ⟨e, he⟩ := h column hc
    obtain ⟨-, cell', hlast', hv⟩ := (readNamed_eq_ok hl hc).mp he
    cases hlast.unique hlast' rfl
    exact Option.isSome_iff_exists.mpr ⟨e.2, hv⟩
  · intro h column hc
    have hname := List.mem_map_of_mem (f := ResultColumn.name) hc
    rw [← map_fst_namedCells hl] at hname
    obtain ⟨cell, hlast⟩ := IsLast.of_mem_keys hname
    obtain ⟨v, hv⟩ := Option.isSome_iff_exists.mp (h _ hlast)
    exact ⟨(column.name, v), (readNamed_eq_ok hl hc).mpr ⟨rfl, cell, hlast, hv⟩⟩

end Rows

def Statement.names (s : Statement) : List String := s.columns.map (·.field.name)

/-- A result of the statement: a column for each that it selects, under the name of the field, and
in each row a cell for each. -/
structure ResultTable.Answers (t : ResultTable) (s : Statement) : Prop where
  names : t.columns.map (·.name) = s.names
  cells : ∀ row ∈ t.rows, row.length = t.columns.length

theorem Answer.exists_rows {t : ResultTable} {s : Statement} (ht : t.Answers s) :
    (∃ vs, (Answer.result t).rows = .ok vs) ↔
      ∀ row ∈ t.rows, ∀ e, IsLast (s.names.zip row) e → e.2.value?.isSome := by
  rw [Answer.rows, exists_mapM_eq_ok, ← ht.names]
  exact forall₂_congr fun row hrow => exists_readRow (ht.cells row hrow)

theorem Answer.rows_hold {t : ResultTable} {s : Statement} (ht : t.Answers s) {vs : List Json}
    (h : (Answer.result t).rows = .ok vs) : List.Forall₂ (fun row v => row.length = s.names.length ∧
      ∃ entries, v = .object entries ∧ HoldsRow (s.names.zip row) entries) t.rows vs := by
  have hread := mapM_eq_ok.mp h
  rw [← ht.names]
  refine List.forall₂_iff_zip.mpr ⟨hread.length_eq, fun hmem => ?_⟩
  have hl := ht.cells _ (List.of_mem_zip hmem).1
  exact ⟨by rw [hl, List.length_map], readRow_holds hl (List.forall₂_zip hread hmem)⟩

namespace Session

variable {Id Model : Type} {c : Catalog} {s : Session Id Model} {q : Query}

/-- Each row of a result is an object with an entry for each name among the selected fields, that of
the last cell of the name. If the names are pairwise different, there is an entry for each selected
field, and it holds the field's own cell. -/
theorem selected_cells_kept {table : Table} (h : Catalog.build table = .ok c) (hs : s.Reachable c)
    {fields : List FieldId} (hq : (s.select fields).Issues q) {t : ResultTable}
    (ht : t.Answers q.statement) :
    q.statement.columns = fields.filterMap c.column? ∧
    ((∃ vs, (Answer.result t).rows = .ok vs) ↔ ∀ row ∈ t.rows,
      ∀ e, IsLast (q.statement.names.zip row) e → e.2.value?.isSome) ∧
    ∀ vs, (Answer.result t).rows = .ok vs → List.Forall₂ (fun row v => ∃ entries,
      v = .object entries ∧ HoldsRow (q.statement.names.zip row) entries ∧
      (entries.length = q.statement.columns.length ↔ q.statement.names.Nodup) ∧
      (q.statement.names.Nodup → ∀ e ∈ q.statement.columns.zip row,
        ∃ v, e.2.value? = some v ∧ (e.1.field.name, v) ∈ entries)) t.rows vs := by
  have hcat := (hs.marked (Catalog.build_wellFormed h).toSound).catalog
  obtain ⟨_, _, -, hcolumns, -⟩ := hq.inv
  refine ⟨?_, Answer.exists_rows ht, fun vs hvs => (Answer.rows_hold ht hvs).imp ?_⟩
  · rw [hcolumns, select_eq hcat]
  · rintro row v ⟨hl, entries, rfl, hrow⟩
    have hkeys : (q.statement.names.zip row).map Prod.fst = q.statement.names :=
      List.map_fst_zip hl.ge
    have hlen : (q.statement.names.zip row).length = q.statement.columns.length := by
      rw [List.length_zip, hl, Nat.min_self, Statement.names, List.length_map]
    refine ⟨entries, rfl, hrow, ?_, fun hn e he => ?_⟩
    · rw [← hlen, hrow.length_eq_iff, hkeys]
    · apply hrow.kept (by rwa [hkeys])
      rw [Statement.names, List.zip_map_left]
      exact List.mem_map_of_mem he

def uncategorized : ResultTable where
  columns := [⟨"id", .int8⟩, ⟨"name", .text "text"⟩]
  rows := [[.int 7, .null]]

theorem selected_cells_kept_shop : ∃ q, ((shopSession {}).select [0, 6]).Issues q ∧
    uncategorized.Answers q.statement ∧ q.statement.names.Nodup ∧
    (Answer.result uncategorized).rows = .ok [.object [("id", .int 7), ("name", .null)]] ∧
    ∀ e ∈ q.statement.columns.zip [Cell.int 7, .null], ∃ v, e.2.value? = some v ∧
      (e.1.field.name, v) ∈ [("id", Json.int 7), ("name", .null)] := by
  have hids : ∃ q, ((shopSession {}).select [0, 6]).idQuery = .ok q ∧
      uncategorized.columns.map (·.name) = q.statement.names ∧ q.statement.names.Nodup :=
    ⟨_, rfl, by decide, by decide⟩
  obtain ⟨q, hq, hnames, hnodup⟩ := hids
  have ht : uncategorized.Answers q.statement := ⟨hnames, by simp [uncategorized]⟩
  have hrows : (Answer.result uncategorized).rows =
      .ok [.object [("id", .int 7), ("name", .null)]] := by rfl
  obtain ⟨-, -, hkept⟩ := selected_cells_kept Catalog.build_shop (shopSession_reachable {})
    (.ids hq) ht
  obtain ⟨⟨entries, hobj, -, -, hall⟩, -⟩ := List.forall₂_cons.mp (hkept _ hrows)
  cases hobj
  exact ⟨q, .ids hq, ht, hnodup, hrows, hall hnodup⟩

def categorized : ResultTable where
  columns := [⟨"id", .int8⟩, ⟨"id", .int8⟩]
  rows := [[.int 7, .int 3]]

/-- The ids of a product and of its category are two columns of one name: of the product's own
nothing is left. -/
theorem selected_cell_lost_shop : Catalog.build Catalog.shop = .ok Catalog.shopCatalog ∧
    ∃ q, ((shopSession {}).select [0, 5]).idQuery = .ok q ∧
    q.statement.columns.Nodup ∧ q.statement.columns.length = 2 ∧
    categorized.Answers q.statement ∧
    (Answer.result categorized).rows = .ok [.object [("id", .int 3)]] :=
  ⟨Catalog.build_shop, _, rfl, by decide, rfl, ⟨by decide, by simp [categorized]⟩, by rfl⟩

end Session
end Listing
