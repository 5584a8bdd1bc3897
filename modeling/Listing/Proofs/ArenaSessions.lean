import Listing.Proofs.ArenaRequests
import Listing.Proofs.LatestCalls

namespace Listing

structure ArenaSession (Id Model : Type) where
  arena : Option Arena
  request : Request := {}
  isProcessed : Bool := false
  selection : List Column := []
  draft : Draft := {}
  order : List SortTerm := []
  result : Option (ResultSet Id Model) := none

inductive Operation (Id Model : Type) where
  | request (r : Request)
  | select (fields : List FieldId)
  | result (ids : List Id) (rows : List Model)
  | idQuery
  | rowQuery (encode : Id → Except String Json) (idField : FieldId) (ids : List Id)
  | page (ids : List Id)
  | response
  | paginate (x : Executor Id) (encode : Id → Except String Json) (model : Decoder Model)
      (idField : FieldId) (fields : List FieldId)
  | relations (used : List TableId)
  | field (reference name : String)
  | rootField (name : String)

inductive Reply (Id Model : Type) where
  | done
  | taken (outcome : Except SessionError Unit)
  | query (outcome : Except SessionError Query)
  | page (outcome : Except SessionError (List Id))
  | response (r : Response Id Model)
  | paged (outcome : Except PagerError (Response Id Model)) (queries : List Query)
  | relations (rs : List RelationId)
  | field (f : Option FieldId)

variable {Id Model : Type}

namespace Session

def perform (s : Session Id Model) : Operation Id Model → Session Id Model × Reply Id Model
  | .request r => ((s.setRequest r).1, .taken (s.setRequest r).2)
  | .select fields => (s.select fields, .done)
  | .result ids rows => (s.setResult ids rows, .done)
  | .idQuery => (s, .query s.idQuery)
  | .rowQuery encode idField ids => (s, .query (s.rowQuery encode idField ids))
  | .page ids => (s, .page (s.page ids))
  | .response => (s, .response s.response)
  | .paginate x encode model idField fields =>
    let run := s.paginate x encode model idField fields
    (run.session, .paged run.outcome run.queries)
  | .relations used =>
    (s, .relations (s.catalog.elim [] fun c => (c.requiredRelations used).map (·.id)))
  | .field reference name =>
    (s, .field (s.catalog.elim none fun c => (c.columnByName? reference name).map (·.id)))
  | .rootField name =>
    (s, .field (s.catalog.elim none fun c => (c.rootColumn? name).map (·.id)))

def performAll (s : Session Id Model) :
    List (Operation Id Model) → Session Id Model × List (Reply Id Model)
  | [] => (s, [])
  | k :: ks =>
    let (s, answer) := s.perform k
    let (s, answers) := s.performAll ks
    (s, answer :: answers)

end Session

namespace Arena

def fieldByName (a : Arena) (reference name : String) : Except Fault (Option FieldId) :=
  match a.tables.findIdx? fun n => n.entry.reference == reference with
  | none => pure none
  | some t => a.ownField t name

def rootField (a : Arena) (name : String) : Except Fault (Option FieldId) := do
  let node ← a.table Catalog.root
  a.fieldByName node.entry.reference name

end Arena

def slice (xs : List Id) (start stop : Nat) : Except Fault (List Id) :=
  if start ≤ stop ∧ stop ≤ xs.length then .ok ((xs.take stop).drop start)
  else .error (.slice start stop)

def divCeil (a b : Nat) : Except Fault Nat :=
  if b = 0 then .error .division else .ok ((a + b - 1) / b)

def pageCount (size limit : Nat) : Except Fault Nat :=
  if limit = 0 then pure 0 else divCeil size limit

namespace ArenaSession

def ofArena (a : Arena) : ArenaSession Id Model where
  arena := some a

def passthrough (r : Request) : ArenaSession Id Model where
  arena := none
  request := r
  isProcessed := true

def setRequest (s : ArenaSession Id Model) (r : Request) :
    Except Fault (ArenaSession Id Model × Except SessionError Unit) :=
  match s.arena with
  | none => pure ({ arena := none, request := r, isProcessed := true }, .ok ())
  | some a => do
    let compiled ← a.compile r
    let next : ArenaSession Id Model :=
      { arena := some a, request := r, draft := compiled.draft, order := compiled.order,
        isProcessed := compiled.refusals.isEmpty }
    pure (next,
      if compiled.refusals.isEmpty then .ok () else .error (.rejected compiled.refusals))

def choose (a : Arena) (s : ArenaSession Id Model) (i : FieldId) :
    Except Fault (ArenaSession Id Model) :=
  if i < a.fields.length then do
    let f ← a.field i
    pure { s with selection := s.selection ++ [f], draft := s.draft.mark f .select }
  else pure s

def select (s : ArenaSession Id Model) (fields : List FieldId) :
    Except Fault (ArenaSession Id Model) :=
  let s := { s with
    selection := [], draft := { s.draft with usage := s.draft.usage.unmarkAll .select } }
  match s.arena with
  | none => pure s
  | some a => fields.foldlM (choose a) s

def ready (s : ArenaSession Id Model) : Checked SessionError Arena :=
  match s.arena with
  | none => throw .noCatalog
  | some a =>
    if !s.isProcessed then throw .notProcessed
    else if s.selection.isEmpty then throw .emptySelection
    else pure a

def idQuery (s : ArenaSession Id Model) : Checked SessionError Query := do
  let a ← s.ready
  let root ← a.table Catalog.root
  let joins ← a.joins s.draft.usage (.ofList [.select, .search, .filter, .sort, .mandatory])
  pure {
    statement := {
      columns := s.selection,
      root := root.entry,
      joins := joins,
      predicates := s.draft.predicates ++ a.defaultPredicates,
      order := s.order },
    arguments := s.draft.arguments }

def rowQuery (s : ArenaSession Id Model) (encode : Id → Except String Json) (idField : FieldId)
    (ids : List Id) : Checked SessionError Query := do
  let a ← s.ready
  if idField < a.fields.length then do
    let root ← a.table Catalog.root
    let joins ← a.joins s.draft.usage (.ofList [.select, .sort])
    let f ← a.field idField
    let arguments ← ofExcept (Session.idArguments encode ids)
    pure {
      statement := {
        columns := s.selection,
        root := root.entry,
        joins := joins,
        predicates := [if ids.isEmpty then .never else .idAmong f (List.range' 1 ids.length)],
        order := s.order },
      arguments := arguments }
  else throw (.unknownIdField idField)

def page (s : ArenaSession Id Model) (ids : List Id) : Checked SessionError (List Id) :=
  match pageBounds? s.request.limit s.request.page ids.length with
  | none => throw .pagination
  | some (start, stop) => liftM (slice ids start stop)

def setResult (s : ArenaSession Id Model) (ids : List Id) (rows : List Model) :
    ArenaSession Id Model :=
  { s with result := some ⟨ids, rows⟩ }

def metadata (s : ArenaSession Id Model) : Except Fault Metadata :=
  let page := s.request.page.toNat
  let limit := s.request.limit.toNat
  match s.result with
  | none => pure { page := page }
  | some r => do
    let totalPage ← pageCount r.ids.length limit
    pure {
      count := r.rows.length, page := page, totalCount := r.ids.length, totalPage := totalPage }

def response (s : ArenaSession Id Model) : Except Fault (Response Id Model) := do
  let metadata ← s.metadata
  match s.result with
  | none => pure ⟨metadata, [], []⟩
  | some r => pure ⟨metadata, r.ids, r.rows⟩

def conclude (s : ArenaSession Id Model) (ids : List Id) (rows : List Model)
    (queries : List Query) : Except Fault (ArenaSession Id Model × Reply Id Model) := do
  let s := s.setResult ids rows
  let r ← s.response
  pure (s, .paged (.ok r) queries)

def fetchPage (s : ArenaSession Id Model) (x : Executor Id) (encode : Id → Except String Json)
    (model : Decoder Model) (idField : FieldId) (first : Query) (ids page : List Id) :
    Except Fault (ArenaSession Id Model × Reply Id Model) := do
  match ← (s.rowQuery encode idField page).run with
  | .error e => pure (s, .paged (.error (.session e)) [first])
  | .ok second => match (x.fetchRows second).bind (decodeAll model) with
    | .error e => pure (s, .paged (.error (.executor e)) [first, second])
    | .ok rows => s.conclude ids rows [first, second]

def paginate (s : ArenaSession Id Model) (x : Executor Id) (encode : Id → Except String Json)
    (model : Decoder Model) (idField : FieldId) (fields : List FieldId) :
    Except Fault (ArenaSession Id Model × Reply Id Model) := do
  let s ← s.select [idField]
  match ← s.idQuery.run with
  | .error e => pure (s, .paged (.error (.session e)) [])
  | .ok first => match x.fetchIds first with
    | .error e => pure (s, .paged (.error (.executor e)) [first])
    | .ok ids => do
      match ← (s.page ids).run with
      | .error _ => s.conclude ids [] [first]
      | .ok page => do
        let s ← s.select fields
        s.fetchPage x encode model idField first ids page

def perform (s : ArenaSession Id Model) :
    Operation Id Model → Except Fault (ArenaSession Id Model × Reply Id Model)
  | .request r => do
    let (s, outcome) ← s.setRequest r
    pure (s, .taken outcome)
  | .select fields => do
    let s ← s.select fields
    pure (s, .done)
  | .result ids rows => pure (s.setResult ids rows, .done)
  | .idQuery => do
    let outcome ← s.idQuery.run
    pure (s, .query outcome)
  | .rowQuery encode idField ids => do
    let outcome ← (s.rowQuery encode idField ids).run
    pure (s, .query outcome)
  | .page ids => do
    let outcome ← (s.page ids).run
    pure (s, .page outcome)
  | .response => do
    let r ← s.response
    pure (s, .response r)
  | .paginate x encode model idField fields => s.paginate x encode model idField fields
  | .relations used => do
    let rs ← s.arena.elim (pure []) fun a => a.requiredRelations used
    pure (s, .relations rs)
  | .field reference name => do
    let f ← s.arena.elim (pure none) fun a => a.fieldByName reference name
    pure (s, .field f)
  | .rootField name => do
    let f ← s.arena.elim (pure none) fun a => a.rootField name
    pure (s, .field f)

-- an arena that no declaration gives may list a handle that it does not have
example : (ofArena { index := [("name", 7)] } : ArenaSession Json Json).perform
    (.request { filters := ["name eq lamp"] }) = .error (.field 7) := by rfl

def performAll (s : ArenaSession Id Model) :
    List (Operation Id Model) → Except Fault (ArenaSession Id Model × List (Reply Id Model))
  | [] => pure (s, [])
  | k :: ks => do
    let (s, answer) ← s.perform k
    let (s, answers) ← s.performAll ks
    pure (s, answer :: answers)

def run (x : Table) (ks : List (Operation Id Model)) :
    Checked BuildError (ArenaSession Id Model × List (Reply Id Model)) := do
  let a ← Arena.build x
  liftM ((ofArena a).performAll ks)

end ArenaSession

namespace Arena

variable {c : Catalog}

theorem of_fieldByName (hc : c.Sound) (reference name : String) :
    (of c).fieldByName reference name =
      .ok ((c.columnByName? reference name).map (·.id)) := by
  have hindex : (of c).tables.findIdx? (fun n => n.entry.reference == reference) =
      c.tableByReference? reference := by
    change (c.tables.map c.node).findIdx? _ = _
    rw [List.findIdx?_map, Catalog.tableByReference?, List.find?_eq_bind_findIdx?_getElem?]
    change c.tables.findIdx? (fun t => t.reference == reference) = _
    cases hi : c.tables.findIdx? fun t => t.reference == reference with
    | none => rfl
    | some i =>
      obtain ⟨hlt, -⟩ := List.findIdx?_eq_some_iff_getElem.mp hi
      have ht : c.tables[i]? = some c.tables[i] := List.getElem?_eq_getElem hlt
      rw [Option.bind_some, ht, Option.map_some, hc.table_id i _ ht]
  rw [fieldByName, hindex, Catalog.columnByName?]
  cases ht : c.tableByReference? reference with
  | none => rfl
  | some t =>
    obtain ⟨e, he, rfl⟩ := Option.map_eq_some_iff.mp ht
    exact of_ownField hc (hc.table_mem (List.mem_of_find?_eq_some he)) name

theorem of_rootField (hc : c.WellFormed) (name : String) :
    (of c).rootField name = .ok ((c.rootColumn? name).map (·.id)) := by
  obtain ⟨root, hroot⟩ := Catalog.table?_of_lt hc.root_lt
  rw [rootField, bind_eq_of_ok (of_table hroot), Catalog.rootColumn?, hroot]
  exact of_fieldByName hc.toSound root.reference name

end Arena

def Session.Valid (s : Session Id Model) : Prop :=
  ∀ c, s.catalog = some c → c.WellFormed ∧ c.Indexes

namespace ArenaSession

open Session (Valid)

def of (s : Session Id Model) : ArenaSession Id Model where
  arena := s.catalog.map Arena.of
  request := s.request
  isProcessed := s.isProcessed
  selection := s.selection
  draft := s.draft
  order := s.order
  result := s.result

variable {s : Session Id Model}

theorem of_setRequest (h : s.Valid) (r : Request) :
    (of s).setRequest r = .ok ((s.setRequest r).map of id) := by
  rcases s with ⟨_ | c, request, isProcessed, selection, draft, order, result⟩
  · rfl
  · obtain ⟨hc, hi⟩ := h c rfl
    exact bind_eq_of_ok (Arena.of_compile hc.toSound hi r) _

theorem foldlM_choose {c : Catalog} (s : ArenaSession Id Model) (fields : List FieldId) :
    fields.foldlM (choose (Arena.of c)) s = .ok { s with
      selection := s.selection ++ fields.filterMap c.column?
      draft := (fields.filterMap c.column?).foldl (fun d f => d.mark f .select) s.draft } := by
  induction fields generalizing s with
  | nil =>
    rw [List.filterMap_nil, List.append_nil]
    rfl
  | cons i fields ih =>
    rw [List.foldlM_cons, choose]
    change (if i < c.columns.length then _ else _) >>= _ = _
    cases hf : c.column? i with
    | none =>
      rw [if_neg (not_lt.mpr (List.getElem?_eq_none_iff.mp hf)), List.filterMap_cons_none hf]
      exact ih s
    | some f =>
      rw [if_pos (List.getElem?_eq_some_iff.mp hf).1, List.filterMap_cons_some hf,
        bind_eq_of_ok (Arena.of_field hf)]
      refine (ih _).trans ?_
      rw [List.append_assoc]
      rfl

theorem of_select (s : Session Id Model) (fields : List FieldId) :
    (of s).select fields = .ok (of (s.select fields)) := by
  rcases s with ⟨_ | c, request, isProcessed, selection, draft, order, result⟩
  · rfl
  · exact foldlM_choose _ fields

theorem run_ready (h : s.Valid) :
    (of s).ready.run = .ok (s.ready.map fun x => Arena.of x.1) := by
  rcases s with ⟨_ | c, request, isProcessed, selection, draft, order, result⟩
  · rfl
  · obtain ⟨root, hroot⟩ := Catalog.table?_of_lt (h c rfl).1.root_lt
    simp only [Session.ready, Option.bind_some, hroot, Option.map_some]
    change ExceptT.run (if !isProcessed then _ else if selection.isEmpty then _ else _) = _
    split_ifs <;> rfl

theorem run_idQuery (h : s.Valid) : (of s).idQuery.run = .ok s.idQuery := by
  apply Checked.run_bind (run_ready h)
  rintro ⟨c, root⟩ hready
  obtain ⟨hcatalog, hroot⟩ := Session.catalog_of_ready hready
  have hc := (h c hcatalog).1
  rw [Checked.run_bind_ok (Checked.run_lift (Arena.of_table hroot)),
    Checked.run_bind_ok (Checked.run_lift (Arena.of_joins hc _ _))]
  rfl

theorem run_rowQuery (h : s.Valid) (encode : Id → Except String Json) (idField : FieldId)
    (ids : List Id) :
    ((of s).rowQuery encode idField ids).run = .ok (s.rowQuery encode idField ids) := by
  apply Checked.run_bind (run_ready h)
  rintro ⟨c, root⟩ hready
  obtain ⟨hcatalog, hroot⟩ := Session.catalog_of_ready hready
  have hc := (h c hcatalog).1
  change ExceptT.run (if idField < c.columns.length then _ else _) = _
  cases hf : c.column? idField with
  | none =>
    rw [if_neg (not_lt.mpr (List.getElem?_eq_none_iff.mp hf))]
    simp only [hf]
    rfl
  | some f =>
    rw [if_pos (List.getElem?_eq_some_iff.mp hf).1,
      Checked.run_bind_ok (Checked.run_lift (Arena.of_table hroot)),
      Checked.run_bind_ok (Checked.run_lift (Arena.of_joins hc _ _)),
      Checked.run_bind_ok (Checked.run_lift (Arena.of_field hf))]
    simp only [hf]
    cases Session.idArguments encode ids with
    | error e => rfl
    | ok values => rfl

theorem run_page (s : Session Id Model) (ids : List Id) :
    ((of s).page ids).run = .ok (s.page ids) := by
  rw [page, Session.page]
  change ExceptT.run (match pageBounds? s.request.limit s.request.page ids.length with
    | none => _
    | some (start, stop) => _) = _
  cases hbounds : pageBounds? s.request.limit s.request.page ids.length with
  | none => rfl
  | some bounds =>
    obtain ⟨hlt, hle⟩ := Session.pageBounds?_some hbounds
    exact Checked.run_lift (if_pos ⟨hlt.le, hle⟩)

theorem pageCount_eq (size limit : Nat) :
    pageCount size limit = .ok (if limit = 0 then 0 else (size + limit - 1) / limit) := by
  rw [pageCount]
  split_ifs with hlimit
  · rfl
  · exact if_neg hlimit

theorem of_metadata (s : Session Id Model) : (of s).metadata = .ok s.metadata := by
  rcases s with ⟨catalog, request, isProcessed, selection, draft, order, _ | r⟩
  · rfl
  · exact bind_eq_of_ok (pageCount_eq r.ids.length request.limit.toNat) _

theorem of_response (s : Session Id Model) : (of s).response = .ok s.response := by
  rw [response, bind_eq_of_ok (of_metadata s), Session.response]
  rcases s with ⟨catalog, request, isProcessed, selection, draft, order, _ | r⟩ <;> rfl

theorem of_conclude (s : Session Id Model) (ids : List Id) (rows : List Model)
    (queries : List Query) : (of s).conclude ids rows queries =
      .ok (of (s.setResult ids rows), .paged (.ok (s.setResult ids rows).response) queries) :=
  bind_eq_of_ok (of_response (s.setResult ids rows)) _

def ofRun (run : PagerRun Id Model) : ArenaSession Id Model × Reply Id Model :=
  (of run.session, .paged run.outcome run.queries)

theorem of_fetchPage (h : s.Valid) (x : Executor Id) (encode : Id → Except String Json)
    (model : Decoder Model) (idField : FieldId) (first : Query) (ids page : List Id) :
    (of s).fetchPage x encode model idField first ids page =
      .ok (ofRun (s.fetchPage x encode model idField first ids page)) := by
  rw [fetchPage, bind_eq_of_ok (run_rowQuery h encode idField page), Session.fetchPage]
  cases s.rowQuery encode idField page with
  | error e => rfl
  | ok second =>
    simp only
    cases (x.fetchRows second).bind (decodeAll model) with
    | error e => rfl
    | ok rows => exact of_conclude s ids rows _

theorem valid_of_catalog (h : s.Valid) {s' : Session Id Model} (hs : s'.catalog = s.catalog) :
    s'.Valid := by
  intro c hc
  exact h c (hs.symm.trans hc)

theorem of_paginate (h : s.Valid) (x : Executor Id) (encode : Id → Except String Json)
    (model : Decoder Model) (idField : FieldId) (fields : List FieldId) :
    (of s).paginate x encode model idField fields =
      .ok (ofRun (s.paginate x encode model idField fields)) := by
  have hselect : (s.select [idField]).Valid := valid_of_catalog h (Session.select_catalog s _)
  rw [paginate, bind_eq_of_ok (of_select s [idField]), bind_eq_of_ok (run_idQuery hselect)]
  simp only [Session.paginate]
  cases (s.select [idField]).idQuery with
  | error e => rfl
  | ok first =>
    simp only
    cases x.fetchIds first with
    | error e => rfl
    | ok ids =>
      simp only
      rw [bind_eq_of_ok (run_page _ ids)]
      cases (s.select [idField]).page ids with
      | error e => exact of_conclude _ ids [] _
      | ok page =>
        simp only
        rw [bind_eq_of_ok (of_select _ fields)]
        have hreselect := valid_of_catalog hselect (Session.select_catalog _ fields)
        exact of_fetchPage hreselect x encode model idField first ids page

theorem elim_arena (h : s.Valid) {α : Type} (a : α) {look : Arena → Except Fault α}
    {find : Catalog → α} (hlook : ∀ c : Catalog, c.WellFormed → look (.of c) = .ok (find c)) :
    (of s).arena.elim (pure a) look = .ok (s.catalog.elim a find) := by
  change (s.catalog.map Arena.of).elim _ _ = _
  cases hcatalog : s.catalog with
  | none => rfl
  | some c => exact hlook c (h c hcatalog).1

theorem of_perform (h : s.Valid) (k : Operation Id Model) :
    (of s).perform k = .ok ((s.perform k).map of id) := by
  cases k with
  | request r => exact bind_eq_of_ok (of_setRequest h r) _
  | select fields => exact bind_eq_of_ok (of_select s fields) _
  | result ids rows => rfl
  | idQuery => exact bind_eq_of_ok (run_idQuery h) _
  | rowQuery encode idField ids => exact bind_eq_of_ok (run_rowQuery h encode idField ids) _
  | page ids => exact bind_eq_of_ok (run_page s ids) _
  | response => exact bind_eq_of_ok (of_response s) _
  | paginate x encode model idField fields => exact of_paginate h x encode model idField fields
  | relations used =>
    exact bind_eq_of_ok (elim_arena h [] fun c hc => Arena.of_requiredRelations hc used) _
  | field reference name =>
    exact bind_eq_of_ok
      (elim_arena h none fun c hc => Arena.of_fieldByName hc.toSound reference name) _
  | rootField name =>
    exact bind_eq_of_ok (elim_arena h none fun c hc => Arena.of_rootField hc name) _

theorem perform_valid (h : s.Valid) (k : Operation Id Model) : (s.perform k).1.Valid := by
  apply valid_of_catalog h
  cases k with
  | request r => exact Session.setRequest_catalog s r
  | select fields => exact Session.select_catalog s fields
  | paginate x encode model idField fields =>
    have hplay := Session.play_pageSteps s x encode model idField fields
    exact (congrArg Session.catalog hplay.symm).trans (Session.play_catalog s _)
  | _ => rfl

theorem of_performAll (h : s.Valid) (ks : List (Operation Id Model)) :
    (of s).performAll ks = .ok ((s.performAll ks).map of id) := by
  induction ks generalizing s with
  | nil => rfl
  | cons k ks ih =>
    rw [performAll, bind_eq_of_ok (of_perform h k)]
    exact bind_eq_of_ok (ih (perform_valid h k)) _

/-- Neither laying out a declaration nor any operation that follows comes to a fault, whichever
handles it is given, and all is answered as it is over the catalog. -/
theorem run_faultless (x : Table) (ks : List (Operation Id Model)) :
    (run x ks).run =
      .ok ((Catalog.build x).map fun c => ((Session.ofCatalog c).performAll ks).map of id) ∧
    ∀ r, (passthrough r).performAll ks =
      .ok (((Session.passthrough r).performAll ks).map of id) := by
  constructor
  · have hbuild := Arena.of_build x
    cases h : Catalog.build x with
    | error e =>
      rw [h] at hbuild
      exact Checked.run_bind_error hbuild _
    | ok c =>
      rw [h] at hbuild
      have hvalid : (Session.ofCatalog c : Session Id Model).Valid := by
        rintro _ ⟨⟩
        exact ⟨Catalog.build_wellFormed h, Catalog.build_indexes h⟩
      exact (Checked.run_bind_ok hbuild _).trans (Checked.run_lift (of_performAll hvalid ks))
  · intro r
    exact of_performAll (s := .passthrough r) nofun ks

end ArenaSession
end Listing
