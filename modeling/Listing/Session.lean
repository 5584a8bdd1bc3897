import Listing.Query.Compile

/-!
A session answers one request over a catalog: it compiles the request, then gives the statement for
the ids of all rows that match, cuts the page out of the ids, gives the statement for the rows of
the page, and keeps both for the response. A session without a catalog only pages.
-/
namespace Listing

structure ResultSet (Id Model : Type) where
  ids : List Id
  rows : List Model
deriving DecidableEq

structure Session (Id Model : Type) where
  catalog : Option Catalog
  request : Request := {}
  isProcessed : Bool := false
  selection : List Column := []
  draft : Draft := {}
  order : List SortTerm := []
  result : Option (ResultSet Id Model) := none

inductive SessionError where
  | rejected (refusals : List (Position × Refusal))
  | pagination
  | notProcessed
  | emptySelection
  | noCatalog
  | unknownIdField (f : FieldId)
  | unwritableId (reason : String)
deriving DecidableEq, Repr

def SessionError.message : SessionError → String
  | .rejected refusals => (Report.ofRefusals refusals).text
  | .pagination => "invalid pagination parameter"
  | .notProcessed => "set_param must succeed before building queries"
  | .emptySelection => "selected fields can't be empty, call select first"
  | .noCatalog => "resource has no schema definition"
  | .unknownIdField f => "invalid argument: unknown id field FieldId(" ++ toString f ++ ")"
  | .unwritableId reason => "invalid argument: " ++ reason

def checkedMul? (a b : UInt64) : Option UInt64 :=
  if a.toNat * b.toNat < Nat.pow 2 64 then some (a * b) else none

def saturatingMul (a b : UInt64) : UInt64 :=
  (checkedMul? a b).getD (UInt64.ofNat (Nat.pow 2 64 - 1))

def pageBounds? (limit page : UInt64) (size : Nat) : Option (Nat × Nat) := do
  let start ← if page = 0 then none else checkedMul? (page - 1) limit
  let stop := min (saturatingMul limit page).toNat size
  if start.toNat < stop then some (start.toNat, stop) else none

structure Metadata where
  count : Nat := 0
  page : Nat := 0
  totalCount : Nat := 0
  totalPage : Nat := 0
deriving DecidableEq, Repr

structure Response (Id Model : Type) where
  metadata : Metadata
  ids : List Id
  rows : List Model
deriving DecidableEq

def Metadata.toJson (m : Metadata) : Json :=
  .object [("count", .nat m.count), ("page", .nat m.page), ("total_count", .nat m.totalCount),
    ("total_page", .nat m.totalPage)]

def Response.toJson {Id Model : Type} (encodeId : Id → Json) (encodeModel : Model → Json)
    (r : Response Id Model) : Json :=
  .object [("metadata", r.metadata.toJson),
    ("data", .object [("ids", .array (r.ids.map encodeId)),
      ("paginated_result", .array (r.rows.map encodeModel))])]

namespace Session

variable {Id Model : Type}

def ofCatalog (c : Catalog) : Session Id Model where
  catalog := some c

def passthrough (r : Request) : Session Id Model where
  catalog := none
  request := r
  isProcessed := true

/-- Starts over with a request, which is taken as it is where there is no catalog. -/
def setRequest (s : Session Id Model) (r : Request) :
    Session Id Model × Except SessionError Unit :=
  match s.catalog with
  | none => ({ catalog := none, request := r, isProcessed := true }, .ok ())
  | some c =>
    let compiled := c.compile r
    let next : Session Id Model :=
      { catalog := some c, request := r, draft := compiled.draft, order := compiled.order,
        isProcessed := compiled.refusals.isEmpty }
    (next, if compiled.refusals.isEmpty then .ok () else .error (.rejected compiled.refusals))

def select (s : Session Id Model) (fields : List FieldId) : Session Id Model :=
  let columns := match s.catalog with
    | none => []
    | some c => fields.filterMap c.column?
  { s with
    selection := columns,
    draft := columns.foldl (fun d f => d.mark f .select)
      { s.draft with usage := s.draft.usage.unmarkAll .select } }

def ready (s : Session Id Model) : Except SessionError (Catalog × TableEntry) :=
  match s.catalog.bind fun c => (c.table? Catalog.root).map fun t => (c, t) with
  | none => .error .noCatalog
  | some (c, t) =>
    if !s.isProcessed then .error .notProcessed
    else if s.selection.isEmpty then .error .emptySelection
    else .ok (c, t)

def idQuery (s : Session Id Model) : Except SessionError Query := do
  let (c, root) ← s.ready
  .ok {
    statement := {
      columns := s.selection,
      root := root,
      joins := c.joins s.draft.usage (.ofList [.select, .search, .filter, .sort, .mandatory]),
      predicates := s.draft.predicates ++ c.softDeletes.map .isFalse,
      order := s.order },
    arguments := s.draft.arguments }

def idArguments (encode : Id → Except String Json) (ids : List Id) :
    Except SessionError (List Json) :=
  (ids.mapM encode).mapError .unwritableId

def rowQuery (s : Session Id Model) (encode : Id → Except String Json) (idField : FieldId)
    (ids : List Id) : Except SessionError Query := do
  let (c, root) ← s.ready
  match c.column? idField with
  | none => .error (.unknownIdField idField)
  | some f =>
    let arguments ← idArguments encode ids
    .ok {
      statement := {
        columns := s.selection,
        root := root,
        joins := c.joins s.draft.usage (.ofList [.select, .sort]),
        predicates := [if ids.isEmpty then .never else .idAmong f (List.range' 1 ids.length)],
        order := s.order },
      arguments := arguments }

def page (s : Session Id Model) (ids : List Id) : Except SessionError (List Id) :=
  match pageBounds? s.request.limit s.request.page ids.length with
  | none => .error .pagination
  | some (start, stop) => .ok ((ids.take stop).drop start)

def setResult (s : Session Id Model) (ids : List Id) (rows : List Model) : Session Id Model :=
  { s with result := some ⟨ids, rows⟩ }

def metadata (s : Session Id Model) : Metadata :=
  let page := s.request.page.toNat
  let limit := s.request.limit.toNat
  match s.result with
  | none => { page := page }
  | some r =>
    { count := r.rows.length, page := page, totalCount := r.ids.length,
      totalPage := if limit = 0 then 0 else (r.ids.length + limit - 1) / limit }

def response (s : Session Id Model) : Response Id Model :=
  match s.result with
  | none => ⟨s.metadata, [], []⟩
  | some r => ⟨s.metadata, r.ids, r.rows⟩

end Session
end Listing
