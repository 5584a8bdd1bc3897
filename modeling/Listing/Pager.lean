import Listing.Session

namespace Listing

inductive DatabaseError where
  | rowNotFound
  | poolTimedOut
  | protocol (text : String)
  | refused (text : String)
  | columnOutOfBounds (index size : Nat)
deriving DecidableEq, Repr

def DatabaseError.message : DatabaseError → String
  | .rowNotFound => "no rows returned by a query that expected to return at least one row"
  | .poolTimedOut => "pool timed out while waiting for an open connection"
  | .protocol text => "encountered unexpected or invalid data: " ++ text
  | .refused text => "error returned from database: " ++ text
  | .columnOutOfBounds index size =>
    "column index out of bounds: the len is " ++ toString size ++ ", but the index is " ++
      toString index

inductive ExecutorError where
  | database (e : DatabaseError)
  | decode (text : String)
deriving DecidableEq, Repr

def ExecutorError.message : ExecutorError → String
  | .database e => "database: " ++ e.message
  | .decode text => "decode: " ++ text

structure Executor (Id : Type) where
  fetchIds : Query → Except ExecutorError (List Id)
  fetchRows : Query → Except ExecutorError (List Json)

inductive PagerError where
  | session (e : SessionError)
  | executor (e : ExecutorError)
deriving DecidableEq, Repr

structure PagerRun (Id Model : Type) where
  outcome : Except PagerError (Response Id Model)
  queries : List Query
  session : Session Id Model

def decodeAll (d : Decoder α) (vs : List Json) : Except ExecutorError (List α) :=
  vs.mapM fun v => (decodeValue d v).mapError fun e => .decode (e.message?.getD "")

namespace Session

variable {Id Model : Type}

def fetchPage (s : Session Id Model) (x : Executor Id) (encode : Id → Except String Json)
    (model : Decoder Model) (idField : FieldId) (first : Query) (ids page : List Id) :
    PagerRun Id Model :=
  match s.rowQuery encode idField page with
  | .error e => ⟨.error (.session e), [first], s⟩
  | .ok second => match (x.fetchRows second).bind (decodeAll model) with
    | .error e => ⟨.error (.executor e), [first, second], s⟩
    | .ok rows =>
      let s := s.setResult ids rows
      ⟨.ok s.response, [first, second], s⟩

/-- Pages through the rows that match the session's request. A page outside of the ids is empty, and
needs no second query. -/
def paginate (s : Session Id Model) (x : Executor Id) (encode : Id → Except String Json)
    (model : Decoder Model) (idField : FieldId) (fields : List FieldId) : PagerRun Id Model :=
  let s := s.select [idField]
  match s.idQuery with
  | .error e => ⟨.error (.session e), [], s⟩
  | .ok first => match x.fetchIds first with
    | .error e => ⟨.error (.executor e), [first], s⟩
    | .ok ids => match s.page ids with
      | .error _ =>
        let s := s.setResult ids []
        ⟨.ok s.response, [first], s⟩
      | .ok page => (s.select fields).fetchPage x encode model idField first ids page

end Session
end Listing
