import Listing.Database.Argument
import Listing.Database.Cell
import Listing.Pager

namespace Listing

structure ResultColumn where
  name : String
  type : ColumnType
deriving DecidableEq, Repr

structure ResultTable where
  columns : List ResultColumn
  rows : List (List Cell)

inductive Answer where
  | refused (message : String)
  | result (table : ResultTable)

def readCell (column : ResultColumn) (place : String) (cell : Cell) : Except ExecutorError Json :=
  match cell.value? with
  | some v => .ok v
  | none =>
    .error (.decode ("unsupported column type " ++ column.type.display ++ " at " ++ place))

def lastNamed (name : String) (columns : List ResultColumn) (row : List Cell) :
    Option (ResultColumn × Cell) :=
  (columns.zip row).reverse.find? fun e => e.1.name == name

def rowEntries (columns : List ResultColumn) (row : List Cell) :
    Except ExecutorError (List (String × Json)) :=
  columns.mapM fun column => do
    match lastNamed column.name columns row with
    | none => .ok (column.name, .null)
    | some (c, cell) => .ok (column.name, ← readCell c (Text.literal column.name) cell)

def readRow (columns : List ResultColumn) (row : List Cell) : Except ExecutorError Json :=
  (rowEntries columns row).map Json.sortedObject

def readId (d : Decoder α) (columns : List ResultColumn) (row : List Cell) :
    Except ExecutorError α :=
  match columns, row with
  | column :: _, cell :: _ => do
    let v ← readCell column "0" cell
    (decodeValue d v).mapError fun e => .decode (e.message?.getD "")
  | _, _ => .error (.database (.columnOutOfBounds 0 columns.length))

def sentArguments (values : List Json) : List Argument := values.map .ofJson

def Answer.rows : Answer → Except ExecutorError (List Json)
  | .refused message => .error (.database (.refused message))
  | .result t => t.rows.mapM (readRow t.columns)

def Answer.ids (d : Decoder α) : Answer → Except ExecutorError (List α)
  | .refused message => .error (.database (.refused message))
  | .result t => t.rows.mapM (readId d t.columns)

end Listing
