import Listing.Json.Node
import Listing.Number.Decimal96
import Listing.Time.Calendar

namespace Listing

inductive ColumnType where
  | bool
  | int2
  | int4
  | int8
  | float4
  | float8
  | numeric
  | uuid
  | date
  | timestamp
  | timestamptz
  | json
  | jsonb
  | text (name : String)
  | label (name : String)
  | citext
  | builtin (name : String)
  | custom (name : String)
deriving DecidableEq, Repr

namespace ColumnType

def textNames : List String := ["text", "varchar", "bpchar", "name", "unknown"]

def ofName (labels customs : List String) (name : String) : ColumnType :=
  match name with
  | "bool" => .bool
  | "int2" => .int2
  | "int4" => .int4
  | "int8" => .int8
  | "float4" => .float4
  | "float8" => .float8
  | "numeric" => .numeric
  | "uuid" => .uuid
  | "date" => .date
  | "timestamp" => .timestamp
  | "timestamptz" => .timestamptz
  | "json" => .json
  | "jsonb" => .jsonb
  | "citext" => .citext
  | _ =>
    if textNames.contains name then .text name
    else if labels.contains name then .label name
    else if customs.contains name then .custom name
    else .builtin name

def elementDisplay (name : String) : String :=
  if name = "char" then "\"CHAR\""
  else if name = "bpchar" then "CHAR"
  else String.ofList (name.toList.map Char.toUpper)

def builtinDisplay (name : String) : String :=
  match name.toList.reverse with
  | ']' :: '[' :: element => elementDisplay (String.ofList element.reverse) ++ "[]"
  | _ => elementDisplay name

def display : ColumnType → String
  | .bool => "BOOL"
  | .int2 => "INT2"
  | .int4 => "INT4"
  | .int8 => "INT8"
  | .float4 => "FLOAT4"
  | .float8 => "FLOAT8"
  | .numeric => "NUMERIC"
  | .uuid => "UUID"
  | .date => "DATE"
  | .timestamp => "TIMESTAMP"
  | .timestamptz => "TIMESTAMPTZ"
  | .json => "JSON"
  | .jsonb => "JSONB"
  | .text name | .builtin name => builtinDisplay name
  | .citext => "citext"
  | .label name | .custom name => name

end ColumnType

inductive Cell where
  | null
  | bool (value : Bool)
  | int (value : Int)
  | float4 (bits : UInt32)
  | float8 (value : Binary64)
  /-- A decimal by its digits; none for NaN. -/
  | numeric (negative : Bool) (digits : Option (List Char × List Char))
  | uuid (value : Nat)
  /-- Days from the start of 2000. -/
  | date (days : Int)
  /-- Microseconds from the start of 2000. -/
  | timestamp (micros : Int)
  | timestamptz (micros : Int)
  | text (bytes : ByteArray)
  | json (bytes : ByteArray)
  | label (bytes : ByteArray)
  | other

namespace Cell

def uuidText (n : Nat) : List Char :=
  let digits := Text.hexDigits 32 n
  digits.take 8 ++ '-' :: (digits.drop 8).take 4 ++ '-' :: (digits.drop 12).take 4 ++
    '-' :: (digits.drop 16).take 4 ++ '-' :: digits.drop 20

def realValue? (x : Binary64) : Option Json := if x.isFinite then some (.real x) else none

def decimalValue (negative : Bool) (x : Decimal96) : Json :=
  let real := Json.real (.withSign negative x.toBinary64.bits.toNat)
  match x.whole? with
  | none => real
  | some n =>
    let i : Int := if negative then -(n : Int) else n
    if -Int.pow 2 63 ≤ i ∧ i < Int.pow 2 63 then .int i else real

def value? : Cell → Option Json
  | .null => some .null
  | .bool b => some (.bool b)
  | .int i => some (.int i)
  | .float4 bits => realValue? (.ofSingle bits)
  | .float8 x => realValue? x
  | .numeric _ none => none
  | .numeric negative (some (whole, fraction)) =>
    (Decimal96.ofDigits? whole fraction).map (decimalValue negative)
  | .uuid n => some (.string (String.ofList (uuidText n)))
  | .date days => some (.string (String.ofList (Date.ofDays days).text))
  | .timestamp micros => some (.string (String.ofList (timestampText micros)))
  | .timestamptz micros =>
    some (.string (String.ofList (timestampText micros ++ "+00:00".toList)))
  | .text bytes | .label bytes => (String.fromUTF8? bytes).map .string
  | .json bytes => (String.fromUTF8? bytes).bind fun s => Json.parse? s.toList
  | .other => none

end Cell
end Listing
