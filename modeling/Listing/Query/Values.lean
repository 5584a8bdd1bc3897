import Listing.Json.Value
import Listing.Number.Numeral
import Listing.Schema.Table
import Listing.Text.Blank
import Listing.Time.Rfc3339

/-!
The values of a filter. A list of values may stand in parentheses; a value in quotation marks
keeps its blanks. Each value becomes an argument of the field's kind.
-/
namespace Listing

inductive ScanState where
  | gap
  | bare
  | quoted (mark : Char)
deriving DecidableEq, Repr

/-- A quotation mark opens a value only if there is another one to close it. -/
def opensQuote (c : Char) (rest : List Char) : Bool := (c == '"' || c == '\'') && rest.contains c

def scanValues : ScanState → List Char → List Char → List (List Char)
  | .gap, _, [] => []
  | .gap, value, c :: s =>
    if Text.isBlank c then scanValues .gap value s
    else if opensQuote c s then scanValues (.quoted c) [] s
    else scanValues .bare [c] s
  | .bare, value, [] => [value.reverse]
  | .bare, value, c :: s =>
    if Text.isBlank c then value.reverse :: scanValues .gap [] s
    else scanValues .bare (c :: value) s
  | .quoted _, value, [] => [value.reverse]
  | .quoted mark, value, c :: s =>
    if c = mark then value.reverse :: scanValues .gap [] s
    else scanValues (.quoted mark) (c :: value) s

def stripOpening : List Char → List Char
  | '(' :: s => s
  | s => s

def stripClosing (s : List Char) : List Char :=
  if s.getLast? = some ')' then s.dropLast else s

def isVoid (value : List Char) : Bool :=
  let v := Text.trim value
  v == [] || v == ['('] || v == [')'] || v == ['(', ')']

def splitValues (raw : List Char) : Option (List (List Char)) :=
  let values := scanValues .gap [] (stripClosing (stripOpening (Text.trim raw)))
  if values.isEmpty || values.any isVoid then none else some values

def typedValue (kind : FieldKind) (value : List Char) : Option Json :=
  match kind with
  | .numeric => match readInt64? value with
    | some i => some (.int i)
    | none => ((readReal? value).filter (·.isFinite)).map .real
  | .boolean =>
    if value = "true".toList then some (.bool true)
    else if value = "false".toList then some (.bool false)
    else none
  | .date => if Rfc3339.isTimestamp value then some (.string (String.ofList value)) else none
  | .string => some (.string (String.ofList value))

end Listing
