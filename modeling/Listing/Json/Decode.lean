import Listing.Json.Node

namespace Listing

inductive Found where
  | null
  | bool (value : Bool)
  | whole (value : Int)
  | real (value : Binary64)
  | string (value : String)
  | sequence
  | map
deriving DecidableEq, Repr

inductive DecodeError where
  | invalidType (found : Found) (expected : String)
  | invalidValue (found : Found) (expected : String)
  | invalidLength (length : Nat) (expected : String)
  | surplus (length : Nat)
  | unknownVariant (name : String) (variants : List String)
  | missingField (name : String)
  | duplicateField (name : String)
  /-- The text is not JSON, nests too deep, holds a string or number without a value, or gives an
  enumeration in a form that none has. -/
  | unreadable
deriving DecidableEq, Repr

def backquoted (s : String) : String := "`" ++ s ++ "`"

def Found.message : Found → String
  | .null => "null"
  | .bool true => "boolean " ++ backquoted "true"
  | .bool false => "boolean " ++ backquoted "false"
  | .whole i => "integer " ++ backquoted (String.ofList (Json.intText i))
  | .real x => "floating point " ++ backquoted (String.ofList x.text)
  | .string s => "string " ++ Text.literal s
  | .sequence => "sequence"
  | .map => "map"

def choices : List String → String
  | [] => "there are no variants"
  | [a] => backquoted a
  | [a, b] => backquoted a ++ " or " ++ backquoted b
  | names => "one of " ++ ", ".intercalate (names.map backquoted)

def DecodeError.message? : DecodeError → Option String
  | .invalidType found expected =>
    some ("invalid type: " ++ found.message ++ ", expected " ++ expected)
  | .invalidValue found expected =>
    some ("invalid value: " ++ found.message ++ ", expected " ++ expected)
  | .invalidLength n expected =>
    some ("invalid length " ++ toString n ++ ", expected " ++ expected)
  | .surplus n => some ("invalid length " ++ toString n ++ ", expected fewer elements in array")
  | .unknownVariant name variants =>
    some ("unknown variant " ++ backquoted name ++ ", expected " ++ choices variants)
  | .missingField name => some ("missing field " ++ backquoted name)
  | .duplicateField name => some ("duplicate field " ++ backquoted name)
  | .unreadable => none

def Node.found? : Node → Option Found
  | .null => some .null
  | .bool b => some (.bool b)
  | .number (some (.whole i)) => some (.whole i)
  | .number (some (.real x)) => some (.real x)
  | .number none => none
  | .string s => s.map .string
  | .array _ => some .sequence
  | .object _ => some .map

abbrev Decoder (α : Type) := Node → Except DecodeError α

namespace Decoder

def mismatch (expected : String) (x : Node) : Except DecodeError α :=
  match x.found? with
  | some found => .error (.invalidType found expected)
  | none => .error .unreadable

def string : Decoder String
  | .string (some s) => .ok s
  | x => mismatch "a string" x

def boolean : Decoder Bool
  | .bool b => .ok b
  | x => mismatch "a boolean" x

def unsigned : Decoder UInt64
  | .number (some (.whole i)) =>
    if 0 ≤ i ∧ i < Int.pow 2 64 then .ok (UInt64.ofNat i.toNat)
    else .error (.invalidValue (.whole i) "usize")
  | x => mismatch "usize" x

def signed : Decoder Int
  | .number (some (.whole i)) =>
    if -Int.pow 2 63 ≤ i ∧ i < Int.pow 2 63 then .ok i else .error (.invalidValue (.whole i) "i64")
  | x => mismatch "i64" x

def nullable (d : Decoder α) : Decoder (Option α)
  | .null => .ok none
  | x => (d x).map some

def sequence (levels : Nat) (item : Decoder α) : Decoder (List α)
  | .array items => if levels = 0 then .error .unreadable else items.mapM item
  | x => mismatch "a sequence" x

def lookupVariant (variants : List (String × α)) (name : String) : Except DecodeError α :=
  match variants.lookup name with
  | some a => .ok a
  | none => .error (.unknownVariant name (variants.map (·.1)))

/-- One of the named values: its name, or an object with the name as its only key and null
there. -/
def variant (levels : Nat) (variants : List (String × α)) : Decoder α
  | .string (some name) => lookupVariant variants name
  | .object ((some name, x) :: rest) =>
    if levels = 0 then .error .unreadable
    else do
      let a ← lookupVariant variants name
      match x with
      | .null => if rest.isEmpty then .ok a else .error .unreadable
      | x => mismatch "unit" x
  | _ => .error .unreadable

/-- A field of the record `σ`: the key and the other keys that it goes by, and the change that its
value makes to the record. -/
structure Slot (σ : Type) where
  key : String
  otherKeys : List String
  isRequired : Bool
  read : Decoder (σ → σ)

namespace Slot

def required (key : String) (d : Decoder α) (set : α → σ → σ) : Slot σ :=
  ⟨key, [], true, fun x => (d x).map set⟩

def optional (key : String) (d : Decoder α) (set : α → σ → σ) : Slot σ :=
  ⟨key, [], false, fun x => (d x).map set⟩

def accepts (s : Slot σ) (key : String) : Bool := s.key == key || s.otherKeys.contains key

end Slot

def readEntries (slots : List (Slot σ)) (seen : List String) (r : σ) :
    List (Option String × Node) → Except DecodeError (List String × σ)
  | [] => .ok (seen, r)
  | (none, _) :: _ => .error .unreadable
  | (some key, x) :: es => match slots.find? fun s => s.accepts key with
    | none => readEntries slots seen r es
    | some s =>
      if seen.contains s.key then .error (.duplicateField s.key)
      else do readEntries slots (s.key :: seen) ((← s.read x) r) es

def readElements (expected : String) (index : Nat) (r : σ) :
    List (Slot σ) → List Node → Except DecodeError σ
  | [], [] => .ok r
  | [], x :: xs => .error (.surplus (index + (x :: xs).length))
  | s :: slots, [] =>
    if s.isRequired then .error (.invalidLength index expected)
    else readElements expected (index + 1) r slots []
  | s :: slots, x :: xs => do readElements expected (index + 1) ((← s.read x) r) slots xs

def record (levels : Nat) (name : String) (slots : List (Slot σ)) (blank : σ) : Decoder σ
  | .object entries =>
    if levels = 0 then .error .unreadable
    else do
      let (seen, r) ← readEntries slots [] blank entries
      match slots.find? fun s => s.isRequired && !seen.contains s.key with
      | some s => .error (.missingField s.key)
      | none => .ok r
  | .array items =>
    if levels = 0 then .error .unreadable
    else readElements (name ++ " with " ++ toString slots.length ++ " elements") 0 blank slots items
  | x => mismatch name x

end Decoder

/-- Decodes a text. A fault has its own wording only if the text is sound as a whole and no array
goes on after its record. -/
def decodeNode (d : Decoder α) (x : Node) : Except DecodeError α :=
  match d x with
  | .ok a => .ok a
  | .error (.surplus _) => .error .unreadable
  | .error e => if x.sound?.isSome then .error e else .error .unreadable

def decodeText (d : Decoder α) (s : String) : Except DecodeError α :=
  match Node.ofChars? s.toList with
  | some x => decodeNode d x
  | none => .error .unreadable

def decodeValue (d : Decoder α) (v : Json) : Except DecodeError α := d (.ofJson v)

end Listing
