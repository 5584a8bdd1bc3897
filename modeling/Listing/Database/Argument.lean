import Listing.Json.Value
import Listing.Text.FormEncoding

namespace Listing

inductive Argument where
  | null
  | bool (value : Bool)
  | int (value : Int)
  | real (value : Binary64)
  | text (value : String)
  | json (value : Json)
deriving DecidableEq, Repr

namespace Argument

def ofJson : Json → Argument
  | .null => .null
  | .bool b => .bool b
  | .number (.whole i) => if -Int.pow 2 63 ≤ i ∧ i < Int.pow 2 63 then .int i else .real (.ofInt i)
  | .number (.real x) => .real x
  | .string s => .text s
  | .array items => .json (.array items)
  | .object entries => .json (.object entries)

def typeName : Argument → String
  | .null | .text _ => "TEXT"
  | .bool _ => "BOOL"
  | .int _ => "INT8"
  | .real _ => "FLOAT8"
  | .json _ => "JSONB"

def bigEndian (n : Nat) : Nat → List UInt8
  | 0 => []
  | count + 1 => bigEndian (n / 256) count ++ [UInt8.ofNat (n % 256)]

def jsonVersion : UInt8 := 1

def encode : Argument → Option (List UInt8)
  | .null => none
  | .bool b => some [if b then 1 else 0]
  | .int i => some (bigEndian (i % Int.pow 2 64).toNat 8)
  | .real x => some (bigEndian x.bits.toNat 8)
  | .text s => some (Text.utf8 s.toList)
  | .json v => some (jsonVersion :: Text.utf8 v.chars)

end Argument
end Listing
