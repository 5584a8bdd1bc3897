import Listing.Json.Value
import Listing.Number.Numeral

/-!
Reading JSON text. A text is first read into a `Node`, which keeps the order and the repetitions of
an object's entries, and in which a string or a number may be well spelled and yet have no value:
a string with half of a surrogate pair, a number beyond double precision. A `Node` nests at will;
`Json.parse?` refuses what has no value and what nests more than 127 levels.
-/
namespace Listing

inductive Node where
  | null
  | bool (value : Bool)
  | number (value : Option JsonNumber)
  | string (value : Option String)
  | array (items : List Node)
  | object (entries : List (Option String × Node))
deriving Repr, Inhabited

namespace Node

def isSpace (c : Char) : Bool := c == ' ' || c == '\n' || c == '\r' || c == '\t'

def skip (s : List Char) : List Char := s.dropWhile isSpace

def hexValue? (c : Char) : Option Nat :=
  if '0' ≤ c ∧ c ≤ '9' then some (c.toNat - '0'.toNat)
  else if 'a' ≤ c ∧ c ≤ 'f' then some (c.toNat - 'a'.toNat + 10)
  else if 'A' ≤ c ∧ c ≤ 'F' then some (c.toNat - 'A'.toNat + 10)
  else none

def hex4? (a b c d : Char) : Option Nat := do
  some (((← hexValue? a) * 16 + (← hexValue? b)) * 256 + ((← hexValue? c) * 16 + (← hexValue? d)))

def escape? (c : Char) : Option Nat :=
  if c = '"' ∨ c = '\\' ∨ c = '/' then some c.toNat
  else if c = 'b' then some 8
  else if c = 'f' then some 12
  else if c = 'n' then some 10
  else if c = 'r' then some 13
  else if c = 't' then some 9
  else none

/-- The rest of a string after its opening mark, as code points and halves of surrogate pairs, and
what follows its closing mark. -/
def readUnits : List Char → Option (List Nat × List Char)
  | [] => none
  | '"' :: s => some ([], s)
  | '\\' :: 'u' :: a :: b :: c :: d :: s => do
    let n ← hex4? a b c d
    let (ns, s) ← readUnits s
    some (n :: ns, s)
  | '\\' :: c :: s => do
    let n ← escape? c
    let (ns, s) ← readUnits s
    some (n :: ns, s)
  | c :: s => if c = '\\' ∨ c.toNat < 0x20 then none else do
    let (ns, s) ← readUnits s
    some (c.toNat :: ns, s)

def isHighHalf (n : Nat) : Bool := 0xD800 ≤ n && n < 0xDC00

def isLowHalf (n : Nat) : Bool := 0xDC00 ≤ n && n < 0xE000

def joinHalves : List Nat → Option (List Char)
  | [] => some []
  | n :: ns =>
    if isHighHalf n then match ns with
      | m :: ms => if isLowHalf m then
          (joinHalves ms).map (Char.ofNat (0x10000 + (n - 0xD800) * 0x400 + (m - 0xDC00)) :: ·)
        else none
      | [] => none
    else if isLowHalf n then none
    else (joinHalves ns).map (Char.ofNat n :: ·)

def readString (s : List Char) : Option (Option String × List Char) :=
  (readUnits s).map fun p => ((joinHalves p.1).map String.ofList, p.2)

def appendDigits (n : Nat) : List Char → Nat × List Char
  | [] => (n, [])
  | c :: cs =>
    let m := 10 * n + (c.toNat - '0'.toNat)
    if m < Nat.pow 2 64 then appendDigits m cs else (n, c :: cs)

def realValue (negative : Bool) (whole fraction : List Char) (exponent : Int) : Binary64 :=
  let (n, wholeLeft) := appendDigits 0 whole
  let (n, fractionLeft) := appendDigits n fraction
  let places : Int := fraction.length - fractionLeft.length
  (Binary64.ofRatio negative n 1).scaleTen (exponent + wholeLeft.length - places)

/-- The value of a number in its four parts. Without fraction and exponent it is whole if 64 bits
hold it; a negative zero is real. -/
def numberValue (negative : Bool) (whole fraction : List Char) (exponent : Option Int) :
    Option JsonNumber :=
  let n := digitsValue whole
  if fraction.isEmpty && exponent.isNone && !negative && n < Nat.pow 2 64 then some (.whole n)
  else if fraction.isEmpty && exponent.isNone && negative && 0 < n && n ≤ Nat.pow 2 63 then
    some (.whole (-n))
  else
    let x := realValue negative whole fraction (exponent.getD 0)
    if x.isFinite then some (.real x) else none

def readWholePart : List Char → Option (List Char × List Char)
  | '0' :: s => some (['0'], s)
  | s =>
    if (s.takeWhile isDigit).isEmpty then none else some (s.takeWhile isDigit, s.dropWhile isDigit)

def readFraction : List Char → Option (List Char × List Char)
  | '.' :: s =>
    if (s.takeWhile isDigit).isEmpty then none else some (s.takeWhile isDigit, s.dropWhile isDigit)
  | s => some ([], s)

def readExponent : List Char → Option (Option Int × List Char)
  | c :: s =>
    if c = 'e' ∨ c = 'E' then
      let (negative, s) := splitSign s
      let digits := s.takeWhile isDigit
      if digits.isEmpty then none
      else some (some (if negative then -(digitsValue digits : Int) else digitsValue digits),
        s.dropWhile isDigit)
    else some (none, c :: s)
  | [] => some (none, [])

def readNumber (s : List Char) : Option (Node × List Char) := do
  let negative := s.head? == some '-'
  let (whole, s) ← readWholePart (if negative then s.tail else s)
  let (fraction, s) ← readFraction s
  let (exponent, s) ← readExponent s
  some (.number (numberValue negative whole fraction exponent), s)

def readScalar : List Char → Option (Node × List Char)
  | 'n' :: 'u' :: 'l' :: 'l' :: s => some (.null, s)
  | 't' :: 'r' :: 'u' :: 'e' :: s => some (.bool true, s)
  | 'f' :: 'a' :: 'l' :: 's' :: 'e' :: s => some (.bool false, s)
  | '"' :: s => (readString s).map fun p => (.string p.1, p.2)
  | s => readNumber s

mutual
def readValue : Nat → List Char → Option (Node × List Char)
  | 0, _ => none
  | n + 1, '[' :: s => match skip s with
    | ']' :: s => some (.array [], s)
    | s => (readItems n s).map fun p => (.array p.1, p.2)
  | n + 1, '\x7b' :: s => match skip s with
    | '\x7d' :: s => some (.object [], s)
    | s => (readEntries n s).map fun p => (.object p.1, p.2)
  | _ + 1, s => readScalar s

def readItems : Nat → List Char → Option (List Node × List Char)
  | 0, _ => none
  | n + 1, s => do
    let (x, s) ← readValue n (skip s)
    match skip s with
    | ',' :: s =>
      let (xs, s) ← readItems n s
      some (x :: xs, s)
    | ']' :: s => some ([x], s)
    | _ => none

def readEntries : Nat → List Char → Option (List (Option String × Node) × List Char)
  | 0, _ => none
  | n + 1, s => match skip s with
    | '"' :: s => do
      let (key, s) ← readString s
      match skip s with
      | ':' :: s =>
        let (x, s) ← readValue n (skip s)
        match skip s with
        | ',' :: s =>
          let (es, s) ← readEntries n s
          some ((key, x) :: es, s)
        | '\x7d' :: s => some ([(key, x)], s)
        | _ => none
      | _ => none
    | _ => none
end

/-- Reads a whole text. Every second step at least takes a character. -/
def ofChars? (s : List Char) : Option Node :=
  match readValue (2 * s.length + 2) (skip s) with
  | some (x, s) => if (skip s).isEmpty then some x else none
  | none => none

mutual
def value? : Node → Option Json
  | .null => some .null
  | .bool b => some (.bool b)
  | .number n => n.map .number
  | .string s => s.map .string
  | .array items => (itemsValue? items).map .array
  | .object entries => (entriesValue? entries).map Json.sortedObject

def itemsValue? : List Node → Option (List Json)
  | [] => some []
  | x :: xs => do some ((← x.value?) :: (← itemsValue? xs))

def entriesValue? : List (Option String × Node) → Option (List (String × Json))
  | [] => some []
  | (k, x) :: es => do some ((← k, ← x.value?) :: (← entriesValue? es))
end

mutual
def depth : Node → Nat
  | .array items => itemsDepth items + 1
  | .object entries => entriesDepth entries + 1
  | .null | .bool _ | .number _ | .string _ => 0

def itemsDepth : List Node → Nat
  | [] => 0
  | x :: xs => max x.depth (itemsDepth xs)

def entriesDepth : List (Option String × Node) → Nat
  | [] => 0
  | (_, x) :: es => max x.depth (entriesDepth es)
end

mutual
def ofJson : Json → Node
  | .null => .null
  | .bool b => .bool b
  | .number n => .number (some n)
  | .string s => .string (some s)
  | .array items => .array (ofItems items)
  | .object entries => .object (ofEntries entries)

def ofItems : List Json → List Node
  | [] => []
  | x :: xs => ofJson x :: ofItems xs

def ofEntries : List (String × Json) → List (Option String × Node)
  | [] => []
  | (k, x) :: es => (some k, ofJson x) :: ofEntries es
end

end Node

def Json.maxDepth : Nat := 127

def Node.sound? (x : Node) : Option Json := if x.depth ≤ Json.maxDepth then x.value? else none

def Json.parse? (s : List Char) : Option Json := (Node.ofChars? s).bind Node.sound?

end Listing
