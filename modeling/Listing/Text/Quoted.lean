import Listing.Text.PrintTable

namespace Listing.Text

def doubleMarks : List Char → List Char
  | [] => []
  | c :: s => if c = '"' then '"' :: '"' :: doubleMarks s else c :: doubleMarks s

def identifier (name : String) : String :=
  String.ofList ('"' :: doubleMarks name.toList ++ ['"'])

def hexDigit (n : Nat) : Char :=
  if n < 10 then Char.ofNat (0x30 + n) else Char.ofNat (0x61 + (n - 10))

def upperHexDigit (n : Nat) : Char :=
  if n < 10 then Char.ofNat (0x30 + n) else Char.ofNat (0x41 + (n - 10))

def hexDigits (count n : Nat) : List Char :=
  match count with
  | 0 => []
  | k + 1 => hexDigits k (n / 16) ++ [hexDigit (n % 16)]

def codePoint (n : Nat) : List Char :=
  let digits := (hexDigits 6 n).dropWhile (· == '0')
  if digits.isEmpty then ['0'] else digits

def isPrintable (c : Char) : Bool :=
  if c.toNat < 0x7F then 0x20 ≤ c.toNat
  else !inRanges unprintableRanges c.toNat && !inRanges combiningRanges c.toNat

def literalChar (c : Char) : List Char :=
  if c = '\x00' then ['\\', '0']
  else if c = '\t' then ['\\', 't']
  else if c = '\r' then ['\\', 'r']
  else if c = '\n' then ['\\', 'n']
  else if c = '\\' then ['\\', '\\']
  else if c = '"' then ['\\', '"']
  else if isPrintable c then [c]
  else ['\\', 'u', '\x7b'] ++ codePoint c.toNat ++ ['\x7d']

def literal (s : String) : String :=
  String.ofList ('"' :: s.toList.flatMap literalChar ++ ['"'])

end Listing.Text
