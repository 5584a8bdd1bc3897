import Listing.Text.Quoted

namespace Listing.Text

def isFormSafe (b : UInt8) : Bool :=
  let n := b.toNat
  (0x30 ≤ n && n ≤ 0x39) || (0x41 ≤ n && n ≤ 0x5A) || (0x61 ≤ n && n ≤ 0x7A) ||
    n == 0x2A || n == 0x2D || n == 0x2E || n == 0x5F

def formByte (b : UInt8) : List Char :=
  if isFormSafe b then [Char.ofNat b.toNat]
  else if b = 0x20 then ['+']
  else ['%', upperHexDigit (b.toNat / 16), upperHexDigit (b.toNat % 16)]

def utf8 (s : List Char) : List UInt8 := s.flatMap String.utf8EncodeChar

def formEncode (s : List Char) : List Char := (utf8 s).flatMap formByte

def formPairs (pairs : List (String × String)) : String :=
  String.ofList (List.intercalate ['&'] (pairs.map fun p =>
    formEncode p.1.toList ++ '=' :: formEncode p.2.toList))

end Listing.Text
