namespace Listing

/-- A double-precision number: a sign bit, 11 bits of exponent and 52 bits of fraction. -/
structure Binary64 where
  bits : UInt64
deriving DecidableEq, Repr, Inhabited

namespace Binary64

def divEven (num den : Nat) : Nat :=
  let q := num / den
  let r := num % den
  if den < 2 * r ∨ (2 * r = den ∧ q % 2 = 1) then q + 1 else q

def floorLog2 (num den : Nat) : Int :=
  let e : Int := (num.log2 : Int) - den.log2
  let reached := if 0 ≤ e then den * Nat.pow 2 e.toNat ≤ num else den ≤ num * Nat.pow 2 (-e).toNat
  if reached then e else e - 1

def infinityBits : Nat := 0x7FF * Nat.pow 2 52

/-- The bits below the sign for the quotient of two numbers. The significand carries into the
exponent by plain addition. -/
def magnitude (num den : Nat) : Nat :=
  if num = 0 then 0
  else
    let e := max (floorLog2 num den - 52) (-1074)
    let m := if 0 ≤ e then divEven num (den * Nat.pow 2 e.toNat)
      else divEven (num * Nat.pow 2 (-e).toNat) den
    min ((e + 1074).toNat * Nat.pow 2 52 + m) infinityBits

def withSign (negative : Bool) (magnitude : Nat) : Binary64 :=
  ⟨UInt64.ofNat ((if negative then Nat.pow 2 63 else 0) + magnitude)⟩

def ofRatio (negative : Bool) (num den : Nat) : Binary64 := withSign negative (magnitude num den)

def ofScientific (negative : Bool) (m : Nat) (e : Int) : Binary64 :=
  if m = 0 ∨ e + m.log2 + 1 < -400 then withSign negative 0
  else if 400 < e then withSign negative infinityBits
  else if 0 ≤ e then ofRatio negative (m * Nat.pow 10 e.toNat) 1
  else ofRatio negative m (Nat.pow 10 (-e).toNat)

def ofInt (i : Int) : Binary64 := ofRatio (i < 0) i.natAbs 1

def nan : Binary64 := ⟨0x7FF8000000000000⟩

def isNegative (x : Binary64) : Bool := Nat.pow 2 63 ≤ x.bits.toNat

def exponentField (x : Binary64) : Nat := x.bits.toNat / Nat.pow 2 52 % Nat.pow 2 11

def fraction (x : Binary64) : Nat := x.bits.toNat % Nat.pow 2 52

def isFinite (x : Binary64) : Bool := x.exponentField < 0x7FF

def significand (x : Binary64) : Nat :=
  if x.exponentField = 0 then x.fraction else x.fraction + Nat.pow 2 52

def exponent (x : Binary64) : Int :=
  if x.exponentField = 0 then -1074 else (x.exponentField : Int) - 1075

def numerator (x : Binary64) : Nat := x.significand * Nat.pow 2 x.exponent.toNat

def denominator (x : Binary64) : Nat := Nat.pow 2 (-x.exponent).toNat

def mul (x y : Binary64) : Binary64 :=
  ofRatio (x.isNegative != y.isNegative) (x.numerator * y.numerator)
    (x.denominator * y.denominator)

def div (x y : Binary64) : Binary64 :=
  ofRatio (x.isNegative != y.isNegative) (x.numerator * y.denominator)
    (x.denominator * y.numerator)

def add (x y : Binary64) : Binary64 :=
  ofRatio false (x.numerator * y.denominator + y.numerator * x.denominator)
    (x.denominator * y.denominator)

def roundWhole (x : Binary64) : Binary64 :=
  ofRatio false ((2 * x.numerator + x.denominator) / (2 * x.denominator)) 1

def powFrom (r x : Binary64) : Nat → Nat → Binary64
  | 0, _ => r
  | steps + 1, n =>
    if n = 0 then r else powFrom (if n % 2 = 1 then r.mul x else r) (x.mul x) steps (n / 2)

def pow (x : Binary64) (n : Nat) : Binary64 := powFrom (ofRatio false 1 1) x n n

def powerOfTen (e : Nat) : Binary64 := ofScientific false 1 e

def scaleTen (x : Binary64) (e : Int) : Binary64 :=
  if x.significand = 0 then x
  else if 308 < e then withSign x.isNegative infinityBits
  else if 0 ≤ e then x.mul (powerOfTen e.toNat)
  else if -308 ≤ e then x.div (powerOfTen (-e).toNat)
  else if -616 ≤ e then (x.div (powerOfTen 308)).div (powerOfTen (-e - 308).toNat)
  else withSign x.isNegative 0

def ofSingle (bits : UInt32) : Binary64 :=
  let n := bits.toNat
  let negative : Bool := Nat.pow 2 31 ≤ n
  let field := n / Nat.pow 2 23 % Nat.pow 2 8
  let fraction := n % Nat.pow 2 23
  if field = 0xFF then withSign negative (infinityBits + fraction * Nat.pow 2 29)
  else if field = 0 then ofRatio negative fraction (Nat.pow 2 149)
  else ofRatio negative ((fraction + Nat.pow 2 23) * Nat.pow 2 field) (Nat.pow 2 150)

end Binary64
end Listing
