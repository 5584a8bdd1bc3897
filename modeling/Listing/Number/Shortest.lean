import Listing.Number.Binary64

/-!
The shortest decimal text of a double-precision number: the fewest digits that round to it, of
those the nearest. It is written positionally from `10 ^ -5` up to `10 ^ 16`, always with a point,
and with a signed exponent elsewhere.
-/
namespace Listing.Binary64

/-- The least and the greatest of the reals that may round to `x`, in quarters of a unit of the
significand. Below a power of two the neighbour is half as far away. -/
def roundingBounds (x : Binary64) : Nat × Nat :=
  let m := 4 * x.significand
  (if x.fraction = 0 ∧ 1 < x.exponentField then m - 1 else m - 2, m + 2)

structure Scale where
  binary : Nat
  decimal : Nat

def scale (e k : Int) : Scale where
  binary := Nat.pow 2 e.toNat * Nat.pow 10 (-k).toNat
  decimal := Nat.pow 10 k.toNat * Nat.pow 2 (-e).toNat

def roundsTo (x : Binary64) (c : Nat) (k : Int) : Bool :=
  let s := scale (x.exponent - 2) k
  let (low, high) := x.roundingBounds
  if x.significand % 2 = 0 then
    low * s.binary ≤ c * s.decimal && c * s.decimal ≤ high * s.binary
  else low * s.binary < c * s.decimal && c * s.decimal < high * s.binary

def onGrid? (x : Binary64) (k : Int) : Option Nat :=
  let s := scale x.exponent k
  let value := x.significand * s.binary
  let c := value / s.decimal
  match x.roundsTo c k, x.roundsTo (c + 1) k with
  | true, true => some (divEven value s.decimal)
  | true, false => some c
  | false, true => some (c + 1)
  | false, false => none

def decimalExponent (x : Binary64) : Int :=
  let s := scale x.exponent (-400)
  ((Nat.toDigits 10 (x.significand * s.binary / s.decimal)).length : Int) - 401

/-- The digits and the power of ten of the shortest decimal for a positive finite `x`, looked for
on one grid after the other, the coarsest first. -/
def shortestFrom (x : Binary64) (k : Int) : Nat → Nat × Int
  | 0 => ((x.onGrid? k).getD 0, k)
  | n + 1 => match x.onGrid? k with
    | some c => (c, k)
    | none => shortestFrom x (k - 1) n

def dropZeros : Nat → Nat × Int → Nat × Int
  | 0, d => d
  | n + 1, (c, k) => if c ≠ 0 ∧ c % 10 = 0 then dropZeros n (c / 10, k + 1) else (c, k)

def shortest (x : Binary64) : Nat × Int :=
  if x.significand = 0 then (0, 0) else dropZeros 20 (shortestFrom x x.decimalExponent 17)

def decimalText (c : Nat) (k : Int) : List Char :=
  let digits := Nat.toDigits 10 c
  let point := (digits.length : Int) + k
  if 0 ≤ k ∧ point ≤ 16 then digits ++ List.replicate k.toNat '0' ++ ['.', '0']
  else if 0 < point ∧ point ≤ 16 then
    digits.take point.toNat ++ '.' :: digits.drop point.toNat
  else if -5 < point ∧ point ≤ 0 then
    ['0', '.'] ++ List.replicate (-point).toNat '0' ++ digits
  else
    let e := point - 1
    let power := (if e < 0 then '-' else '+') :: Nat.toDigits 10 e.natAbs
    match digits with
    | [d] => d :: 'e' :: power
    | d :: ds => d :: '.' :: ds ++ 'e' :: power
    | [] => []

def text (x : Binary64) : List Char :=
  let (c, k) := x.shortest
  if x.isNegative then '-' :: decimalText c k else decimalText c k

end Listing.Binary64
