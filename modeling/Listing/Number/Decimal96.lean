import Listing.Number.Numeral

/-!
Decimals with a coefficient of 96 bits. A numeric arrives as groups of four digits, each with its
power of ten thousand. The groups are added up, the most significant one first, and a sum with too
many digits is rounded to as many places as fit. The sum then takes the places of the numeric.
-/
namespace Listing

structure Decimal96 where
  coefficient : Nat
  places : Nat
deriving DecidableEq, Repr

namespace Decimal96

def limit : Nat := Nat.pow 2 96

/-- Gives up one place after the other until the coefficient fits: `dropped` so far, `left` to
give. The rounding starts from the exact coefficient each time. -/
def fitFrom (exact dropped : Nat) : Nat → Option Decimal96
  | 0 => if Binary64.divEven exact (Nat.pow 10 dropped) < limit then
      some ⟨Binary64.divEven exact (Nat.pow 10 dropped), 0⟩
    else none
  | left + 1 =>
    if Binary64.divEven exact (Nat.pow 10 dropped) < limit then
      some ⟨Binary64.divEven exact (Nat.pow 10 dropped), left + 1⟩
    else fitFrom exact (dropped + 1) left

def add? (x y : Decimal96) : Option Decimal96 :=
  let places := max x.places y.places
  fitFrom (x.coefficient * Nat.pow 10 (places - x.places) +
    y.coefficient * Nat.pow 10 (places - y.places)) 0 places

def group? (digits : Nat) (weight : Int) : Option Decimal96 :=
  if weight < -7 ∨ 7 < weight then none
  else if 0 ≤ weight then
    if digits * Nat.pow 10000 weight.toNat < limit then
      some ⟨digits * Nat.pow 10000 weight.toNat, 0⟩
    else none
  else some ⟨digits, 4 * (-weight).toNat⟩

def sumFrom (x : Decimal96) (weight : Int) : List Nat → Option Decimal96
  | [] => some x
  | g :: gs => do sumFrom (← x.add? (← group? g weight)) (weight - 1) gs

def groupsOf (n : Nat) : Nat → List Nat
  | 0 => []
  | count + 1 => groupsOf (n / 10000) count ++ [n % 10000]

def ofGroups? (groups : List Nat) (depth : Nat) : Option Decimal96 :=
  let leading := groups.dropWhile (· == 0)
  let trailing := (leading.reverse.takeWhile (· == 0)).length
  sumFrom ⟨0, 0⟩ ((leading.length : Int) - 1 - depth) (leading.take (leading.length - trailing))

def extend (x : Decimal96) : Nat → Decimal96
  | 0 => x
  | n + 1 =>
    if 10 * x.coefficient < limit then extend ⟨10 * x.coefficient, x.places + 1⟩ n else x

def rescale (x : Decimal96) (places : Nat) : Decimal96 :=
  if places < x.places then
    let unit := Nat.pow 10 (x.places - places)
    ⟨(2 * x.coefficient + unit) / (2 * unit), places⟩
  else x.extend (places - x.places)

def ofDigits? (whole fraction : List Char) : Option Decimal96 :=
  let depth := (fraction.length + 3) / 4
  let n := digitsValue (whole ++ fraction) * Nat.pow 10 (4 * depth - fraction.length)
  (ofGroups? (groupsOf n (depth + (whole.length + 3) / 4)) depth).map (·.rescale fraction.length)

def whole? (x : Decimal96) : Option Nat :=
  if x.coefficient % Nat.pow 10 x.places = 0 then some (x.coefficient / Nat.pow 10 x.places)
  else none

/-- The decimal in double precision: what stands before the point and what stands after it are
rounded apart, and their sum is brought to a whole number of units of the last place. The power of
ten that tells the two apart is kept in 128 bits. -/
def toBinary64 (x : Decimal96) : Binary64 :=
  let scale := Nat.pow 10 x.places % Nat.pow 2 128
  let whole := Binary64.ofRatio false (x.coefficient / scale) 1
  let part := x.coefficient % scale
  if part = 0 then whole
  else
    let sum := whole.add ((Binary64.ofRatio false part 1).div (.ofRatio false scale 1))
    let units := (Binary64.ofRatio false 10 1).pow x.places
    (sum.mul units).roundWhole.div units

end Decimal96
end Listing
