import Listing.Text.CaseTable

namespace Listing.Text

def isCased (c : Char) : Bool := inRanges casedRanges c.toNat

def isCaseIgnorable (c : Char) : Bool := inRanges caseIgnorableRanges c.toNat

def CaseRun.apply? (r : CaseRun) (n : Nat) : Option Nat :=
  if r.first ≤ n ∧ n ≤ r.last ∧ (n - r.first) % r.step = 0 then some (r.lower + (n - r.first))
  else none

def lowerChar (c : Char) : List Char :=
  if c.toNat < 0x80 then [c.toLower]
  else if c = 'İ' then ['i', '\u0307']
  else match lowerRuns.findSome? fun r => r.apply? c.toNat with
    | some n => [Char.ofNat n]
    | none => [c]

def startsCased : List Char → Bool
  | [] => false
  | c :: s => if isCaseIgnorable c then startsCased s else isCased c

/-- `afterCased`: a cased character precedes, with nothing between but case-ignorable ones. -/
def lowerFrom (afterCased : Bool) : List Char → List Char
  | [] => []
  | c :: s =>
    let next := if isCaseIgnorable c then afterCased else isCased c
    if c = 'Σ' then (if afterCased && !startsCased s then 'ς' else 'σ') :: lowerFrom next s
    else lowerChar c ++ lowerFrom next s

def lowercase (s : String) : String := String.ofList (lowerFrom false s.toList)

end Listing.Text
