import Listing.Number.Numeral
import Listing.Time.Calendar

namespace Listing.Rfc3339

abbrev Reader (α : Type) := List Char → Option (α × List Char)

def digits (count : Nat) : Reader Nat := fun s =>
  let front := s.take count
  if front.length = count && front.all isDigit then some (digitsValue front, s.drop count) else none

def char (expected : Char → Bool) : Reader Unit
  | c :: s => if expected c then some ((), s) else none
  | [] => none

def upTo (limit : Nat) : Reader Nat := fun s => (digits 2 s).filter fun p => p.1 ≤ limit

def date : Reader Unit := fun s => do
  let (year, s) ← digits 4 s
  let ((), s) ← char (· == '-') s
  let (month, s) ← digits 2 s
  let ((), s) ← char (· == '-') s
  let (day, s) ← digits 2 s
  if 1 ≤ month ∧ month ≤ 12 ∧ 1 ≤ day ∧ day ≤ daysInMonth year month then some ((), s) else none

def fraction : Reader Unit
  | '.' :: s => if (s.takeWhile isDigit).isEmpty then none else some ((), s.dropWhile isDigit)
  | s => some ((), s)

def time : Reader Unit := fun s => do
  let (_, s) ← upTo 23 s
  let ((), s) ← char (· == ':') s
  let (_, s) ← upTo 59 s
  let ((), s) ← char (· == ':') s
  let (_, s) ← upTo 60 s
  fraction s

def offset : Reader Unit
  | c :: s =>
    if c = 'Z' ∨ c = 'z' then some ((), s)
    else do
      let ((), s) ← char (fun c => c == '+' || c == '-' || c == '\u2212') (c :: s)
      let (_, s) ← upTo 23 s
      let ((), s) ← char (· == ':') s
      let (_, s) ← upTo 59 s
      some ((), s)
  | [] => none

def isTimestamp (s : List Char) : Bool :=
  match (do
    let ((), s) ← date s
    let ((), s) ← char (fun c => c == 'T' || c == 't' || c == ' ') s
    let ((), s) ← time s
    offset s) with
  | some ((), []) => true
  | _ => false

end Listing.Rfc3339
