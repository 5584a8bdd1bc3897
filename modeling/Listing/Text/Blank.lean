namespace Listing.Text

/-- The characters that separate words: those with the Unicode property White_Space. -/
def isBlank (c : Char) : Bool :=
  let n := c.toNat
  (0x9 ≤ n && n ≤ 0xD) || n == 0x20 || n == 0x85 || n == 0xA0 || n == 0x1680 ||
    (0x2000 ≤ n && n ≤ 0x200A) || n == 0x2028 || n == 0x2029 || n == 0x202F || n == 0x205F ||
    n == 0x3000

def trimStart (s : List Char) : List Char := s.dropWhile isBlank

def trimEnd (s : List Char) : List Char := (s.reverse.dropWhile isBlank).reverse

def trim (s : List Char) : List Char := trimEnd (trimStart s)

def cutAtBlank : List Char → Option (List Char × List Char)
  | [] => none
  | c :: s => if isBlank c then some ([], s) else (cutAtBlank s).map fun p => (c :: p.1, p.2)

def wordsFrom : List Char → List Char → List (List Char)
  | [], [] => []
  | word, [] => [word.reverse]
  | [], c :: s => if isBlank c then wordsFrom [] s else wordsFrom [c] s
  | word, c :: s => if isBlank c then word.reverse :: wordsFrom [] s else wordsFrom (c :: word) s

def words (s : List Char) : List (List Char) := wordsFrom [] s

end Listing.Text
