import Listing.Catalog.Basic
import Listing.Query.Refusal
import Listing.Text.Blank

namespace Listing

structure SortTerm where
  column : Column
  direction : SortDirection
deriving DecidableEq, Repr

namespace SortTerm

/-- Judges one entry after entries with the given keys, and gives the keys seen so far. A key
counts as seen if its field can be sorted by, whatever its direction. -/
def judge (c : Catalog) (seen : List String) (raw : String) :
    Except Refusal SortTerm × List String :=
  match Text.words raw.toList with
  | [key, direction] =>
    let key := String.ofList key
    match (c.indexed? key).filter fun f => f.field.sortable with
    | none => (.error .sortField, seen)
    | some column =>
      if seen.contains key then (.error (.sortDuplicate key), seen)
      else match SortDirection.ofName? (String.ofList direction) with
        | none => (.error .sortDirection, key :: seen)
        | some direction => (.ok ⟨column, direction⟩, key :: seen)
  | _ => (.error .sortFormat, seen)

def judgeAll (c : Catalog) (seen : List String) : List String → List (Except Refusal SortTerm)
  | [] => []
  | raw :: raws => (judge c seen raw).1 :: judgeAll c (judge c seen raw).2 raws

def accepted (c : Catalog) (raws : List String) : List SortTerm :=
  (judgeAll c [] raws).filterMap (·.toOption)

def refused (c : Catalog) (raws : List String) : List (Position × Refusal) :=
  ((judgeAll c [] raws).zipIdx 1).filterMap fun e => match e.1 with
    | .error r => some (.sort e.2, r)
    | .ok _ => none

def defaults (c : Catalog) (terms : List SortTerm) : List SortTerm :=
  (c.defaultSorts.filter fun f => !terms.any fun t => t.column.id == f.id).filterMap fun f =>
    f.field.sort.map fun d => ⟨f, d⟩

def order (c : Catalog) (raws : List String) : List SortTerm :=
  if (refused c raws).isEmpty then accepted c raws ++ defaults c (accepted c raws) else []

end SortTerm
end Listing
