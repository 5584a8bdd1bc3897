import Listing.Query.Statement
import Listing.Request
import Listing.Text.Lowercase

namespace Listing

structure Draft where
  predicates : List Predicate := []
  arguments : List Json := []
  usage : UsageMap := {}
deriving DecidableEq

namespace Draft

def mark (d : Draft) (f : Column) (u : Usage) : Draft := { d with usage := d.usage.mark f.table u }

def add (d : Draft) (predicate : Nat → Predicate) (arguments : List Json) : Draft :=
  { d with
    predicates := d.predicates ++ [predicate (d.arguments.length + 1)],
    arguments := d.arguments ++ arguments }

def addFilter (d : Draft) (f : Filter) : Draft :=
  match f.test with
  | .compare op v => (d.add (.compare f.column op) [v]).mark f.column .filter
  | .among vs =>
    (d.add (fun n => .among f.column (List.range' n vs.length)) vs).mark f.column .filter

def addFilters (d : Draft) (fs : List Filter) : Draft := fs.foldl addFilter d

end Draft

namespace Search

def isNumeric (term : String) : Bool := (readReal? term.toList).isSome

def tested (c : Catalog) (term : String) : List Column :=
  c.searchColumns.filter fun f => f.field.kind != .numeric || isNumeric term

def test (f : Column) (n : Nat) : SearchTest :=
  match f.field.kind with
  | .numeric => .startsWith f n
  | .string | .boolean | .date => .contains f n

def pattern (term : String) (f : Column) : Json :=
  match f.field.kind with
  | .numeric => .string (term ++ "%")
  | .string | .boolean | .date => .string ("%" ++ Text.lowercase term ++ "%")

def add (c : Catalog) (term : String) (d : Draft) : Draft :=
  if term.isEmpty || c.searchColumns.isEmpty then d
  else
    let fs := tested c term
    c.searchColumns.foldl (fun d f => d.mark f .search)
      (d.add (fun n => .anyOf ((fs.zipIdx n).map fun e => test e.1 e.2)) (fs.map (pattern term)))

def refused (c : Catalog) : List (Position × Refusal) :=
  if c.searchColumns.isEmpty then [(.search, .noSearchFields)] else []

end Search

structure Compiled where
  draft : Draft := {}
  order : List SortTerm := []
  refusals : List (Position × Refusal) := []
deriving DecidableEq

namespace Catalog

def draft (c : Catalog) (r : Request) : Draft :=
  ((Search.add c r.search { usage := c.defaultUsage }).addFilters
    (Filter.accepted c .request r.filters)).addFilters (Filter.accepted c .trusted r.localFilters)

def refusals (c : Catalog) (r : Request) : List (Position × Refusal) :=
  Search.refused c ++ Filter.refused c .request r.filters ++
    Filter.refused c .trusted r.localFilters ++ SortTerm.refused c r.sorts

/-- Sorts count as used even if another one is refused. -/
def compile (c : Catalog) (r : Request) : Compiled where
  draft := (SortTerm.accepted c r.sorts ++ SortTerm.order c r.sorts).foldl
    (fun d t => d.mark t.column .sort) (c.draft r)
  order := SortTerm.order c r.sorts
  refusals := c.refusals r

end Catalog
end Listing
