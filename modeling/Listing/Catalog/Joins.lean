import Listing.Catalog.Basic

/-!
Which relations a query has to join: those on the way from the root to a table that it uses. A walk
over the tables keeps the path by which it has come, and records all of it at every used table. The
relations are listed by depth, so that a relation stands behind the one that leads to it.
-/
namespace Listing.Catalog

structure Found where
  relation : RelationEntry
  depth : Nat
deriving DecidableEq, Repr

def record (r : RelationEntry) (depth : Nat) : List Found → List Found
  | [] => [⟨r, depth⟩]
  | f :: fs =>
    if f.relation.id = r.id then ⟨f.relation, min f.depth depth⟩ :: fs
    else f :: record r depth fs

def recordPath (path : List RelationEntry) (found : List Found) : List Found :=
  path.zipIdx.foldl (fun found e => record e.1 e.2 found) found

/-- Walks over the tables below `t`, of which the path leads to `t`, and over at most so many
relations in a row. -/
def walk (c : Catalog) (used : List TableId) :
    Nat → List RelationEntry → TableId → List Found → List Found
  | 0, _, _, found => found
  | n + 1, path, t, found => (c.relationsOf t).foldl (fun found r =>
      walk c used n (path ++ [r]) r.child
        (if used.contains r.child then recordPath (path ++ [r]) found else found)) found

def insertByDepth (f : Found) : List Found → List Found
  | [] => [f]
  | g :: gs => if g.depth ≤ f.depth then g :: insertByDepth f gs else f :: g :: gs

def sortByDepth (found : List Found) : List Found :=
  found.foldl (fun sorted f => insertByDepth f sorted) []

def requiredRelations (c : Catalog) (used : List TableId) : List RelationEntry :=
  (sortByDepth (c.walk used c.tables.length [] root [])).map (·.relation)

end Listing.Catalog
