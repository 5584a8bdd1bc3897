namespace Listing

abbrev TableId := Nat

inductive Usage where
  | select
  | search
  | filter
  | sort
  | mandatory
deriving DecidableEq, Repr

namespace Usage

def all : List Usage := [.select, .search, .filter, .sort, .mandatory]

def name : Usage → String
  | .select => "select"
  | .search => "search"
  | .filter => "filter"
  | .sort => "sort"
  | .mandatory => "mandatory"

end Usage

@[ext]
structure UsageSet where
  select : Bool := false
  search : Bool := false
  filter : Bool := false
  sort : Bool := false
  mandatory : Bool := false
deriving DecidableEq, Repr

namespace UsageSet

def empty : UsageSet := {}

def put (s : UsageSet) (u : Usage) (b : Bool) : UsageSet :=
  match u with
  | .select => { s with select := b }
  | .search => { s with search := b }
  | .filter => { s with filter := b }
  | .sort => { s with sort := b }
  | .mandatory => { s with mandatory := b }

def insert (s : UsageSet) (u : Usage) : UsageSet := s.put u true

def erase (s : UsageSet) (u : Usage) : UsageSet := s.put u false

def contains (s : UsageSet) : Usage → Bool
  | .select => s.select
  | .search => s.search
  | .filter => s.filter
  | .sort => s.sort
  | .mandatory => s.mandatory

def ofList (us : List Usage) : UsageSet := us.foldl insert empty

def toList (s : UsageSet) : List Usage := Usage.all.filter s.contains

def isEmpty (s : UsageSet) : Bool := s = empty

def isOnly (s : UsageSet) (u : Usage) : Bool := s = empty.insert u

def intersects (s t : UsageSet) : Bool := Usage.all.any fun u => s.contains u && t.contains u

end UsageSet

structure UsageMap where
  entries : List (TableId × UsageSet) := []
deriving DecidableEq, Repr

namespace UsageMap

def empty : UsageMap := {}

def markEntries (t : TableId) (u : Usage) : List (TableId × UsageSet) → List (TableId × UsageSet)
  | [] => [(t, UsageSet.empty.insert u)]
  | (k, s) :: es =>
    if t < k then (t, UsageSet.empty.insert u) :: (k, s) :: es
    else if t = k then (k, s.insert u) :: es
    else (k, s) :: markEntries t u es

def mark (m : UsageMap) (t : TableId) (u : Usage) : UsageMap := ⟨markEntries t u m.entries⟩

def unmarkAll (m : UsageMap) (u : Usage) : UsageMap :=
  ⟨(m.entries.map fun e => (e.1, e.2.erase u)).filter fun e => !e.2.isEmpty⟩

def get (m : UsageMap) (t : TableId) : UsageSet := (m.entries.lookup t).getD .empty

def tablesWithAny (m : UsageMap) (us : UsageSet) : List TableId :=
  (m.entries.filter fun e => e.2.intersects us).map (·.1)

def isEmpty (m : UsageMap) : Bool := m.entries.isEmpty

end UsageMap
end Listing
