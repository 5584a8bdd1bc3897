namespace Listing

inductive FieldKind where
  | numeric
  | string
  | boolean
  | date
deriving DecidableEq, Repr

def FieldKind.name : FieldKind → String
  | .numeric => "numeric"
  | .string => "string"
  | .boolean => "boolean"
  | .date => "date"

inductive SortDirection where
  | asc
  | desc
deriving DecidableEq, Repr

namespace SortDirection

def name : SortDirection → String
  | .asc => "asc"
  | .desc => "desc"

def keyword : SortDirection → String
  | .asc => "ASC"
  | .desc => "DESC"

def ofName? (s : String) : Option SortDirection :=
  if s = "asc" then some .asc else if s = "desc" then some .desc else none

end SortDirection

structure Field where
  name : String
  label : Option String := none
  kind : FieldKind := .string
  searchable : Bool := false
  filterable : Bool := false
  /-- Trusted filters may use the field even where those of a request may not. -/
  localFilterable : Bool := false
  sortable : Bool := false
  /-- Rows in which the field is true are left out. -/
  softDelete : Bool := false
  /-- The order in which rows stand unless the request sorts by the field. -/
  sort : Option SortDirection := none
deriving DecidableEq, Repr

def Field.isIndexed (f : Field) : Bool := f.filterable || f.localFilterable || f.sortable

def Field.key (f : Field) : String := f.label.getD f.name

structure Link where
  /-- A row always has a related one. -/
  mandatory : Bool := false
  foreignKey : String
  referenceKey : String
deriving DecidableEq, Repr

structure Table where
  name : String
  label : Option String := none
  fields : List Field := []
  relations : List (Link × Table) := []
deriving Repr

namespace Table

def reference (t : Table) : String := t.label.getD t.name

def identity (t : Table) : String × Option String := (t.name, t.label)

end Table
end Listing
