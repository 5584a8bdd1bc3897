import Listing.Catalog.Usage
import Listing.Schema.Table
import Listing.Text.Quoted

/-!
A catalog is a declaration laid out flat: tables, fields and relations are numbered, and refer to
one another by number. Which fields may be searched, which rows are left out and how rows stand by
default is read off the fields in the order of their numbers.
-/
namespace Listing

abbrev FieldId := Nat

abbrev RelationId := Nat

structure TableEntry where
  id : TableId
  name : String
  label : Option String
deriving DecidableEq, Repr

namespace TableEntry

def reference (t : TableEntry) : String := t.label.getD t.name

def statement (t : TableEntry) : String :=
  match t.label with
  | some label => t.name ++ " " ++ label
  | none => t.name

/-- A table of this name may stand after `FROM` or `JOIN` as the first text, and columns refer to it
by the second one then. -/
inductive Introduces (name : String) : String → String → Prop
  | plain : Introduces name name name
  | aliased (label : String) : Introduces name (name ++ " " ++ label) label

theorem introduces_reference (t : TableEntry) :
    Introduces t.name t.statement t.reference := by
  obtain ⟨id, name, _ | label⟩ := t
  · exact .plain
  · exact .aliased label

end TableEntry

structure Column where
  id : FieldId
  table : TableId
  qualifier : String
  field : Field
deriving DecidableEq, Repr

namespace Column

def statement (c : Column) : String := c.qualifier ++ "." ++ Text.identifier c.field.name

/-- The column as it is compared with an argument: strings are compared as text, whatever the
column's own type. -/
def comparand (c : Column) : String :=
  match c.field.kind with
  | .string => c.statement ++ "::text"
  | .numeric | .boolean | .date => c.statement

end Column

structure RelationEntry where
  id : RelationId
  parent : TableId
  child : TableId
  foreignKey : FieldId
  referenceKey : FieldId
  mandatory : Bool
deriving DecidableEq, Repr

structure Catalog where
  tables : List TableEntry := []
  columns : List Column := []
  relations : List RelationEntry := []
  index : List (String × FieldId) := []
deriving DecidableEq, Repr

namespace Catalog

def root : TableId := 0

def table? (c : Catalog) (t : TableId) : Option TableEntry := c.tables[t]?

def column? (c : Catalog) (f : FieldId) : Option Column := c.columns[f]?

def columnsOf (c : Catalog) (t : TableId) : List Column := c.columns.filter fun f => f.table == t

def relationsOf (c : Catalog) (t : TableId) : List RelationEntry :=
  c.relations.filter fun r => r.parent == t

def tableByReference? (c : Catalog) (reference : String) : Option TableId :=
  (c.tables.find? fun t => t.reference == reference).map (·.id)

def ownColumn? (c : Catalog) (t : TableId) (name : String) : Option Column :=
  (c.columnsOf t).find? fun f => f.field.name == name

def columnByName? (c : Catalog) (reference name : String) : Option Column :=
  (c.tableByReference? reference).bind fun t => c.ownColumn? t name

def rootColumn? (c : Catalog) (name : String) : Option Column :=
  (c.table? root).bind fun t => c.columnByName? t.reference name

def indexed? (c : Catalog) (key : String) : Option Column := (c.index.lookup key).bind c.column?

def searchColumns (c : Catalog) : List Column := c.columns.filter fun f => f.field.searchable

def softDeletes (c : Catalog) : List Column := c.columns.filter fun f => f.field.softDelete

def defaultSorts (c : Catalog) : List Column := c.columns.filter fun f => f.field.sort.isSome

def defaultUsage (c : Catalog) : UsageMap :=
  let filtered := c.softDeletes.foldl (fun m f => m.mark f.table .filter) .empty
  let sorted := c.defaultSorts.foldl (fun m f => m.mark f.table .sort) filtered
  (c.relations.filter (·.mandatory)).foldl (fun m r => m.mark r.child .mandatory) sorted

end Catalog
end Listing
