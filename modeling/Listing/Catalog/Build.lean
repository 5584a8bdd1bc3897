import Listing.Catalog.Basic

namespace Listing

inductive KeyEnd where
  | foreign
  | reference
deriving DecidableEq, Repr

def KeyEnd.name : KeyEnd → String
  | .foreign => "foreign key"
  | .reference => "reference key"

inductive BuildError where
  | duplicateField (table : String)
  | circularRelation (table : String)
  | duplicateTableReference (reference : String)
  | unknownKeyField (keyEnd : KeyEnd) (table field : String)
  | indexKeyCollision (table field : String)
deriving DecidableEq, Repr

def quotedName (s : String) : String := "\"" ++ s ++ "\""

def BuildError.message : BuildError → String
  | .duplicateField table => "duplicate field name on " ++ quotedName table ++ " table"
  | .circularRelation table => "circular relations on " ++ quotedName table ++ " table"
  | .duplicateTableReference reference => "duplicate table reference " ++ quotedName reference
  | .unknownKeyField keyEnd table field =>
    "unknown " ++ keyEnd.name ++ " field " ++ quotedName field ++ " on " ++ quotedName table ++
      " table"
  | .indexKeyCollision table field =>
    "no free filter/sort key for field " ++ quotedName field ++ " on " ++ quotedName table ++
      " table"

namespace Catalog

def isKeyTaken (c : Catalog) (key : String) : Bool := c.index.any fun e => e.1 == key

def freeKey? (c : Catalog) (table : String) (f : Field) : Option String :=
  if !c.isKeyTaken f.key then some f.key
  else if !c.isKeyTaken (table ++ "." ++ f.name) then some (table ++ "." ++ f.name)
  else none

def addColumn (c : Catalog) (t : TableEntry) (f : Field) : Catalog :=
  { c with columns := c.columns ++ [⟨c.columns.length, t.id, t.reference, f⟩] }

def addField (c : Catalog) (t : TableEntry) (f : Field) : Except BuildError Catalog :=
  if (c.ownColumn? t.id f.name).isSome then .error (.duplicateField t.name)
  else if !f.isIndexed then .ok (c.addColumn t f)
  else match c.freeKey? t.name f with
    | none => .error (.indexKeyCollision t.name f.name)
    | some key => .ok { c.addColumn t f with index := c.index ++ [(key, c.columns.length)] }

def addFields (c : Catalog) (t : TableEntry) (fs : List Field) : Except BuildError Catalog :=
  fs.foldlM (fun c f => c.addField t f) c

def addEntry (c : Catalog) (name : String) (label : Option String) :
    Except BuildError (TableEntry × Catalog) :=
  let t : TableEntry := ⟨c.tables.length, name, label⟩
  if (c.tableByReference? t.reference).isSome then
    .error (.duplicateTableReference t.reference)
  else .ok (t, { c with tables := c.tables ++ [t] })

def keyColumn (c : Catalog) (keyEnd : KeyEnd) (t : TableEntry) (name : String) :
    Except BuildError FieldId :=
  match c.ownColumn? t.id name with
  | some f => .ok f.id
  | none => .error (.unknownKeyField keyEnd t.name name)

def addRelation (c : Catalog) (parent child : TableEntry) (foreignKey : FieldId) (link : Link) :
    Except BuildError Catalog := do
  let referenceKey ← c.keyColumn .reference child link.referenceKey
  .ok { c with relations := c.relations ++
    [⟨c.relations.length, parent.id, child.id, foreignKey, referenceKey, link.mandatory⟩] }

mutual
/-- Adds a table with everything below it. `path` holds the tables above it. -/
def addTable (c : Catalog) (path : List (String × Option String)) :
    Table → Except BuildError (TableEntry × Catalog)
  | ⟨name, label, fields, relations⟩ => do
    let (t, c) ← c.addEntry name label
    let c ← c.addFields t fields
    let c ← addRelations c ((name, label) :: path) t relations
    .ok (t, c)

def addRelations (c : Catalog) (path : List (String × Option String)) (t : TableEntry) :
    List (Link × Table) → Except BuildError Catalog
  | [] => .ok c
  | (link, child) :: rs => do
    if path.contains child.identity then .error (.circularRelation t.name)
    let foreignKey ← c.keyColumn .foreign t link.foreignKey
    let (u, c) ← addTable c path child
    let c ← c.addRelation t u foreignKey link
    addRelations c path t rs
end

def build (t : Table) : Except BuildError Catalog :=
  (addTable {} [] t).map (·.2)

end Catalog
end Listing
