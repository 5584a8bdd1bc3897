import Listing.Json.Decode
import Listing.Schema.Table

namespace Listing

namespace FieldKind

def all : List FieldKind := [.numeric, .string, .boolean, .date]

def decode (levels : Nat) : Decoder FieldKind :=
  .variant levels (all.map fun k => (k.name, k))

def toJson (k : FieldKind) : Json := .string k.name

end FieldKind

namespace SortDirection

def all : List SortDirection := [.asc, .desc]

def decode (levels : Nat) : Decoder SortDirection :=
  .variant levels (all.map fun d => (d.name, d))

def toJson (d : SortDirection) : Json := .string d.name

end SortDirection

namespace Field

open Decoder Decoder.Slot in
def slots (levels : Nat) : List (Decoder.Slot Field) :=
  [required "name" string fun v f => { f with name := v },
   optional "alias" (nullable string) fun v f => { f with label := v },
   optional "type" (FieldKind.decode levels) fun v f => { f with kind := v },
   optional "searchable" boolean fun v f => { f with searchable := v },
   optional "filterable" boolean fun v f => { f with filterable := v },
   optional "local_filterable" boolean fun v f => { f with localFilterable := v },
   optional "sortable" boolean fun v f => { f with sortable := v },
   optional "soft_delete" boolean fun v f => { f with softDelete := v },
   optional "sort" (nullable (SortDirection.decode levels)) fun v f => { f with sort := v }]

def decode (levels : Nat) : Decoder Field :=
  .record levels "struct Field" (slots (levels - 1)) { name := "" }

def toJson (f : Field) : Json :=
  .object
    [("name", .string f.name),
     ("alias", .ofOption .string f.label),
     ("type", f.kind.toJson),
     ("searchable", .bool f.searchable),
     ("filterable", .bool f.filterable),
     ("local_filterable", .bool f.localFilterable),
     ("sortable", .bool f.sortable),
     ("soft_delete", .bool f.softDelete),
     ("sort", .ofOption SortDirection.toJson f.sort)]

end Field

namespace Table

def relationSlots (table : Decoder Table) : List (Decoder.Slot (Link × Table)) :=
  [.optional "mandatory" .boolean fun v r => ({ r.1 with mandatory := v }, r.2),
   .required "foreign_key" .string fun v r => ({ r.1 with foreignKey := v }, r.2),
   .required "reference_key" .string fun v r => ({ r.1 with referenceKey := v }, r.2),
   .required "table" table fun v r => (r.1, v)]

def decodeRelation (levels : Nat) (table : Decoder Table) : Decoder (Link × Table) :=
  .record levels "struct Relation" (relationSlots table)
    ({ foreignKey := "", referenceKey := "" }, { name := "" })

def slots (levels : Nat) (table : Decoder Table) : List (Decoder.Slot Table) :=
  [.required "name" .string fun v t => { t with name := v },
   .optional "alias" (.nullable .string) fun v t => { t with label := v },
   .optional "fields" (.sequence levels (Field.decode (levels - 1)))
     fun v t => { t with fields := v },
   .optional "relations" (.sequence levels (decodeRelation (levels - 1) table))
     fun v t => { t with relations := v }]

/-- A table that may nest so many levels. A table in a relation stands three levels deeper than the
table that it relates to. -/
def decode : Nat → Decoder Table
  | levels + 3 =>
    .record (levels + 3) "struct Table" (slots (levels + 2) (decode levels)) { name := "" }
  | levels =>
    .record levels "struct Table" (slots (levels - 1) fun _ => .error .unreadable) { name := "" }

def load (s : String) : Except DecodeError Table := decodeText (decode Json.maxDepth) s

mutual
def toJson : Table → Json
  | ⟨name, label, fields, relations⟩ => .object
    [("name", .string name),
     ("alias", .ofOption .string label),
     ("fields", .array (fields.map Field.toJson)),
     ("relations", .array (relationsJson relations))]

def relationsJson : List (Link × Table) → List Json
  | [] => []
  | (link, t) :: rs => .object
    [("mandatory", .bool link.mandatory),
     ("foreign_key", .string link.foreignKey),
     ("reference_key", .string link.referenceKey),
     ("table", toJson t)] :: relationsJson rs
end

end Table

inductive SchemaFile where
  | missing
  | directory
  | bytes (content : ByteArray)

inductive LoadError where
  | missing
  | directory
  | notUtf8
  | decode (fault : DecodeError)
deriving DecidableEq, Repr

def LoadError.message? (path : String) : LoadError → Option String
  | .missing => some ("schema load: " ++ path ++ ": No such file or directory (os error 2)")
  | .directory => some ("schema load: " ++ path ++ ": Is a directory (os error 21)")
  | .notUtf8 => some ("schema load: " ++ path ++ ": stream did not contain valid UTF-8")
  | .decode fault => fault.message?.map ("schema load: " ++ ·)

def SchemaFile.load : SchemaFile → Except LoadError Table
  | .missing => .error .missing
  | .directory => .error .directory
  | .bytes content => match String.fromUTF8? content with
    | none => .error .notUtf8
    | some s => (Table.load s).mapError .decode

end Listing
