import Listing.Proofs.JsonText
import Listing.Proofs.RecordForms
import Listing.Schema.Load

/-!
The forms in which a schema may be written, and that each of them is read as the schema. A table in
a relation stands three levels deeper than the table that it relates to, so the induction over a
schema carries the levels that are left.
-/
namespace Listing

theorem RecordForm.of_gives {parts : List Part} {es : List (String × Node)}
    (h : Part.Gives parts es) : RecordForm parts (.object (es.map fun e => (some e.1, e.2))) := by
  apply @RecordForm.object parts es [] es h nofun
  rw [List.append_nil]

theorem Json.ofOption_isExact {α : Type} (encode : α → Json) (h : ∀ a, (encode a).IsExact) :
    ∀ o : Option α, (ofOption encode o).IsExact
  | none => trivial
  | some a => h a

def Part.plain (key : String) (mayLack : Prop) (v : Json) : Part := ⟨key, mayLack, (· = .ofJson v)⟩

def ArrayForm (items : List Node → Prop) (x : Node) : Prop := ∃ xs, x = .array xs ∧ items xs

namespace Decoder

theorem mapM_written {α : Type} {n : Nat} {d : Decoder α} {written : α → Node → Prop}
    (h : ∀ a x, written a x → x.depth ≤ n → d x = .ok a) {as : List α} {items : List Node}
    (hitems : List.Forall₂ written as items) (hdepth : Node.itemsDepth items ≤ n) :
    items.mapM d = .ok as := by
  induction hitems with
  | nil => rfl
  | cons hx _ ih =>
    rw [Node.itemsDepth] at hdepth
    rw [List.mapM_cons, h _ _ hx (by omega), ih (by omega)]
    rfl

theorem sequence_ok {α : Type} {levels : Nat} {d : Decoder α} {as : List α} {items : List Node}
    (hdepth : (Node.array items).depth ≤ levels) (h : items.mapM d = .ok as) :
    sequence levels d (.array items) = .ok as := by
  rw [Node.depth] at hdepth
  rw [sequence, if_neg (by omega), h]

namespace Cell

variable {σ α : Type} {n : Nat} {blank : σ}

theorem reads_plain (key : String) {d : Decoder α} (set : α → σ → σ) {a : α} {v : Json}
    (h : d (.ofJson v) = .ok a) : (required key d set a (· = .ofJson v)).Reads n blank := by
  apply reads_required
  rintro x rfl -
  exact h

theorem reads_default (key : String) {d : Decoder α} (set : α → σ → σ) {a default : α} {v : Json}
    (hblank : set default blank = blank) (h : d (.ofJson v) = .ok a) :
    (optional key d set a default (· = .ofJson v)).Reads n blank := by
  apply reads_optional key set hblank
  rintro x rfl -
  exact h

end Cell

theorem nullable_string (label : Option String) :
    nullable string (.ofJson (.ofOption .string label)) = .ok label := by
  cases label <;> rfl

end Decoder

open Decoder

theorem FieldKind.decode_toJson (levels : Nat) (k : FieldKind) :
    decode levels (.ofJson k.toJson) = .ok k := by
  cases k <;> rfl

theorem SortDirection.decode_toJson (levels : Nat) (d : Option SortDirection) :
    nullable (decode levels) (.ofJson (.ofOption toJson d)) = .ok d := by
  rcases d with - | - | - <;> rfl

namespace Field

def parts (f : Field) : List Part :=
  [.plain "name" False (.string f.name),
   .plain "alias" (f.label = none) (.ofOption .string f.label),
   .plain "type" (f.kind = .string) f.kind.toJson,
   .plain "searchable" (f.searchable = false) (.bool f.searchable),
   .plain "filterable" (f.filterable = false) (.bool f.filterable),
   .plain "local_filterable" (f.localFilterable = false) (.bool f.localFilterable),
   .plain "sortable" (f.sortable = false) (.bool f.sortable),
   .plain "soft_delete" (f.softDelete = false) (.bool f.softDelete),
   .plain "sort" (f.sort = none) (.ofOption SortDirection.toJson f.sort)]

def Written (f : Field) : Node → Prop := RecordForm f.parts

def cells (levels : Nat) (f : Field) : List (Cell Field) :=
  [.required "name" string (fun v f => { f with name := v }) f.name (· = .ofJson (.string f.name)),
   .optional "alias" (nullable string) (fun v f => { f with label := v }) f.label none
     (· = .ofJson (.ofOption .string f.label)),
   .optional "type" (FieldKind.decode levels) (fun v f => { f with kind := v }) f.kind .string
     (· = .ofJson f.kind.toJson),
   .optional "searchable" boolean (fun v f => { f with searchable := v }) f.searchable false
     (· = .ofJson (.bool f.searchable)),
   .optional "filterable" boolean (fun v f => { f with filterable := v }) f.filterable false
     (· = .ofJson (.bool f.filterable)),
   .optional "local_filterable" boolean (fun v f => { f with localFilterable := v })
     f.localFilterable false (· = .ofJson (.bool f.localFilterable)),
   .optional "sortable" boolean (fun v f => { f with sortable := v }) f.sortable false
     (· = .ofJson (.bool f.sortable)),
   .optional "soft_delete" boolean (fun v f => { f with softDelete := v }) f.softDelete false
     (· = .ofJson (.bool f.softDelete)),
   .optional "sort" (nullable (SortDirection.decode levels)) (fun v f => { f with sort := v })
     f.sort none (· = .ofJson (.ofOption SortDirection.toJson f.sort))]

theorem cells_apart (levels : Nat) (f : Field) : Cell.Apart (f.cells levels) where
  keys := by simp [cells, Cell.required, Cell.optional]
  comm := by simp [cells, Cell.required, Cell.optional]

theorem cells_slot (levels : Nat) (f : Field) : (f.cells levels).map Cell.slot = slots levels := rfl

theorem cells_part (levels : Nat) (f : Field) : (f.cells levels).map Cell.part = f.parts := rfl

theorem apply_cells (levels : Nat) (f : Field) :
    Cell.apply (f.cells levels) { name := "" } = f := by
  simp only [Cell.apply, cells, Cell.required, Cell.optional, List.foldl_cons, List.foldl_nil]

theorem cells_reads (levels n : Nat) (f : Field) :
    ∀ c ∈ f.cells levels, c.Reads n ({ name := "" } : Field) := by
  simp only [cells, List.forall_mem_cons]
  refine ⟨Cell.reads_plain _ _ rfl, Cell.reads_default _ _ rfl (nullable_string _),
    Cell.reads_default _ _ rfl (FieldKind.decode_toJson _ _), Cell.reads_default _ _ rfl rfl,
    Cell.reads_default _ _ rfl rfl, Cell.reads_default _ _ rfl rfl, Cell.reads_default _ _ rfl rfl,
    Cell.reads_default _ _ rfl rfl, Cell.reads_default _ _ rfl (SortDirection.decode_toJson _ _),
    nofun⟩

theorem decode_written (levels : Nat) (f : Field) (x : Node) (hx : f.Written x)
    (hdepth : x.depth ≤ levels) : decode levels x = .ok f := by
  have hpos := RecordForm.depth_pos hx
  rw [Written, ← cells_part (levels - 1)] at hx
  rw [decode, ← cells_slot, Cell.record_form (cells_apart (levels - 1) f)
    (cells_reads (levels - 1) (levels - 1) f) hx (by omega) (by omega), apply_cells]

theorem written_toJson (f : Field) : f.Written (.ofJson f.toJson) := by
  have hgives : Part.Gives f.parts _ := .keep rfl <| .keep rfl <| .keep rfl <| .keep rfl <|
    .keep rfl <| .keep rfl <| .keep rfl <| .keep rfl <| .keep rfl .nil
  exact RecordForm.of_gives hgives

theorem written_ofItems : ∀ fields : List Field,
    List.Forall₂ Written fields (Node.ofItems (fields.map toJson))
  | [] => .nil
  | f :: fields => .cons f.written_toJson (written_ofItems fields)

theorem toJson_isExact (f : Field) : f.toJson.IsExact :=
  ⟨trivial, Json.ofOption_isExact .string (fun _ => trivial) f.label, trivial, trivial, trivial,
    trivial, trivial, trivial,
    Json.ofOption_isExact SortDirection.toJson (fun _ => trivial) f.sort, trivial⟩

theorem itemsExact_map : ∀ fields : List Field, Json.ItemsExact (fields.map toJson)
  | [] => trivial
  | f :: fields => ⟨f.toJson_isExact, itemsExact_map fields⟩

end Field

def Link.parts (link : Link) (table : Node → Prop) : List Part :=
  [.plain "mandatory" (link.mandatory = false) (.bool link.mandatory),
   .plain "foreign_key" False (.string link.foreignKey),
   .plain "reference_key" False (.string link.referenceKey),
   ⟨"table", False, table⟩]

namespace Table

def parts (t : Table) (relations : Node → Prop) : List Part :=
  [.plain "name" False (.string t.name),
   .plain "alias" (t.label = none) (.ofOption .string t.label),
   ⟨"fields", t.fields = [], ArrayForm (List.Forall₂ Field.Written t.fields)⟩,
   ⟨"relations", t.relations = [], relations⟩]

mutual
def Written : Table → Node → Prop
  | ⟨name, label, fields, relations⟩ =>
    RecordForm (parts ⟨name, label, fields, relations⟩ (ArrayForm (RelationsWritten relations)))

def RelationsWritten : List (Link × Table) → List Node → Prop
  | [], items => items = []
  | (link, t) :: rs, items => ∃ x xs, items = x :: xs ∧ RecordForm (link.parts t.Written) x ∧
    RelationsWritten rs xs
end

def relationCells (table : Decoder Table) (link : Link) (t : Table) : List (Cell (Link × Table)) :=
  [.optional "mandatory" boolean (fun v r => ({ r.1 with mandatory := v }, r.2)) link.mandatory
     false (· = .ofJson (.bool link.mandatory)),
   .required "foreign_key" string (fun v r => ({ r.1 with foreignKey := v }, r.2)) link.foreignKey
     (· = .ofJson (.string link.foreignKey)),
   .required "reference_key" string (fun v r => ({ r.1 with referenceKey := v }, r.2))
     link.referenceKey (· = .ofJson (.string link.referenceKey)),
   .required "table" table (fun v r => (r.1, v)) t t.Written]

def cells (levels : Nat) (table : Decoder Table) (t : Table) : List (Cell Table) :=
  [.required "name" string (fun v t => { t with name := v }) t.name (· = .ofJson (.string t.name)),
   .optional "alias" (nullable string) (fun v t => { t with label := v }) t.label none
     (· = .ofJson (.ofOption .string t.label)),
   .optional "fields" (sequence levels (Field.decode (levels - 1)))
     (fun v t => { t with fields := v }) t.fields []
     (ArrayForm (List.Forall₂ Field.Written t.fields)),
   .optional "relations" (sequence levels (decodeRelation (levels - 1) table))
     (fun v t => { t with relations := v }) t.relations []
     (ArrayForm (RelationsWritten t.relations))]

theorem relationCells_apart (table : Decoder Table) (link : Link) (t : Table) :
    Cell.Apart (relationCells table link t) where
  keys := by simp [relationCells, Cell.required, Cell.optional]
  comm := by simp [relationCells, Cell.required, Cell.optional]

theorem cells_apart (levels : Nat) (table : Decoder Table) (t : Table) :
    Cell.Apart (t.cells levels table) where
  keys := by simp [cells, Cell.required, Cell.optional]
  comm := by simp [cells, Cell.required, Cell.optional]

def nested : Nat → Decoder Table
  | levels + 3 => decode levels
  | _ => fun _ => .error .unreadable

theorem decode_eq : ∀ levels, decode levels =
    .record levels "struct Table" (slots (levels - 1) (nested levels)) { name := "" }
  | 0 => rfl
  | 1 => rfl
  | 2 => rfl
  | _ + 3 => rfl

theorem nested_eq {levels : Nat} (h : 3 ≤ levels) : nested levels = decode (levels - 3) := by
  obtain ⟨n, rfl⟩ := Nat.exists_eq_add_of_le' h
  rfl

mutual
theorem decode_written : ∀ (t : Table) {x : Node} {levels : Nat}, t.Written x → x.depth ≤ levels →
    decode levels x = .ok t
  | ⟨name, label, fields, relations⟩, x, levels, hx, hdepth => by
    have hpos := RecordForm.depth_pos hx
    have hreads : ∀ c ∈ cells (levels - 1) (nested levels) ⟨name, label, fields, relations⟩,
        c.Reads (levels - 1) ({ name := "" } : Table) := by
      simp only [cells, List.forall_mem_cons]
      refine ⟨Cell.reads_plain _ _ rfl, Cell.reads_default _ _ rfl (nullable_string _),
        Cell.reads_optional _ _ rfl ?_, Cell.reads_optional _ _ rfl ?_, nofun⟩
      · rintro - ⟨items, rfl, hitems⟩ hle
        apply sequence_ok hle
        apply mapM_written (Field.decode_written (levels - 1 - 1)) hitems
        rw [Node.depth] at hle
        omega
      · rintro - ⟨items, rfl, hitems⟩ hle
        apply sequence_ok hle
        apply mapM_relations relations hitems
        rw [Node.depth] at hle
        omega
    rw [decode_eq]
    exact Cell.record_form (cells_apart _ _ _) hreads hx (by omega) (by omega) "struct Table"

theorem mapM_relations : ∀ (rs : List (Link × Table)) {items : List Node} {levels : Nat},
    RelationsWritten rs items → Node.itemsDepth items ≤ levels - 2 →
    items.mapM (decodeRelation (levels - 1 - 1) (nested levels)) = .ok rs
  | [], items, levels, hitems, _ => by
    cases hitems
    rfl
  | (link, t) :: rs, items, levels, hitems, hdepth => by
    obtain ⟨x, xs, rfl, hx, hxs⟩ := hitems
    have hpos := RecordForm.depth_pos hx
    rw [Node.itemsDepth] at hdepth
    have hreads : ∀ c ∈ relationCells (nested levels) link t, c.Reads (levels - 3)
        (({ foreignKey := "", referenceKey := "" }, { name := "" }) : Link × Table) := by
      simp only [relationCells, List.forall_mem_cons]
      refine ⟨Cell.reads_default _ _ rfl rfl, Cell.reads_plain _ _ rfl, Cell.reads_plain _ _ rfl,
        Cell.reads_required _ _ ?_, nofun⟩
      intro y hy hle
      rw [nested_eq (by omega)]
      exact decode_written t hy hle
    have hread : decodeRelation (levels - 1 - 1) (nested levels) x = .ok (link, t) :=
      Cell.record_form (relationCells_apart _ _ _) hreads hx (by omega) (by omega) "struct Relation"
    rw [List.mapM_cons, hread, mapM_relations rs hxs (by omega)]
    rfl
end

mutual
theorem written_toJson : ∀ t : Table, t.Written (.ofJson t.toJson)
  | ⟨name, label, fields, relations⟩ => by
    have hgives : Part.Gives (parts ⟨name, label, fields, relations⟩
        (ArrayForm (RelationsWritten relations))) _ := .keep rfl <| .keep rfl <|
      .keep ⟨_, rfl, Field.written_ofItems fields⟩ <|
      .keep ⟨_, rfl, relationsWritten_ofItems relations⟩ .nil
    exact RecordForm.of_gives hgives

theorem relationsWritten_ofItems : ∀ rs : List (Link × Table),
    RelationsWritten rs (Node.ofItems (relationsJson rs))
  | [] => rfl
  | (link, t) :: rs => by
    have hgives : Part.Gives (link.parts t.Written) _ := .keep rfl <| .keep rfl <| .keep rfl <|
      .keep t.written_toJson .nil
    exact ⟨_, _, rfl, RecordForm.of_gives hgives, relationsWritten_ofItems rs⟩
end

mutual
theorem toJson_isExact : ∀ t : Table, t.toJson.IsExact
  | ⟨_, label, fields, relations⟩ =>
    ⟨trivial, Json.ofOption_isExact .string (fun _ => trivial) label, Field.itemsExact_map fields,
      relationsJson_isExact relations, trivial⟩

theorem relationsJson_isExact : ∀ rs : List (Link × Table), Json.ItemsExact (relationsJson rs)
  | [] => trivial
  | (_, t) :: rs =>
    ⟨⟨trivial, trivial, trivial, t.toJson_isExact, trivial⟩, relationsJson_isExact rs⟩
end

theorem load_written (t : Table) :
    t.Written (.ofJson t.toJson) ∧
    ((Node.ofJson t.toJson).depth ≤ Json.maxDepth → load t.toJson.text = .ok t) ∧
    (∀ v : Json, v.IsExact → t.Written (.ofJson v) → (Node.ofJson v).depth ≤ Json.maxDepth →
      load v.text = .ok t) ∧
    ∀ text x, Node.ofChars? text.toList = some x → t.Written x → x.depth ≤ Json.maxDepth →
      load text = .ok t := by
  have hvalue : ∀ v : Json, v.IsExact → t.Written (.ofJson v) →
      (Node.ofJson v).depth ≤ Json.maxDepth → load v.text = .ok t := by
    intro v hv hx hdepth
    exact decodeText_text _ hv (decode_written t hx hdepth)
  refine ⟨t.written_toJson, hvalue _ t.toJson_isExact t.written_toJson, hvalue, ?_⟩
  intro text x htext hx hdepth
  rw [load, decodeText, htext]
  simp only [decodeNode, decode_written t hx hdepth]

def variedJson : Json :=
  .object [("note", .array [.nat 1, .null]),
    ("relations", .array [.array [.bool true, .string "kind_id", .string "id",
      .array [.string "kind", .string "k", .array [], .array []]]]),
    ("fields", .array [.array [.string "id", .null, .string "numeric", .bool false, .bool true,
        .bool false, .bool true, .bool false, .string "desc"],
      .object [("type", .string "date"), ("name", .string "at")]]),
    ("name", .string "item")]

def variedText : String :=
  "\x7b\"note\":[1,null],\"relations\":[[true,\"kind_id\",\"id\",[\"kind\",\"k\",[],[]]]]," ++
  "\"fields\":[[\"id\",null,\"numeric\",false,true,false,true,false,\"desc\"]," ++
  "\x7b\"type\":\"date\",\"name\":\"at\"\x7d],\"name\":\"item\"\x7d"

def variedId : Field :=
  { name := "id", kind := .numeric, filterable := true, sortable := true, sort := some .desc }

def variedAt : Field := { name := "at", kind := .date }

def variedKind : Table := { name := "kind", label := some "k" }

def varied : Table where
  name := "item"
  fields := [variedId, variedAt]
  relations := [({ mandatory := true, foreignKey := "kind_id", referenceKey := "id" }, variedKind)]

theorem variedKind_written : variedKind.Written
    (.array [.string (some "kind"), .string (some "k"), .array [], .array []]) :=
  .array <| .cons rfl <| .cons rfl <| .cons ⟨_, rfl, .nil⟩ <| .cons ⟨_, rfl, rfl⟩ .nil

theorem varied_written : varied.Written (.ofJson variedJson) := by
  have hrelations : RelationsWritten varied.relations _ :=
    ⟨_, _, rfl, .array <| .cons rfl <| .cons rfl <| .cons rfl <| .cons variedKind_written .nil, rfl⟩
  have hid : variedId.Written _ :=
    .array <| .cons rfl <| .cons rfl <| .cons rfl <| .cons rfl <| .cons rfl <| .cons rfl <|
      .cons rfl <| .cons rfl <| .cons rfl .nil
  have hgives : Part.Gives variedAt.parts _ :=
    .keep rfl <| .lack rfl <| .keep rfl <| .lack rfl <| .lack rfl <| .lack rfl <| .lack rfl <|
      .lack rfl <| .lack rfl .nil
  have hat : variedAt.Written (.object
      [(some "type", .string (some "date")), (some "name", .string (some "at"))]) :=
    @RecordForm.object _ _ [] _ hgives nofun (.swap _ _ _)
  have hfields : ArrayForm (List.Forall₂ Field.Written varied.fields) _ :=
    ⟨_, rfl, .cons hid <| .cons hat .nil⟩
  have hparts : Part.Gives (parts varied (ArrayForm (RelationsWritten varied.relations))) _ :=
    .keep rfl <| .lack rfl <| .keep hfields <| .keep ⟨_, rfl, hrelations⟩ .nil
  have hothers : ∀ e ∈ [("note", Node.ofJson (.array [.nat 1, .null]))],
      ∀ p ∈ parts varied (ArrayForm (RelationsWritten varied.relations)), p.key ≠ e.1 := by
    simp [parts, Part.plain]
  exact .object hparts hothers (List.reverse_perm _)

theorem load_varied : load varied.toJson.text = .ok varied ∧ load variedJson.text = .ok varied ∧
    load variedText = .ok varied ∧ load "[\"kind\", \"k\", [], [ ]]" = .ok variedKind := by
  have htext : variedText = variedJson.text := by decide +kernel
  have hexact : variedJson.IsExact := by
    simp only [variedJson, Json.IsExact, Json.EntriesExact, Json.ItemsExact, Json.nat, and_true]
    decide
  have hread : Node.ofChars? variedText.toList = some (.ofJson variedJson) := by
    rw [htext, Node.ofChars?_text hexact]
  have hchars : "[\"kind\", \"k\", [], [ ]]".toList = ['[', '"', 'k', 'i', 'n', 'd', '"', ',', ' ',
      '"', 'k', '"', ',', ' ', '[', ']', ',', ' ', '[', ' ', ']', ']'] := by decide +kernel
  have hspaced : Node.ofChars? "[\"kind\", \"k\", [], [ ]]".toList = some (.array
      [.string (some "kind"), .string (some "k"), .array [], .array []]) := by
    rw [hchars]
    rfl
  obtain ⟨-, hwriting, hvalue, hreading⟩ := varied.load_written
  exact ⟨hwriting (by decide), hvalue variedJson hexact varied_written (by decide),
    hreading variedText _ hread varied_written (by decide),
    variedKind.load_written.2.2.2 _ _ hspaced variedKind_written (by decide)⟩

end Table
end Listing
