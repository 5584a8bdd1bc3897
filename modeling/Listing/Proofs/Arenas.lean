import Listing.Proofs.Flattening
import Listing.Proofs.RequestTags

/-!
A catalog in arenas: a table lists its fields and relations by their handles, and a handle is looked
up wherever it is used. One that its arena does not have is a fault. Laying a declaration out in
arenas never comes to a fault, and gives the catalog with the handles that its tables list.
-/
namespace Listing

inductive Fault where
  | table (t : TableId)
  | field (f : FieldId)
  | relation (r : RelationId)
  | depth (r : RelationId)
  | endless
  | noValue
  | slice (start stop : Nat)
  | division
deriving DecidableEq, Repr

theorem bind_eq_of_ok {α β : Type} {m : Except Fault α} {a : α} (h : m = .ok a)
    (f : α → Except Fault β) : (m >>= f) = f a := by
  rw [h]
  rfl

abbrev Checked (ε α : Type) : Type := ExceptT ε (Except Fault) α

namespace Checked

variable {ε α β : Type}

theorem run_bind_ok {m : Checked ε α} {a : α} (h : m.run = .ok (.ok a)) (f : α → Checked ε β) :
    (m >>= f).run = (f a).run := by
  rw [ExceptT.run_bind, h]
  rfl

theorem run_bind_error {m : Checked ε α} {e : ε} (h : m.run = .ok (.error e))
    (f : α → Checked ε β) : (m >>= f).run = .ok (.error e) := by
  rw [ExceptT.run_bind, h]
  rfl

theorem run_bind {γ : Type} {r : Except ε γ} {g : γ → α} {m : Checked ε α}
    (hm : m.run = .ok (r.map g)) {k : α → Checked ε β} {k' : γ → Except ε β}
    (hk : ∀ c, r = .ok c → (k (g c)).run = .ok (k' c)) : (m >>= k).run = .ok (r >>= k') := by
  cases r with
  | error e => exact run_bind_error hm k
  | ok c => exact (run_bind_ok hm k).trans (hk c rfl)

theorem run_bind_map {γ δ : Type} {r : Except ε γ} {g : γ → α} {m : Checked ε α}
    (hm : m.run = .ok (r.map g)) {k : α → Checked ε β} {k' : γ → Except ε δ} {h : δ → β}
    (hk : ∀ c, r = .ok c → (k (g c)).run = .ok ((k' c).map h)) :
    (m >>= k).run = .ok ((r >>= k').map h) := by
  have hmap : (r >>= k').map h = r >>= fun c => (k' c).map h := by cases r <;> rfl
  rw [hmap]
  exact run_bind hm hk

theorem run_lift {m : Except Fault α} {a : α} (h : m = .ok a) :
    (liftM m : Checked ε α).run = .ok (.ok a) := by
  rw [h]
  rfl

end Checked

structure TableNode where
  entry : TableEntry
  fields : List FieldId := []
  relations : List RelationId := []

structure Arena where
  tables : List TableNode := []
  fields : List Column := []
  relations : List RelationEntry := []
  index : List (String × FieldId) := []
  searchFields : List FieldId := []
  defaultPredicates : List Predicate := []
  defaultSorts : List FieldId := []
  defaultUsage : UsageMap := {}

namespace Arena

def at? {α : Type} (xs : List α) (fault : Nat → Fault) (i : Nat) : Except Fault α :=
  match xs[i]? with
  | some x => .ok x
  | none => .error (fault i)

def table (a : Arena) : TableId → Except Fault TableNode := at? a.tables .table

def field (a : Arena) : FieldId → Except Fault Column := at? a.fields .field

def relation (a : Arena) : RelationId → Except Fault RelationEntry := at? a.relations .relation

def updateTable (a : Arena) (t : TableId) (change : TableNode → TableNode) :
    Except Fault Arena := do
  let node ← a.table t
  pure { a with tables := a.tables.set t (change node) }

def ownField (a : Arena) (t : TableId) (name : String) : Except Fault (Option FieldId) := do
  let node ← a.table t
  node.fields.findM? fun i => do
    let f ← a.field i
    pure (f.field.name == name)

def addEntry (a : Arena) (name : String) (label : Option String) :
    Checked BuildError (TableEntry × Arena) :=
  let t : TableEntry := ⟨a.tables.length, name, label⟩
  if a.tables.any fun n => n.entry.reference == t.reference then
    throw (.duplicateTableReference t.reference)
  else pure (t, { a with tables := a.tables ++ [⟨t, [], []⟩] })

def indexWith (a : Arena) (t : TableEntry) (f : Field) :
    Checked BuildError (List (String × FieldId)) :=
  if !f.isIndexed then pure a.index
  else match Catalog.freeKey? { index := a.index } t.name f with
    | none => throw (.indexKeyCollision t.name f.name)
    | some key => pure (a.index ++ [(key, a.fields.length)])

def enlist (a : Arena) (t : TableEntry) (f : Field) : Arena :=
  let i := a.fields.length
  let column : Column := ⟨i, t.id, t.reference, f⟩
  let filtered := if f.softDelete then a.defaultUsage.mark t.id .filter else a.defaultUsage
  { a with
    fields := a.fields ++ [column]
    searchFields := if f.searchable then a.searchFields ++ [i] else a.searchFields
    defaultPredicates :=
      if f.softDelete then a.defaultPredicates ++ [.isFalse column] else a.defaultPredicates
    defaultSorts := if f.sort.isSome then a.defaultSorts ++ [i] else a.defaultSorts
    defaultUsage := if f.sort.isSome then filtered.mark t.id .sort else filtered }

def addField (a : Arena) (t : TableEntry) (names : List String) (f : Field) :
    Checked BuildError Arena := do
  if names.contains f.name then throw (.duplicateField t.name)
  let index ← a.indexWith t f
  { a.enlist t f with index := index }.updateTable t.id fun n =>
    { n with fields := n.fields ++ [a.fields.length] }

def addFields (a : Arena) (t : TableEntry) (names : List String) :
    List Field → Checked BuildError Arena
  | [] => pure a
  | f :: fs => do
    let a ← a.addField t names f
    a.addFields t (f.name :: names) fs

def keyField (a : Arena) (keyEnd : KeyEnd) (t : TableEntry) (name : String) :
    Checked BuildError FieldId := do
  match ← a.ownField t.id name with
  | some i => pure i
  | none => throw (.unknownKeyField keyEnd t.name name)

def addRelation (a : Arena) (parent child : TableEntry) (foreignKey : FieldId) (link : Link) :
    Checked BuildError Arena := do
  let referenceKey ← a.keyField .reference child link.referenceKey
  let i := a.relations.length
  let usage := if link.mandatory then a.defaultUsage.mark child.id .mandatory else a.defaultUsage
  let r : RelationEntry := ⟨i, parent.id, child.id, foreignKey, referenceKey, link.mandatory⟩
  { a with relations := a.relations ++ [r], defaultUsage := usage }.updateTable parent.id fun n =>
    { n with relations := n.relations ++ [i] }

mutual
def addTable (a : Arena) (path : List (String × Option String)) :
    Table → Checked BuildError (TableEntry × Arena)
  | ⟨name, label, fields, relations⟩ => do
    let (t, a) ← a.addEntry name label
    let a ← a.addFields t [] fields
    let a ← addRelations a ((name, label) :: path) t relations
    pure (t, a)

def addRelations (a : Arena) (path : List (String × Option String)) (t : TableEntry) :
    List (Link × Table) → Checked BuildError Arena
  | [] => pure a
  | (link, child) :: rs => do
    if path.contains child.identity then throw (.circularRelation t.name)
    let foreignKey ← a.keyField .foreign t link.foreignKey
    let (u, a) ← addTable a path child
    let a ← a.addRelation t u foreignKey link
    addRelations a path t rs
end

def build (t : Table) : Checked BuildError Arena := do
  let (_, a) ← addTable {} [] t
  pure a

end Arena

def Catalog.node (c : Catalog) (t : TableEntry) : TableNode where
  entry := t
  fields := (c.columnsOf t.id).map (·.id)
  relations := (c.relationsOf t.id).map (·.id)

def Arena.of (c : Catalog) : Arena where
  tables := c.tables.map c.node
  fields := c.columns
  relations := c.relations
  index := c.index
  searchFields := c.searchColumns.map (·.id)
  defaultPredicates := c.softDeletes.map .isFalse
  defaultSorts := c.defaultSorts.map (·.id)
  defaultUsage := c.defaultUsage

namespace Arena

variable {c : Catalog} {t : TableEntry} {α β : Type}

theorem at?_of_getElem? {xs : List α} {i : Nat} {x : α} (h : xs[i]? = some x)
    (fault : Nat → Fault) : at? xs fault i = .ok x := by
  rw [at?, h]

theorem of_table {u : TableId} (h : c.table? u = some t) : (of c).table u = .ok (c.node t) := by
  apply at?_of_getElem?
  change (c.tables.map c.node)[u]? = _
  rw [List.getElem?_map, ← Catalog.table?, h]
  rfl

theorem of_field {i : FieldId} {f : Column} (h : c.column? i = some f) : (of c).field i = .ok f :=
  at?_of_getElem? h _

theorem of_relation (hc : c.Sound) {r : RelationEntry} (hr : r ∈ c.relations) :
    (of c).relation r.id = .ok r := by
  obtain ⟨i, hi⟩ := List.mem_iff_getElem?.mp hr
  apply at?_of_getElem?
  rwa [hc.relation_id i r hi]

theorem findM?_handles {id : α → Nat} {xs : List α} {look : Nat → Except Fault α}
    (h : ∀ x ∈ xs, look (id x) = .ok x) (p : α → Bool) :
    (xs.map id).findM? (fun i => do let x ← look i; pure (p x)) = .ok ((xs.find? p).map id) := by
  induction xs with
  | nil => rfl
  | cons x xs ih =>
    rw [List.map_cons, List.findM?, h x List.mem_cons_self]
    have hrest := ih fun y hy => h y (List.mem_cons_of_mem x hy)
    cases hp : p x with
    | true =>
      rw [List.find?_cons_of_pos hp]
      simp [bind, Except.bind, pure, Except.pure, hp]
    | false =>
      rw [List.find?_cons_of_neg (by simp [hp])]
      simpa [bind, Except.bind, pure, Except.pure, hp] using hrest

theorem of_ownField (hc : c.Sound) {u : TableId} (h : c.table? u = some t) (name : String) :
    (of c).ownField u name = .ok ((c.ownColumn? u name).map (·.id)) := by
  have hid : t.id = u := hc.table_id u t h
  have hfields : ∀ f ∈ c.columnsOf t.id, (of c).field f.id = .ok f := fun f hf =>
    of_field (hc.column_mem (Catalog.mem_columnsOf.mp hf).1)
  rw [ownField, of_table h]
  subst hid
  exact findM?_handles hfields fun f => f.field.name == name

theorem of_updateTable (c' : Catalog) {a : Arena} (htables : a.tables = c.tables.map c.node)
    (hc : c.Sound) (hsame : c'.tables = c.tables) (ht : c.table? t.id = some t)
    {change : TableNode → TableNode} (hchange : change (c.node t) = c'.node t)
    (hothers : ∀ u ∈ c.tables, u.id ≠ t.id → c'.node u = c.node u) :
    a.updateTable t.id change = .ok { a with tables := c'.tables.map c'.node } := by
  have hnode : a.table t.id = .ok (c.node t) := by
    apply at?_of_getElem?
    rw [htables, List.getElem?_map, ← Catalog.table?, ht]
    rfl
  have hset : a.tables.set t.id (c'.node t) = c'.tables.map c'.node := by
    rw [htables, hsame]
    apply List.ext_getElem?
    intro i
    rw [List.getElem?_set, List.length_map, List.getElem?_map, List.getElem?_map]
    rcases eq_or_ne t.id i with rfl | hi
    · rw [if_pos rfl, if_pos (Catalog.table?_lt ht), ← Catalog.table?, ht]
      rfl
    · rw [if_neg hi]
      cases hu : c.tables[i]? with
      | none => rfl
      | some u =>
        have hid : u.id = i := hc.table_id i u hu
        rw [Option.map_some, Option.map_some,
          hothers u (List.mem_of_getElem? hu) (hid ▸ Ne.symm hi)]
  rw [updateTable, hnode]
  change Except.ok { a with tables := a.tables.set t.id (change (c.node t)) } = _
  rw [hchange, hset]

theorem of_addEntry (hc : c.Sound) (name : String) (label : Option String) :
    ((of c).addEntry name label).run =
      .ok ((c.addEntry name label).map fun x => (x.1, of x.2)) := by
  have hlength : (of c).tables.length = c.tables.length := List.length_map _
  have hany : ∀ reference, ((of c).tables.any fun n => n.entry.reference == reference) =
      (c.tableByReference? reference).isSome := by
    intro reference
    rw [Catalog.tableByReference?, Option.isSome_map, List.isSome_find?]
    exact List.any_map
  obtain ⟨hcolumns, hrelations⟩ := hc.lists_nothing (Nat.le_refl c.tables.length)
  simp only [addEntry, Catalog.addEntry, hlength, hany]
  split_ifs
  · rfl
  · have hnode : c.node ⟨c.tables.length, name, label⟩ =
        ⟨⟨c.tables.length, name, label⟩, [], []⟩ := by
      rw [Catalog.node, hcolumns, hrelations]
      rfl
    have hof : of { c with tables := c.tables ++ [⟨c.tables.length, name, label⟩] } =
        { of c with tables := (of c).tables ++ [⟨⟨c.tables.length, name, label⟩, [], []⟩] } := by
      rw [← hnode]
      exact congrArg (fun nodes => { of c with tables := nodes }) List.map_append
    rw [← hof]
    rfl

theorem map_filter_concat (p : α → Bool) (g : α → β) (xs : List α) (x : α) :
    ((xs ++ [x]).filter p).map g =
      if p x then (xs.filter p).map g ++ [g x] else (xs.filter p).map g := by
  rw [List.filter_append, List.filter_singleton, List.map_append]
  cases p x <;> simp

theorem exists_filter_concat (p : α → Bool) (q : α → Prop) (xs : List α) (x : α) :
    (∃ y ∈ (xs ++ [x]).filter p, q y) ↔ (p x = true ∧ q x) ∨ ∃ y ∈ xs.filter p, q y := by
  rw [List.filter_append, List.filter_singleton]
  cases p x <;> simp [or_and_right, exists_or, or_comm]

theorem mark_if {m : UsageMap} (h : m.Ordered) (b : Bool) (u : TableId) (tag : Usage) :
    (if b then m.mark u tag else m).Ordered ∧ ∀ t v,
      (if b then m.mark u tag else m).Has t v ↔ (b = true ∧ t = u ∧ v = tag) ∨ m.Has t v := by
  cases b with
  | false => simp [h]
  | true => exact ⟨h.mark u tag, fun t v => by simp [UsageMap.has_mark h]⟩

theorem enlist_defaultUsage {c' : Catalog} (f : Field)
    (hcolumns : c'.columns = c.columns ++ [⟨c.columns.length, t.id, t.reference, f⟩])
    (hrelations : c'.relations = c.relations) :
    ((of c).enlist t f).defaultUsage = c'.defaultUsage := by
  obtain ⟨hordered, htags⟩ := c.defaultUsage_tags
  obtain ⟨hordered', htags'⟩ := c'.defaultUsage_tags
  obtain ⟨hfilter, hfiltered⟩ := mark_if hordered f.softDelete t.id .filter
  obtain ⟨hsort, hsorted⟩ := mark_if hfilter f.sort.isSome t.id .sort
  have hsoftDeletes : ∀ u, (∃ g ∈ c'.softDeletes, g.table = u) ↔
      (f.softDelete = true ∧ t.id = u) ∨ ∃ g ∈ c.softDeletes, g.table = u := by
    intro u
    rw [Catalog.softDeletes, hcolumns]
    exact exists_filter_concat _ _ _ _
  have hsorts : ∀ u, (∃ g ∈ c'.defaultSorts, g.table = u) ↔
      (f.sort.isSome = true ∧ t.id = u) ∨ ∃ g ∈ c.defaultSorts, g.table = u := by
    intro u
    rw [Catalog.defaultSorts, hcolumns]
    exact exists_filter_concat _ _ _ _
  apply hsort.ext hordered'
  intro u tag
  rw [htags', hsorted, hfiltered, htags, hsoftDeletes, hsorts, hrelations, eq_comm (a := u)]
  cases tag <;> simp

theorem enlist_of (hc : c.Sound) (ht : c.table? t.id = some t) {c' : Catalog} (f : Field)
    (htables : c'.tables = c.tables)
    (hcolumns : c'.columns = c.columns ++ [⟨c.columns.length, t.id, t.reference, f⟩])
    (hrelations : c'.relations = c.relations) :
    ({ (of c).enlist t f with index := c'.index } : Arena).updateTable t.id (fun n =>
      { n with fields := n.fields ++ [c.columns.length] }) = .ok (of c') := by
  have hchange : ({ c.node t with fields := (c.node t).fields ++ [c.columns.length] } : TableNode) =
      c'.node t := by
    simp [Catalog.node, Catalog.columnsOf, Catalog.relationsOf, hcolumns, hrelations]
  have hothers : ∀ u ∈ c.tables, u.id ≠ t.id → c'.node u = c.node u := by
    intro u _ hu
    simp [Catalog.node, Catalog.columnsOf, Catalog.relationsOf, hcolumns, hrelations, hu.symm]
  have hsearch : c'.searchColumns.map (·.id) = ((of c).enlist t f).searchFields := by
    rw [Catalog.searchColumns, hcolumns, map_filter_concat]
    rfl
  have hpredicates : c'.softDeletes.map .isFalse = ((of c).enlist t f).defaultPredicates := by
    rw [Catalog.softDeletes, hcolumns, map_filter_concat]
    rfl
  have hsorts : c'.defaultSorts.map (·.id) = ((of c).enlist t f).defaultSorts := by
    rw [Catalog.defaultSorts, hcolumns, map_filter_concat]
    rfl
  have hof : of c' =
      { (of c).enlist t f with index := c'.index, tables := c'.tables.map c'.node } := by
    rw [of, hsearch, hpredicates, hsorts, ← enlist_defaultUsage f hcolumns hrelations, hcolumns,
      hrelations]
    rfl
  rw [of_updateTable c' rfl hc htables ht hchange hothers, hof]

theorem ownColumn?_isSome (c : Catalog) (u : TableId) (name : String) :
    (c.ownColumn? u name).isSome = true ↔ name ∈ (c.fieldsOf u).map (·.name) := by
  simp [Catalog.ownColumn?, Catalog.fieldsOf]

theorem of_addField (hc : c.Sound) (ht : c.table? t.id = some t) {names : List String}
    (hnames : ∀ name, name ∈ names ↔ name ∈ (c.fieldsOf t.id).map (·.name)) (f : Field) :
    ((of c).addField t names f).run = .ok ((c.addField t f).map of) := by
  have hdouble : (names.contains f.name = true) = ((c.ownColumn? t.id f.name).isSome = true) := by
    rw [List.contains_iff_mem, hnames, ownColumn?_isSome]
  have hadd : ∀ c' : Catalog, ((of c).indexWith t f).run = .ok (.ok c'.index) →
      c'.tables = c.tables → c'.columns = (c.addColumn t f).columns → c'.relations = c.relations →
      ((of c).indexWith t f >>= fun index =>
        (liftM (({ (of c).enlist t f with index := index } : Arena).updateTable t.id fun n =>
          { n with fields := n.fields ++ [(of c).fields.length] }) :
            Checked BuildError Arena)).run = .ok (.ok (of c')) := by
    intro c' hindex htables hcolumns hrelations
    rw [Checked.run_bind_ok hindex]
    exact Checked.run_lift (enlist_of hc ht f htables hcolumns hrelations)
  rw [addField, Catalog.addField]
  simp only [hdouble]
  split_ifs with hnew hindexed
  · rfl
  · apply hadd (c.addColumn t f) _ rfl rfl rfl
    rw [indexWith, if_pos hindexed]
    rfl
  · have hkey : ((of c).indexWith t f).run = .ok (match c.freeKey? t.name f with
        | none => .error (.indexKeyCollision t.name f.name)
        | some key => .ok (c.index ++ [(key, c.columns.length)])) := by
      rw [indexWith, if_neg hindexed]
      change (match c.freeKey? t.name f with
        | none => _
        | some key => _ : Checked BuildError (List (String × FieldId))).run = _
      cases c.freeKey? t.name f <;> rfl
    cases hfree : c.freeKey? t.name f with
    | none =>
      rw [hfree] at hkey
      exact Checked.run_bind_error hkey _
    | some key =>
      rw [hfree] at hkey
      exact hadd { c.addColumn t f with index := c.index ++ [(key, c.columns.length)] } hkey rfl rfl
        rfl

theorem of_addFields (hc : c.Sound) (ht : c.table? t.id = some t) {names : List String}
    (hnames : ∀ name, name ∈ names ↔ name ∈ (c.fieldsOf t.id).map (·.name)) (fs : List Field) :
    ((of c).addFields t names fs).run = .ok ((c.addFields t fs).map of) := by
  induction fs generalizing c names with
  | nil => rfl
  | cons f fs ih =>
    apply Checked.run_bind_map (of_addField hc ht hnames f)
    intro c' h
    obtain ⟨hc', hg⟩ := hc.addField ht h
    apply ih hc' (hg.table? ht)
    intro name
    rw [(Catalog.addField_fieldsOf h).1]
    simp [hnames, or_comm]

theorem of_keyField (hc : c.Sound) (ht : c.table? t.id = some t) (keyEnd : KeyEnd) (name : String) :
    ((of c).keyField keyEnd t name).run = .ok ((c.keyColumn keyEnd t name).map id) := by
  rw [keyField, Checked.run_bind_ok (Checked.run_lift (of_ownField hc ht name)), Catalog.keyColumn]
  cases c.ownColumn? t.id name <;> rfl

theorem hang_of (hc : c.Sound) (ht : c.table? t.id = some t) {c' : Catalog} {r : RelationEntry}
    (hid : r.id = c.relations.length) (hparent : r.parent = t.id) (htables : c'.tables = c.tables)
    (hcolumns : c'.columns = c.columns) (hrelations : c'.relations = c.relations ++ [r])
    (hindex : c'.index = c.index) :
    ({ of c with
      relations := c.relations ++ [r]
      defaultUsage := if r.mandatory then c.defaultUsage.mark r.child .mandatory
        else c.defaultUsage } : Arena).updateTable t.id (fun n =>
      { n with relations := n.relations ++ [c.relations.length] }) = .ok (of c') := by
  have hchange : ({ c.node t with
      relations := (c.node t).relations ++ [c.relations.length] } : TableNode) = c'.node t := by
    simp [Catalog.node, Catalog.columnsOf, Catalog.relationsOf, hcolumns, hrelations, hparent, hid]
  have hothers : ∀ u ∈ c.tables, u.id ≠ t.id → c'.node u = c.node u := by
    intro u _ hu
    simp [Catalog.node, Catalog.columnsOf, Catalog.relationsOf, hcolumns, hrelations, hparent,
      hu.symm]
  have husage : c'.defaultUsage =
      if r.mandatory then c.defaultUsage.mark r.child .mandatory else c.defaultUsage := by
    rw [Catalog.defaultUsage, Catalog.softDeletes, Catalog.defaultSorts, hcolumns, hrelations,
      List.filter_append, List.foldl_append, List.filter_singleton, Catalog.defaultUsage]
    cases r.mandatory <;> rfl
  have hof : of c' = { of c with
      relations := c.relations ++ [r]
      defaultUsage := if r.mandatory then c.defaultUsage.mark r.child .mandatory
        else c.defaultUsage
      tables := c'.tables.map c'.node } := by
    rw [of, husage, Catalog.searchColumns, Catalog.softDeletes, Catalog.defaultSorts, hcolumns,
      hrelations, hindex]
    rfl
  rw [of_updateTable c' rfl hc htables ht hchange hothers, hof]

theorem of_addRelation (hc : c.Sound) {u : TableEntry} (ht : c.table? t.id = some t)
    (hu : c.table? u.id = some u) (foreignKey : FieldId) (link : Link) :
    ((of c).addRelation t u foreignKey link).run =
      .ok ((c.addRelation t u foreignKey link).map of) := by
  apply Checked.run_bind_map (of_keyField hc hu .reference link.referenceKey)
  intro referenceKey _
  exact Checked.run_lift (hang_of hc ht rfl rfl rfl rfl rfl rfl)

mutual
theorem of_addTable : ∀ (x : Table) {c : Catalog} (path : List (String × Option String)),
    c.Sound → ((of c).addTable path x).run =
      .ok ((c.addTable path x).map fun y => (y.1, of y.2))
  | ⟨name, label, fields, relations⟩, c, path, hc => by
    rw [addTable, Catalog.addTable]
    apply Checked.run_bind_map (of_addEntry hc name label)
    rintro ⟨t, c₁⟩ h₁
    obtain ⟨hc₁, -⟩ := hc.addEntry h₁
    obtain ⟨ht, hempty⟩ : c₁.table? t.id = some t ∧ c₁.fieldsOf t.id = [] := by
      rw [(Catalog.addEntry_untouched h₁ t.id).fieldsOf, Catalog.fieldsOf]
      obtain ⟨rfl, -, rfl⟩ := Catalog.addEntry_ok h₁
      rw [(hc.lists_nothing (Nat.le_refl c.tables.length)).1]
      exact ⟨List.getElem?_concat_length, rfl⟩
    have hnone : ∀ name, name ∈ [] ↔ name ∈ (c₁.fieldsOf t.id).map (·.name) := by
      intro name
      rw [hempty]
      rfl
    apply Checked.run_bind_map (of_addFields hc₁ ht hnone fields)
    intro c₂ h₂
    obtain ⟨-, hc₂, -, -, -, ht₂, hb⟩ := hc.addHead h₁ h₂
    apply Checked.run_bind_map (of_addRelations relations ((name, label) :: path) hc₂ ht₂ hb)
    intro c₃ _
    rfl

theorem of_addRelations : ∀ (rs : List (Link × Table)) {c : Catalog} {t : TableEntry}
    (path : List (String × Option String)), c.Sound → c.table? t.id = some t →
    (∀ v, t.id ≤ v → v < c.tables.length → c.AtOrBelow t.id v) →
    ((of c).addRelations path t rs).run = .ok ((c.addRelations path t rs).map of)
  | [], c, t, path, hc, ht, hb => by
    rw [addRelations, Catalog.addRelations]
    rfl
  | (link, child) :: rs, c, t, path, hc, ht, hb => by
    rw [addRelations, Catalog.addRelations]
    split_ifs
    · rfl
    · apply Checked.run_bind_map (of_keyField hc ht .foreign link.foreignKey)
      intro foreignKey hkey
      apply Checked.run_bind_map (of_addTable child path hc)
      rintro ⟨u, c₁⟩ h₁
      obtain ⟨hu, hadd⟩ := Catalog.addTable_added child h₁ hc
      apply Checked.run_bind_map (of_addRelation hadd.sound (hadd.grows.table? ht) hadd.entry
        foreignKey link)
      intro c₂ h₂
      obtain ⟨f, hf, rfl⟩ := Catalog.keyColumn_ok hkey
      obtain ⟨hc₂, hg₂, -, hb₂, -⟩ := hadd.addRelation hu hc ht hb hf h₂
      exact of_addRelations rs path hc₂ (hg₂.table? (hadd.grows.table? ht)) hb₂
end

theorem of_build (x : Table) : (build x).run = .ok ((Catalog.build x).map of) := by
  have hadd : ((of {}).addTable [] x).run = _ := of_addTable x [] .empty
  have hbuild : (build x).run =
      .ok ((Catalog.addTable {} [] x >>= fun y => Except.ok y.2).map of) :=
    Checked.run_bind_map hadd fun _ _ => rfl
  rw [hbuild, Catalog.build]
  cases Catalog.addTable {} [] x <;> rfl

end Arena
end Listing
