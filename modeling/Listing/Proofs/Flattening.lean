import Listing.Proofs.ColumnScope

namespace Listing

theorem mapM_mono {α β : Type} {f g : α → Option β} {xs : List α} {ys : List β}
    (h : xs.mapM f = some ys) (hfg : ∀ x ∈ xs, ∀ y, f x = some y → g x = some y) :
    xs.mapM g = some ys := by
  induction xs generalizing ys with
  | nil => exact h
  | cons x xs ih =>
    rw [List.mapM_cons] at h ⊢
    obtain ⟨y, hy, h⟩ := Option.bind_eq_some_iff.mp h
    obtain ⟨zs, hzs, h⟩ := Option.bind_eq_some_iff.mp h
    rw [hfg x List.mem_cons_self y hy, ih hzs fun z hz => hfg z (List.mem_cons_of_mem _ hz)]
    exact h

theorem find?_of_nodup {α κ : Type} [DecidableEq κ] {xs : List α} {key : α → κ}
    (h : (xs.map key).Nodup) {x : α} (hx : x ∈ xs) :
    xs.find? (fun y => key y == key x) = some x := by
  have hsome : (xs.find? fun y => key y == key x).isSome :=
    List.find?_isSome.mpr ⟨x, hx, beq_self_eq_true (key x)⟩
  obtain ⟨y, hy⟩ := Option.isSome_iff_exists.mp hsome
  have hkey : key y = key x := by simpa using List.find?_some hy
  rwa [List.inj_on_of_nodup_map h (List.mem_of_find?_eq_some hy) hx hkey] at hy

theorem perm_grouped {α : Type} {xs : List α} {id key : α → Nat} {n : Nat}
    (hid : ∀ i x, xs[i]? = some x → id x = i) (hkey : ∀ x ∈ xs, key x < n) :
    ((List.range n).flatMap fun u => (xs.filter fun x => key x == u).map id).Perm
      (List.range xs.length) := by
  have hids : xs.map id = List.range xs.length := by
    apply List.ext_getElem (by simp)
    intro i hi _
    rw [List.length_map] at hi
    rw [List.getElem_map, List.getElem_range, hid i _ (List.getElem?_eq_getElem hi)]
  have hnodup : (xs.map id).Nodup := hids ▸ List.nodup_range
  have hmem : ∀ u i, i ∈ (xs.filter fun x => key x == u).map id ↔
      ∃ x ∈ xs, key x = u ∧ id x = i := by simp [and_assoc]
  rw [← hids, List.perm_ext_iff_of_nodup _ hnodup]
  · intro i
    simp only [List.mem_flatMap, List.mem_range, hmem, List.mem_map]
    constructor
    · rintro ⟨u, -, x, hx, -, hi⟩
      exact ⟨x, hx, hi⟩
    · rintro ⟨x, hx, hi⟩
      exact ⟨key x, hkey x hx, x, hx, rfl, hi⟩
  · apply List.nodup_flatMap.mpr
    refine ⟨fun u _ => hnodup.sublist (List.filter_sublist.map id), ?_⟩
    apply List.nodup_range.imp
    intro u v huv i hu hv
    obtain ⟨x, hx, hxu, hxi⟩ := (hmem u i).mp hu
    obtain ⟨y, hy, hyv, hyi⟩ := (hmem v i).mp hv
    obtain rfl := List.inj_on_of_nodup_map hnodup hx hy (hxi.trans hyi.symm)
    exact huv (hxu.symm.trans hyv)

namespace Table

mutual
def preorder : Table → List Table
  | ⟨name, label, fields, relations⟩ => ⟨name, label, fields, relations⟩ :: preorderAll relations

def preorderAll : List (Link × Table) → List Table
  | [] => []
  | (_, t) :: rs => t.preorder ++ preorderAll rs
end

theorem preorder_zero (t : Table) : t.preorder[0]? = some t := by
  cases t
  rw [preorder, List.getElem?_cons_zero]

end Table

namespace Catalog

def linked (c : Catalog) (read : TableId → Option Table) (r : RelationEntry) :
    Option (Link × Table) := do
  let foreignKey ← c.column? r.foreignKey
  let referenceKey ← c.column? r.referenceKey
  let child ← read r.child
  some (⟨r.mandatory, foreignKey.field.name, referenceKey.field.name⟩, child)

def fieldsOf (c : Catalog) (u : TableId) : List Field := (c.columnsOf u).map (·.field)

/-- The declaration that is read back from a table, with no more than `n` tables on a way down. -/
def subtree (c : Catalog) : Nat → TableId → Option Table
  | 0, _ => none
  | n + 1, u => do
    let t ← c.table? u
    let relations ← (c.relationsOf u).mapM (c.linked (c.subtree n))
    some ⟨t.name, t.label, c.fieldsOf u, relations⟩

def tree? (c : Catalog) (u : TableId) : Option Table := c.subtree c.tables.length u

structure Untouched (c c' : Catalog) (u : TableId) : Prop where
  columns : c'.columnsOf u = c.columnsOf u
  relations : c'.relationsOf u = c.relationsOf u

variable {c c' c'' : Catalog} {t : TableEntry} {u : TableId}

theorem mem_columnsOf {f : Column} : f ∈ c.columnsOf u ↔ f ∈ c.columns ∧ f.table = u := by
  rw [columnsOf, List.mem_filter, beq_iff_eq]

theorem name_mem_fieldsOf {f : Column} (hf : f ∈ c.columns) (hu : f.table = u) :
    f.field.name ∈ (c.fieldsOf u).map (·.name) := by
  rw [fieldsOf, List.map_map]
  exact List.mem_map_of_mem (mem_columnsOf.mpr ⟨hf, hu⟩)

theorem Untouched.refl (c : Catalog) (u : TableId) : Untouched c c u := ⟨rfl, rfl⟩

theorem Untouched.trans (h : Untouched c c' u) (h' : Untouched c' c'' u) : Untouched c c'' u :=
  ⟨h'.columns.trans h.columns, h'.relations.trans h.relations⟩

theorem Untouched.fieldsOf (h : Untouched c c' u) : c'.fieldsOf u = c.fieldsOf u := by
  rw [Catalog.fieldsOf, h.columns, Catalog.fieldsOf]

theorem addEntry_untouched {name : String} {label : Option String}
    (h : c.addEntry name label = .ok (t, c')) (u : TableId) : Untouched c c' u := by
  obtain ⟨-, -, rfl⟩ := addEntry_ok h
  exact ⟨rfl, rfl⟩

theorem addField_fieldsOf {f : Field} (h : c.addField t f = .ok c') :
    c'.fieldsOf t.id = c.fieldsOf t.id ++ [f] ∧ f.name ∉ (c.fieldsOf t.id).map (·.name) := by
  obtain ⟨hnew, index, rfl⟩ := addField_ok h
  refine ⟨by simp [fieldsOf, columnsOf, addColumn], fun hmem => ?_⟩
  rw [fieldsOf, List.map_map] at hmem
  obtain ⟨g, hg, hname⟩ := List.mem_map.mp hmem
  exact List.find?_eq_none.mp hnew g hg (beq_iff_eq.mpr hname)

theorem addField_untouched {f : Field} (h : c.addField t f = .ok c') (hu : u ≠ t.id) :
    Untouched c c' u := by
  obtain ⟨-, index, rfl⟩ := addField_ok h
  exact ⟨by simp [columnsOf, addColumn, Ne.symm hu], rfl⟩

theorem addFields_fieldsOf {fs : List Field} (h : c.addFields t fs = .ok c')
    (hn : ((c.fieldsOf t.id).map (·.name)).Nodup) :
    c'.fieldsOf t.id = c.fieldsOf t.id ++ fs ∧ ((c'.fieldsOf t.id).map (·.name)).Nodup := by
  induction fs generalizing c with
  | nil =>
    cases h
    exact ⟨(List.append_nil _).symm, hn⟩
  | cons f fs ih =>
    obtain ⟨c₁, h₁, h⟩ := of_bind_ok h
    obtain ⟨hadd, hnew⟩ := addField_fieldsOf h₁
    have hn₁ : ((c₁.fieldsOf t.id).map (·.name)).Nodup := by
      rw [hadd, List.map_append]
      exact List.concat_eq_append ▸ hn.concat hnew
    obtain ⟨hcols, hn'⟩ := ih h hn₁
    exact ⟨by rw [hcols, hadd, List.append_assoc]; rfl, hn'⟩

theorem addFields_untouched {fs : List Field} (h : c.addFields t fs = .ok c') (hu : u ≠ t.id) :
    Untouched c c' u := by
  induction fs generalizing c with
  | nil =>
    cases h
    exact .refl _ _
  | cons f fs ih =>
    obtain ⟨c₁, h₁, h⟩ := of_bind_ok h
    exact (addField_untouched h₁ hu).trans (ih h)

theorem addRelation_untouched {child : TableEntry} {f : FieldId} {link : Link}
    (h : c.addRelation t child f link = .ok c') (hu : u ≠ t.id) : Untouched c c' u := by
  obtain ⟨g, -, rfl⟩ := addRelation_ok h
  exact ⟨rfl, by simp [relationsOf, Ne.symm hu]⟩

theorem addRelation_relationsOf {child : TableEntry} {f : FieldId} {link : Link}
    (h : c.addRelation t child f link = .ok c') :
    c'.fieldsOf t.id = c.fieldsOf t.id ∧ ∃ g, c.ownColumn? child.id link.referenceKey = some g ∧
      c'.relationsOf t.id = c.relationsOf t.id ++
        [⟨c.relations.length, t.id, child.id, f, g.id, link.mandatory⟩] := by
  obtain ⟨g, hg, rfl⟩ := addRelation_ok h
  exact ⟨rfl, g, hg, by simp [relationsOf]⟩

theorem Sound.lists_nothing (h : c.Sound) (hu : c.tables.length ≤ u) :
    c.columnsOf u = [] ∧ c.relationsOf u = [] := by
  simp only [columnsOf, relationsOf, List.filter_eq_nil_iff, beq_iff_eq]
  refine ⟨fun f hf he => ?_, fun r hr he => ?_⟩
  · obtain ⟨t, ht, -⟩ := h.column_table f hf
    have := table?_lt ht
    lia
  · have := h.ascends r hr
    have := h.child_lt r hr
    lia

theorem Sound.addHead_lists {c₁ c₂ : Catalog} (hc : c.Sound) {name : String}
    {label : Option String} {fields : List Field} (h₁ : c.addEntry name label = .ok (t, c₁))
    (h₂ : c₁.addFields t fields = .ok c₂) :
    c₂.fieldsOf t.id = fields ∧ (fields.map (·.name)).Nodup ∧ c₂.relationsOf t.id = [] ∧
      ∀ u ≠ t.id, Untouched c c₂ u := by
  obtain ⟨rfl, -, -, -, hrel, -⟩ := hc.addHead h₁ h₂
  obtain ⟨hcolumns, hrelations⟩ := hc.lists_nothing (Nat.le_refl c.tables.length)
  have hempty : c₁.fieldsOf c.tables.length = [] := by
    rw [(addEntry_untouched h₁ _).fieldsOf, fieldsOf, hcolumns, List.map_nil]
  obtain ⟨hown, hnodup⟩ := addFields_fieldsOf h₂ (by rw [hempty]; exact List.nodup_nil)
  rw [hempty, List.nil_append] at hown
  refine ⟨hown, hown ▸ hnodup, ?_, fun u hu => ?_⟩
  · rw [relationsOf, hrel, ← relationsOf, hrelations]
  · exact (addEntry_untouched h₁ u).trans (addFields_untouched h₂ hu)

theorem linked_eq_some {read : TableId → Option Table} {r : RelationEntry} {link : Link}
    {child : Table} : c.linked read r = some (link, child) ↔
      ∃ f g, c.column? r.foreignKey = some f ∧ c.column? r.referenceKey = some g ∧
        read r.child = some child ∧ link = ⟨r.mandatory, f.field.name, g.field.name⟩ := by
  simp only [linked, Option.bind_eq_bind, Option.bind_eq_some_iff, Option.some.injEq,
    Prod.mk.injEq]
  constructor
  · rintro ⟨f, hf, g, hg, child, hchild, rfl, rfl⟩
    exact ⟨f, g, hf, hg, hchild, rfl⟩
  · rintro ⟨f, g, hf, hg, hchild, rfl⟩
    exact ⟨f, hf, g, hg, child, hchild, rfl, rfl⟩

theorem subtree_succ {n : Nat} {x : Table} : c.subtree (n + 1) u = some x ↔
    ∃ t rs, c.table? u = some t ∧ (c.relationsOf u).mapM (c.linked (c.subtree n)) = some rs ∧
      x = ⟨t.name, t.label, c.fieldsOf u, rs⟩ := by
  simp only [subtree, Option.bind_eq_bind, Option.bind_eq_some_iff, Option.some.injEq]
  constructor
  · rintro ⟨t, ht, rs, hrs, rfl⟩
    exact ⟨t, rs, ht, hrs, rfl⟩
  · rintro ⟨t, rs, ht, hrs, rfl⟩
    exact ⟨t, ht, rs, hrs, rfl⟩

theorem Grows.linked (hg : Grows c c') {read read' : TableId → Option Table} {r : RelationEntry}
    (hread : ∀ x, read r.child = some x → read' r.child = some x) (p : Link × Table)
    (h : c.linked read r = some p) : c'.linked read' r = some p := by
  obtain ⟨f, g, hf, hk, hchild, hlink⟩ := linked_eq_some.mp h
  exact linked_eq_some.mpr ⟨f, g, hg.column? hf, hg.column? hk, hread _ hchild, hlink⟩

theorem Grows.subtree (hg : Grows c c') (hc : c.Sound) {v : TableId}
    (hv : ∀ u, v ≤ u → u < c.tables.length → Untouched c c' u) {n : Nat} {u : TableId} {x : Table}
    (hu : v ≤ u) (h : c.subtree n u = some x) : c'.subtree n u = some x := by
  induction n generalizing u x with
  | zero => cases h
  | succ n ih =>
    obtain ⟨t, rs, ht, hrs, rfl⟩ := subtree_succ.mp h
    have hsame := hv u hu (table?_lt ht)
    refine subtree_succ.mpr ⟨t, rs, hg.table? ht, ?_, by rw [hsame.fieldsOf]⟩
    rw [hsame.relations]
    refine mapM_mono hrs fun r hr p hp => hg.linked (fun x hx => ih ?_ hx) p hp
    -- a child is numbered behind its parent, so that it is at or behind `v`, too
    obtain ⟨hr, hparent⟩ := mem_relationsOf.mp hr
    have := hc.ascends r hr
    lia

structure Laid (c c' : Catalog) (ts : List Table) : Prop where
  length : c'.tables.length = c.tables.length + ts.length
  trees : ∀ n i x, c'.tables.length ≤ c.tables.length + i + n → ts[i]? = some x →
    c'.subtree n (c.tables.length + i) = some x
  names : ∀ x ∈ ts, (x.fields.map (·.name)).Nodup

theorem Laid.nil (c : Catalog) : Laid c c [] where
  length := rfl
  trees := by simp
  names := by simp

theorem Laid.of_tables {ts : List Table} (h : Laid c' c'' ts) (he : c'.tables = c.tables) :
    Laid c c'' ts where
  length := by rw [h.length, he]
  trees := by
    rw [← he]
    exact h.trees
  names := h.names

theorem Laid.head {x : Table} {ts : List Table} (h : Laid c c' (x.preorder ++ ts)) {n : Nat}
    (hn : c'.tables.length ≤ c.tables.length + n) : c'.subtree n c.tables.length = some x := by
  apply h.trees n 0 x hn
  have hpos := (List.getElem?_eq_some_iff.mp x.preorder_zero).1
  rw [List.getElem?_append_left hpos, Table.preorder_zero]

theorem Laid.append {ts ts' : List Table} (h : Laid c c' ts) (h' : Laid c' c'' ts')
    (hg : Grows c' c'') (hc : c'.Sound)
    (hsame : ∀ u, c.tables.length ≤ u → u < c'.tables.length → Untouched c' c'' u) :
    Laid c c'' (ts ++ ts') where
  length := by rw [h'.length, h.length, List.length_append, Nat.add_assoc]
  trees := by
    intro n i x hn hi
    rw [List.getElem?_append] at hi
    split_ifs at hi with hlt
    · have hfuel : c'.tables.length ≤ c.tables.length + i + n := by
        have := h'.length
        omega
      -- what is added later leaves alone what has been laid
      exact hg.subtree hc hsame (Nat.le_add_right _ _) (h.trees n i x hfuel hi)
    · have hindex : c.tables.length + i = c'.tables.length + (i - ts.length) := by
        have := h.length
        omega
      rw [hindex] at hn ⊢
      exact h'.trees n _ x hn hi
  names := fun x hx => (List.mem_append.mp hx).elim (h.names x) (h'.names x)

structure Hung (c c' : Catalog) (t : TableEntry) (rs : List (Link × Table)) : Prop where
  laid : Laid c c' (Table.preorderAll rs)
  untouched : ∀ u < c.tables.length, u ≠ t.id → Untouched c c' u
  fields : c'.fieldsOf t.id = c.fieldsOf t.id
  relations : ∃ new, c'.relationsOf t.id = c.relationsOf t.id ++ new ∧
    ∀ n, c'.tables.length ≤ c.tables.length + n →
      new.mapM (c'.linked (c'.subtree n)) = some rs

theorem Hung.nil (c : Catalog) (t : TableEntry) : Hung c c t [] where
  laid := .nil c
  untouched := fun u _ _ => .refl c u
  fields := rfl
  relations := ⟨[], by simp, fun _ _ => rfl⟩

theorem Added.linked {c₁ : Catalog} {child : TableEntry} {link : Link} {x : Table} {f g : Column}
    {r : RelationEntry} {read : TableId → Option Table} (hadd : Added c child c₁) (hc : c.Sound)
    (hg : Grows c₁ c') (hf : c.ownColumn? t.id link.foreignKey = some f)
    (hkey : c₁.ownColumn? child.id link.referenceKey = some g) (hread : read r.child = some x)
    (hr : r.foreignKey = f.id ∧ r.referenceKey = g.id ∧ r.mandatory = link.mandatory) :
    c'.linked read r = some (link, x) := by
  obtain ⟨hforeign, hreference, hmandatory⟩ := hr
  obtain ⟨hfm, -, hfn⟩ := ownColumn?_some hf
  obtain ⟨hgm, -, hgn⟩ := ownColumn?_some hkey
  refine linked_eq_some.mpr ⟨f, g, ?_, ?_, hread, ?_⟩
  · rw [hforeign]
    exact hg.column? (hadd.grows.column? (hc.column_mem hfm))
  · rw [hreference]
    exact hg.column? (hadd.sound.column_mem hgm)
  · rw [hmandatory, hfn, hgn]

theorem Hung.cons {c₁ c₂ : Catalog} {child : TableEntry} {link : Link} {x : Table}
    {rs : List (Link × Table)} {f : Column} (hc : c.Sound) (ht : t.id < c.tables.length)
    (hf : c.ownColumn? t.id link.foreignKey = some f) (hadd : Added c child c₁)
    (hid : child.id = c.tables.length) (hlaid : Laid c c₁ x.preorder)
    (hsame : ∀ u < c.tables.length, Untouched c c₁ u)
    (h : c₁.addRelation t child f.id link = .ok c₂) (hg : Grows c₂ c') (hrest : Hung c₂ c' t rs) :
    Hung c c' t ((link, x) :: rs) := by
  obtain ⟨hfields, g, hkey, hrel⟩ := addRelation_relationsOf h
  obtain ⟨_, _, he⟩ := addRelation_ok h
  have htab : c₂.tables = c₁.tables := by rw [he]
  have hg₁ : Grows c₁ c' := by
    refine Grows.trans ?_ hg
    rw [he]
    exact ⟨List.prefix_rfl, List.prefix_rfl, List.prefix_append _ _⟩
  have hle : c.tables.length ≤ c₁.tables.length := hadd.grows.tables.length_le
  have hkeep : ∀ u < c₁.tables.length, u ≠ t.id → Untouched c₁ c' u := fun u hu hne =>
    (addRelation_untouched h hne).trans (hrest.untouched u (htab ▸ hu) hne)
  -- `t` is numbered before the child, so that its new relations touch nothing at or below the child
  have hlaid' : Laid c c' (x.preorder ++ Table.preorderAll rs) :=
    hlaid.append (hrest.laid.of_tables htab) hg₁ hadd.sound fun u hu hlt =>
      hkeep u hlt (Nat.ne_of_gt (Nat.lt_of_lt_of_le ht hu))
  obtain ⟨new, hnew, hread⟩ := hrest.relations
  refine ⟨hlaid', fun u hu hne => ?_, ?_, ?_⟩
  · exact (hsame u hu).trans (hkeep u (Nat.lt_of_lt_of_le hu hle) hne)
  · rw [hrest.fields, hfields, (hsame _ ht).fieldsOf]
  · refine ⟨⟨c₁.relations.length, t.id, child.id, f.id, g.id, link.mandatory⟩ :: new, ?_, ?_⟩
    · rw [hnew, hrel, (hsame _ ht).relations, List.append_assoc, List.singleton_append]
    · intro n hn
      have hchild : c'.subtree n child.id = some x := hid ▸ hlaid'.head hn
      have hfirst := hadd.linked hc hg₁ hf hkey
        (r := ⟨c₁.relations.length, t.id, child.id, f.id, g.id, link.mandatory⟩) hchild
        ⟨rfl, rfl, rfl⟩
      rw [List.mapM_cons, hfirst, hread n (by rw [htab]; omega)]
      rfl

theorem Hung.table {c₁ c₂ : Catalog} {name : String} {label : Option String} {fields : List Field}
    {rs : List (Link × Table)} (hc : c.Sound) (h₁ : c.addEntry name label = .ok (t, c₁))
    (h₂ : c₁.addFields t fields = .ok c₂) (hg : Grows c₂ c') (hrest : Hung c₂ c' t rs) :
    Laid c c' (Table.preorder ⟨name, label, fields, rs⟩) ∧
      ∀ u < c.tables.length, Untouched c c' u := by
  obtain ⟨he, -, -, htab, -, ht, -⟩ := hc.addHead h₁ h₂
  have hid : t.id = c.tables.length := by rw [he]
  have hlen : c₂.tables.length = c.tables.length + 1 := by simp [htab]
  obtain ⟨hown, hnodup, hnone, hstart⟩ := hc.addHead_lists h₁ h₂
  obtain ⟨new, hnew, hread⟩ := hrest.relations
  rw [hnone, List.nil_append] at hnew
  refine ⟨⟨?_, fun n i x hn hi => ?_, ?_⟩, fun u hu => ?_⟩
  · rw [hrest.laid.length, hlen, Table.preorder, List.length_cons]
    omega
  · cases i with
    | zero =>
      rw [Table.preorder, List.getElem?_cons_zero, Option.some.injEq] at hi
      obtain ⟨m, rfl⟩ : ∃ m, n = m + 1 := ⟨n - 1, by have := hrest.laid.length; omega⟩
      rw [Nat.add_zero c.tables.length, ← hid]
      refine subtree_succ.mpr ⟨t, rs, hg.table? ht, ?_, ?_⟩
      · rw [hnew]
        exact hread m (by omega)
      · rw [hrest.fields, hown, ← hi, he]
    | succ i =>
      rw [Table.preorder, List.getElem?_cons_succ] at hi
      have hindex : c.tables.length + (i + 1) = c₂.tables.length + i := by omega
      rw [hindex] at hn ⊢
      exact hrest.laid.trees n i x hn hi
  · rw [Table.preorder, List.forall_mem_cons]
    exact ⟨hnodup, hrest.laid.names⟩
  · have hne : u ≠ t.id := Nat.ne_of_lt (hid ▸ hu)
    exact (hstart u hne).trans (hrest.untouched u (by omega) hne)

mutual
theorem addTable_laid : ∀ (x : Table) {c c' : Catalog} {path : List (String × Option String)}
    {t : TableEntry}, addTable c path x = .ok (t, c') → c.Sound →
    Laid c c' x.preorder ∧ ∀ u < c.tables.length, Untouched c c' u
  | ⟨name, label, fields, relations⟩, c, c', path, t, h, hc => by
    obtain ⟨c₁, c₂, h₁, h₂, h₃⟩ := addTable_ok h
    obtain ⟨-, hs₂, -, -, -, ht, hb⟩ := hc.addHead h₁ h₂
    have hg := (addRelations_added relations h₃ hs₂ ht hb).grows
    exact Hung.table hc h₁ h₂ hg (addRelations_hung relations h₃ hs₂ ht hb)

theorem addRelations_hung : ∀ (rs : List (Link × Table)) {c c' : Catalog}
    {path : List (String × Option String)} {t : TableEntry}, addRelations c path t rs = .ok c' →
    c.Sound → c.table? t.id = some t →
    (∀ v, t.id ≤ v → v < c.tables.length → c.AtOrBelow t.id v) → Hung c c' t rs
  | [], c, c', path, t, h, hc, ht, hb => by
    rw [addRelations, Except.ok.injEq] at h
    subst h
    exact .nil c t
  | (link, child) :: rs, c, c', path, t, h, hc, ht, hb => by
    obtain ⟨_, f, u, c₁, c₂, hf, h₁, h₂, h₃⟩ := addRelations_cons_ok h
    obtain ⟨hu, hadd⟩ := addTable_added child h₁ hc
    obtain ⟨hs₂, hg₂, -, hb₂, -⟩ := hadd.addRelation hu hc ht hb hf h₂
    have ht₂ := hg₂.table? (hadd.grows.table? ht)
    have hg := (addRelations_added rs h₃ hs₂ ht₂ hb₂).grows
    obtain ⟨hlaid, hsame⟩ := addTable_laid child h₁ hc
    exact .cons hc (table?_lt ht) hf hadd hu hlaid hsame h₂ hg
      (addRelations_hung rs h₃ hs₂ ht₂ hb₂)
end

theorem build_laid {x : Table} (h : build x = .ok c) : Laid {} c x.preorder := by
  obtain ⟨t, ha⟩ := build_ok h
  exact (addTable_laid x ha .empty).1

theorem Laid.tree? {ts : List Table} (h : Laid {} c ts) (u : TableId) : c.tree? u = ts[u]? := by
  have hlen : c.tables.length = ts.length := by simpa using h.length
  cases hu : ts[u]? with
  | some x =>
    have hread := h.trees c.tables.length u x (by simp) hu
    rwa [List.length_nil, Nat.zero_add] at hread
  | none =>
    have hnone : c.table? u = none := by
      rw [Catalog.table?, List.getElem?_eq_none_iff, hlen]
      exact List.getElem?_eq_none_iff.mp hu
    rw [Catalog.tree?]
    cases c.tables.length with
    | zero => rfl
    | succ n => simp [subtree, hnone]

theorem subtree_fields {n : Nat} {x : Table} (h : c.subtree n u = some x) :
    x.fields = c.fieldsOf u := by
  cases n with
  | zero => cases h
  | succ n =>
    obtain ⟨t, rs, -, -, rfl⟩ := subtree_succ.mp h
    rfl

theorem Laid.nodup_names {ts : List Table} (h : Laid {} c ts) (hc : c.Sound) (u : TableId) :
    ((c.columnsOf u).map (·.field.name)).Nodup := by
  cases hu : ts[u]? with
  | some x =>
    have hnames := h.names x (List.mem_of_getElem? hu)
    rw [subtree_fields ((h.tree? u).trans hu), fieldsOf, List.map_map] at hnames
    exact hnames
  | none =>
    have hle : c.tables.length ≤ u := by
      rw [h.length]
      simpa using List.getElem?_eq_none_iff.mp hu
    rw [(hc.lists_nothing hle).1]
    exact List.nodup_nil

theorem columnByName?_iff {reference name : String} {f : Column}
    (hr : (c.tables.map (·.reference)).Nodup)
    (hn : ∀ u, ((c.columnsOf u).map (·.field.name)).Nodup) :
    c.columnByName? reference name = some f ↔
      ∃ t ∈ c.tables, t.reference = reference ∧ f ∈ c.columnsOf t.id ∧ f.field.name = name := by
  rw [columnByName?, Option.bind_eq_some_iff]
  constructor
  · rintro ⟨u, hu, hf⟩
    obtain ⟨t, ht, rfl⟩ := Option.map_eq_some_iff.mp hu
    refine ⟨t, List.mem_of_find?_eq_some ht, by simpa using List.find?_some ht, ?_, ?_⟩
    · exact List.mem_of_find?_eq_some hf
    · exact (ownColumn?_some hf).2.2
  · rintro ⟨t, ht, rfl, hf, rfl⟩
    refine ⟨t.id, ?_, find?_of_nodup (hn t.id) hf⟩
    rw [tableByReference?, find?_of_nodup hr ht, Option.map_some]

/-- The catalog is the declaration laid out flat, table by table in pre-order, and nothing of it is
lost: what is read back from a table is the part of the declaration that has its number. -/
structure Flattens (c : Catalog) (x : Table) : Prop where
  preorder : ∀ u, c.tree? u = x.preorder[u]?
  tree : c.tree? root = some x
  table_id : ∀ u t, c.table? u = some t → t.id = u
  column_id : ∀ i f, c.column? i = some f → f.id = i
  relation_id : ∀ (i : Nat) (r : RelationEntry), c.relations[i]? = some r → r.id = i
  columns_listed : ((List.range c.tables.length).flatMap fun u => (c.columnsOf u).map (·.id)).Perm
    (List.range c.columns.length)
  relations_listed :
    ((List.range c.tables.length).flatMap fun u => (c.relationsOf u).map (·.id)).Perm
      (List.range c.relations.length)
  column_table : ∀ f ∈ c.columns, f.table < c.tables.length ∧
    ∀ u, f ∈ c.columnsOf u ↔ u = f.table
  relation_parent : ∀ r ∈ c.relations, r.parent < r.child ∧ r.child < c.tables.length ∧
    ∀ u, r ∈ c.relationsOf u ↔ u = r.parent
  relation_of_child : ∀ u < c.tables.length, u ≠ root → ∃! r, r ∈ c.relations ∧ r.child = u
  foreign_key : ∀ r ∈ c.relations, ∃ f ∈ c.columnsOf r.parent, c.column? r.foreignKey = some f
  reference_key : ∀ r ∈ c.relations, ∃ f ∈ c.columnsOf r.child, c.column? r.referenceKey = some f
  references : (c.tables.map (·.reference)).Nodup
  column_by_name : ∀ reference name f, c.columnByName? reference name = some f ↔
    ∃ t ∈ c.tables, t.reference = reference ∧ f ∈ c.columnsOf t.id ∧ f.field.name = name

theorem build_flattens {x : Table} (h : build x = .ok c) : c.Flattens x := by
  have hc := build_wellFormed h
  have hlaid := build_laid h
  have hcolumn : ∀ f ∈ c.columns, f.table < c.tables.length := by
    intro f hf
    obtain ⟨t, ht, -⟩ := hc.column_table f hf
    exact table?_lt ht
  have hparent : ∀ r ∈ c.relations, r.parent < c.tables.length := fun r hr =>
    Nat.lt_trans (hc.ascends r hr) (hc.child_lt r hr)
  have hnames := hlaid.nodup_names hc.toSound
  exact {
    preorder := hlaid.tree?
    tree := by rw [hlaid.tree?, root, x.preorder_zero]
    table_id := hc.table_id
    column_id := hc.column_id
    relation_id := hc.relation_id
    columns_listed := perm_grouped hc.column_id hcolumn
    relations_listed := perm_grouped hc.relation_id hparent
    column_table := by
      intro f hf
      exact ⟨hcolumn f hf, fun u => by simp [mem_columnsOf, hf, eq_comm]⟩
    relation_parent := by
      intro r hr
      exact ⟨hc.ascends r hr, hc.child_lt r hr, fun u => by simp [mem_relationsOf, hr, eq_comm]⟩
    relation_of_child := by
      intro u hu hroot
      obtain ⟨r, hr, hchild⟩ := hc.exists_relation hu hroot
      refine ⟨r, ⟨hr, hchild⟩, fun q hq => ?_⟩
      exact hc.relation_of_child hq.1 hr (hq.2.trans hchild.symm)
    foreign_key := by
      intro r hr
      obtain ⟨f, hf, htable⟩ := hc.foreign_key r hr
      exact ⟨f, mem_columnsOf.mpr ⟨column?_mem hf, htable⟩, hf⟩
    reference_key := by
      intro r hr
      obtain ⟨f, hf, htable⟩ := hc.reference_key r hr
      exact ⟨f, mem_columnsOf.mpr ⟨column?_mem hf, htable⟩, hf⟩
    references := hc.references
    column_by_name := fun reference name f => columnByName?_iff hc.references hnames }

theorem build_flattens_shop : build shop = .ok shopCatalog ∧ shopCatalog.tables.length = 4 ∧
    shopCatalog.Flattens shop :=
  ⟨build_shop, rfl, build_flattens build_shop⟩

end Catalog
end Listing
