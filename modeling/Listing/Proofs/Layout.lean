import Listing.Catalog.Build
import Mathlib.Data.List.Nodup

namespace Listing

theorem of_bind_ok {ε α β : Type} {x : Except ε α} {f : α → Except ε β} {b : β}
    (h : x >>= f = .ok b) : ∃ a, x = .ok a ∧ f a = .ok b := by
  match x, h with
  | .ok a, h => exact ⟨a, rfl, h⟩

theorem mapM_eq_ok {ε α β : Type} {f : α → Except ε β} {xs : List α} {ys : List β} :
    xs.mapM f = .ok ys ↔ List.Forall₂ (fun x y => f x = .ok y) xs ys := by
  induction xs generalizing ys with
  | nil =>
    rw [List.mapM_nil, List.forall₂_nil_left_iff]
    exact ⟨fun h => (Except.ok.inj h).symm, fun h => h ▸ rfl⟩
  | cons x xs ih =>
    rw [List.mapM_cons, List.forall₂_cons_left_iff]
    constructor
    · intro h
      obtain ⟨y, hy, h⟩ := of_bind_ok h
      obtain ⟨ys, hys, h⟩ := of_bind_ok h
      exact ⟨y, ys, hy, ih.mp hys, (Except.ok.inj h).symm⟩
    · rintro ⟨y, ys, hy, hys, rfl⟩
      rw [hy, ih.mpr hys]
      rfl

def TableEntry.Owns (t : TableEntry) (f : Column) : Prop :=
  f.table = t.id ∧ f.qualifier = t.reference

namespace Catalog

inductive Descends (c : Catalog) (t : TableId) : Nat → TableId → Prop
  | here : Descends c t 0 t
  | step {n : Nat} {r : RelationEntry} :
      Descends c t n r.parent → r ∈ c.relations → Descends c t (n + 1) r.child

def AtOrBelow (c : Catalog) (t u : TableId) : Prop := ∃ n, c.Descends t n u

structure Sound (c : Catalog) : Prop where
  table_id : ∀ i t, c.table? i = some t → t.id = i
  references : (c.tables.map (·.reference)).Nodup
  column_id : ∀ i f, c.column? i = some f → f.id = i
  column_table : ∀ f ∈ c.columns, ∃ t, c.table? f.table = some t ∧ t.Owns f
  relation_id : ∀ (i : Nat) (r : RelationEntry), c.relations[i]? = some r → r.id = i
  foreign_key : ∀ r ∈ c.relations, ∃ f, c.column? r.foreignKey = some f ∧ f.table = r.parent
  reference_key : ∀ r ∈ c.relations, ∃ f, c.column? r.referenceKey = some f ∧ f.table = r.child
  ascends : ∀ r ∈ c.relations, r.parent < r.child
  child_lt : ∀ r ∈ c.relations, r.child < c.tables.length
  children : (c.relations.map (·.child)).Nodup
  siblings : c.relations.Pairwise fun p q => p.parent = q.parent → p.child < q.child
  /-- Tables are numbered depth first: a table is below the parent of the next one, or is it. -/
  depth_first : ∀ r ∈ c.relations, c.AtOrBelow r.parent (r.child - 1)

structure WellFormed (c : Catalog) : Prop extends Sound c where
  root_lt : root < c.tables.length
  connected : ∀ u, u < c.tables.length → c.AtOrBelow root u

structure Grows (c c' : Catalog) : Prop where
  tables : c.tables <+: c'.tables
  columns : c.columns <+: c'.columns
  relations : c.relations <+: c'.relations

theorem Grows.refl (c : Catalog) : Grows c c :=
  ⟨List.prefix_rfl, List.prefix_rfl, List.prefix_rfl⟩

theorem Grows.trans {c c' c'' : Catalog} (h : Grows c c') (h' : Grows c' c'') : Grows c c'' :=
  ⟨h.tables.trans h'.tables, h.columns.trans h'.columns, h.relations.trans h'.relations⟩

theorem Grows.table? {c c' : Catalog} (h : Grows c c') {i : TableId} {t : TableEntry}
    (ht : c.table? i = some t) : c'.table? i = some t := by
  obtain ⟨ts, hts⟩ := h.tables
  simp only [Catalog.table?] at ht ⊢
  rw [← hts, List.getElem?_append_left (List.getElem?_eq_some_iff.mp ht).1, ht]

theorem Grows.column? {c c' : Catalog} (h : Grows c c') {i : FieldId} {f : Column}
    (hf : c.column? i = some f) : c'.column? i = some f := by
  obtain ⟨fs, hfs⟩ := h.columns
  simp only [Catalog.column?] at hf ⊢
  rw [← hfs, List.getElem?_append_left (List.getElem?_eq_some_iff.mp hf).1, hf]

theorem Descends.mono {c c' : Catalog} (h : Grows c c') {t u : TableId} {n : Nat}
    (hd : c.Descends t n u) : c'.Descends t n u := by
  induction hd with
  | here => exact .here
  | step _ hr ih => exact .step ih (h.relations.subset hr)

theorem Descends.trans {c : Catalog} {t u v : TableId} {n m : Nat} (h : c.Descends t n u)
    (h' : c.Descends u m v) : c.Descends t (n + m) v := by
  induction h' with
  | here => exact h
  | step _ hr ih => exact .step ih hr

theorem AtOrBelow.refl (c : Catalog) (t : TableId) : c.AtOrBelow t t := ⟨0, .here⟩

theorem AtOrBelow.trans {c : Catalog} {t u v : TableId} (h : c.AtOrBelow t u)
    (h' : c.AtOrBelow u v) : c.AtOrBelow t v := by
  obtain ⟨n, hn⟩ := h
  obtain ⟨m, hm⟩ := h'
  exact ⟨n + m, hn.trans hm⟩

theorem AtOrBelow.child {c : Catalog} {r : RelationEntry} (h : r ∈ c.relations) :
    c.AtOrBelow r.parent r.child := ⟨1, .step .here h⟩

theorem AtOrBelow.mono {c c' : Catalog} (h : Grows c c') {t u : TableId}
    (hb : c.AtOrBelow t u) : c'.AtOrBelow t u := by
  obtain ⟨n, hn⟩ := hb
  exact ⟨n, hn.mono h⟩

theorem Sound.empty : Sound {} where
  table_id := by simp [table?]
  references := by simp
  column_id := by simp [column?]
  column_table := by simp
  relation_id := by simp
  foreign_key := by simp
  reference_key := by simp
  ascends := by simp
  child_lt := by simp
  children := by simp
  siblings := .nil
  depth_first := by simp

theorem getElem?_concat {α : Type} {xs : List α} {x y : α} {i : Nat}
    (h : (xs ++ [x])[i]? = some y) : xs[i]? = some y ∨ i = xs.length ∧ y = x := by
  rcases Nat.lt_trichotomy i xs.length with hi | rfl | hi
  · exact .inl (by rwa [List.getElem?_append_left hi] at h)
  · simp only [List.getElem?_concat_length, Option.some.injEq] at h
    exact .inr ⟨rfl, h.symm⟩
  · rw [List.getElem?_eq_none (by simp; omega)] at h
    cases h

theorem Sound.table_mem {c : Catalog} (h : c.Sound) {t : TableEntry} (ht : t ∈ c.tables) :
    c.table? t.id = some t := by
  obtain ⟨i, hi⟩ := List.mem_iff_getElem?.mp ht
  rw [h.table_id i t hi]
  exact hi

theorem Sound.column_mem {c : Catalog} (h : c.Sound) {f : Column} (hf : f ∈ c.columns) :
    c.column? f.id = some f := by
  obtain ⟨i, hi⟩ := List.mem_iff_getElem?.mp hf
  rw [h.column_id i f hi]
  exact hi

theorem column?_mem {c : Catalog} {i : FieldId} {f : Column} (h : c.column? i = some f) :
    f ∈ c.columns := List.mem_of_getElem? h

theorem ownColumn?_some {c : Catalog} {t : TableId} {name : String} {f : Column}
    (h : c.ownColumn? t name = some f) : f ∈ c.columns ∧ f.table = t ∧ f.field.name = name := by
  have hm := List.mem_of_find?_eq_some h
  simp only [columnsOf, List.mem_filter, beq_iff_eq] at hm
  exact ⟨hm.1, hm.2, by simpa using List.find?_some h⟩

theorem table?_lt {c : Catalog} {i : TableId} {t : TableEntry} (h : c.table? i = some t) :
    i < c.tables.length := (List.getElem?_eq_some_iff.mp h).1

theorem table?_of_lt {c : Catalog} {i : TableId} (h : i < c.tables.length) :
    ∃ t, c.table? i = some t := ⟨c.tables[i], List.getElem?_eq_getElem h⟩

theorem addEntry_ok {c c' : Catalog} {name : String} {label : Option String} {t : TableEntry}
    (h : c.addEntry name label = .ok (t, c')) :
    t = ⟨c.tables.length, name, label⟩ ∧ c.tableByReference? t.reference = none ∧
      c' = { c with tables := c.tables ++ [t] } := by
  simp only [addEntry] at h
  split at h
  · cases h
  · rename_i hn
    simp only [Except.ok.injEq, Prod.mk.injEq] at h
    obtain ⟨rfl, rfl⟩ := h
    exact ⟨rfl, by simpa using hn, rfl⟩

theorem addField_ok {c c' : Catalog} {t : TableEntry} {f : Field} (h : c.addField t f = .ok c') :
    c.ownColumn? t.id f.name = none ∧ ∃ index, c' = { c.addColumn t f with index := index } := by
  simp only [addField] at h
  split at h
  · cases h
  · rename_i hn
    refine ⟨by simpa using hn, ?_⟩
    split at h
    · simp only [Except.ok.injEq] at h
      exact ⟨c.index, h.symm⟩
    · split at h
      · cases h
      · simp only [Except.ok.injEq] at h
        exact ⟨_, h.symm⟩

theorem keyColumn_ok {c : Catalog} {e : KeyEnd} {t : TableEntry} {name : String} {f : FieldId}
    (h : c.keyColumn e t name = .ok f) : ∃ g, c.ownColumn? t.id name = some g ∧ g.id = f := by
  simp only [keyColumn] at h
  split at h
  · rename_i g hg
    simp only [Except.ok.injEq] at h
    exact ⟨g, hg, h⟩
  · cases h

theorem addRelation_ok {c c' : Catalog} {t u : TableEntry} {f : FieldId} {link : Link}
    (h : c.addRelation t u f link = .ok c') :
    ∃ g, c.ownColumn? u.id link.referenceKey = some g ∧ c' = { c with relations :=
      c.relations ++ [⟨c.relations.length, t.id, u.id, f, g.id, link.mandatory⟩] } := by
  obtain ⟨k, hk, h⟩ := of_bind_ok h
  obtain ⟨g, hg, rfl⟩ := keyColumn_ok hk
  simp only [Except.ok.injEq] at h
  exact ⟨g, hg, h.symm⟩

theorem addTable_ok {c c' : Catalog} {path : List (String × Option String)} {name : String}
    {label : Option String} {fields : List Field} {relations : List (Link × Table)}
    {t : TableEntry} (h : addTable c path ⟨name, label, fields, relations⟩ = .ok (t, c')) :
    ∃ c₁ c₂, c.addEntry name label = .ok (t, c₁) ∧ c₁.addFields t fields = .ok c₂ ∧
      addRelations c₂ ((name, label) :: path) t relations = .ok c' := by
  rw [addTable] at h
  obtain ⟨⟨t', c₁⟩, h₁, h⟩ := of_bind_ok h
  obtain ⟨c₂, h₂, h⟩ := of_bind_ok h
  obtain ⟨c₃, h₃, h⟩ := of_bind_ok h
  simp only [Except.ok.injEq, Prod.mk.injEq] at h
  obtain ⟨rfl, rfl⟩ := h
  exact ⟨c₁, c₂, h₁, h₂, h₃⟩

theorem addRelations_cons_ok {c c' : Catalog} {path : List (String × Option String)}
    {t : TableEntry} {link : Link} {child : Table} {rs : List (Link × Table)}
    (h : addRelations c path t ((link, child) :: rs) = .ok c') :
    path.contains child.identity = false ∧ ∃ f u c₁ c₂,
      c.ownColumn? t.id link.foreignKey = some f ∧ addTable c path child = .ok (u, c₁) ∧
      c₁.addRelation t u f.id link = .ok c₂ ∧ addRelations c₂ path t rs = .ok c' := by
  rw [addRelations] at h
  split_ifs at h with hp
  · obtain ⟨_, he, _⟩ := of_bind_ok h
    cases he
  · obtain ⟨k, h₁, h⟩ := of_bind_ok h
    obtain ⟨⟨u, c₁⟩, h₂, h⟩ := of_bind_ok h
    obtain ⟨f, hf, rfl⟩ := keyColumn_ok h₁
    obtain ⟨c₂, h₃, h⟩ := of_bind_ok h
    exact ⟨by simpa using hp, f, u, c₁, c₂, hf, h₂, h₃, h⟩

theorem Sound.addEntry {c c' : Catalog} (hc : c.Sound) {name : String} {label : Option String}
    {t : TableEntry} (h : c.addEntry name label = .ok (t, c')) : c'.Sound ∧ Grows c c' := by
  obtain ⟨rfl, hn, rfl⟩ := addEntry_ok h
  have hg : Grows c { c with tables := c.tables ++ [⟨c.tables.length, name, label⟩] } :=
    ⟨List.prefix_append _ _, List.prefix_rfl, List.prefix_rfl⟩
  refine ⟨{ hc with
    table_id := ?_, references := ?_, column_table := ?_, child_lt := ?_,
    depth_first := fun r hr => (hc.depth_first r hr).mono hg }, hg⟩
  · intro i t ht
    rcases getElem?_concat ht with ht | ⟨rfl, rfl⟩
    · exact hc.table_id i t ht
    · rfl
  · rw [List.map_append, List.nodup_append]
    refine ⟨hc.references, by simp, ?_⟩
    simp only [List.mem_map, List.map_cons, List.map_nil, List.mem_singleton]
    rintro _ ⟨t, ht, rfl⟩ _ rfl he
    simp only [tableByReference?, Option.map_eq_none_iff, List.find?_eq_none, beq_iff_eq] at hn
    exact hn t ht he
  · intro f hf
    obtain ⟨t, ht, ho⟩ := hc.column_table f hf
    exact ⟨t, hg.table? ht, ho⟩
  · intro r hr
    have := hc.child_lt r hr
    simp only [List.length_append]
    lia

theorem Sound.addField {c c' : Catalog} (hc : c.Sound) {t : TableEntry} {f : Field}
    (ht : c.table? t.id = some t) (h : c.addField t f = .ok c') : c'.Sound ∧ Grows c c' := by
  obtain ⟨_, index, rfl⟩ := addField_ok h
  have hg : Grows c { c.addColumn t f with index := index } :=
    ⟨List.prefix_rfl, List.prefix_append _ _, List.prefix_rfl⟩
  refine ⟨{ hc with
    column_id := ?_, column_table := ?_, foreign_key := ?_, reference_key := ?_,
    depth_first := fun r hr => (hc.depth_first r hr).mono hg }, hg⟩
  · intro i g hi
    rcases getElem?_concat hi with hi | ⟨rfl, rfl⟩
    · exact hc.column_id i g hi
    · rfl
  · intro g hm
    rcases List.mem_append.mp hm with hm | hm
    · obtain ⟨u, hu, ho⟩ := hc.column_table g hm
      exact ⟨u, hg.table? hu, ho⟩
    · rw [List.mem_singleton] at hm
      subst hm
      exact ⟨t, ht, rfl, rfl⟩
  · intro r hr
    obtain ⟨g, hi, hp⟩ := hc.foreign_key r hr
    exact ⟨g, hg.column? hi, hp⟩
  · intro r hr
    obtain ⟨g, hi, hp⟩ := hc.reference_key r hr
    exact ⟨g, hg.column? hi, hp⟩

theorem Sound.addFields {c c' : Catalog} (hc : c.Sound) {t : TableEntry} {fs : List Field}
    (ht : c.table? t.id = some t) (h : c.addFields t fs = .ok c') :
    c'.Sound ∧ Grows c c' ∧ c'.tables = c.tables ∧ c'.relations = c.relations := by
  induction fs generalizing c with
  | nil =>
    cases h
    exact ⟨hc, .refl _, rfl, rfl⟩
  | cons f fs ih =>
    obtain ⟨c₁, h₁, h⟩ := of_bind_ok h
    obtain ⟨hs, hg⟩ := hc.addField ht h₁
    obtain ⟨hs', hg', htab, hrel⟩ := ih hs (hg.table? ht) h
    obtain ⟨_, index, he⟩ := addField_ok h₁
    exact ⟨hs', hg.trans hg', by rw [htab, he]; rfl, by rw [hrel, he]; rfl⟩

theorem Sound.addRelation {c c' : Catalog} (hc : c.Sound) {t u : TableEntry} {f : Column}
    {link : Link} (hfm : f ∈ c.columns) (hft : f.table = t.id)
    (hu : u.id < c.tables.length) (htu : t.id < u.id) (hb : c.AtOrBelow t.id (u.id - 1))
    (hn : ∀ r ∈ c.relations, r.child ≠ u.id)
    (hs : ∀ r ∈ c.relations, r.parent = t.id → r.child < u.id)
    (h : c.addRelation t u f.id link = .ok c') :
    c'.Sound ∧ Grows c c' ∧ c'.tables = c.tables ∧
      ∃ r : RelationEntry,
        c'.relations = c.relations ++ [r] ∧ r.parent = t.id ∧ r.child = u.id := by
  obtain ⟨g, hgc, rfl⟩ := addRelation_ok h
  obtain ⟨hgm, hgt, _⟩ := ownColumn?_some hgc
  have hg : Grows c { c with relations :=
      c.relations ++ [⟨c.relations.length, t.id, u.id, f.id, g.id, link.mandatory⟩] } :=
    ⟨List.prefix_rfl, List.prefix_rfl, List.prefix_append _ _⟩
  refine ⟨{ hc with
    relation_id := ?_, foreign_key := ?_, reference_key := ?_, ascends := ?_, child_lt := ?_,
    children := ?_, siblings := ?_, depth_first := ?_ }, hg, rfl, _, rfl, rfl, rfl⟩
  · intro i r hi
    rcases getElem?_concat hi with hi | ⟨rfl, rfl⟩
    · exact hc.relation_id i r hi
    · rfl
  all_goals simp only [List.mem_append, List.mem_singleton]
  · rintro r (hr | rfl)
    · exact hc.foreign_key r hr
    · exact ⟨f, hc.column_mem hfm, hft⟩
  · rintro r (hr | rfl)
    · exact hc.reference_key r hr
    · exact ⟨g, hc.column_mem hgm, hgt⟩
  · rintro r (hr | rfl)
    · exact hc.ascends r hr
    · exact htu
  · rintro r (hr | rfl)
    · exact hc.child_lt r hr
    · exact hu
  · rw [List.map_append, List.nodup_append]
    refine ⟨hc.children, by simp, ?_⟩
    simp only [List.mem_map, List.map_cons, List.map_nil, List.mem_singleton]
    rintro _ ⟨r, hr, rfl⟩ _ rfl
    exact hn r hr
  · rw [List.pairwise_append]
    refine ⟨hc.siblings, List.pairwise_singleton _ _, fun p hp q hq => ?_⟩
    rw [List.mem_singleton] at hq
    subst hq
    exact hs p hp
  · rintro r (hr | rfl)
    · exact (hc.depth_first r hr).mono hg
    · exact hb.mono hg

theorem Sound.addHead {c c₁ c₂ : Catalog} (hc : c.Sound) {name : String} {label : Option String}
    {t : TableEntry} {fields : List Field} (h₁ : c.addEntry name label = .ok (t, c₁))
    (h₂ : c₁.addFields t fields = .ok c₂) :
    t = ⟨c.tables.length, name, label⟩ ∧ c₂.Sound ∧ Grows c c₂ ∧ c₂.tables = c.tables ++ [t] ∧
      c₂.relations = c.relations ∧ c₂.table? t.id = some t ∧
      ∀ v, t.id ≤ v → v < c₂.tables.length → c₂.AtOrBelow t.id v := by
  obtain ⟨hs₁, hg₁⟩ := hc.addEntry h₁
  obtain ⟨rfl, _, rfl⟩ := addEntry_ok h₁
  have hu : ({ c with tables := c.tables ++ [⟨c.tables.length, name, label⟩] } : Catalog).table?
      c.tables.length = some ⟨c.tables.length, name, label⟩ := by simp [table?]
  obtain ⟨hs₂, hg₂, htab, hrel⟩ := hs₁.addFields hu h₂
  refine ⟨rfl, hs₂, hg₁.trans hg₂, htab, hrel, hg₂.table? hu, fun v hv hl => ?_⟩
  obtain rfl : v = c.tables.length := by
    simp only [htab, List.length_append, List.length_singleton] at hv hl
    lia
  exact .refl _ _

structure Added (c : Catalog) (u : TableEntry) (c' : Catalog) : Prop where
  sound : c'.Sound
  grows : Grows c c'
  entry : c'.table? u.id = some u
  below : ∀ v, u.id ≤ v → v < c'.tables.length → c'.AtOrBelow u.id v
  fresh : ∀ r ∈ c'.relations, r ∈ c.relations ∨ u.id ≤ r.parent

theorem Added.addRelation {c c₁ c₂ : Catalog} {t u : TableEntry} (hadd : Added c u c₁)
    (hu : u.id = c.tables.length) (hc : c.Sound) (ht : c.table? t.id = some t)
    (hb : ∀ v, t.id ≤ v → v < c.tables.length → c.AtOrBelow t.id v) {link : Link} {f : Column}
    (hf : c.ownColumn? t.id link.foreignKey = some f)
    (h : c₁.addRelation t u f.id link = .ok c₂) :
    c₂.Sound ∧ Grows c₁ c₂ ∧ c₂.tables = c₁.tables ∧
      (∀ v, t.id ≤ v → v < c₂.tables.length → c₂.AtOrBelow t.id v) ∧
      ∃ r : RelationEntry,
        c₂.relations = c₁.relations ++ [r] ∧ r.parent = t.id ∧ r.child = u.id := by
  have hlt := table?_lt ht
  have hlast : c₁.AtOrBelow t.id (u.id - 1) :=
    (hb _ (by lia) (by lia)).mono hadd.grows
  have hnew : ∀ r ∈ c₁.relations, r.child < u.id ∨ u.id ≤ r.parent := fun r hr =>
    (hadd.fresh r hr).imp_left fun hr => hu ▸ hc.child_lt r hr
  have hne : ∀ r ∈ c₁.relations, r.child ≠ u.id := fun r hr => by
    have := hadd.sound.ascends r hr
    rcases hnew r hr with h | h <;> lia
  have hsib : ∀ r ∈ c₁.relations, r.parent = t.id → r.child < u.id := fun r hr hp =>
    (hnew r hr).resolve_right (by lia)
  obtain ⟨hfm, hft, _⟩ := ownColumn?_some hf
  obtain ⟨hs₂, hg₂, htab, r, hrel, hp, hch⟩ := hadd.sound.addRelation
    (hadd.grows.columns.subset hfm) hft (table?_lt hadd.entry) (by lia) hlast hne hsib h
  have hstep : c₂.AtOrBelow t.id u.id := hp ▸ hch ▸ .child (by simp [hrel])
  refine ⟨hs₂, hg₂, htab, fun v hv hl => ?_, r, hrel, hp, hch⟩
  -- what was below `t` stays there, and the new relation puts `u` and all below it there too
  by_cases hvu : v < u.id
  · exact ((hb v hv (by lia)).mono hadd.grows).mono hg₂
  · exact hstep.trans ((hadd.below v (Nat.le_of_not_lt hvu) (htab ▸ hl)).mono hg₂)

mutual
theorem addTable_added : ∀ (t : Table) {c c' : Catalog} {path : List (String × Option String)}
    {u : TableEntry}, addTable c path t = .ok (u, c') → c.Sound →
    u.id = c.tables.length ∧ Added c u c'
  | ⟨name, label, fields, relations⟩, c, c', path, u, h, hc => by
    obtain ⟨c₁, c₂, h₁, h₂, h₃⟩ := addTable_ok h
    obtain ⟨rfl, hs₂, hg₂, _, hrel, ht, hb⟩ := hc.addHead h₁ h₂
    have hadd := addRelations_added relations h₃ hs₂ ht hb
    exact ⟨rfl, { hadd with
      grows := hg₂.trans hadd.grows
      fresh := fun r hr => (hadd.fresh r hr).imp_left fun hr => by rwa [hrel] at hr }⟩

theorem addRelations_added : ∀ (rs : List (Link × Table)) {c c' : Catalog}
    {path : List (String × Option String)} {t : TableEntry}, addRelations c path t rs = .ok c' →
    c.Sound → c.table? t.id = some t →
    (∀ v, t.id ≤ v → v < c.tables.length → c.AtOrBelow t.id v) → Added c t c'
  | [], c, c', path, t, h, hc, ht, hb => by
    rw [addRelations, Except.ok.injEq] at h
    subst h
    exact ⟨hc, .refl c, ht, hb, fun r hr => .inl hr⟩
  | (link, child) :: rs, c, c', path, t, h, hc, ht, hb => by
    obtain ⟨_, f, u, c₁, c₂, hf, h₁, h₂, h₃⟩ := addRelations_cons_ok h
    have hlt := table?_lt ht
    obtain ⟨hu, hadd⟩ := addTable_added child h₁ hc
    obtain ⟨hs₂, hg₂, _, hb₂, r, hrel, hp, _⟩ := hadd.addRelation hu hc ht hb hf h₂
    have hrest := addRelations_added rs h₃ hs₂ (hg₂.table? (hadd.grows.table? ht)) hb₂
    refine { hrest with grows := hadd.grows.trans (hg₂.trans hrest.grows), fresh := ?_ }
    intro q hq
    rcases hrest.fresh q hq with hq | hq
    · simp only [hrel, List.mem_append, List.mem_singleton] at hq
      rcases hq with hq | rfl
      · exact (hadd.fresh q hq).imp_right fun hq => by lia
      · exact .inr (Nat.le_of_eq hp.symm)
    · exact .inr hq
end

theorem build_ok {x : Table} {c : Catalog} (h : build x = .ok c) :
    ∃ t, addTable {} [] x = .ok (t, c) := by
  cases ha : addTable {} [] x with
  | error e =>
    rw [build, ha] at h
    cases h
  | ok r =>
    simp only [build, ha, Except.map, Except.ok.injEq] at h
    exact ⟨r.1, by rw [← h]⟩

theorem build_wellFormed {t : Table} {c : Catalog} (h : build t = .ok c) : c.WellFormed := by
  obtain ⟨u, ha⟩ := build_ok h
  obtain ⟨hu, hadd⟩ := addTable_added t ha .empty
  have hroot : u.id = root := hu
  refine { hadd.sound with root_lt := ?_, connected := fun v hv => ?_ }
  · exact hroot ▸ table?_lt hadd.entry
  · exact hroot ▸ hadd.below v (hroot ▸ Nat.zero_le v) hv

def shop : Table where
  name := "product"
  fields := [
    { name := "id", kind := .numeric },
    { name := "name", searchable := true, filterable := true, sortable := true },
    { name := "category_id" },
    { name := "brand_id" },
    { name := "is_deleted", kind := .boolean, softDelete := true }]
  relations := [
    ({ foreignKey := "category_id", referenceKey := "id" },
      { name := "category"
        label := some "c"
        fields := [
          { name := "id" },
          { name := "name", filterable := true, sortable := true },
          { name := "section_id" }]
        relations := [
          ({ mandatory := true, foreignKey := "section_id", referenceKey := "id" },
            { name := "section", fields := [{ name := "id" }] })] }),
    ({ foreignKey := "brand_id", referenceKey := "id" },
      { name := "brand", fields := [{ name := "id" }, { name := "rank", sort := some .asc }] })]

def shopCatalog : Catalog := (build shop).toOption.getD {}

theorem build_shop : build shop = .ok shopCatalog := by rfl

end Catalog
end Listing
