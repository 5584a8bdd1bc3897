import Listing.Proofs.Flattening
import Listing.Proofs.RequestKeys

namespace Listing

def Column.place (f : Column) : TableId × String × Field := (f.table, f.qualifier, f.field)

def Site.place (n : Site) : TableId × String × Field := (n.table, n.reference, n.field)

namespace Table

def sitesAt (t : Table) (i : TableId) : List Site :=
  t.fields.map fun f => ⟨i, t.name, t.reference, f⟩

def sites (ts : List Table) : List Site := ts.zipIdx.flatMap fun e => e.1.sitesAt e.2

theorem sites_concat (ts : List Table) (t : Table) :
    sites (ts ++ [t]) = sites ts ++ t.sitesAt ts.length := by
  simp [sites, List.zipIdx_append]

theorem mem_sites {ts : List Table} {n : Site} : n ∈ sites ts ↔ ∃ t, ts[n.table]? = some t ∧
    t.name = n.tableName ∧ t.reference = n.reference ∧ n.field ∈ t.fields := by
  obtain ⟨i, name, reference, f⟩ := n
  simp only [sites, sitesAt, List.mem_flatMap, Prod.exists, List.mem_zipIdx_iff_getElem?,
    List.mem_map, Site.mk.injEq]
  constructor
  · rintro ⟨t, i, ht, g, hg, rfl, rfl, rfl, rfl⟩
    exact ⟨t, ht, rfl, rfl, hg⟩
  · rintro ⟨t, ht, rfl, rfl, hf⟩
    exact ⟨t, i, ht, f, hf, rfl, rfl, rfl, rfl⟩

theorem sites_of {ts : List Table} {i : TableId} {t : Table} (h : ts[i]? = some t) :
    (sites ts).filter (fun n => n.table == i) = t.sitesAt i := by
  induction ts using List.reverseRecOn with
  | nil => cases h
  | append_singleton ts t' ih =>
    have hlast : ∀ j, (t'.sitesAt ts.length).filter (fun n => n.table == j) =
        if ts.length = j then t'.sitesAt ts.length else [] := by
      intro j
      split_ifs with hj <;> simp [sitesAt, hj]
    rw [sites_concat, List.filter_append, hlast]
    rcases Catalog.getElem?_concat h with h | ⟨rfl, rfl⟩
    · have hne : ts.length ≠ i := Nat.ne_of_gt (List.getElem?_eq_some_iff.mp h).1
      rw [ih h, if_neg hne, List.append_nil]
    · have hnone : (sites ts).filter (fun n => n.table == ts.length) = [] := by
        rw [List.filter_eq_nil_iff]
        intro n hn
        obtain ⟨x, hx, -⟩ := mem_sites.mp hn
        have hlt := (List.getElem?_eq_some_iff.mp hx).1
        simp only [beq_iff_eq]
        omega
      rw [hnone, if_pos rfl, List.nil_append]

end Table

namespace Catalog

structure Visited (c : Catalog) (ts : List Table) : Prop where
  tables : c.tables.map (fun t => (t.name, t.label)) = ts.map (·.identity)
  columns : c.columns.map (·.place) = (Table.sites ts).map (·.place)
  keys : c.index.map (·.1) = Site.keys ((Table.sites ts).filter (·.field.isIndexed))
  indexed : c.index.map (·.2) = (c.columns.filter (·.field.isIndexed)).map (·.id)
  nodup : (c.index.map (·.1)).Nodup

variable {c c' : Catalog} {ts : List Table} {t : Table} {u : TableEntry}

theorem Visited.empty : Visited {} [] := ⟨rfl, rfl, rfl, rfl, List.nodup_nil⟩

theorem Visited.length (h : Visited c ts) : c.tables.length = ts.length := by
  simpa using congrArg List.length h.tables

theorem Visited.fieldsOf (h : Visited c ts) {i : TableId} (ht : ts[i]? = some t) :
    c.fieldsOf i = t.fields := by
  have hplaces := congrArg (List.filter fun e => e.1 == i) h.columns
  rw [List.filter_map, List.filter_map] at hplaces
  have hfields := congrArg (List.map fun e : TableId × String × Field => e.2.2) hplaces
  rw [List.map_map, List.map_map] at hfields
  calc c.fieldsOf i = ((Table.sites ts).filter fun n => n.table == i).map (·.field) := hfields
    _ = t.fields := by rw [Table.sites_of ht, Table.sitesAt, List.map_map]; exact List.map_id _

theorem Visited.references (h : Visited c ts) :
    c.tables.map (·.reference) = ts.map (·.reference) := by
  have hmap := congrArg (List.map fun e : String × Option String => e.2.getD e.1) h.tables
  rwa [List.map_map, List.map_map] at hmap

theorem ownColumn?_isSome {i : TableId} {name : String} :
    (c.ownColumn? i name).isSome = true ↔ name ∈ (c.fieldsOf i).map (·.name) := by
  simp [ownColumn?, List.find?_isSome, fieldsOf]

theorem Visited.addEntry (h : Visited c ts) (ha : c.addEntry t.name t.label = .ok (u, c')) :
    u = ⟨ts.length, t.name, t.label⟩ ∧ Visited c' (ts ++ [{ t with fields := [] }]) := by
  obtain ⟨rfl, -, rfl⟩ := addEntry_ok ha
  refine ⟨by rw [h.length], { h with tables := ?_, columns := ?_, keys := ?_ }⟩
  · rw [List.map_append, List.map_append, h.tables]
    rfl
  · rw [Table.sites_concat, h.columns, Table.sitesAt, List.map_nil, List.append_nil]
  · rw [Table.sites_concat, h.keys, Table.sitesAt, List.map_nil, List.append_nil]

theorem addField_cases {f : Field} (h : c.addField u f = .ok c') :
    f.isIndexed = false ∧ c' = c.addColumn u f ∨
    f.isIndexed = true ∧ ∃ key, c.freeKey? u.name f = some key ∧
      c' = { c.addColumn u f with index := c.index ++ [(key, c.columns.length)] } := by
  simp only [addField] at h
  split_ifs at h with hown hindexed
  · simp only [Except.ok.injEq] at h
    exact .inl ⟨by simpa using hindexed, h.symm⟩
  · split at h
    · cases h
    · rename_i key hkey
      simp only [Except.ok.injEq] at h
      exact .inr ⟨by simpa using hindexed, key, hkey, h.symm⟩

theorem Visited.addField {f : Field} {done : List Field}
    (h : Visited c (ts ++ [{ t with fields := done }])) (hu : u = ⟨ts.length, t.name, t.label⟩)
    (ha : c.addField u f = .ok c') : Visited c' (ts ++ [{ t with fields := done ++ [f] }]) := by
  let n : Site := ⟨ts.length, t.name, t.reference, f⟩
  have hsites : Table.sites (ts ++ [{ t with fields := done ++ [f] }]) =
      Table.sites (ts ++ [{ t with fields := done }]) ++ [n] := by
    simp [Table.sites_concat, Table.sitesAt, Table.reference, n]
  have htables : (c.addColumn u f).tables.map (fun t => (t.name, t.label)) =
      (ts ++ [{ t with fields := done ++ [f] }]).map Table.identity := by
    have hdone := h.tables
    rwa [List.map_append] at hdone ⊢
  have hcolumns : (c.addColumn u f).columns.map Column.place =
      (Table.sites (ts ++ [{ t with fields := done ++ [f] }])).map Site.place := by
    rw [hsites, addColumn, List.map_append, h.columns, List.map_append, hu]
    rfl
  subst hu
  rcases addField_cases ha with ⟨hf, rfl⟩ | ⟨hf, key, hkey, rfl⟩
  · refine ⟨htables, hcolumns, ?_, ?_, h.nodup⟩
    · have hnone : [n].filter (·.field.isIndexed) = [] := by simp [n, hf]
      rw [hsites, List.filter_append, hnone, List.append_nil]
      exact h.keys
    · simpa [addColumn, hf] using h.indexed
  · obtain ⟨hafter, hfree⟩ := freeKey?_some (n := n) hkey
    refine ⟨htables, hcolumns, ?_, ?_, ?_⟩
    · have hone : [n].filter (·.field.isIndexed) = [n] := by simp [n, hf]
      rw [hsites, List.filter_append, hone, Site.keys_concat, ← h.keys, ← hafter, List.map_append]
      rfl
    · simpa [addColumn, hf] using h.indexed
    · rw [List.map_append]
      exact List.concat_eq_append ▸ h.nodup.concat hfree

theorem Visited.addFields {fs done : List Field}
    (h : Visited c (ts ++ [{ t with fields := done }])) (hu : u = ⟨ts.length, t.name, t.label⟩)
    (ha : c.addFields u fs = .ok c') : Visited c' (ts ++ [{ t with fields := done ++ fs }]) := by
  induction fs generalizing c done with
  | nil =>
    cases ha
    rwa [List.append_nil]
  | cons f fs ih =>
    obtain ⟨c₁, h₁, ha⟩ := of_bind_ok ha
    have hrest := ih (h.addField hu h₁) ha
    rwa [List.append_assoc] at hrest

theorem Visited.addRelation {child : TableEntry} {f : FieldId} {link : Link} (h : Visited c ts)
    (ha : c.addRelation u child f link = .ok c') : Visited c' ts := by
  obtain ⟨g, -, rfl⟩ := addRelation_ok ha
  exact { h with }

mutual
theorem addTable_visited : ∀ (t : Table) {c c' : Catalog} {path : List (String × Option String)}
    {u : TableEntry} {ts : List Table}, addTable c path t = .ok (u, c') → Visited c ts →
    u = ⟨ts.length, t.name, t.label⟩ ∧ Visited c' (ts ++ t.preorder)
  | ⟨name, label, fields, relations⟩, c, c', path, u, ts, h, hv => by
    obtain ⟨c₁, c₂, h₁, h₂, h₃⟩ := addTable_ok h
    obtain ⟨hu, hv₁⟩ := hv.addEntry (t := ⟨name, label, fields, relations⟩) h₁
    have hv₂ := hv₁.addFields hu h₂
    have hv₃ := addRelations_visited relations h₃ hv₂
    rw [List.append_assoc] at hv₃
    exact ⟨hu, hv₃⟩

theorem addRelations_visited : ∀ (rs : List (Link × Table)) {c c' : Catalog}
    {path : List (String × Option String)} {u : TableEntry} {ts : List Table},
    addRelations c path u rs = .ok c' → Visited c ts → Visited c' (ts ++ Table.preorderAll rs)
  | [], c, c', path, u, ts, h, hv => by
    rw [addRelations, Except.ok.injEq] at h
    rwa [← h, Table.preorderAll, List.append_nil]
  | (link, child) :: rs, c, c', path, u, ts, h, hv => by
    obtain ⟨-, f, v, c₁, c₂, -, h₁, h₂, h₃⟩ := addRelations_cons_ok h
    obtain ⟨-, hv₁⟩ := addTable_visited child h₁ hv
    have hv₃ := addRelations_visited rs h₃ (hv₁.addRelation h₂)
    rwa [List.append_assoc] at hv₃
end

theorem build_visited {x : Table} (h : build x = .ok c) : Visited c x.preorder := by
  obtain ⟨u, ha⟩ := build_ok h
  obtain ⟨-, hv⟩ := addTable_visited x ha .empty
  exact hv

end Catalog
end Listing
