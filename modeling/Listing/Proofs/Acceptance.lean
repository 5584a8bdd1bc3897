import Listing.Proofs.WalkOrder

namespace Listing

theorem of_bind_error {ε α β : Type} {x : Except ε α} {f : α → Except ε β} {e : ε}
    (h : x >>= f = .error e) : x = .error e ∨ ∃ a, x = .ok a ∧ f a = .error e := by
  match x, h with
  | .error _, h =>
    cases h
    exact .inl rfl
  | .ok a, h => exact .inr ⟨a, rfl, h⟩

namespace Table

theorem preorder_eq (t : Table) : t.preorder = t :: preorderAll t.relations := by
  cases t
  rw [preorder]

theorem mem_preorder_self (t : Table) : t ∈ t.preorder := by
  rw [preorder_eq]
  exact List.mem_cons_self

theorem mem_preorderAll {rs : List (Link × Table)} {r : Link × Table} (h : r ∈ rs) :
    r.2 ∈ preorderAll rs := by
  induction rs with
  | nil => cases h
  | cons q rs ih =>
    rw [preorderAll, List.mem_append]
    rcases List.mem_cons.mp h with rfl | h
    · exact .inl (mem_preorder_self _)
    · exact .inr (ih h)

mutual
theorem preorder_sublist : ∀ (x : Table) {t : Table}, t ∈ x.preorder →
    t.preorder.Sublist x.preorder
  | ⟨name, label, fields, relations⟩, t, h => by
    rw [preorder, List.mem_cons] at h
    rcases h with rfl | h
    · exact .refl _
    · rw [preorder_eq ⟨name, label, fields, relations⟩]
      exact (preorderAll_sublist relations h).cons _

theorem preorderAll_sublist : ∀ (rs : List (Link × Table)) {t : Table}, t ∈ preorderAll rs →
    t.preorder.Sublist (preorderAll rs)
  | [], t, h => by
    rw [preorderAll] at h
    cases h
  | (link, child) :: rs, t, h => by
    rw [preorderAll, List.mem_append] at h
    rw [preorderAll]
    rcases h with h | h
    · exact (preorder_sublist child h).trans (List.sublist_append_left _ _)
    · exact (preorderAll_sublist rs h).trans (List.sublist_append_right _ _)
end

theorem related_below {a t : Table} {r : Link × Table} (ht : t ∈ a.preorder)
    (hr : r ∈ t.relations) : r.2 ∈ preorderAll a.relations := by
  rw [preorder_eq, List.mem_cons] at ht
  rcases ht with rfl | ht
  · exact mem_preorderAll hr
  · apply (preorderAll_sublist _ ht).subset
    rw [preorder_eq]
    exact List.mem_cons_of_mem _ (mem_preorderAll hr)

def indexedSites (x : Table) : List Site := (sites x.preorder).filter (·.field.isIndexed)

theorem exists_sites_split {x t : Table} {ts rest : List Table} {done fs : List Field} {f : Field}
    (hx : x.preorder = ts ++ t :: rest) (hfields : t.fields = done ++ f :: fs) :
    ∃ later, sites x.preorder = sites (ts ++ [{ t with fields := done }]) ++
      ⟨ts.length, t.name, t.reference, f⟩ :: later := by
  refine ⟨fs.map (⟨ts.length, t.name, t.reference, ·⟩) ++
    (rest.zipIdx (ts.length + 1)).flatMap fun e => e.1.sitesAt e.2, ?_⟩
  simp [sites, sitesAt, reference, hx, hfields, List.zipIdx_append]

structure WellFormed (x : Table) : Prop where
  references : (x.preorder.map (·.reference)).Nodup
  names : ∀ t ∈ x.preorder, (t.fields.map (·.name)).Nodup
  foreign_key : ∀ t ∈ x.preorder, ∀ r ∈ t.relations, r.1.foreignKey ∈ t.fields.map (·.name)
  reference_key : ∀ t ∈ x.preorder, ∀ r ∈ t.relations,
    r.1.referenceKey ∈ r.2.fields.map (·.name)
  keys : ∀ earlier n later, x.indexedSites = earlier ++ n :: later →
    ¬ n.Stuck (Site.keys earlier)

end Table

def BuildError.TrueOf (x : Table) : BuildError → Prop
  | .duplicateField table => ∃ t ∈ x.preorder, t.name = table ∧ ¬ (t.fields.map (·.name)).Nodup
  | .circularRelation table => ∃ a ∈ x.preorder, ∃ t ∈ a.preorder, t.name = table ∧
      ∃ r ∈ t.relations, r.2.identity = a.identity
  | .duplicateTableReference reference => ∃ earlier t later, x.preorder = earlier ++ t :: later ∧
      t.reference = reference ∧ reference ∈ earlier.map (·.reference)
  | .unknownKeyField .foreign table field => ∃ t ∈ x.preorder, t.name = table ∧
      ∃ r ∈ t.relations, r.1.foreignKey = field ∧ field ∉ t.fields.map (·.name)
  | .unknownKeyField .reference table field => ∃ t ∈ x.preorder, ∃ r ∈ t.relations,
      r.2.name = table ∧ r.1.referenceKey = field ∧ field ∉ r.2.fields.map (·.name)
  | .indexKeyCollision table field => ∃ earlier n later, x.indexedSites = earlier ++ n :: later ∧
      n.tableName = table ∧ n.field.name = field ∧ n.Stuck (Site.keys earlier)

theorem BuildError.TrueOf.not_wellFormed {x : Table} {e : BuildError} (h : e.TrueOf x) :
    ¬ x.WellFormed := by
  intro hx
  cases e with
  | duplicateField table =>
    obtain ⟨t, ht, -, hnames⟩ := h
    exact hnames (hx.names t ht)
  | circularRelation table =>
    -- the ancestor and the table that relates back to it have one reference
    obtain ⟨a, ha, t, ht, -, r, hr, hsame⟩ := h
    have hnodup := hx.references.sublist ((Table.preorder_sublist x ha).map Table.reference)
    rw [Table.preorder_eq, List.map_cons, List.nodup_cons] at hnodup
    apply hnodup.1
    have hreference : r.2.reference = a.reference :=
      congrArg (fun e : String × Option String => e.2.getD e.1) hsame
    rw [← hreference]
    exact List.mem_map_of_mem (Table.related_below ht hr)
  | duplicateTableReference reference =>
    obtain ⟨earlier, t, later, heq, rfl, hmem⟩ := h
    have hnodup := hx.references
    rw [heq, List.map_append, List.nodup_append] at hnodup
    exact hnodup.2.2 _ hmem _ List.mem_cons_self rfl
  | unknownKeyField keyEnd table field =>
    cases keyEnd with
    | foreign =>
      obtain ⟨t, ht, -, r, hr, rfl, hnone⟩ := h
      exact hnone (hx.foreign_key t ht r hr)
    | reference =>
      obtain ⟨t, ht, r, hr, -, rfl, hnone⟩ := h
      exact hnone (hx.reference_key t ht r hr)
  | indexKeyCollision table field =>
    obtain ⟨earlier, n, later, heq, -, -, hstuck⟩ := h
    exact hx.keys earlier n later heq hstuck

namespace Catalog

variable {c : Catalog} {x t : Table} {u : TableEntry} {ts rest : List Table} {e : BuildError}

theorem addEntry_error {name : String} {label : Option String}
    (h : c.addEntry name label = .error e) : e = .duplicateTableReference (label.getD name) ∧
      label.getD name ∈ c.tables.map (·.reference) := by
  simp only [addEntry] at h
  split_ifs at h with hsome
  simp only [Except.error.injEq] at h
  refine ⟨h.symm, ?_⟩
  simpa [tableByReference?, List.find?_isSome, TableEntry.reference] using hsome

theorem addField_error {f : Field} (h : c.addField u f = .error e) :
    e = .duplicateField u.name ∧ f.name ∈ (c.fieldsOf u.id).map (·.name) ∨
    e = .indexKeyCollision u.name f.name ∧ f.isIndexed = true ∧ c.freeKey? u.name f = none := by
  simp only [addField] at h
  split_ifs at h with hown hindexed
  · simp only [Except.error.injEq] at h
    exact .inl ⟨h.symm, ownColumn?_isSome.mp hown⟩
  · split at h
    · rename_i hnone
      simp only [Except.error.injEq] at h
      exact .inr ⟨h.symm, by simpa using hindexed, hnone⟩
    · cases h

theorem keyColumn_error {keyEnd : KeyEnd} {name : String}
    (h : c.keyColumn keyEnd u name = .error e) : e = .unknownKeyField keyEnd u.name name ∧
      name ∉ (c.fieldsOf u.id).map (·.name) := by
  simp only [keyColumn] at h
  split at h
  · cases h
  · rename_i hnone
    simp only [Except.error.injEq] at h
    refine ⟨h.symm, fun hmem => ?_⟩
    rw [← ownColumn?_isSome, hnone] at hmem
    cases hmem

theorem addRelation_error {child : TableEntry} {f : FieldId} {link : Link}
    (h : c.addRelation u child f link = .error e) :
    e = .unknownKeyField .reference child.name link.referenceKey ∧
      link.referenceKey ∉ (c.fieldsOf child.id).map (·.name) := by
  rcases of_bind_error h with h | ⟨k, -, h⟩
  · exact keyColumn_error h
  · cases h

theorem Visited.addFields_error {fs done : List Field}
    (h : Visited c (ts ++ [{ t with fields := done }])) (hu : u = ⟨ts.length, t.name, t.label⟩)
    (hx : x.preorder = ts ++ t :: rest) (hfields : t.fields = done ++ fs)
    (ha : c.addFields u fs = .error e) : e.TrueOf x := by
  induction fs generalizing c done with
  | nil => cases ha
  | cons f fs ih =>
    rcases of_bind_error ha with ha | ⟨c₁, h₁, ha⟩
    · subst hu
      rcases addField_error ha with ⟨rfl, hmem⟩ | ⟨rfl, hindexed, hnone⟩
      · have hdone : c.fieldsOf ts.length = done := h.fieldsOf List.getElem?_concat_length
        refine ⟨t, by simp [hx], rfl, fun hnodup => ?_⟩
        rw [hfields, List.map_append, List.nodup_append] at hnodup
        exact hnodup.2.2 _ (hdone ▸ hmem) _ List.mem_cons_self rfl
      · have hstuck := freeKey?_none (n := ⟨ts.length, t.name, t.reference, f⟩) hnone
        rw [h.keys] at hstuck
        obtain ⟨later, hlater⟩ := Table.exists_sites_split hx hfields
        refine ⟨_, _, later.filter (·.field.isIndexed), ?_, rfl, rfl, hstuck⟩
        rw [Table.indexedSites, hlater, List.filter_append]
        congr 1
        exact List.filter_cons_of_pos hindexed
    · apply ih (h.addField hu h₁) _ ha
      rw [hfields, List.append_assoc]
      rfl

mutual
theorem addTable_error : ∀ (t : Table) {c : Catalog} {path : List (String × Option String)}
    {ts rest : List Table}, addTable c path t = .error e → Visited c ts →
    x.preorder = ts ++ (t.preorder ++ rest) →
    (∀ p ∈ path, ∃ a ∈ x.preorder, a.identity = p ∧ t ∈ a.preorder) → e.TrueOf x
  | ⟨name, label, fields, relations⟩, c, path, ts, rest, h, hv, hx, hpath => by
    rw [addTable] at h
    rw [Table.preorder, List.cons_append] at hx
    rcases of_bind_error h with h | ⟨⟨u, c₁⟩, h₁, h⟩
    · obtain ⟨rfl, hmem⟩ := addEntry_error h
      rw [hv.references] at hmem
      exact ⟨ts, _, _, hx, rfl, hmem⟩
    obtain ⟨hu, hv₁⟩ := hv.addEntry (t := ⟨name, label, fields, relations⟩) h₁
    rcases of_bind_error h with h | ⟨c₂, h₂, h⟩
    · exact hv₁.addFields_error hu hx rfl h
    have hv₂ := hv₁.addFields hu h₂
    rcases of_bind_error h with h | ⟨c₃, h₃, h⟩
    · apply addRelations_error relations (t := ⟨name, label, fields, relations⟩) h hv₂
      · simp [hu]
      · rw [hu]
      · exact fun r hr => hr
      · rw [hx, List.append_assoc]
        rfl
      · intro p hp
        rcases List.mem_cons.mp hp with rfl | hp
        · exact ⟨⟨name, label, fields, relations⟩, by simp [hx], rfl, Table.mem_preorder_self _⟩
        · exact hpath p hp
    · cases h

theorem addRelations_error : ∀ (rs : List (Link × Table)) {t : Table} {c : Catalog}
    {path : List (String × Option String)} {u : TableEntry} {ts rest : List Table},
    addRelations c path u rs = .error e → Visited c ts → ts[u.id]? = some t → u.name = t.name →
    (∀ r ∈ rs, r ∈ t.relations) → x.preorder = ts ++ (Table.preorderAll rs ++ rest) →
    (∀ p ∈ path, ∃ a ∈ x.preorder, a.identity = p ∧ t ∈ a.preorder) → e.TrueOf x
  | [], t, c, path, u, ts, rest, h, hv, hu, hname, hrs, hx, hpath => by
    rw [addRelations] at h
    cases h
  | (link, child) :: rs, t, c, path, u, ts, rest, h, hv, hu, hname, hrs, hx, hpath => by
    have ht : t ∈ x.preorder := by
      rw [hx]
      exact List.mem_append_left _ (List.mem_of_getElem? hu)
    have hr : (link, child) ∈ t.relations := hrs _ List.mem_cons_self
    rw [Table.preorderAll, List.append_assoc] at hx
    rw [addRelations] at h
    split_ifs at h with hp
    · rcases of_bind_error h with h | ⟨_, h, _⟩
      · cases h
        obtain ⟨a, ha, hsame, hta⟩ := hpath _ (List.contains_iff_mem.mp hp)
        exact ⟨a, ha, t, hta, hname.symm, _, hr, hsame.symm⟩
      · cases h
    rcases of_bind_error h with h | ⟨k, h₁, h⟩
    · obtain ⟨rfl, hnone⟩ := keyColumn_error h
      rw [hv.fieldsOf hu] at hnone
      exact ⟨t, ht, hname.symm, _, hr, rfl, hnone⟩
    rcases of_bind_error h with h | ⟨⟨v, c₁⟩, h₂, h⟩
    · apply addTable_error child h hv hx
      intro p hp
      obtain ⟨a, ha, hsame, hta⟩ := hpath p hp
      refine ⟨a, ha, hsame, ?_⟩
      rw [Table.preorder_eq]
      exact List.mem_cons_of_mem _ (Table.related_below hta hr)
    obtain ⟨rfl, hv₁⟩ := addTable_visited child h₂ hv
    have hv' : (ts ++ child.preorder)[ts.length]? = some child := by
      rw [List.getElem?_append_right (Nat.le_refl _), Nat.sub_self, Table.preorder_zero]
    rcases of_bind_error h with h | ⟨c₂, h₃, h⟩
    · obtain ⟨rfl, hnone⟩ := addRelation_error h
      rw [hv₁.fieldsOf hv'] at hnone
      exact ⟨t, ht, _, hr, rfl, rfl, hnone⟩
    · apply addRelations_error rs h (hv₁.addRelation h₃) _ hname
      · exact fun r hr => hrs r (List.mem_cons_of_mem _ hr)
      · rw [hx, List.append_assoc]
      · exact hpath
      · rw [List.getElem?_append_left (List.getElem?_eq_some_iff.mp hu).1, hu]
end

theorem build_error {x : Table} (h : build x = .error e) : e.TrueOf x := by
  cases ha : addTable {} [] x with
  | error e' =>
    simp only [build, ha, Except.map, Except.error.injEq] at h
    subst h
    exact addTable_error x ha .empty (List.append_nil _).symm (by simp)
  | ok r =>
    rw [build, ha] at h
    cases h

theorem subtree_keys (hc : c.Sound) {n : Nat} {i : TableId} (h : c.subtree n i = some t) :
    ∀ r ∈ t.relations, r.1.foreignKey ∈ t.fields.map (·.name) ∧
      r.1.referenceKey ∈ r.2.fields.map (·.name) := by
  cases n with
  | zero => cases h
  | succ n =>
    obtain ⟨entry, rs, -, hrs, rfl⟩ := subtree_succ.mp h
    rintro ⟨link, child⟩ hr
    have hsome : some (link, child) ∈ (c.relationsOf i).map (c.linked (c.subtree n)) := by
      rw [mapM_some hrs]
      exact List.mem_map_of_mem hr
    obtain ⟨q, hq, hlinked⟩ := List.mem_map.mp hsome
    obtain ⟨f, g, hf, hg, hchild, rfl⟩ := linked_eq_some.mp hlinked
    obtain ⟨hmem, rfl⟩ := mem_relationsOf.mp hq
    obtain ⟨f', hf', hparent⟩ := hc.foreign_key q hmem
    obtain ⟨g', hg', hbelow⟩ := hc.reference_key q hmem
    obtain rfl : f = f' := Option.some.inj (hf.symm.trans hf')
    obtain rfl : g = g' := Option.some.inj (hg.symm.trans hg')
    rw [subtree_fields hchild]
    constructor
    · exact name_mem_fieldsOf (column?_mem hf) hparent
    · exact name_mem_fieldsOf (column?_mem hg) hbelow

theorem build_declared {x : Table} (h : build x = .ok c) : x.WellFormed := by
  have hc := build_wellFormed h
  have hlaid := build_laid h
  have hv := build_visited h
  have hkeys : ∀ t ∈ x.preorder, ∀ r ∈ t.relations, r.1.foreignKey ∈ t.fields.map (·.name) ∧
      r.1.referenceKey ∈ r.2.fields.map (·.name) := by
    intro t ht
    obtain ⟨i, hi⟩ := List.mem_iff_getElem?.mp ht
    exact subtree_keys hc.toSound ((hlaid.tree? i).trans hi)
  refine ⟨hv.references ▸ hc.references, hlaid.names, ?_, ?_, fun earlier n later heq => ?_⟩
  · exact fun t ht r hr => (hkeys t ht r hr).1
  · exact fun t ht r hr => (hkeys t ht r hr).2
  · have hkeys : (Site.keys (earlier ++ n :: later)).Nodup := by
      rw [← heq, Table.indexedSites, ← hv.keys]
      exact hv.nodup
    exact Site.not_stuck_of_nodup hkeys

/-- Exactly the well formed declarations can be laid out, and of any other one the error says what
is wrong with it. -/
theorem build_accepts (x : Table) : ((∃ c, build x = .ok c) ↔ x.WellFormed) ∧
    ∀ e, build x = .error e → e.TrueOf x := by
  refine ⟨⟨fun ⟨c, hc⟩ => build_declared hc, fun hx => ?_⟩, fun e => build_error⟩
  cases hb : build x with
  | ok c => exact ⟨c, rfl⟩
  | error e => exact absurd hx (build_error hb).not_wellFormed

/-- The name of a category has no key left: products have its own key, and the label of one of their
fields reads as its qualified one. -/
def crowdedShop : Table where
  name := "product"
  fields := [
    { name := "name", filterable := true },
    { name := "title", label := some "category.name", sortable := true },
    { name := "category_id" }]
  relations := [
    ({ foreignKey := "category_id", referenceKey := "id" },
      { name := "category"
        label := some "c"
        fields := [{ name := "id" }, { name := "name", filterable := true }] })]

theorem build_accepts_shop : (build shop = .ok shopCatalog ∧ shop.WellFormed) ∧
    build crowdedShop = .error (.indexKeyCollision "category" "name") ∧
    (BuildError.indexKeyCollision "category" "name").TrueOf crowdedShop := by
  have hcrowded : build crowdedShop = .error (.indexKeyCollision "category" "name") := by rfl
  obtain ⟨hiff, -⟩ := build_accepts shop
  obtain ⟨-, htrue⟩ := build_accepts crowdedShop
  exact ⟨⟨build_shop, hiff.mp ⟨_, build_shop⟩⟩, hcrowded, htrue _ hcrowded⟩

end Catalog
end Listing
