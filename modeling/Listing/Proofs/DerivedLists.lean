import Listing.Proofs.RequestTags
import Listing.Proofs.WalkOrder

namespace Listing.Catalog

variable {c : Catalog} {x : Table} {ts : List Table}

theorem lookup_of_split {α : Type} {es pre post : List (String × α)} {key : String} {a : α}
    (h : (es.map (·.1)).Nodup) (hes : es = pre ++ (key, a) :: post) : es.lookup key = some a := by
  subst hes
  rw [List.lookup_eq_some_iff]
  refine ⟨pre, post, rfl, fun e he => ?_⟩
  rw [List.map_append, List.nodup_append] at h
  exact bne_iff_ne.mpr fun hkey => h.2.2 _ (List.mem_map_of_mem he) _ List.mem_cons_self hkey.symm

theorem lookup_of_mem {α : Type} {es : List (String × α)} {key : String} {a : α}
    (h : (es.map (·.1)).Nodup) (he : (key, a) ∈ es) : es.lookup key = some a := by
  obtain ⟨pre, post, hes⟩ := List.append_of_mem he
  exact lookup_of_split h hes

theorem mem_of_lookup {α : Type} {es : List (String × α)} {key : String} {a : α}
    (h : es.lookup key = some a) : (key, a) ∈ es := by
  obtain ⟨pre, post, rfl, -⟩ := List.lookup_eq_some_iff.mp h
  exact List.mem_append_right _ List.mem_cons_self

theorem Sound.ascending (h : c.Sound) : c.columns.Pairwise fun f g => f.id < g.id := by
  rw [List.pairwise_iff_getElem]
  intro i j hi hj hij
  rw [h.column_id i _ (List.getElem?_eq_getElem hi), h.column_id j _ (List.getElem?_eq_getElem hj)]
  exact hij

theorem Sound.nodup_columns (h : c.Sound) : c.columns.Nodup := by
  apply h.ascending.imp
  rintro f g hlt rfl
  exact Nat.lt_irrefl _ hlt

theorem Visited.columns_filter (h : Visited c ts) (p : Field → Bool) :
    (c.columns.filter fun f => p f.field).map Column.place =
      ((Table.sites ts).filter fun n => p n.field).map Site.place := by
  have hfilter := congrArg (List.filter fun e : TableId × String × Field => p e.2.2) h.columns
  rwa [List.filter_map, List.filter_map] at hfilter

theorem Visited.exists_column_iff (h : Visited c ts) {u : TableId} (p : Field → Bool) :
    (∃ f ∈ c.columns.filter (fun f => p f.field), f.table = u) ↔
      ∃ n ∈ (Table.sites ts).filter (fun n => p n.field), n.table = u := by
  have hplace : u ∈ ((c.columns.filter fun f => p f.field).map Column.place).map (·.1) ↔
      u ∈ (((Table.sites ts).filter fun n => p n.field).map Site.place).map (·.1) := by
    rw [h.columns_filter]
  rwa [List.map_map, List.map_map, List.mem_map, List.mem_map] at hplace

theorem Visited.tableName (h : Visited c ts) {n : Site} (hn : n ∈ Table.sites ts) {t : TableEntry}
    (ht : c.table? n.table = some t) : t.name = n.tableName := by
  obtain ⟨x, hx, hname, -, -⟩ := Table.mem_sites.mp hn
  have hentry := congrArg (·[n.table]?) h.tables
  rw [List.getElem?_map, List.getElem?_map, hx] at hentry
  change (c.table? n.table).map _ = _ at hentry
  rw [ht, Option.map_some, Option.map_some, Option.some.injEq] at hentry
  exact (congrArg (·.1) hentry).trans hname

theorem Visited.index_split (h : Visited c ts) {f : Column} (hf : f ∈ c.columns)
    (hindexed : f.field.isIndexed = true) :
    ∃ n ∈ Table.sites ts, n.place = f.place ∧ ∃ earlier later,
      c.index = earlier ++ (n.keyAfter (earlier.map (·.1)), f.id) :: later := by
  have hmem : f ∈ c.columns.filter (·.field.isIndexed) := List.mem_filter.mpr ⟨hf, hindexed⟩
  obtain ⟨before, after, hsplit⟩ := List.append_of_mem hmem
  have hplaces := h.columns_filter Field.isIndexed
  rw [hsplit, List.map_append, List.map_cons] at hplaces
  obtain ⟨ns, rest, hsites, hns, hrest⟩ := List.map_eq_append_iff.mp hplaces.symm
  obtain ⟨n, ns', rfl, hn, -⟩ := List.map_eq_cons_iff.mp hrest
  have hids := h.indexed
  rw [hsplit, List.map_append, List.map_cons] at hids
  obtain ⟨earlier, rest, hindex, hearlier, hrest⟩ := List.map_eq_append_iff.mp hids
  obtain ⟨⟨key, i⟩, later, rfl, rfl, -⟩ := List.map_eq_cons_iff.mp hrest
  obtain ⟨ks, hks, -⟩ := Site.exists_keys_split ns ns' n
  have hkeys := h.keys
  rw [hsites, hks, hindex, List.map_append, List.map_cons] at hkeys
  -- the entries and the keys are cut at the same place, so those before it agree
  have hlength : (earlier.map (·.1)).length = (Site.keys ns).length := by
    have hb := congrArg List.length hearlier
    have hn := congrArg List.length hns
    simp only [List.length_map] at hb hn
    rw [Site.length_keys, List.length_map, hb, hn]
  obtain ⟨hbefore, hat⟩ := List.append_inj hkeys hlength
  obtain ⟨rfl, -⟩ : key = n.keyAfter (Site.keys ns) ∧ _ := List.cons.inj hat
  have hsite : n ∈ (Table.sites ts).filter (·.field.isIndexed) := by
    rw [hsites]
    exact List.mem_append_right _ List.mem_cons_self
  exact ⟨n, List.mem_of_mem_filter hsite, hn, earlier, later, by rw [hindex, hbefore]⟩

theorem Visited.ascending_index (h : Visited c ts) (hc : c.Sound) :
    c.index.Pairwise fun d e => d.2 < e.2 := by
  have hids : (c.index.map (·.2)).Pairwise (· < ·) := by
    rw [h.indexed, List.pairwise_map]
    exact hc.ascending.filter _
  exact List.pairwise_map.mp hids

theorem Visited.entry (h : Visited c ts) (hc : c.Sound) {e : String × FieldId} (he : e ∈ c.index) :
    ∃ f ∈ c.columns, f.id = e.2 ∧ f.field.isIndexed = true ∧ c.indexed? e.1 = some f := by
  have hid : e.2 ∈ (c.columns.filter (·.field.isIndexed)).map (·.id) := by
    rw [← h.indexed]
    exact List.mem_map_of_mem he
  obtain ⟨f, hf, hfe⟩ := List.mem_map.mp hid
  obtain ⟨hmem, hindexed⟩ := List.mem_filter.mp hf
  refine ⟨f, hmem, hfe, hindexed, ?_⟩
  rw [indexed?, lookup_of_mem h.nodup he, Option.bind_some, ← hfe, hc.column_mem hmem]

theorem indexed?_mem_index (hc : c.Sound) {key : String} {f : Column}
    (h : c.indexed? key = some f) : (key, f.id) ∈ c.index := by
  obtain ⟨i, hi, hf⟩ := Option.bind_eq_some_iff.mp h
  rw [hc.column_id i f hf]
  exact mem_of_lookup hi

theorem Visited.indexed?_inj (h : Visited c ts) (hc : c.Sound) {k k' : String} {f : Column}
    (hk : c.indexed? k = some f) (hk' : c.indexed? k' = some f) : k = k' := by
  have hids : (c.index.map (·.2)).Nodup :=
    List.pairwise_map.mpr ((h.ascending_index hc).imp Nat.ne_of_lt)
  have heq := List.inj_on_of_nodup_map hids (indexed?_mem_index hc hk) (indexed?_mem_index hc hk')
    rfl
  exact congrArg (·.1) heq

def HeldBefore (c : Catalog) (f : Column) : Prop :=
  ∃ g, g.id < f.id ∧ c.indexed? f.field.key = some g

structure Derives (c : Catalog) (x : Table) : Prop where
  columns : c.columns.map (·.place) = (Table.sites x.preorder).map (·.place)
  nodup_keys : (c.index.map (·.1)).Nodup
  entry : ∀ e ∈ c.index, ∃ f ∈ c.columns, f.id = e.2 ∧ f.field.isIndexed = true ∧
    c.indexed? e.1 = some f
  key : ∀ f ∈ c.columns, f.field.isIndexed = true → ∃ t key, c.table? f.table = some t ∧
    (∀ k, c.indexed? k = some f ↔ k = key) ∧
    (¬ c.HeldBefore f ∧ key = f.field.key ∨
      c.HeldBefore f ∧ key = t.name ++ "." ++ f.field.name)
  search : c.searchColumns.map (·.place) =
    ((Table.sites x.preorder).filter (·.field.searchable)).map (·.place)
  sorts : c.defaultSorts.map (·.place) =
    ((Table.sites x.preorder).filter (·.field.sort.isSome)).map (·.place)
  softDeletes : c.softDeletes.map (fun f => (Predicate.isFalse f).text) =
    ((Table.sites x.preorder).filter (·.field.softDelete)).map fun n =>
      n.reference ++ "." ++ Text.identifier n.field.name ++ " is false"
  ordered : c.defaultUsage.Ordered
  usage : ∀ u tag, c.defaultUsage.Has u tag ↔
    (tag = .filter ∧ ∃ n ∈ (Table.sites x.preorder).filter (·.field.softDelete), n.table = u) ∨
    (tag = .sort ∧ ∃ n ∈ (Table.sites x.preorder).filter (·.field.sort.isSome), n.table = u) ∨
    (tag = .mandatory ∧ ∃ r ∈ c.relations, r.mandatory = true ∧ r.child = u)

theorem Visited.heldBefore_iff (h : Visited c ts) (hc : c.Sound) {f : Column} {key : String}
    {earlier later : List (String × FieldId)} (hindex : c.index = earlier ++ (key, f.id) :: later) :
    c.HeldBefore f ↔ f.field.key ∈ earlier.map (·.1) := by
  have hascending := h.ascending_index hc
  rw [hindex, List.pairwise_append, List.pairwise_cons] at hascending
  obtain ⟨-, ⟨hlater, -⟩, hearlier⟩ := hascending
  rw [List.mem_map]
  constructor
  · rintro ⟨g, hlt, hg⟩
    have hmem := indexed?_mem_index hc hg
    rw [hindex, List.mem_append, List.mem_cons] at hmem
    rcases hmem with hmem | heq | hmem
    · exact ⟨_, hmem, rfl⟩
    · exact absurd (congrArg (·.2) heq) (Nat.ne_of_lt hlt)
    · exact absurd (hlater _ hmem) (Nat.lt_asymm hlt)
  · rintro ⟨e, he, hkey⟩
    have hmem : e ∈ c.index := by
      rw [hindex]
      exact List.mem_append_left _ he
    obtain ⟨g, -, hid, -, hg⟩ := h.entry hc hmem
    rw [hkey] at hg
    exact ⟨g, hid ▸ hearlier e he _ List.mem_cons_self, hg⟩

theorem Visited.key (h : Visited c ts) (hc : c.Sound) {f : Column} (hf : f ∈ c.columns)
    (hindexed : f.field.isIndexed = true) : ∃ t key, c.table? f.table = some t ∧
      (∀ k, c.indexed? k = some f ↔ k = key) ∧
      (¬ c.HeldBefore f ∧ key = f.field.key ∨
        c.HeldBefore f ∧ key = t.name ++ "." ++ f.field.name) := by
  obtain ⟨n, hn, hplace, earlier, later, hindex⟩ := h.index_split hf hindexed
  obtain ⟨t, ht, -⟩ := hc.column_table f hf
  have htable : n.table = f.table := congrArg (·.1) hplace
  have hfield : n.field = f.field := congrArg (·.2.2) hplace
  have hname : t.name = n.tableName := h.tableName hn (htable ▸ ht)
  have hkey : c.indexed? (n.keyAfter (earlier.map (·.1))) = some f := by
    rw [indexed?, lookup_of_split h.nodup hindex, Option.bind_some, hc.column_mem hf]
  refine ⟨t, n.keyAfter (earlier.map (·.1)), ht, fun k => ⟨fun hk => ?_, ?_⟩, ?_⟩
  · exact h.indexed?_inj hc hk hkey
  · rintro rfl
    exact hkey
  · rw [h.heldBefore_iff hc hindex, Site.keyAfter, hfield]
    by_cases htaken : f.field.key ∈ earlier.map (·.1)
    · refine .inr ⟨htaken, ?_⟩
      rw [if_pos htaken, Site.qualifiedKey, hname, hfield]
    · exact .inl ⟨htaken, if_neg htaken⟩

theorem Visited.softDeletes (h : Visited c ts) :
    c.softDeletes.map (fun f => (Predicate.isFalse f).text) =
      ((Table.sites ts).filter (·.field.softDelete)).map fun n =>
        n.reference ++ "." ++ Text.identifier n.field.name ++ " is false" := by
  have htexts := congrArg (List.map fun e : TableId × String × Field =>
    e.2.1 ++ "." ++ Text.identifier e.2.2.name ++ " is false") (h.columns_filter Field.softDelete)
  rwa [List.map_map, List.map_map] at htexts

theorem Visited.usage (h : Visited c ts) (u : TableId) (tag : Usage) :
    c.defaultUsage.Has u tag ↔
      (tag = .filter ∧ ∃ n ∈ (Table.sites ts).filter (·.field.softDelete), n.table = u) ∨
      (tag = .sort ∧ ∃ n ∈ (Table.sites ts).filter (·.field.sort.isSome), n.table = u) ∨
      (tag = .mandatory ∧ ∃ r ∈ c.relations, r.mandatory = true ∧ r.child = u) := by
  rw [c.defaultUsage_tags.2, ← h.exists_column_iff Field.softDelete,
    ← h.exists_column_iff (·.sort.isSome)]
  rfl

theorem build_derives (h : build x = .ok c) : c.Derives x := by
  have hc := (build_wellFormed h).toSound
  have hv := build_visited h
  exact {
    columns := hv.columns
    nodup_keys := hv.nodup
    entry := fun e he => hv.entry hc he
    key := fun f hf hindexed => hv.key hc hf hindexed
    search := hv.columns_filter Field.searchable
    sorts := hv.columns_filter (·.sort.isSome)
    softDeletes := hv.softDeletes
    ordered := c.defaultUsage_tags.1
    usage := hv.usage }

theorem build_derives_shop : build shop = .ok shopCatalog ∧ shopCatalog.Derives shop ∧
    shopCatalog.index = [("name", 1), ("category.name", 6)] ∧
    shopCatalog.searchColumns.map (·.id) = [1] ∧ shopCatalog.defaultSorts.map (·.id) = [10] :=
  ⟨build_shop, build_derives build_shop, rfl, rfl, rfl⟩

end Listing.Catalog
