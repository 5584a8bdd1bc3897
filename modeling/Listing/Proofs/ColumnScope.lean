import Listing.Proofs.JoinResolution
import Listing.Proofs.SessionStates

namespace Listing

theorem forall₂_split {α β : Type} {R : α → β → Prop} {xs : List α} {ys zs : List β} {y : β}
    (h : List.Forall₂ R xs (ys ++ y :: zs)) :
    ∃ as a bs, xs = as ++ a :: bs ∧ List.Forall₂ R as ys ∧ R a y ∧ List.Forall₂ R bs zs := by
  induction ys generalizing xs with
  | nil =>
    obtain ⟨a, bs, ha, hb, rfl⟩ := List.forall₂_cons_right_iff.mp h
    exact ⟨[], a, bs, rfl, .nil, ha, hb⟩
  | cons y' ys ih =>
    obtain ⟨x, xs', hx, hxs, rfl⟩ := List.forall₂_cons_right_iff.mp h
    obtain ⟨as, a, bs, rfl, has, ha, hbs⟩ := ih hxs
    exact ⟨x :: as, a, bs, rfl, .cons hx has, ha, hbs⟩

theorem forall₂_mem_left {α β : Type} {R : α → β → Prop} {xs : List α} {ys : List β}
    (h : List.Forall₂ R xs ys) {x : α} (hx : x ∈ xs) : ∃ y ∈ ys, R x y := by
  obtain ⟨as, bs, rfl⟩ := List.append_of_mem hx
  obtain ⟨ys₁, y, ys₂, rfl, _, hr, _⟩ := forall₂_split h.flip
  exact ⟨y, List.mem_append_right _ List.mem_cons_self, hr⟩

theorem forall₂_mem_right {α β : Type} {R : α → β → Prop} {xs : List α} {ys : List β}
    (h : List.Forall₂ R xs ys) {y : β} (hy : y ∈ ys) : ∃ x ∈ xs, R x y :=
  forall₂_mem_left h.flip hy

namespace Statement

def tables (s : Statement) : List TableEntry := s.root :: s.joins.map (·.table)

def Covers (s : Statement) (f : Column) : Prop := ∃ t ∈ s.tables, t.Owns f

instance (s : Statement) (f : Column) : Decidable (s.Covers f) :=
  inferInstanceAs (Decidable (∃ t ∈ s.tables, f.table = t.id ∧ f.qualifier = t.reference))

end Statement

def BeginsLine (text : String) : Prop := text = "" ∨ ∃ rest, text = "\n" ++ rest

theorem BeginsLine.append {text more : String} (h : BeginsLine text) (hmore : BeginsLine more) :
    BeginsLine (text ++ more) := by
  rcases h with rfl | ⟨rest, rfl⟩
  · rwa [String.empty_append]
  · exact .inr ⟨rest ++ more, String.append_assoc ..⟩

/-- The text has the table after `FROM` or `JOIN`, under the reference that its columns have. -/
def TableEntry.IntroducedIn (t : TableEntry) (text : String) : Prop :=
  ∃ before keyword item after, text = before ++ keyword ++ item ++ after ∧
    (keyword = "FROM " ∨ keyword = "JOIN ") ∧ Introduces t.name item t.reference ∧
    (BeginsLine after ∨ ∃ rest, after = " ON " ++ rest)

theorem joinWith_around (separator : String) (before : List String) (s : String)
    (after : List String) :
    ∃ start stop, joinWith separator (before ++ s :: after) = start ++ s ++ stop := by
  induction before with
  | nil =>
    cases after with
    | nil => exact ⟨"", "", by simp [joinWith]⟩
    | cons t after =>
      exact ⟨"", separator ++ joinWith separator (t :: after), by
        simp [joinWith, String.append_assoc]⟩
  | cons b before ih =>
    obtain ⟨start, stop, h⟩ := ih
    obtain ⟨t, ts, hts⟩ := List.exists_cons_of_ne_nil
      (List.append_ne_nil_of_right_ne_nil before (List.cons_ne_nil s after))
    refine ⟨b ++ separator ++ start, stop, ?_⟩
    rw [hts] at h
    rw [List.cons_append, hts, joinWith, h]
    simp only [String.append_assoc]

namespace Statement

theorem beginsLine_joinText (s : Statement) : BeginsLine s.joinText := by
  rw [joinText]
  split
  · exact .inl rfl
  · exact .inr ⟨_, rfl⟩

theorem beginsLine_whereText (s : Statement) : BeginsLine s.whereText := by
  rw [whereText]
  split
  · exact .inl rfl
  · exact .inr ⟨_, @String.append_assoc "\n" "WHERE " _⟩

theorem beginsLine_orderText (s : Statement) : BeginsLine s.orderText := by
  rw [orderText]
  split
  · exact .inl rfl
  · exact .inr ⟨_, @String.append_assoc "\n" "ORDER BY " _⟩

theorem root_introducedIn_text (s : Statement) : s.root.IntroducedIn s.text := by
  have hfrom : " FROM " = " " ++ "FROM " := rfl
  refine ⟨"SELECT " ++ joinWith ", " (s.columns.map (·.statement)) ++ " ", "FROM ",
    s.root.statement, s.joinText ++ s.whereText ++ s.orderText, ?_, .inl rfl,
    s.root.introduces_reference, .inl ?_⟩
  · rw [text_eq, selectText, hfrom]
    simp only [String.append_assoc]
  · exact (s.beginsLine_joinText.append s.beginsLine_whereText).append s.beginsLine_orderText

theorem join_introducedIn_text {s : Statement} {j : Join} (hj : j ∈ s.joins) :
    j.table.IntroducedIn s.text := by
  obtain ⟨earlier, later, hjoins⟩ := List.append_of_mem hj
  obtain ⟨start, stop, hlist⟩ := joinWith_around "\n" (earlier.map (·.text)) j.text
    (later.map (·.text))
  have hsome : s.joins.isEmpty = false := by simp [hjoins]
  have htext : s.joinText = "\n" ++ (start ++ j.text ++ stop) := by
    rw [joinText, hsome, hjoins, List.map_append, List.map_cons, hlist]
    rfl
  have hkeyword : (if j.isInner then "JOIN " else "LEFT JOIN ") =
      (if j.isInner then "" else "LEFT ") ++ "JOIN " := by
    cases j.isInner <;> rfl
  refine ⟨s.selectText ++ "\n" ++ start ++ (if j.isInner then "" else "LEFT "), "JOIN ",
    j.table.statement, " ON " ++ (j.foreignKey.statement ++ " = " ++ j.referenceKey.statement ++
      stop ++ s.whereText ++ s.orderText), ?_, .inr rfl, j.table.introduces_reference,
    .inr ⟨_, rfl⟩⟩
  rw [text_eq, htext, Join.text, hkeyword]
  simp only [String.append_assoc]

theorem introducedIn_text {s : Statement} {t : TableEntry} (ht : t ∈ s.tables) :
    t.IntroducedIn s.text := by
  rcases List.mem_cons.mp ht with rfl | ht
  · exact s.root_introducedIn_text
  · obtain ⟨j, hj, rfl⟩ := List.mem_map.mp ht
    exact join_introducedIn_text hj

structure WellScoped (c : Catalog) (s : Statement) : Prop where
  select : ∀ f ∈ s.columns, s.Covers f
  order : ∀ t ∈ s.order, s.Covers t.column
  join : ∀ earlier j later, s.joins = earlier ++ j :: later →
    ∃ r ∈ c.relations, r.child = j.table.id ∧ j.table.Owns j.referenceKey ∧
      ∃ t ∈ s.root :: earlier.map (·.table), t.id = r.parent ∧ t.Owns j.foreignKey
  ids : (s.tables.map (·.id)).Nodup
  references : (s.tables.map (·.reference)).Nodup

end Statement

namespace Catalog

variable {c : Catalog} {usage : UsageMap} {purposes : UsageSet}

structure JoinOf (c : Catalog) (usage : UsageMap) (r : RelationEntry) (j : Join) : Prop where
  table : c.table? r.child = some j.table
  foreign_mem : j.foreignKey ∈ c.columns
  foreign : j.foreignKey.table = r.parent
  reference_mem : j.referenceKey ∈ c.columns
  reference : j.referenceKey.table = r.child
  inner : j.isInner = (r.mandatory || (usage.get r.child).isOnly .filter)

theorem join?_some (h : c.Sound) (usage : UsageMap) {r : RelationEntry} (hr : r ∈ c.relations) :
    ∃ j, c.join? usage r = some j ∧ c.JoinOf usage r j := by
  obtain ⟨t, ht⟩ := table?_of_lt (h.child_lt r hr)
  obtain ⟨f, hf, hfp⟩ := h.foreign_key r hr
  obtain ⟨g, hg, hgc⟩ := h.reference_key r hr
  refine ⟨⟨r.mandatory || (usage.get r.child).isOnly .filter, t, f, g⟩, ?_, ?_⟩
  · simp [join?, ht, hf, hg]
  · exact ⟨ht, column?_mem hf, hfp, column?_mem hg, hgc, rfl⟩

theorem JoinOf.id (h : c.Sound) {r : RelationEntry} {j : Join} (hj : c.JoinOf usage r j) :
    j.table.id = r.child := h.table_id _ _ hj.table

theorem joins_forall₂ (h : c.WellFormed) (usage : UsageMap) (purposes : UsageSet) :
    List.Forall₂ (c.JoinOf usage) (c.requiredRelations (usage.tablesWithAny purposes))
      (c.joins usage purposes) := by
  have hall : ∀ rs : List RelationEntry, (∀ r ∈ rs, r ∈ c.relations) →
      List.Forall₂ (c.JoinOf usage) rs (rs.filterMap (c.join? usage)) := by
    intro rs hrs
    induction rs with
    | nil => exact .nil
    | cons r rs ih =>
      obtain ⟨j, hj, hof⟩ := join?_some h.toSound usage (hrs r List.mem_cons_self)
      rw [List.filterMap_cons_some hj]
      exact .cons hof (ih fun s hs => hrs s (List.mem_cons_of_mem _ hs))
  exact hall _ fun r hr => requiredRelations_subset h hr

theorem owns_of_table? (h : c.Sound) {t : TableEntry} {i : TableId} (ht : c.table? i = some t)
    {f : Column} (hf : f ∈ c.columns) (hi : f.table = i) : t.Owns f := by
  obtain ⟨u, hu, ho⟩ := h.column_table f hf
  rw [hi, ht, Option.some.injEq] at hu
  exact hu ▸ ho

theorem WellFormed.exists_relation (h : c.WellFormed) {t : TableId} (ht : t < c.tables.length)
    (hr : t ≠ root) : ∃ r ∈ c.relations, r.child = t := by
  obtain ⟨n, hn⟩ := h.connected t ht
  cases hn with
  | here => exact absurd rfl hr
  | step _ hs => exact ⟨_, hs, rfl⟩

end Catalog

namespace Statement

variable {c : Catalog} {usage : UsageMap} {purposes : UsageSet} {s : Statement}

structure Draws (c : Catalog) (usage : UsageMap) (purposes : UsageSet) (s : Statement) : Prop where
  root : c.table? Catalog.root = some s.root
  joins : s.joins = c.joins usage purposes

theorem Draws.joinOf (h : c.WellFormed) (hd : s.Draws c usage purposes) :
    List.Forall₂ (c.JoinOf usage) (c.requiredRelations (usage.tablesWithAny purposes)) s.joins :=
  hd.joins ▸ Catalog.joins_forall₂ h usage purposes

theorem Draws.tables_id (h : c.WellFormed) (hd : s.Draws c usage purposes) :
    s.tables.map (·.id) = Catalog.root ::
      (c.requiredRelations (usage.tablesWithAny purposes)).map (·.child) := by
  have hj : List.Forall₂ (· = ·) (s.joins.map (·.table.id))
      ((c.requiredRelations (usage.tablesWithAny purposes)).map (·.child)) := by
    rw [List.forall₂_map_left_iff, List.forall₂_map_right_iff]
    exact ((hd.joinOf h).imp fun r j hj => hj.id h.toSound).flip
  rw [List.forall₂_eq_eq_eq] at hj
  simp [tables, h.table_id _ _ hd.root, ← hj]

theorem Draws.table_mem (h : c.WellFormed) (hd : s.Draws c usage purposes) {t : TableEntry}
    (ht : t ∈ s.tables) : c.table? t.id = some t := by
  rcases List.mem_cons.mp ht with rfl | ht
  · rw [h.table_id _ _ hd.root]
    exact hd.root
  · obtain ⟨j, hj, rfl⟩ := List.mem_map.mp ht
    obtain ⟨r, _, hof⟩ := forall₂_mem_right (hd.joinOf h) hj
    rw [hof.id h.toSound]
    exact hof.table

theorem Draws.covers_iff (h : c.WellFormed) (hd : s.Draws c usage purposes) {f : Column}
    (hf : f ∈ c.columns) : s.Covers f ↔ f.table = Catalog.root ∨
      ∃ u ∈ usage.tablesWithAny purposes, c.AtOrBelow f.table u := by
  constructor
  · rintro ⟨t, ht, hft, _⟩
    rcases List.mem_cons.mp ht with rfl | ht
    · exact .inl (hft.trans (h.table_id _ _ hd.root))
    · obtain ⟨j, hj, rfl⟩ := List.mem_map.mp ht
      obtain ⟨r, hr, hof⟩ := forall₂_mem_right (hd.joinOf h) hj
      rw [hft, hof.id h.toSound]
      exact .inr ((Catalog.mem_requiredRelations h).mp hr).2
  · intro hu
    obtain ⟨t, ht, hown⟩ := h.column_table f hf
    by_cases hroot : f.table = Catalog.root
    · rw [hroot, hd.root, Option.some.injEq] at ht
      exact ⟨t, ht ▸ List.mem_cons_self, hown⟩
    · obtain ⟨r, hr, hrf⟩ := h.exists_relation (Catalog.table?_lt ht) hroot
      have hreq := (Catalog.mem_requiredRelations h).mpr ⟨hr, hrf ▸ hu.resolve_left hroot⟩
      obtain ⟨j, hj, hof⟩ := forall₂_mem_left (hd.joinOf h) hreq
      have hjt := hof.table
      rw [hrf, ht, Option.some.injEq] at hjt
      exact ⟨t, List.mem_cons_of_mem _ (hjt ▸ List.mem_map_of_mem hj), hown⟩

theorem Draws.nodup_ids (h : c.WellFormed) (hd : s.Draws c usage purposes) :
    (s.tables.map (·.id)).Nodup := by
  rw [hd.tables_id h, List.nodup_cons]
  constructor
  · intro hm
    obtain ⟨r, hr, he⟩ := List.mem_map.mp hm
    have hlt := h.ascends r (Catalog.requiredRelations_subset h hr)
    rw [he] at hlt
    exact absurd hlt (Nat.not_lt_zero _)
  · apply List.Nodup.map_on _ (Catalog.nodup_requiredRelations h _)
    intro r hr q hq he
    have hr := Catalog.requiredRelations_subset h hr
    have hq := Catalog.requiredRelations_subset h hq
    exact h.relation_of_child hr hq he

theorem Draws.nodup_references (h : c.WellFormed) (hd : s.Draws c usage purposes) :
    (s.tables.map (·.reference)).Nodup := by
  have hin : ∀ t ∈ s.tables, t ∈ c.tables := fun t ht =>
    List.mem_of_getElem? (hd.table_mem h ht)
  apply List.Nodup.map_on _ (List.Nodup.of_map _ (hd.nodup_ids h))
  intro t ht u hu he
  exact List.inj_on_of_nodup_map h.references (hin t ht) (hin u hu) he

theorem Draws.join_scope (h : c.WellFormed) (hd : s.Draws c usage purposes)
    {earlier later : List Join} {j : Join} (hj : s.joins = earlier ++ j :: later) :
    ∃ r ∈ c.relations, r.child = j.table.id ∧ j.table.Owns j.referenceKey ∧
      ∃ t ∈ s.root :: earlier.map (·.table), t.id = r.parent ∧ t.Owns j.foreignKey := by
  have hall := hd.joinOf h
  rw [hj] at hall
  obtain ⟨rs, r, _, hrs, hbefore, hof, _⟩ := forall₂_split hall
  have hr : r ∈ c.requiredRelations (usage.tablesWithAny purposes) :=
    hrs ▸ List.mem_append_right _ List.mem_cons_self
  refine ⟨r, Catalog.requiredRelations_subset h hr, (hof.id h.toSound).symm,
    Catalog.owns_of_table? h.toSound hof.table hof.reference_mem hof.reference, ?_⟩
  rcases Catalog.requiredRelations_parent_first h hrs with hroot | ⟨p, hp, hpr⟩
  · have hf := hof.foreign.trans hroot
    exact ⟨s.root, List.mem_cons_self, (h.table_id _ _ hd.root).trans hroot.symm,
      Catalog.owns_of_table? h.toSound hd.root hof.foreign_mem hf⟩
  · obtain ⟨k, hk, hpk⟩ := forall₂_mem_left hbefore hp
    have hf := hof.foreign.trans hpr.symm
    exact ⟨k.table, List.mem_cons_of_mem _ (List.mem_map_of_mem hk), (hpk.id h.toSound).trans hpr,
      Catalog.owns_of_table? h.toSound hpk.table hof.foreign_mem hf⟩

theorem Draws.covers (h : c.WellFormed) (hd : s.Draws c usage purposes) {f : Column}
    (hf : f ∈ c.columns) (hu : f.table ∈ usage.tablesWithAny purposes) : s.Covers f :=
  (hd.covers_iff h hf).mpr (.inr ⟨f.table, hu, .refl c _⟩)

theorem Draws.wellScoped (h : c.WellFormed) (hd : s.Draws c usage purposes)
    (hsel : ∀ f ∈ s.columns, f ∈ c.columns ∧ f.table ∈ usage.tablesWithAny purposes)
    (hord : ∀ t ∈ s.order, t.column ∈ c.columns ∧ t.column.table ∈ usage.tablesWithAny purposes) :
    s.WellScoped c where
  select f hf := hd.covers h (hsel f hf).1 (hsel f hf).2
  order t ht := hd.covers h (hord t ht).1 (hord t ht).2
  join _ _ _ hj := hd.join_scope h hj
  ids := hd.nodup_ids h
  references := hd.nodup_references h

end Statement
end Listing
