import Listing.Proofs.Arenas

namespace Listing

namespace Arena

structure Discovered where
  depth : RelationId → Option Nat := fun _ => none
  order : List RelationId := []

namespace Discovered

def note (d : Discovered) (i : RelationId) (depth : Nat) : Discovered where
  depth j :=
    if i = j then some ((d.depth i).elim depth fun known => min known depth) else d.depth j
  order := if (d.depth i).isSome then d.order else d.order ++ [i]

def notePath (d : Discovered) (path : List RelationId) : Discovered :=
  path.zipIdx.foldl (fun d e => d.note e.1 e.2) d

def ranked (d : Discovered) (i : RelationId) : Except Fault (RelationId × Nat) :=
  match d.depth i with
  | some depth => .ok (i, depth)
  | none => .error (.depth i)

end Discovered

def walk (a : Arena) (used : List TableId) :
    Nat → List RelationId → TableId → Discovered → Except Fault Discovered
  | 0, _, _, _ => .error .endless
  | n + 1, path, t, d => do
    let node ← a.table t
    node.relations.foldlM (fun d i => do
      let r ← a.relation i
      walk a used n (path ++ [i]) r.child
        (if used.contains r.child then d.notePath (path ++ [i]) else d)) d

def insertByDepth (e : RelationId × Nat) : List (RelationId × Nat) → List (RelationId × Nat)
  | [] => [e]
  | f :: fs => if f.2 ≤ e.2 then f :: insertByDepth e fs else e :: f :: fs

def sortByDepth (es : List (RelationId × Nat)) : List (RelationId × Nat) :=
  es.foldl (fun sorted e => insertByDepth e sorted) []

def requiredRelations (a : Arena) (used : List TableId) : Except Fault (List RelationId) := do
  let d ← a.walk used a.tables.length [] Catalog.root {}
  let ranked ← d.order.mapM d.ranked
  pure ((sortByDepth ranked).map (·.1))

def join (a : Arena) (usage : UsageMap) (i : RelationId) : Except Fault Join := do
  let r ← a.relation i
  let node ← a.table r.child
  let foreignKey ← a.field r.foreignKey
  let referenceKey ← a.field r.referenceKey
  pure ⟨r.mandatory || (usage.get r.child).isOnly .filter, node.entry, foreignKey, referenceKey⟩

def joins (a : Arena) (usage : UsageMap) (purposes : UsageSet) : Except Fault (List Join) := do
  let rs ← a.requiredRelations (usage.tablesWithAny purposes)
  rs.mapM (a.join usage)

end Arena

section Passes

variable {α β σ τ : Type}

theorem foldlM_handles {id : α → β} {step : τ → β → Except Fault τ} {step' : σ → α → σ}
    (g : σ → τ) {xs : List α} (h : ∀ s, ∀ x ∈ xs, step (g s) (id x) = .ok (g (step' s x))) (s : σ) :
    (xs.map id).foldlM step (g s) = .ok (g (xs.foldl step' s)) := by
  induction xs generalizing s with
  | nil => rfl
  | cons x xs ih =>
    rw [List.map_cons, List.foldlM_cons, h s x List.mem_cons_self]
    exact ih (fun s y hy => h s y (List.mem_cons_of_mem x hy)) (step' s x)

theorem mapM_handles {id : α → β} {look : β → Except Fault τ} {g : α → τ} {xs : List α}
    (h : ∀ x ∈ xs, look (id x) = .ok (g x)) : (xs.map id).mapM look = .ok (xs.map g) := by
  induction xs with
  | nil => rfl
  | cons x xs ih =>
    rw [List.map_cons, List.mapM_cons, h x List.mem_cons_self,
      ih fun y hy => h y (List.mem_cons_of_mem x hy)]
    rfl

end Passes

namespace Arena

open Catalog (record recordPath)

variable {c : Catalog} {used : List TableId}

def Discovered.of (found : List Catalog.Found) : Discovered where
  depth i := (found.find? (·.relation.id = i)).map (·.depth)
  order := found.map (·.relation.id)

theorem map_record (r : RelationEntry) (depth : Nat) (found : List Catalog.Found) :
    (record r depth found).map (·.relation.id) =
      if (found.find? (·.relation.id = r.id)).isSome then found.map (·.relation.id)
      else found.map (·.relation.id) ++ [r.id] := by
  induction found with
  | nil => rfl
  | cons f fs ih =>
    by_cases hf : f.relation.id = r.id
    · simp [record, hf]
    · simp only [record, hf, if_false, List.map_cons, ih, List.find?_cons, decide_false]
      split <;> rfl

theorem Discovered.note_of (found : List Catalog.Found) (r : RelationEntry) (depth : Nat) :
    (of found).note r.id depth = of (record r depth found) := by
  apply congrArg₂ Discovered.mk
  · funext i
    have hknown : (of found).depth r.id =
        (found.find? (·.relation.id = r.id)).map (·.depth) := rfl
    rw [Catalog.find?_record]
    by_cases hi : r.id = i
    · subst hi
      rw [if_pos rfl, if_pos rfl, hknown]
      cases found.find? (·.relation.id = r.id) <;> rfl
    · rw [if_neg hi, if_neg hi]
      rfl
  · rw [map_record, of, Option.isSome_map]

theorem Discovered.notePath_of (found : List Catalog.Found) (path : List RelationEntry) :
    (of found).notePath (path.map (·.id)) = of (recordPath path found) := by
  rw [notePath, recordPath, List.zipIdx_map, List.foldl_map]
  apply List.foldl_hom
  intro found e
  exact note_of found e.1 e.2

theorem of_walk (hc : c.Sound) {n : Nat} {path : List RelationEntry} {t : TableId}
    (ht : t < c.tables.length) (hn : c.tables.length ≤ t + n) (found : List Catalog.Found) :
    (of c).walk used n (path.map (·.id)) t (.of found) =
      .ok (.of (c.walk used n path t found)) := by
  induction n generalizing path t found with
  -- no table has a number as high as their count, so the walk is over before its steps are
  | zero => lia
  | succ n ih =>
    obtain ⟨e, he⟩ := Catalog.table?_of_lt ht
    have hid : e.id = t := hc.table_id t e he
    rw [walk, of_table he]
    subst hid
    apply foldlM_handles Discovered.of
    intro found r hr
    obtain ⟨hr, hparent⟩ := Catalog.mem_relationsOf.mp hr
    have hascends := hc.ascends r hr
    have hchild := hc.child_lt r hr
    have hpath : path.map (·.id) ++ [r.id] = (path ++ [r]).map (·.id) := by simp
    rw [of_relation hc hr, hpath]
    change (of c).walk used n _ r.child (if used.contains r.child then _ else _) = _
    rw [Discovered.notePath_of, ← apply_ite Discovered.of]
    exact ih hchild (by lia) _

def rank (f : Catalog.Found) : RelationId × Nat := (f.relation.id, f.depth)

theorem insertByDepth_rank (f : Catalog.Found) (gs : List Catalog.Found) :
    insertByDepth (rank f) (gs.map rank) = (Catalog.insertByDepth f gs).map rank := by
  induction gs with
  | nil => rfl
  | cons g gs ih =>
    rw [List.map_cons, insertByDepth, Catalog.insertByDepth, ih]
    change (if g.depth ≤ f.depth then _ else _) = _
    split_ifs <;> rfl

theorem sortByDepth_rank (found : List Catalog.Found) :
    sortByDepth (found.map rank) = (Catalog.sortByDepth found).map rank := by
  have hfold : found.foldl (fun sorted f => insertByDepth (rank f) sorted) (List.map rank []) = _ :=
    List.foldl_hom (List.map rank) fun sorted f => insertByDepth_rank f sorted
  rw [sortByDepth, List.foldl_map]
  exact hfold

theorem Discovered.ranked_of {found : List Catalog.Found}
    (h : (found.map (·.relation.id)).Nodup) {f : Catalog.Found} (hf : f ∈ found) :
    (of found).ranked f.relation.id = .ok (rank f) := by
  have hdepth : (of found).depth f.relation.id = some f.depth := by
    have hfind := find?_of_nodup h hf
    simp only [beq_eq_decide] at hfind
    change (found.find? (·.relation.id = f.relation.id)).map (·.depth) = _
    rw [hfind]
    rfl
  rw [ranked, hdepth]
  rfl

theorem nodup_found (hc : c.WellFormed) (used : List TableId) :
    ((c.walk used c.tables.length [] Catalog.root []).map (·.relation.id)).Nodup := by
  have hperm : (c.requiredRelations used).Perm
      ((c.walk used c.tables.length [] Catalog.root []).map (·.relation)) :=
    (Catalog.perm_sortByDepth _).map _
  have hmem : ∀ r ∈ (c.walk used c.tables.length [] Catalog.root []).map (·.relation),
      r ∈ c.relations := fun r hr =>
    Catalog.requiredRelations_subset hc (hperm.mem_iff.mpr hr)
  have hnodup := hperm.nodup_iff.mp (Catalog.nodup_requiredRelations hc used)
  have hids := List.Nodup.map_on (f := RelationEntry.id)
    (fun r hr s hs he => hc.relation_ext (hmem r hr) (hmem s hs) he) hnodup
  rwa [List.map_map] at hids

theorem of_requiredRelations (hc : c.WellFormed) (used : List TableId) :
    (of c).requiredRelations used = .ok ((c.requiredRelations used).map (·.id)) := by
  have hlength : (of c).tables.length = c.tables.length := List.length_map _
  have hnodup := nodup_found hc used
  have hwalk : (of c).walk used c.tables.length [] Catalog.root {} =
      .ok (.of (c.walk used c.tables.length [] Catalog.root [])) :=
    @of_walk c used hc.toSound _ [] _ hc.root_lt (Nat.le_add_left _ _) []
  rw [requiredRelations, hlength, bind_eq_of_ok hwalk, Catalog.requiredRelations]
  generalize c.walk used c.tables.length [] Catalog.root [] = found at hnodup ⊢
  have hranked : (Discovered.of found).order.mapM (Discovered.of found).ranked =
      .ok (found.map rank) := mapM_handles fun f hf => Discovered.ranked_of hnodup hf
  rw [bind_eq_of_ok hranked, sortByDepth_rank, List.map_map, List.map_map]
  rfl

theorem of_join (hc : c.Sound) (usage : UsageMap) {r : RelationEntry} (hr : r ∈ c.relations) :
    ∃ j, c.join? usage r = some j ∧ (of c).join usage r.id = .ok j := by
  obtain ⟨t, ht⟩ := Catalog.table?_of_lt (hc.child_lt r hr)
  obtain ⟨f, hf, -⟩ := hc.foreign_key r hr
  obtain ⟨g, hg, -⟩ := hc.reference_key r hr
  refine ⟨⟨r.mandatory || (usage.get r.child).isOnly .filter, t, f, g⟩, ?_, ?_⟩
  · simp [Catalog.join?, ht, hf, hg]
  · simp only [join, of_relation hc hr, of_table ht, of_field hf, of_field hg, bind, Except.bind]
    rfl

theorem of_joins (hc : c.WellFormed) (usage : UsageMap) (purposes : UsageSet) :
    (of c).joins usage purposes = .ok (c.joins usage purposes) := by
  have hall : ∀ rs : List RelationEntry, (∀ r ∈ rs, r ∈ c.relations) →
      (rs.map (·.id)).mapM ((of c).join usage) = .ok (rs.filterMap (c.join? usage)) := by
    intro rs hrs
    induction rs with
    | nil => rfl
    | cons r rs ih =>
      obtain ⟨j, hj, hjoin⟩ := of_join hc.toSound usage (hrs r List.mem_cons_self)
      rw [List.map_cons, List.mapM_cons, hjoin, ih fun s hs => hrs s (List.mem_cons_of_mem r hs),
        List.filterMap_cons_some hj]
      rfl
  rw [joins, bind_eq_of_ok (of_requiredRelations hc _)]
  exact hall _ fun r hr => Catalog.requiredRelations_subset hc hr

end Arena
end Listing
