import Listing.Catalog.Joins
import Listing.Proofs.Tree

namespace Listing.Catalog

variable {c : Catalog} {used : List TableId}

def recordAll (fs found : List Found) : List Found :=
  fs.foldl (fun found f => record f.relation f.depth found) found

def trail (path : List RelationEntry) : List Found := path.zipIdx.map fun e => ⟨e.1, e.2⟩

def Known (found : List Found) (f : Found) : Prop :=
  ∃ g, found.find? (·.relation.id = f.relation.id) = some g ∧ g.depth ≤ f.depth

theorem recordPath_eq (path : List RelationEntry) (found : List Found) :
    recordPath path found = recordAll (trail path) found := by
  simp only [recordPath, recordAll, trail, List.foldl_map]

theorem recordAll_append (fs gs found : List Found) :
    recordAll (fs ++ gs) found = recordAll gs (recordAll fs found) := List.foldl_append

theorem trail_concat (path : List RelationEntry) (r : RelationEntry) :
    trail (path ++ [r]) = trail path ++ [⟨r, path.length⟩] := by
  simp [trail, List.zipIdx_append]

theorem record_of_known {found : List Found} {f : Found} (h : Known found f) :
    record f.relation f.depth found = found := by
  induction found with
  | nil =>
    obtain ⟨g, hg, _⟩ := h
    cases hg
  | cons e es ih =>
    obtain ⟨g, hg, hd⟩ := h
    rw [List.find?_cons] at hg
    by_cases he : e.relation.id = f.relation.id
    · simp only [he, decide_true, Option.some.injEq] at hg
      subst hg
      simp [record, he, Nat.min_eq_left hd]
    · simp only [he, decide_false] at hg
      simp [record, he, ih ⟨g, hg, hd⟩]

theorem find?_record (r : RelationEntry) (d : Nat) (found : List Found) (i : RelationId) :
    (record r d found).find? (·.relation.id = i) =
      if r.id = i then
        some ((found.find? (·.relation.id = i)).elim ⟨r, d⟩ fun g => ⟨g.relation, min g.depth d⟩)
      else found.find? (·.relation.id = i) := by
  induction found with
  | nil => by_cases h : r.id = i <;> simp [record, h]
  | cons e es ih =>
    by_cases he : e.relation.id = r.id
    · by_cases h : r.id = i <;> simp [record, he, h]
    · by_cases h : r.id = i
      · have hne : e.relation.id ≠ i := fun hi => he (hi.trans h.symm)
        simp [record, h, hne, ih]
      · simp [record, he, h, List.find?_cons, ih]

theorem known_record (found : List Found) (f : Found) :
    Known (record f.relation f.depth found) f := by
  rw [Known, find?_record, if_pos rfl]
  cases found.find? (·.relation.id = f.relation.id) with
  | none => exact ⟨_, rfl, Nat.le_refl _⟩
  | some g => exact ⟨_, rfl, Nat.min_le_right _ _⟩

theorem Known.record {found : List Found} {f : Found} (h : Known found f) (r : RelationEntry)
    (d : Nat) : Known (record r d found) f := by
  obtain ⟨g, hg, hd⟩ := h
  rw [Known, find?_record, hg]
  by_cases hr : r.id = f.relation.id
  · exact ⟨_, if_pos hr, Nat.le_trans (Nat.min_le_left _ _) hd⟩
  · exact ⟨g, if_neg hr, hd⟩

theorem Known.recordAll {found : List Found} {f : Found} (h : Known found f) (fs : List Found) :
    Known (recordAll fs found) f := by
  induction fs generalizing found with
  | nil => exact h
  | cons e es ih => exact ih (h.record e.relation e.depth)

theorem known_recordAll {fs : List Found} {f : Found} (hf : f ∈ fs) (found : List Found) :
    Known (recordAll fs found) f := by
  induction fs generalizing found with
  | nil => cases hf
  | cons e es ih =>
    rcases List.mem_cons.mp hf with rfl | hf
    · exact (known_record found f).recordAll es
    · exact ih hf _

theorem recordAll_again (fs gs found : List Found) :
    recordAll fs (recordAll (fs ++ gs) found) = recordAll (fs ++ gs) found := by
  have absorb : ∀ {es found : List Found}, (∀ e ∈ es, Known found e) →
      recordAll es found = found := by
    intro es found h
    induction es with
    | nil => rfl
    | cons e es ih =>
      rw [recordAll, List.foldl_cons, record_of_known (h e List.mem_cons_self)]
      exact ih fun e he => h e (List.mem_cons_of_mem _ he)
  exact absorb fun e he => known_recordAll (List.mem_append_left gs he) found

theorem record_fresh {found : List Found} {r : RelationEntry} (d : Nat)
    (h : ∀ f ∈ found, f.relation.id ≠ r.id) : record r d found = found ++ [⟨r, d⟩] := by
  induction found with
  | nil => rfl
  | cons e es ih =>
    rw [record, if_neg (h e List.mem_cons_self), ih fun f hf => h f (List.mem_cons_of_mem _ hf)]
    rfl

theorem recordAll_fresh {fs : List Found} (found : List Found)
    (h : (found ++ fs).Pairwise fun f g => f.relation.id ≠ g.relation.id) :
    recordAll fs found = found ++ fs := by
  induction fs generalizing found with
  | nil => simp [recordAll]
  | cons e es ih =>
    have hf : ∀ f ∈ found, f.relation.id ≠ e.relation.id := fun f hf =>
      (List.pairwise_append.mp h).2.2 f hf e List.mem_cons_self
    rw [recordAll, List.foldl_cons, record_fresh _ hf]
    have := ih (found ++ [e]) (by simpa using h)
    simpa [recordAll] using this

def headed (used : List TableId) (f : Found) (below : List Found) : List Found :=
  if used.contains f.relation.child ∨ below ≠ [] then f :: below else []

def discoveries (c : Catalog) (used : List TableId) : Nat → Nat → TableId → List Found
  | 0, _, _ => []
  | n + 1, depth, t => (c.relationsOf t).flatMap fun r =>
      headed used ⟨r, depth⟩ (discoveries c used n (depth + 1) r.child)

theorem recordAll_headed (path : List RelationEntry) (r : RelationEntry)
    (below found found' : List Found)
    (hf : found' = if used.contains r.child then recordPath (path ++ [r]) found else found) :
    (if below = [] then found' else recordAll (trail (path ++ [r]) ++ below) found') =
      if headed used ⟨r, path.length⟩ below = [] then found
      else recordAll (trail path ++ headed used ⟨r, path.length⟩ below) found := by
  have hsplit : trail path ++ (⟨r, path.length⟩ :: below) = trail (path ++ [r]) ++ below := by
    simp [trail_concat]
  by_cases hu : used.contains r.child
  · have hh : headed used ⟨r, path.length⟩ below = ⟨r, path.length⟩ :: below := if_pos (.inl hu)
    rw [hh, if_neg (List.cons_ne_nil _ _), hsplit, hf, if_pos hu, recordPath_eq]
    by_cases hb : below = []
    · rw [if_pos hb, hb, List.append_nil]
    · have hagain := recordAll_again (trail (path ++ [r])) [] found
      rw [List.append_nil] at hagain
      rw [if_neg hb, recordAll_append, hagain, ← recordAll_append]
  · rw [hf, if_neg hu]
    by_cases hb : below = []
    · have hh : headed used ⟨r, path.length⟩ below = [] := if_neg fun h => h.elim hu fun hn => hn hb
      rw [if_pos hb, if_pos hh]
    · have hh : headed used ⟨r, path.length⟩ below = ⟨r, path.length⟩ :: below := if_pos (.inr hb)
      rw [if_neg hb, hh, if_neg (List.cons_ne_nil _ _), hsplit]

theorem foldl_recordAll {step : List Found → RelationEntry → List Found} {trail : List Found}
    {met : RelationEntry → List Found}
    (hstep : ∀ found r, step found r =
      if met r = [] then found else recordAll (trail ++ met r) found)
    (rs : List RelationEntry) (found : List Found) : rs.foldl step found =
      if rs.flatMap met = [] then found else recordAll (trail ++ rs.flatMap met) found := by
  induction rs generalizing found with
  | nil => simp
  | cons r rs ih =>
    rw [List.foldl_cons, hstep, ih, List.flatMap_cons]
    by_cases hr : met r = []
    · simp [hr]
    · by_cases hrs : rs.flatMap met = []
      · simp [hr, hrs]
      · rw [if_neg hr, if_neg hrs, if_neg (by simp [hr]), recordAll_append trail, recordAll_again,
          ← List.append_assoc, recordAll_append (trail ++ met r)]

theorem walk_eq (n : Nat) (path : List RelationEntry) (t : TableId) (found : List Found) :
    c.walk used n path t found =
      if c.discoveries used n path.length t = [] then found
      else recordAll (trail path ++ c.discoveries used n path.length t) found := by
  induction n generalizing path t found with
  | zero => simp [walk, discoveries]
  | succ n ih =>
    apply foldl_recordAll
    intro found r
    rw [ih, List.length_append, List.length_singleton]
    exact recordAll_headed path r _ found _ rfl

theorem mem_relationsOf {t : TableId} {r : RelationEntry} :
    r ∈ c.relationsOf t ↔ r ∈ c.relations ∧ r.parent = t := by
  simp [relationsOf]

theorem mem_headed {below : List Found} {f g : Found} : f ∈ headed used g below ↔
    (used.contains g.relation.child ∨ below ≠ []) ∧ (f = g ∨ f ∈ below) := by
  rw [headed]
  split_ifs with h
  · simp only [List.mem_cons, h, true_and]
  · simp only [List.not_mem_nil, h, false_and]

theorem leads_iff {t : TableId} : (∃ u ∈ used, c.AtOrBelow t u) ↔
    t ∈ used ∨ ∃ s ∈ c.relations, s.parent = t ∧ ∃ u ∈ used, c.AtOrBelow s.child u := by
  constructor
  · rintro ⟨u, hu, n, hd⟩
    cases n with
    | zero =>
      cases hd
      exact .inl hu
    | succ n =>
      obtain ⟨s, hs, hp, hd⟩ := hd.head
      exact .inr ⟨s, hs, hp, u, hu, n, hd⟩
  · rintro (hu | ⟨s, hs, rfl, u, hu, hb⟩)
    · exact ⟨t, hu, .refl c t⟩
    · exact ⟨u, hu, (AtOrBelow.child hs).trans hb⟩

theorem mem_discoveries (h : c.Sound) {n depth : Nat} {t : TableId}
    (hn : c.tables.length ≤ t + n) (f : Found) :
    f ∈ c.discoveries used n depth t ↔ f.relation ∈ c.relations ∧
      (∃ k, f.depth = depth + k ∧ c.Descends t k f.relation.parent) ∧
      ∃ u ∈ used, c.AtOrBelow f.relation.child u := by
  induction n generalizing depth t f with
  | zero =>
    simp only [discoveries, List.not_mem_nil, false_iff]
    rintro ⟨hr, ⟨k, _, hd⟩, _⟩
    -- no path is longer than there are tables
    have := h.ascends _ hr
    have := h.child_lt _ hr
    have := hd.le h
    lia
  | succ n ih =>
    have hfuel : ∀ {r}, r ∈ c.relations → r.parent = t → c.tables.length ≤ r.child + n := by
      intro r hr hp
      have := h.ascends r hr
      lia
    have hmet : ∀ {r}, r ∈ c.relations → r.parent = t →
        ((used.contains r.child ∨ c.discoveries used n (depth + 1) r.child ≠ []) ↔
          ∃ u ∈ used, c.AtOrBelow r.child u) := by
      intro r hr hp
      rw [leads_iff, List.contains_iff_mem]
      refine or_congr_right ⟨fun hb => ?_, fun ⟨s, hs, hsp, hu⟩ => ?_⟩
      · obtain ⟨g, hg⟩ := List.exists_mem_of_ne_nil _ hb
        obtain ⟨hgr, ⟨k, _, hd⟩, u, hu, hub⟩ := (ih (hfuel hr hp) g).mp hg
        obtain ⟨s, hs, hsp, hsd⟩ := (hd.step hgr).head
        exact ⟨s, hs, hsp, u, hu, AtOrBelow.trans ⟨k, hsd⟩ hub⟩
      · have hs : ⟨s, depth + 1⟩ ∈ c.discoveries used n (depth + 1) r.child :=
          (ih (hfuel hr hp) _).mpr ⟨hs, ⟨0, rfl, hsp ▸ .here⟩, hu⟩
        exact List.ne_nil_of_mem hs
    simp only [discoveries, List.mem_flatMap, mem_relationsOf, mem_headed]
    constructor
    · rintro ⟨r, ⟨hr, hp⟩, hu, rfl | hf⟩
      · exact ⟨hr, ⟨0, rfl, hp ▸ .here⟩, (hmet hr hp).mp hu⟩
      · obtain ⟨hfr, ⟨k, hk, hd⟩, hu⟩ := (ih (hfuel hr hp) f).mp hf
        have hd := (hp ▸ Descends.here.step hr : c.Descends t (0 + 1) r.child).trans hd
        exact ⟨hfr, ⟨0 + 1 + k, by omega, hd⟩, hu⟩
    · rintro ⟨hr, ⟨k, hk, hd⟩, hu⟩
      cases k with
      | zero =>
        have hp : f.relation.parent = t := by cases hd; rfl
        exact ⟨f.relation, ⟨hr, hp⟩, (hmet hr hp).mpr hu, .inl (by rw [← Nat.add_zero depth, ← hk])⟩
      | succ k =>
        obtain ⟨r, hrr, hp, hd⟩ := hd.head
        have hf : f ∈ c.discoveries used n (depth + 1) r.child :=
          (ih (hfuel hrr hp) f).mpr ⟨hr, ⟨k, by omega, hd⟩, hu⟩
        exact ⟨r, ⟨hrr, hp⟩, .inr (List.ne_nil_of_mem hf), .inr hf⟩

theorem pairwise_discoveries (h : c.Sound) {n depth : Nat} {t : TableId}
    (hn : c.tables.length ≤ t + n) :
    (c.discoveries used n depth t).Pairwise fun f g => c.Before f.relation g.relation := by
  induction n generalizing depth t with
  | zero => exact .nil
  | succ n ih =>
    have hfuel : ∀ {r}, r ∈ c.relationsOf t → c.tables.length ≤ r.child + n := by
      intro r hr
      obtain ⟨hr, hp⟩ := mem_relationsOf.mp hr
      have := h.ascends r hr
      lia
    have hmet : ∀ r ∈ c.relationsOf t, ∀ f ∈ headed used ⟨r, depth⟩
        (c.discoveries used n (depth + 1) r.child), c.AtOrBelow r.child f.relation.child := by
      intro r hr f hf
      rcases (mem_headed.mp hf).2 with rfl | hf
      · exact .refl _ _
      · obtain ⟨hfr, ⟨k, _, hd⟩, _⟩ := (mem_discoveries h (hfuel hr) f).mp hf
        exact ⟨k + 1, .step hd hfr⟩
    rw [discoveries, List.pairwise_flatMap]
    constructor
    · intro r hr
      rw [headed]
      split_ifs
      · refine List.pairwise_cons.mpr ⟨fun f hf => .inl ?_, ih (hfuel hr)⟩
        obtain ⟨_, ⟨k, _, hd⟩, _⟩ := (mem_discoveries h (hfuel hr) f).mp hf
        exact ⟨k, hd⟩
      · exact .nil
    · have hids : c.relations.Pairwise fun r s => r.id < s.id := by
        rw [List.pairwise_iff_getElem]
        intro i j hi hj hij
        rw [h.relation_id i _ (List.getElem?_eq_getElem hi),
          h.relation_id j _ (List.getElem?_eq_getElem hj)]
        exact hij
      refine (hids.filter _).imp_of_mem fun {r s} hr hs hlt f hf g hg => .inr ?_
      obtain ⟨hrr, hrp⟩ := mem_relationsOf.mp hr
      obtain ⟨hsr, hsp⟩ := mem_relationsOf.mp hs
      exact ⟨r, hrr, s, hsr, hrp.trans hsp.symm, hlt, hmet r hr f hf, hmet s hs g hg⟩

theorem walk_root (h : c.Sound) :
    c.walk used c.tables.length [] root [] = c.discoveries used c.tables.length 0 root := by
  have hn : c.tables.length ≤ root + c.tables.length := by simp [root]
  have hids : (c.discoveries used c.tables.length 0 root).Pairwise
      fun f g => f.relation.id ≠ g.relation.id := by
    refine (pairwise_discoveries h hn).imp_of_mem fun {f g} hf hg hb he => ?_
    have hfr := ((mem_discoveries h hn f).mp hf).1
    have hgr := ((mem_discoveries h hn g).mp hg).1
    have := hb.child_lt h hgr
    rw [h.relation_ext hfr hgr he] at this
    exact Nat.lt_irrefl _ this
  rw [walk_eq]
  split_ifs with hnil
  · exact hnil.symm
  · exact recordAll_fresh [] hids

theorem perm_insertByDepth (f : Found) (gs : List Found) : (insertByDepth f gs).Perm (f :: gs) := by
  induction gs with
  | nil => exact .refl _
  | cons g gs ih =>
    rw [insertByDepth]
    split_ifs
    · exact (ih.cons g).trans (.swap f g gs)
    · exact .refl _

theorem perm_sortByDepth (fs : List Found) : (sortByDepth fs).Perm fs := by
  have h : ∀ sorted : List Found,
      (fs.foldl (fun sorted f => insertByDepth f sorted) sorted).Perm (sorted ++ fs) := by
    induction fs with
    | nil => simp
    | cons f fs ih =>
      intro sorted
      refine (ih _).trans (((perm_insertByDepth f sorted).append_right fs).trans ?_)
      exact List.perm_middle.symm
  simpa [sortByDepth] using h []

def ByDepth (R : Found → Found → Prop) (f g : Found) : Prop :=
  f.depth < g.depth ∨ f.depth = g.depth ∧ R f g

theorem pairwise_insertByDepth {R : Found → Found → Prop} {f : Found} {gs : List Found}
    (h : gs.Pairwise (ByDepth R)) (hf : ∀ g ∈ gs, R g f) :
    (insertByDepth f gs).Pairwise (ByDepth R) := by
  induction gs with
  | nil => exact List.pairwise_singleton _ _
  | cons g gs ih =>
    obtain ⟨hg, hgs⟩ := List.pairwise_cons.mp h
    rw [insertByDepth]
    split_ifs with hle
    · refine List.pairwise_cons.mpr ⟨fun e he => ?_, ih hgs fun e he => hf e (.tail _ he)⟩
      rcases List.mem_cons.mp ((perm_insertByDepth f gs).mem_iff.mp he) with rfl | he
      · rcases Nat.lt_or_eq_of_le hle with hlt | heq
        · exact .inl hlt
        · exact .inr ⟨heq, hf g List.mem_cons_self⟩
      · exact hg e he
    · have hlt : f.depth < g.depth := Nat.lt_of_not_le hle
      refine List.pairwise_cons.mpr ⟨fun e he => .inl ?_, h⟩
      rcases List.mem_cons.mp he with rfl | he
      · exact hlt
      · rcases hg e he with hge | ⟨hge, _⟩ <;> omega

theorem pairwise_sortByDepth {R : Found → Found → Prop} {fs : List Found} (h : fs.Pairwise R) :
    (sortByDepth fs).Pairwise (ByDepth R) := by
  have hs : ∀ sorted : List Found, sorted.Pairwise (ByDepth R) → (∀ g ∈ sorted, ∀ f ∈ fs, R g f) →
      (fs.foldl (fun sorted f => insertByDepth f sorted) sorted).Pairwise (ByDepth R) := by
    induction fs with
    | nil => exact fun sorted hp _ => hp
    | cons f fs ih =>
      intro sorted hp hr
      obtain ⟨hf, hfs⟩ := List.pairwise_cons.mp h
      refine ih hfs _ (pairwise_insertByDepth hp fun g hg => hr g hg f List.mem_cons_self) ?_
      intro g hg e he
      rcases List.mem_cons.mp ((perm_insertByDepth f sorted).mem_iff.mp hg) with rfl | hg
      · exact hf e he
      · exact hr g hg e (.tail _ he)
  exact hs [] .nil (by simp)

def JoinedBefore (c : Catalog) (r s : RelationEntry) : Prop :=
  ∃ n m, c.Descends root n r.parent ∧ c.Descends root m s.parent ∧ (n < m ∨ n = m ∧ c.Before r s)

inductive Connected (rs : List RelationEntry) : TableId → Prop
  | root : Connected rs root
  | child {r : RelationEntry} : r ∈ rs → Connected rs r.parent → Connected rs r.child

structure ExactlyRequired (c : Catalog) (used : List TableId) (rs : List RelationEntry) : Prop where
  mem : ∀ r, r ∈ rs ↔ r ∈ c.relations ∧ ∃ u ∈ used, c.AtOrBelow r.child u
  nodup : rs.Nodup
  ordered : rs.Pairwise c.JoinedBefore
  parent_first : ∀ earlier r later, rs = earlier ++ r :: later →
    r.parent = root ∨ ∃ p ∈ earlier, p.child = r.parent
  connects : ∀ u ∈ used, u < c.tables.length → Connected rs u
  minimal : ∀ r ∈ rs, ∃ u ∈ used, Connected rs u ∧ ¬ Connected (rs.erase r) u

theorem requiredRelations_eq (h : c.Sound) (used : List TableId) : c.requiredRelations used =
    (sortByDepth (c.discoveries used c.tables.length 0 root)).map (·.relation) := by
  rw [requiredRelations, walk_root h]

theorem JoinedBefore.irrefl (h : c.Sound) {r s : RelationEntry} (hr : r ∈ c.relations)
    (hs : s ∈ c.relations) (hrs : c.JoinedBefore r s) (hsr : c.JoinedBefore s r) : False := by
  obtain ⟨n, m, hn, hm, hlt⟩ := hrs
  obtain ⟨m', n', hm', hn', hlt'⟩ := hsr
  obtain rfl := hn.depth_unique h hn'
  obtain rfl := hm.depth_unique h hm'
  rcases hlt with hlt | ⟨_, hb⟩ <;> rcases hlt' with hlt' | ⟨_, hb'⟩
  · omega
  · omega
  · omega
  · exact Nat.lt_asymm (hb.child_lt h hs) (hb'.child_lt h hr)

theorem JoinedBefore.not_below (h : c.Sound) {r s : RelationEntry} (hr : r ∈ c.relations)
    (hs : s ∈ c.relations) (hrs : c.JoinedBefore r s) : ¬ c.AtOrBelow s.child r.child := by
  intro hb
  obtain ⟨n, m, hn, hm, hlt⟩ := hrs
  rcases hb.cases_child h hr with he | ⟨k, hk⟩
  · obtain rfl := h.relation_of_child hs hr he
    rcases hlt with hlt | ⟨_, hbefore⟩
    · exact Nat.ne_of_lt hlt (hn.depth_unique h hm)
    · exact Nat.lt_irrefl _ (hbefore.child_lt h hr)
  · have := hn.depth_unique h ((hm.step hs).trans hk)
    omega

theorem mem_requiredRelations (h : c.WellFormed) {r : RelationEntry} :
    r ∈ c.requiredRelations used ↔ r ∈ c.relations ∧ ∃ u ∈ used, c.AtOrBelow r.child u := by
  have hn : c.tables.length ≤ root + c.tables.length := by simp [root]
  simp only [requiredRelations_eq h.toSound, List.mem_map, (perm_sortByDepth _).mem_iff,
    mem_discoveries h.toSound hn]
  constructor
  · rintro ⟨f, ⟨hr, _, hu⟩, rfl⟩
    exact ⟨hr, hu⟩
  · rintro ⟨hr, hu⟩
    have hlt := Nat.lt_trans (h.ascends r hr) (h.child_lt r hr)
    obtain ⟨k, hk⟩ := h.connected r.parent hlt
    exact ⟨⟨r, k⟩, ⟨hr, ⟨k, (Nat.zero_add k).symm, hk⟩, hu⟩, rfl⟩

theorem requiredRelations_subset (h : c.WellFormed) {r : RelationEntry}
    (hr : r ∈ c.requiredRelations used) : r ∈ c.relations :=
  ((mem_requiredRelations h).mp hr).1

theorem pairwise_requiredRelations (h : c.WellFormed) (used : List TableId) :
    (c.requiredRelations used).Pairwise c.JoinedBefore := by
  have hn : c.tables.length ≤ root + c.tables.length := by simp [root]
  rw [requiredRelations_eq h.toSound, List.pairwise_map]
  refine (pairwise_sortByDepth (pairwise_discoveries h.toSound hn)).imp_of_mem
    fun {f g} hf hg hfg => ?_
  have hf := (mem_discoveries h.toSound hn f).mp ((perm_sortByDepth _).mem_iff.mp hf)
  have hg := (mem_discoveries h.toSound hn g).mp ((perm_sortByDepth _).mem_iff.mp hg)
  obtain ⟨_, ⟨n, hfn, hfd⟩, _⟩ := hf
  obtain ⟨_, ⟨m, hgm, hgd⟩, _⟩ := hg
  refine ⟨n, m, hfd, hgd, ?_⟩
  rcases hfg with hlt | ⟨heq, hb⟩
  · exact .inl (by omega)
  · exact .inr ⟨by omega, hb⟩

theorem nodup_requiredRelations (h : c.WellFormed) (used : List TableId) :
    (c.requiredRelations used).Nodup := by
  refine (pairwise_requiredRelations h used).imp_of_mem fun {r s} hr hs hb he => ?_
  have hr := (mem_requiredRelations h).mp hr
  subst he
  exact hb.irrefl h.toSound hr.1 hr.1 hb

theorem requiredRelations_parent_first (h : c.WellFormed) {earlier later : List RelationEntry}
    {r : RelationEntry} (he : c.requiredRelations used = earlier ++ r :: later) :
    r.parent = root ∨ ∃ p ∈ earlier, p.child = r.parent := by
  have hr : r ∈ c.requiredRelations used := he ▸ List.mem_append_right _ List.mem_cons_self
  obtain ⟨hrr, u, hu, hub⟩ := (mem_requiredRelations h).mp hr
  have hlt := Nat.lt_trans (h.ascends r hrr) (h.child_lt r hrr)
  obtain ⟨k, hk⟩ := h.connected r.parent hlt
  generalize hv : r.parent = v at hk
  cases hk with
  | here => exact .inl rfl
  | @step k p hd hp =>
    refine .inr ⟨p, ?_, rfl⟩
    have hpr : p ∈ c.requiredRelations used :=
      (mem_requiredRelations h).mpr ⟨hp, u, hu, (hv ▸ AtOrBelow.child hrr).trans hub⟩
    rw [he] at hpr
    rcases List.mem_append.mp hpr with hpr | hpr
    · exact hpr
    -- a relation that stands behind `r` cannot be less deep
    · exfalso
      have hord := pairwise_requiredRelations h used
      rw [he, List.pairwise_append, List.pairwise_cons] at hord
      rcases List.mem_cons.mp hpr with rfl | hpr
      · have := h.ascends p hp
        lia
      · obtain ⟨n, m, hn, hm, hlt⟩ := hord.2.1.1 p hpr
        have := hm.depth_unique h.toSound hd
        have := (hv ▸ hn).depth_unique h.toSound (.step hd hp)
        omega

theorem connected_of_used (h : c.WellFormed) {u : TableId} (hu : u ∈ used)
    (hlt : u < c.tables.length) : Connected (c.requiredRelations used) u := by
  have hc : ∀ {n v}, c.Descends root n v → c.AtOrBelow v u →
      Connected (c.requiredRelations used) v := by
    intro n v hd hb
    induction hd with
    | here => exact .root
    | step hd hr ih =>
      exact .child ((mem_requiredRelations h).mpr ⟨hr, u, hu, hb⟩)
        (ih ((AtOrBelow.child hr).trans hb))
  obtain ⟨n, hn⟩ := h.connected u hlt
  exact hc hn (.refl c u)

theorem not_connected_without (h : c.Sound) {rs : List RelationEntry} {r : RelationEntry}
    (hrs : ∀ s ∈ rs, s ∈ c.relations ∧ s ≠ r) (hr : r ∈ c.relations) {u : TableId}
    (hu : Connected rs u) : ¬ c.AtOrBelow r.child u := by
  induction hu with
  | root =>
    intro hb
    have hlt := h.ascends r hr
    exact Nat.not_le_of_lt (Nat.lt_of_le_of_lt (Nat.zero_le _) hlt) (hb.le h)
  | @child s hs _ ih =>
    obtain ⟨hsr, hne⟩ := hrs s hs
    intro hb
    rcases hb.cases_child h hsr with he | hb
    · exact hne (h.relation_of_child hsr hr he.symm)
    · exact ih hb

theorem requiredRelations_exact {t : Table} {c : Catalog} (h : build t = .ok c)
    (used : List TableId) (rs : List RelationEntry) :
    rs = c.requiredRelations used ↔ c.ExactlyRequired used rs := by
  have hc := build_wellFormed h
  constructor
  · rintro rfl
    refine ⟨fun r => mem_requiredRelations hc, nodup_requiredRelations hc used,
      pairwise_requiredRelations hc used, fun _ _ _ => requiredRelations_parent_first hc,
      fun u => connected_of_used hc, fun r hr => ?_⟩
    obtain ⟨hrr, u, hu, hub⟩ := (mem_requiredRelations hc).mp hr
    obtain ⟨n, hn⟩ := hub
    refine ⟨u, hu, connected_of_used hc hu ?_, fun hcu => ?_⟩
    · generalize hv : r.child = v at hn
      cases hn with
      | here => exact hv ▸ hc.child_lt r hrr
      | step _ hs => exact hc.child_lt _ hs
    · apply not_connected_without hc.toSound _ hrr hcu ⟨n, hn⟩
      intro s hs
      obtain ⟨hne, hs⟩ := (nodup_requiredRelations hc used).mem_erase_iff.mp hs
      exact ⟨requiredRelations_subset hc hs, hne⟩
  · intro hx
    have hp : rs.Perm (c.requiredRelations used) := by
      rw [List.perm_ext_iff_of_nodup hx.nodup (nodup_requiredRelations hc used)]
      intro r
      rw [hx.mem, mem_requiredRelations hc]
    apply hp.eq_of_pairwise _ hx.ordered (pairwise_requiredRelations hc used)
    intro r s hr hs hrs hsr
    have hr := ((hx.mem r).mp hr).1
    have hs := requiredRelations_subset hc hs
    exact (hrs.irrefl hc.toSound hr hs hsr).elim

theorem requiredRelations_exact_shop : build shop = .ok shopCatalog ∧
    (shopCatalog.requiredRelations [3, 2, 9]).map (·.child) = [1, 3, 2] ∧
    shopCatalog.ExactlyRequired [3, 2, 9] (shopCatalog.requiredRelations [3, 2, 9]) :=
  ⟨build_shop, by decide, (requiredRelations_exact build_shop [3, 2, 9] _).mp rfl⟩

end Listing.Catalog
