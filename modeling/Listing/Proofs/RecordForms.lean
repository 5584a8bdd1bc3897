import Mathlib.Data.List.Forall2
import Mathlib.Data.List.Perm.Basic
import Listing.Json.Decode

/-!
The forms in which a record may be written: as an object, whose entries stand in any order among
entries under other keys and may be missing where they say nothing new, or as an array of all its
fields in order. A decoder that reads each field reads the record from each of these forms, since
the fields do not get in each other's way.
-/
namespace Listing

structure Part where
  key : String
  mayLack : Prop
  writes : Node → Prop

namespace Part

inductive Gives : List Part → List (String × Node) → Prop
  | nil : Gives [] []
  | keep {p : Part} {ps : List Part} {x : Node} {es : List (String × Node)} :
      p.writes x → Gives ps es → Gives (p :: ps) ((p.key, x) :: es)
  | lack {p : Part} {ps : List Part} {es : List (String × Node)} :
      p.mayLack → Gives ps es → Gives (p :: ps) es

end Part

inductive RecordForm (parts : List Part) : Node → Prop
  | object {given others entries : List (String × Node)} : Part.Gives parts given →
      (∀ e ∈ others, ∀ p ∈ parts, p.key ≠ e.1) → entries.Perm (given ++ others) →
      RecordForm parts (.object (entries.map fun e => (some e.1, e.2)))
  | array {items : List Node} : List.Forall₂ (fun (p : Part) x => p.writes x) parts items →
      RecordForm parts (.array items)

namespace Node

theorem depth_le_items {x : Node} : ∀ {items : List Node}, x ∈ items → x.depth ≤ itemsDepth items
  | y :: ys, h => by
    rw [itemsDepth]
    rcases List.mem_cons.mp h with rfl | h
    · exact Nat.le_max_left _ _
    · exact Nat.le_trans (depth_le_items h) (Nat.le_max_right _ _)

theorem depth_le_entries {e : Option String × Node} :
    ∀ {entries : List (Option String × Node)}, e ∈ entries → e.2.depth ≤ entriesDepth entries
  | f :: fs, h => by
    rw [entriesDepth]
    rcases List.mem_cons.mp h with rfl | h
    · exact Nat.le_max_left _ _
    · exact Nat.le_trans (depth_le_entries h) (Nat.le_max_right _ _)

end Node

theorem RecordForm.depth_pos {parts : List Part} {x : Node} (h : RecordForm parts x) :
    0 < x.depth := by
  cases h <;> exact Nat.succ_pos _

namespace Decoder

structure Cell (σ : Type) where
  key : String
  isRequired : Bool
  read : Decoder (σ → σ)
  mayLack : Prop
  writes : Node → Prop
  change : σ → σ

namespace Cell

variable {σ α : Type}

def slot (c : Cell σ) : Slot σ := ⟨c.key, [], c.isRequired, c.read⟩

def part (c : Cell σ) : Part := ⟨c.key, c.mayLack, c.writes⟩

def required (key : String) (d : Decoder α) (set : α → σ → σ) (a : α) (writes : Node → Prop) :
    Cell σ := ⟨key, true, fun x => (d x).map set, False, writes, set a⟩

def optional (key : String) (d : Decoder α) (set : α → σ → σ) (a default : α)
    (writes : Node → Prop) : Cell σ :=
  ⟨key, false, fun x => (d x).map set, a = default, writes, set a⟩

structure Reads (n : Nat) (blank : σ) (c : Cell σ) : Prop where
  read : ∀ x, c.writes x → x.depth ≤ n → c.read x = .ok c.change
  required : c.mayLack → c.isRequired = false
  blank : c.mayLack → c.change blank = blank

theorem reads_required {n : Nat} {blank : σ} (key : String) {d : Decoder α} (set : α → σ → σ)
    {a : α} {writes : Node → Prop} (h : ∀ x, writes x → x.depth ≤ n → d x = .ok a) :
    (required key d set a writes).Reads n blank where
  read x hx hn := by
    simp only [required, h x hx hn]
    rfl
  required := False.elim
  blank := False.elim

theorem reads_optional {n : Nat} {blank : σ} (key : String) {d : Decoder α} (set : α → σ → σ)
    {a default : α} {writes : Node → Prop} (hblank : set default blank = blank)
    (h : ∀ x, writes x → x.depth ≤ n → d x = .ok a) :
    (optional key d set a default writes).Reads n blank where
  read x hx hn := by
    simp only [optional, h x hx hn]
    rfl
  required _ := rfl
  blank hl := by
    have hl : a = default := hl
    rw [← hl] at hblank
    exact hblank

/-- The cells go with one another: each has its key to itself, and it does not matter in which order
they change a record. -/
structure Apart (cells : List (Cell σ)) : Prop where
  keys : (cells.map key).Nodup
  comm : ∀ c ∈ cells, ∀ d ∈ cells, ∀ r, c.change (d.change r) = d.change (c.change r)

def apply (cells : List (Cell σ)) (r : σ) : σ := cells.foldl (fun r c => c.change r) r

def named (cells : List (Cell σ)) (key : String) : Option (Cell σ) :=
  cells.find? fun c => c.key == key

def known (cells : List (Cell σ)) (entries : List (String × Node)) : List (Cell σ) :=
  entries.filterMap fun e => named cells e.1

variable {cells kept : List (Cell σ)} {entries given others : List (String × Node)} {n : Nat}
  {blank : σ}

theorem named_of_mem (h : (cells.map key).Nodup) {c : Cell σ} (hc : c ∈ cells) :
    named cells c.key = some c := by
  induction cells with
  | nil => cases hc
  | cons d cells ih =>
    rw [List.map_cons, List.nodup_cons] at h
    rcases List.mem_cons.mp hc with rfl | hc
    · exact List.find?_cons_of_pos (beq_self_eq_true c.key)
    · have hne : d.key ≠ c.key := fun heq => h.1 (heq ▸ List.mem_map_of_mem hc)
      rw [named, List.find?_cons_of_neg (by simpa using hne)]
      exact ih h.2 hc

theorem find?_slots (cells : List (Cell σ)) (key : String) :
    (cells.map slot).find? (fun s => s.accepts key) = (named cells key).map slot := by
  rw [List.find?_map, named]
  congr 2
  funext c
  simp [Slot.accepts, slot]

theorem known_cons_none {e : String × Node} (h : named cells e.1 = none) :
    known cells (e :: entries) = known cells entries :=
  List.filterMap_cons_none (f := fun e : String × Node => named cells e.1) h

theorem known_cons_some {e : String × Node} {c : Cell σ} (h : named cells e.1 = some c) :
    known cells (e :: entries) = c :: known cells entries :=
  List.filterMap_cons_some (f := fun e : String × Node => named cells e.1) h

theorem readEntries_cells (hreads : ∀ c ∈ cells, c.Reads n blank)
    (hentries : ∀ e ∈ entries, ∀ c, named cells e.1 = some c → c.writes e.2 ∧ e.2.depth ≤ n)
    (hkeys : ((known cells entries).map key).Nodup) {seen : List String}
    (hseen : ∀ c ∈ known cells entries, c.key ∉ seen) (r : σ) :
    readEntries (cells.map slot) seen r (entries.map fun e => (some e.1, e.2)) =
      .ok (((known cells entries).map key).reverse ++ seen, apply (known cells entries) r) := by
  induction entries generalizing seen r with
  | nil => rfl
  | cons e es ih =>
    have hrest := fun f hf => hentries f (List.mem_cons_of_mem e hf)
    rw [List.map_cons, readEntries, find?_slots]
    cases hname : named cells e.1 with
    | none =>
      rw [known_cons_none hname] at hkeys hseen ⊢
      exact ih hrest hkeys hseen r
    | some c =>
      obtain ⟨hwrites, hdepth⟩ := hentries e List.mem_cons_self c hname
      have hread := (hreads c (List.mem_of_find?_eq_some hname)).read e.2 hwrites hdepth
      rw [known_cons_some hname] at hkeys hseen ⊢
      rw [List.map_cons, List.nodup_cons] at hkeys
      have hnew : seen.contains c.key = false := by
        rw [← Bool.not_eq_true, List.contains_iff_mem]
        exact hseen c List.mem_cons_self
      have hlater : ∀ d ∈ known cells es, d.key ∉ c.key :: seen := by
        intro d hd hmem
        rcases List.mem_cons.mp hmem with heq | hmem
        · exact hkeys.1 (heq ▸ List.mem_map_of_mem hd)
        · exact hseen d (List.mem_cons_of_mem c hd) hmem
      have htail := ih hrest hkeys.2 hlater (c.change r)
      simp only [Option.map_some, slot, hnew, Bool.false_eq_true, if_false, hread]
      refine htail.trans ?_
      rw [List.map_cons, List.reverse_cons, List.append_assoc]
      rfl

theorem readElements_cells (hreads : ∀ c ∈ cells, c.Reads n blank) {items : List Node}
    (hitems : List.Forall₂ (fun (p : Part) x => p.writes x) (cells.map part) items)
    (hdepth : ∀ x ∈ items, x.depth ≤ n) (expected : String) (index : Nat) (r : σ) :
    readElements expected index r (cells.map slot) items = .ok (apply cells r) := by
  induction cells generalizing items index r with
  | nil =>
    cases hitems
    rfl
  | cons c cells ih =>
    rw [List.map_cons] at hitems ⊢
    cases hitems with
    | @cons _ x _ xs hx hxs =>
      have hread := (hreads c List.mem_cons_self).read x hx (hdepth x List.mem_cons_self)
      have htail := ih (fun d hd => hreads d (List.mem_cons_of_mem c hd)) hxs
        (fun y hy => hdepth y (List.mem_cons_of_mem x hy)) (index + 1) (c.change r)
      rw [readElements]
      simp only [slot, hread]
      exact htail

def Settled (cells : List (Cell σ)) (r : σ) : Prop := ∀ c ∈ cells, c.mayLack → c.change r = r

theorem Settled.change {c : Cell σ} (h : Settled (c :: cells) r)
    (hcomm : ∀ d ∈ cells, ∀ r, d.change (c.change r) = c.change (d.change r)) :
    Settled cells (c.change r) := by
  intro d hd hlack
  rw [hcomm d hd, h d (List.mem_cons_of_mem c hd) hlack]

structure Kept (cells : List (Cell σ)) (given : List (String × Node))
    (kept : List (Cell σ × Node)) : Prop where
  given : given = kept.map fun e => (e.1.key, e.2)
  sublist : (kept.map Prod.fst).Sublist cells
  writes : ∀ e ∈ kept, e.1.writes e.2
  all : ∀ c ∈ cells, c ∈ kept.map Prod.fst ∨ c.mayLack
  apply : ∀ r, Settled cells r → Cell.apply (kept.map Prod.fst) r = Cell.apply cells r

theorem exists_kept (hcomm : ∀ c ∈ cells, ∀ d ∈ cells, ∀ r,
      c.change (d.change r) = d.change (c.change r)) (h : Part.Gives (cells.map part) given) :
    ∃ kept, Kept cells given kept := by
  induction cells generalizing given with
  | nil =>
    cases h
    exact ⟨[], rfl, .slnil, nofun, nofun, fun _ _ => rfl⟩
  | cons c cells ih =>
    have hrest := fun d hd e he => hcomm d (List.mem_cons_of_mem c hd) e (List.mem_cons_of_mem c he)
    rw [List.map_cons] at h
    cases h with
    | @keep _ _ x es hx hes =>
      obtain ⟨kept, hk⟩ := ih hrest hes
      refine ⟨(c, x) :: kept, ?_, hk.sublist.cons_cons c, ?_, ?_, ?_⟩
      · rw [List.map_cons, ← hk.given]
        rfl
      · exact List.forall_mem_cons.mpr ⟨hx, hk.writes⟩
      · rw [List.map_cons]
        exact List.forall_mem_cons.mpr ⟨.inl List.mem_cons_self,
          fun d hd => (hk.all d hd).imp_left (List.mem_cons_of_mem c)⟩
      · intro r hr
        apply hk.apply (c.change r)
        exact hr.change fun d hd => hcomm d (List.mem_cons_of_mem c hd) c List.mem_cons_self
    | lack hlack hes =>
      obtain ⟨kept, hk⟩ := ih hrest hes
      refine ⟨kept, hk.given, hk.sublist.cons c, hk.writes, ?_, ?_⟩
      · exact List.forall_mem_cons.mpr ⟨.inr hlack, hk.all⟩
      · intro r hr
        have hsame : c.change r = r := hr c List.mem_cons_self hlack
        rw [hk.apply r fun d hd => hr d (List.mem_cons_of_mem c hd), Cell.apply, Cell.apply,
          List.foldl_cons, hsame]

theorem apply_perm (h : Apart cells) {ds : List (Cell σ)} (hp : ds.Perm kept)
    (hk : ∀ c ∈ kept, c ∈ cells) (r : σ) : apply ds r = apply kept r := by
  apply hp.foldl_eq'
  intro c hc d hd r
  exact h.comm d (hk d (hp.mem_iff.mp hd)) c (hk c (hp.mem_iff.mp hc)) r

theorem Kept.known_append (h : (cells.map key).Nodup) {kept : List (Cell σ × Node)}
    (hk : Kept cells given kept) (hothers : ∀ e ∈ others, named cells e.1 = none) :
    known cells (given ++ others) = kept.map Prod.fst := by
  have hgiven : known cells given = kept.map Prod.fst := by
    rw [Cell.known, hk.given, List.filterMap_map, ← List.filterMap_eq_map]
    apply List.filterMap_congr
    intro e he
    exact named_of_mem h (hk.sublist.subset (List.mem_map_of_mem he))
  have hnone : known cells others = [] := List.filterMap_eq_nil_iff.mpr hothers
  rw [Cell.known, List.filterMap_append, ← Cell.known, ← Cell.known, hgiven, hnone, List.append_nil]

theorem record_form (h : Apart cells) (hreads : ∀ c ∈ cells, c.Reads n blank) {x : Node}
    (hx : RecordForm (cells.map part) x) (hdepth : x.depth ≤ n + 1) {levels : Nat}
    (hlevels : 0 < levels) (name : String) :
    record levels name (cells.map slot) blank x = .ok (apply cells blank) := by
  have hsettled : Settled cells blank := fun c hc => (hreads c hc).blank
  cases hx with
  | array hitems =>
    rw [record, if_neg (Nat.ne_of_gt hlevels)]
    apply readElements_cells hreads hitems
    intro y hy
    rw [Node.depth] at hdepth
    exact Nat.le_trans (Node.depth_le_items hy) (Nat.le_of_succ_le_succ hdepth)
  | @object given others entries hgiven hothers hperm =>
    obtain ⟨kept, hk⟩ := exists_kept h.comm hgiven
    have hcell : ∀ c ∈ kept.map Prod.fst, c ∈ cells := fun c hc => hk.sublist.subset hc
    have hunknown : ∀ e ∈ others, named cells e.1 = none := by
      intro e he
      rw [named, List.find?_eq_none]
      intro c hc heq
      exact hothers e he c.part (List.mem_map_of_mem hc) (beq_iff_eq.mp heq)
    have hknown : (known cells entries).Perm (kept.map Prod.fst) := by
      rw [← hk.known_append h.keys hunknown]
      exact hperm.filterMap _
    have hentries : ∀ e ∈ entries, ∀ c, named cells e.1 = some c →
        c.writes e.2 ∧ e.2.depth ≤ n := by
      intro e he c hc
      constructor
      · rcases List.mem_append.mp (hperm.mem_iff.mp he) with hmem | hmem
        · rw [hk.given] at hmem
          obtain ⟨k, hkept, rfl⟩ := List.mem_map.mp hmem
          rw [named_of_mem h.keys (hcell _ (List.mem_map_of_mem hkept)), Option.some.injEq] at hc
          exact hc ▸ hk.writes k hkept
        · rw [hunknown e hmem] at hc
          cases hc
      · have hmem : (some e.1, e.2) ∈ entries.map fun e => (some e.1, e.2) :=
          List.mem_map_of_mem he
        have hle : e.2.depth ≤ _ := Node.depth_le_entries hmem
        rw [Node.depth] at hdepth
        omega
    have hkeys : ((known cells entries).map key).Nodup :=
      (hknown.map key).nodup_iff.mpr (h.keys.sublist (hk.sublist.map key))
    have hnew : ∀ c ∈ known cells entries, c.key ∉ [] := fun _ _ => List.not_mem_nil
    have hread := readEntries_cells hreads hentries hkeys hnew blank
    -- of what has not been read, nothing is required
    have hmissing : (cells.map slot).find? (fun s => s.isRequired &&
        !(((known cells entries).map key).reverse ++ []).contains s.key) = none := by
      rw [List.find?_eq_none]
      intro s hs
      obtain ⟨c, hc, rfl⟩ := List.mem_map.mp hs
      rcases hk.all c hc with hmem | hlack
      · have hseen :
            (((known cells entries).map key).reverse ++ []).contains c.slot.key = true := by
          rw [List.append_nil, List.contains_iff_mem, List.mem_reverse]
          exact List.mem_map_of_mem (hknown.mem_iff.mpr hmem)
        rw [hseen, Bool.not_true, Bool.and_false]
        exact Bool.false_ne_true
      · simp [slot, (hreads c hc).required hlack]
    rw [record, if_neg (Nat.ne_of_gt hlevels), hread]
    simp only [bind, Except.bind]
    rw [hmissing, apply_perm h hknown hcell, hk.apply blank hsettled]

end Cell

end Decoder
end Listing
