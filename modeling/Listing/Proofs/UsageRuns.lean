import Listing.Proofs.UsageBytes

namespace Listing

inductive UsageStep where
  | mark (t : TableId) (u : Usage)
  | unmarkAll (u : Usage)
deriving DecidableEq

namespace UsageStep

def run (m : UsageMap) : UsageStep → UsageMap
  | mark t u => m.mark t u
  | unmarkAll u => m.unmarkAll u

def runHashed (h : HashedUsage) : UsageStep → HashedUsage
  | mark t u => h.mark t u
  | unmarkAll u => h.unmarkAll u

/-- The table is marked, and the usage is not taken off all tables after that. -/
def Stands (steps : List UsageStep) (t : TableId) (u : Usage) : Prop :=
  ∃ earlier later, steps = earlier ++ mark t u :: later ∧ unmarkAll u ∉ later

theorem not_stands_nil (t : TableId) (u : Usage) : ¬ Stands [] t u := by
  rintro ⟨earlier, later, h, -⟩
  cases (List.append_eq_nil_iff.mp h.symm).2

theorem stands_concat (steps : List UsageStep) (k : UsageStep) (t : TableId) (u : Usage) :
    Stands (steps ++ [k]) t u ↔ k = mark t u ∨ k ≠ unmarkAll u ∧ Stands steps t u := by
  constructor
  · rintro ⟨earlier, later, h, hlater⟩
    -- the last step is the mark itself, or one of those that it has outlasted
    rcases List.eq_nil_or_concat' later with rfl | ⟨later, k', rfl⟩
    · obtain ⟨-, hk⟩ := List.append_inj' h rfl
      exact .inl (List.cons.inj hk).1
    · rw [← List.cons_append, ← List.append_assoc] at h
      obtain ⟨hsteps, hk⟩ := List.append_inj' h rfl
      obtain rfl := (List.cons.inj hk).1
      rw [List.mem_append, not_or] at hlater
      have hne : k ≠ unmarkAll u := fun he => hlater.2 (List.mem_singleton.mpr he.symm)
      exact .inr ⟨hne, earlier, later, hsteps, hlater.1⟩
  · rintro (rfl | ⟨hne, earlier, later, rfl, hlater⟩)
    · exact ⟨steps, [], rfl, List.not_mem_nil⟩
    · refine ⟨earlier, later ++ [k], by simp, ?_⟩
      rw [List.mem_append, not_or]
      exact ⟨hlater, fun hm => hne (List.mem_singleton.mp hm).symm⟩

variable {m : UsageMap} {h : HashedUsage}

theorem run_ordered (hm : m.Ordered) (k : UsageStep) : (k.run m).Ordered := by
  cases k with
  | mark t u => exact hm.mark t u
  | unmarkAll u => exact hm.unmarkAll u

theorem has_run (hm : m.Ordered) (k : UsageStep) (t : TableId) (u : Usage) :
    (k.run m).Has t u ↔ k = mark t u ∨ k ≠ unmarkAll u ∧ m.Has t u := by
  cases k with
  | mark t' u' =>
    simp [run, UsageMap.has_mark hm, @eq_comm _ t, @eq_comm _ u]
  | unmarkAll u' =>
    simp [run, UsageMap.has_unmarkAll hm, @eq_comm _ u]

theorem run_keeps (hk : h.Keeps m) (k : UsageStep) : (k.runHashed h).Keeps (k.run m) := by
  cases k with
  | mark t u => exact hk.mark t u
  | unmarkAll u => exact hk.unmarkAll u

end UsageStep

open UsageStep

def UsageMap.after (steps : List UsageStep) : UsageMap := steps.foldl run .empty

def HashedUsage.after (steps : List UsageStep) : HashedUsage := steps.foldl runHashed {}

namespace UsageMap

theorem after_concat (steps : List UsageStep) (k : UsageStep) :
    after (steps ++ [k]) = k.run (after steps) := List.foldl_append

theorem after_ordered (steps : List UsageStep) : (after steps).Ordered := by
  induction steps using List.reverseRecOn with
  | nil => exact .empty
  | append_singleton steps k ih =>
    rw [after_concat]
    exact run_ordered ih k

theorem has_after (steps : List UsageStep) (t : TableId) (u : Usage) :
    (after steps).Has t u ↔ Stands steps t u := by
  induction steps using List.reverseRecOn with
  | nil => exact iff_of_false (not_has_empty t u) (not_stands_nil t u)
  | append_singleton steps k ih =>
    rw [after_concat, has_run (after_ordered steps), stands_concat, ih]

theorem Ordered.isEmpty_iff {m : UsageMap} (hm : m.Ordered) :
    m.isEmpty = true ↔ ∀ t u, ¬ m.Has t u := by
  rw [UsageMap.isEmpty, List.isEmpty_iff]
  constructor
  · intro hentries t u
    rw [has_iff_mem hm, hentries]
    simp
  · intro hnone
    have hempty : m = .empty :=
      hm.ext .empty fun t u => iff_of_false (hnone t u) (not_has_empty t u)
    rw [hempty]
    rfl

theorem after_eq_iff (steps steps' : List UsageStep) :
    after steps = after steps' ↔ ∀ t u, Stands steps t u ↔ Stands steps' t u := by
  simp only [← has_after]
  constructor
  · intro heq t u
    rw [heq]
  · exact (after_ordered steps).ext (after_ordered steps')

structure Represents (m : UsageMap) (p : TableId → Usage → Prop) : Prop where
  get : ∀ t u, (m.get t).contains u = true ↔ p t u
  used : ∀ e ∈ m.entries, e.2.isEmpty = false
  isEmpty : m.isEmpty = true ↔ ∀ t u, ¬ p t u
  ascending : ∀ us, (m.tablesWithAny us).Pairwise (· < ·)
  tables : ∀ us t, t ∈ m.tablesWithAny us ↔ ∃ u, us.contains u = true ∧ p t u

theorem after_represents (steps : List UsageStep) : (after steps).Represents (Stands steps) := by
  have hm := after_ordered steps
  refine ⟨has_after steps, hm.used, ?_, pairwise_tablesWithAny hm, fun us t => ?_⟩
  · simp only [hm.isEmpty_iff, has_after]
  · simp only [mem_tablesWithAny hm, has_after]

end UsageMap

namespace HashedUsage

theorem after_keeps (steps : List UsageStep) : (after steps).Keeps (.after steps) := by
  induction steps using List.reverseRecOn with
  | nil => exact .empty
  | append_singleton steps k ih =>
    rw [UsageMap.after_concat, after, List.foldl_append]
    exact run_keeps ih k

structure Represents (h : HashedUsage) (p : TableId → Usage → Prop) : Prop where
  get : ∀ t u, (h.get t).contains u = true ↔ p t u
  used : ∀ (t : TableId) (b : UsageByte), h.bytes[t]? = some b → b.isEmpty = false
  isEmpty : h.isEmpty = true ↔ ∀ t u, ¬ p t u
  tables : ∀ entries, entries.Perm h.bytes.toList → ∀ us : UsageSet,
    (tablesAmong entries us.byte).Pairwise (· < ·) ∧
    ∀ t, t ∈ tablesAmong entries us.byte ↔ ∃ u, us.contains u = true ∧ p t u

theorem Keeps.represents {h : HashedUsage} {m : UsageMap} (hk : h.Keeps m)
    {p : TableId → Usage → Prop} (hm : m.Represents p) : h.Represents p := by
  refine ⟨fun t u => ?_, fun t b => hk.used, ?_, fun entries he us => ?_⟩
  · rw [hk.get, UsageSet.byte_contains]
    exact hm.get t u
  · rw [hk.isEmpty]
    exact hm.isEmpty
  · rw [hk.tablesAmong he]
    exact ⟨hm.ascending us, hm.tables us⟩

end HashedUsage

/-- After any steps the map is the set of the pairs of a table and a usage whose mark stands. It is
the same with the usages of a table as bits and the tables in a hash map. -/
theorem UsageStep.marks_represented (steps : List UsageStep) :
    (UsageMap.after steps).Represents (Stands steps) ∧
    (HashedUsage.after steps).Represents (Stands steps) ∧
    ∀ steps',
      (UsageMap.after steps = UsageMap.after steps' ↔
        ∀ t u, Stands steps t u ↔ Stands steps' t u) ∧
      ((HashedUsage.after steps == HashedUsage.after steps') = true ↔
        ∀ t u, Stands steps t u ↔ Stands steps' t u) := by
  have hk := HashedUsage.after_keeps
  have hm := UsageMap.after_represents steps
  refine ⟨hm, (hk steps).represents hm, fun steps' => ?_⟩
  have heq := UsageMap.after_eq_iff steps steps'
  exact ⟨heq, ((hk steps).beq_iff (hk steps')).trans heq⟩

example : UsageMap.after [.mark 0 .select, .mark 1 .select, .mark 1 .sort, .unmarkAll .select] =
    ⟨[(1, .ofList [.sort])]⟩ := by decide

end Listing
