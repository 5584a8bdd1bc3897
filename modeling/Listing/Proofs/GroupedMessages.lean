import Mathlib.Data.List.Basic
import Mathlib.Data.List.Induction
import Mathlib.Data.List.Nodup
import Listing.Report
import Listing.Proofs.JsonText

namespace Listing

namespace Report

inductive Step where
  | push (key message : String)
  | entry (key : String) (messages : List String)
  | append (other : Report)

namespace Step

def run (r : Report) : Step → Report
  | push key message => r.push key message
  | entry key messages => ⟨r.entries ++ [⟨key, messages⟩]⟩
  | append other => r.append other

def entries : Step → List ReportEntry
  | push key message => [⟨key, [message]⟩]
  | entry key messages => [⟨key, messages⟩]
  | append other => other.entries

theorem run_entries (r : Report) (k : Step) : (k.run r).entries = r.entries ++ k.entries := by
  cases k <;> rfl

end Step

def build (steps : List Step) : Report := steps.foldl Step.run .empty

theorem build_entries (steps : List Step) : (build steps).entries = steps.flatMap Step.entries := by
  induction steps using List.reverseRecOn with
  | nil => rfl
  | append_singleton steps k ih =>
    rw [build, List.foldl_append, List.foldl_cons, List.foldl_nil, Step.run_entries]
    rw [build] at ih
    simp [ih]

structure ListsKeys (ks order : List String) : Prop where
  mem : ∀ k, k ∈ order ↔ k ∈ ks
  nodup : order.Nodup
  first : order.Pairwise fun j k => ks.idxOf j < ks.idxOf k

theorem firstSeen_concat (ks : List String) (k : String) :
    firstSeen (ks ++ [k]) = if k ∈ ks then firstSeen ks else firstSeen ks ++ [k] := by
  induction ks with
  | nil => rfl
  | cons j ks ih =>
    rw [List.cons_append, firstSeen, ih, firstSeen]
    by_cases hk : k ∈ ks
    · simp [hk]
    · by_cases hj : k = j
      · subst hj
        simp [hk]
      · simp [hk, hj]

theorem ListsKeys.concat {ks order : List String} (h : ListsKeys ks order) (k : String) :
    ListsKeys (ks ++ [k]) (if k ∈ ks then order else order ++ [k]) := by
  have hfirst : order.Pairwise fun i j => (ks ++ [k]).idxOf i < (ks ++ [k]).idxOf j := by
    apply h.first.imp_of_mem
    intro i j hi hj hlt
    rwa [List.idxOf_append_of_mem ((h.mem i).mp hi), List.idxOf_append_of_mem ((h.mem j).mp hj)]
  split_ifs with hk
  · refine ⟨fun j => ?_, h.nodup, hfirst⟩
    rw [h.mem, List.mem_append, List.mem_singleton]
    exact ⟨.inl, fun hj => hj.elim id fun he => he ▸ hk⟩
  · have hnew : k ∉ order := fun hmem => hk ((h.mem k).mp hmem)
    refine ⟨fun j => by simp [h.mem], ?_, ?_⟩
    · exact List.concat_eq_append ▸ h.nodup.concat hnew
    · rw [List.pairwise_append]
      refine ⟨hfirst, List.pairwise_singleton _ _, fun j hj i hi => ?_⟩
      rw [List.mem_singleton.mp hi, List.idxOf_append_of_mem ((h.mem j).mp hj),
        List.idxOf_append_of_notMem hk]
      have := List.idxOf_lt_length_of_mem ((h.mem j).mp hj)
      omega

theorem listsKeys_firstSeen (ks : List String) : ListsKeys ks (firstSeen ks) := by
  induction ks using List.reverseRecOn with
  | nil => exact ⟨fun _ => .rfl, .nil, .nil⟩
  | append_singleton ks k ih =>
    rw [firstSeen_concat]
    exact ih.concat k

end Report

def ReportEntry.pairs (e : ReportEntry) : List (String × String) :=
  e.messages.map fun m => (e.key, m)

theorem pairs_perm {order : List String} (hn : order.Nodup) {entries : List ReportEntry}
    (h : ∀ e ∈ entries, e.key ∈ order) :
    (order.flatMap fun k => (entries.filter fun e => e.key == k).flatMap ReportEntry.pairs).Perm
      (entries.flatMap ReportEntry.pairs) := by
  induction order generalizing entries with
  | nil =>
    have hnil : entries = [] := List.eq_nil_iff_forall_not_mem.mpr fun e he => by cases h e he
    rw [hnil]
    exact .nil
  | cons k order ih =>
    obtain ⟨hk, hn⟩ := List.nodup_cons.mp hn
    have hrest : ∀ e ∈ entries.filter fun e => !(e.key == k), e.key ∈ order := by
      intro e he
      obtain ⟨he, hne⟩ := List.mem_filter.mp he
      have hne : e.key ≠ k := by simpa using hne
      exact (List.mem_cons.mp (h e he)).resolve_left hne
    -- the entries under other keys are not touched by leaving out those under `k`
    have hsame : ∀ j ∈ order, (entries.filter fun e => e.key == j) =
        (entries.filter fun e => !(e.key == k)).filter fun e => e.key == j := by
      intro j hj
      rw [List.filter_filter]
      apply List.filter_congr
      intro e _
      by_cases he : e.key = j
      · have hne : j ≠ k := fun hjk => hk (hjk ▸ hj)
        simp [he, hne]
      · simp [he]
    rw [List.flatMap_cons, List.flatMap_congr fun j hj => congrArg _ (hsame j hj)]
    refine ((ih hn hrest).append_left _).trans ?_
    rw [← List.flatMap_append]
    exact (List.filter_append_perm (fun e : ReportEntry => e.key == k) entries).flatMap_right _

namespace Report

variable {r s : Report}

theorem pairs_messagesFor (r : Report) (k : String) : (r.messagesFor k).map (fun m => (k, m)) =
    (r.entries.filter fun e => e.key == k).flatMap ReportEntry.pairs := by
  rw [messagesFor, List.map_flatMap]
  apply List.flatMap_congr
  intro e he
  have hk : e.key = k := by simpa using (List.mem_filter.mp he).2
  rw [ReportEntry.pairs, hk]

theorem messagesFor_append (r s : Report) (k : String) :
    (r.append s).messagesFor k = r.messagesFor k ++ s.messagesFor k := by
  rw [messagesFor, append, List.filter_append, List.flatMap_append]
  rfl

theorem messagesFor_eq_nil {k : String} (h : k ∉ r.keys) : r.messagesFor k = [] := by
  have hnone : (r.entries.filter fun e => e.key == k) = [] := by
    rw [List.filter_eq_nil_iff]
    intro e he hk
    have hk : e.key = k := by simpa using hk
    apply h
    rw [keys, (listsKeys_firstSeen _).mem, ← hk]
    exact List.mem_map_of_mem he
  rw [messagesFor, hnone, List.flatMap_nil]

def fields (r : Report) : List (String × List String) := r.keys.map fun k => (k, r.messagesFor k)

def written (fields : List (String × List String)) : Json :=
  .object (fields.map fun f => (f.1, .array (f.2.map .string)))

theorem toJson_eq (r : Report) : r.toJson = written r.fields := by
  rw [toJson, written, fields, List.map_map]
  rfl

theorem written_isExact (fields : List (String × List String)) : (written fields).IsExact := by
  have htexts : ∀ ms : List String, Json.ItemsExact (ms.map .string) := by
    intro ms
    induction ms with
    | nil => trivial
    | cons m ms ih => exact ⟨trivial, ih⟩
  unfold written Json.IsExact
  induction fields with
  | nil => trivial
  | cons f fields ih => exact ⟨htexts f.2, ih⟩

theorem written_injective {fields fields' : List (String × List String)}
    (h : written fields = written fields') : fields = fields' := by
  have hinj : Function.Injective fun f : String × List String =>
      (f.1, Json.array (f.2.map Json.string)) := by
    intro f f' heq
    simp only [Prod.mk.injEq, Json.array.injEq] at heq
    have hmessages := List.map_injective_iff.mpr (fun a b hab => Json.string.inj hab) heq.2
    exact Prod.ext heq.1 hmessages
  exact List.map_injective_iff.mpr hinj (Json.object.inj h)

theorem fields_eq_iff : r.fields = s.fields ↔
    r.keys = s.keys ∧ ∀ k, r.messagesFor k = s.messagesFor k := by
  constructor
  · intro h
    have hkeys : r.keys = s.keys := by
      have hfst := congrArg (List.map Prod.fst) h
      rw [fields, fields, List.map_map, List.map_map] at hfst
      simpa [Function.comp_def] using hfst
    refine ⟨hkeys, fun k => ?_⟩
    by_cases hk : k ∈ r.keys
    · rw [fields, fields, ← hkeys, List.map_inj_left] at h
      exact congrArg Prod.snd (h k hk)
    · rw [messagesFor_eq_nil hk, messagesFor_eq_nil (hkeys ▸ hk)]
  · rintro ⟨hkeys, hmessages⟩
    rw [fields, fields, hkeys, funext hmessages]

theorem text_toJson_eq_iff : r.toJson.text = s.toJson.text ↔ r.fields = s.fields := by
  rw [toJson_eq, toJson_eq]
  constructor
  · intro h
    exact written_injective (Json.text_injective (written_isExact _) (written_isExact _) h)
  · intro h
    rw [h]

structure Groups (entries : List ReportEntry) (fields : List (String × List String)) : Prop where
  keys : ListsKeys (entries.map (·.key)) (fields.map (·.1))
  messages : ∀ f ∈ fields, f.2 = (entries.filter fun e => e.key == f.1).flatMap (·.messages)
  pairs : (fields.flatMap fun f => f.2.map fun m => (f.1, m)).Perm
    (entries.flatMap fun e => e.messages.map fun m => (e.key, m))

theorem groups_fields (r : Report) : Groups r.entries r.fields := by
  have hkeys := listsKeys_firstSeen (r.entries.map (·.key))
  refine ⟨?_, ?_, ?_⟩
  · rw [fields, List.map_map]
    exact (List.map_id r.keys).symm ▸ hkeys
  · intro f hf
    obtain ⟨k, -, rfl⟩ := List.mem_map.mp hf
    rfl
  · rw [fields, List.flatMap_map]
    simp only [pairs_messagesFor]
    apply pairs_perm hkeys.nodup
    intro e he
    exact (hkeys.mem _).mpr (List.mem_map_of_mem he)

theorem written_grouped (steps : List Step) :
    (∃ fields, (build steps).toJson = written fields ∧ Groups (steps.flatMap Step.entries) fields) ∧
    (∀ k, (build steps).messagesFor k =
      ((steps.flatMap Step.entries).filter fun e => e.key == k).flatMap (·.messages)) ∧
    (∀ (s : Report) (k : String), ((build steps).append s).messagesFor k =
      (build steps).messagesFor k ++ s.messagesFor k) ∧
    ∀ steps', (build steps).toJson.text = (build steps').toJson.text ↔
      (build steps).keys = (build steps').keys ∧
      ∀ k, (build steps).messagesFor k = (build steps').messagesFor k := by
  refine ⟨⟨_, toJson_eq _, ?_⟩, fun k => ?_, messagesFor_append _, fun steps' => ?_⟩
  · rw [← build_entries]
    exact groups_fields _
  · rw [messagesFor, build_entries]
  · rw [text_toJson_eq_iff, fields_eq_iff]

end Report
end Listing
