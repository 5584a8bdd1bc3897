import Listing.Proofs.SessionStates
import Mathlib.Data.List.DropRight

namespace Listing.Session

variable {Id Model : Type} {s s₀ : Session Id Model}

inductive Step (Id Model : Type) where
  | request (r : Request)
  | select (fields : List FieldId)
  | result (ids : List Id) (rows : List Model)

namespace Step

def run (s : Session Id Model) : Step Id Model → Session Id Model
  | request r => (s.setRequest r).1
  | select fields => s.select fields
  | result ids rows => s.setResult ids rows

def request? : Step Id Model → Option Request
  | request r => some r
  | select _ | result _ _ => none

def selection? : Step Id Model → Option (List FieldId)
  | select fields => some fields
  | request _ | result _ _ => none

def result? : Step Id Model → Option (ResultSet Id Model)
  | result ids rows => some ⟨ids, rows⟩
  | request _ | select _ => none

end Step

def play (s : Session Id Model) (steps : List (Step Id Model)) : Session Id Model :=
  steps.foldl Step.run s

def sinceRequest (steps : List (Step Id Model)) : List (Step Id Model) :=
  steps.rtakeWhile fun k => k.request?.isNone

structure Latest (Id Model : Type) where
  request : Option Request
  selection : Option (List FieldId)
  result : Option (ResultSet Id Model)

def latest (steps : List (Step Id Model)) : Latest Id Model where
  request := (steps.filterMap Step.request?).getLast?
  selection := ((sinceRequest steps).filterMap Step.selection?).getLast?
  result := ((sinceRequest steps).filterMap Step.result?).getLast?

def Latest.steps (k : Latest Id Model) : List (Step Id Model) :=
  k.request.toList.map .request ++ k.selection.toList.map .select ++
    k.result.toList.map fun r => .result r.ids r.rows

theorem latest_request (steps : List (Step Id Model)) (r : Request) :
    latest (steps ++ [.request r]) = ⟨some r, none, none⟩ := by
  have hsince : sinceRequest (steps ++ [.request r]) = [] :=
    List.rtakeWhile_concat_neg _ _ _ (by simp [Step.request?])
  simp [latest, hsince, Step.request?]

theorem latest_select (steps : List (Step Id Model)) (fields : List FieldId) :
    latest (steps ++ [.select fields]) = { latest steps with selection := some fields } := by
  have hsince : sinceRequest (steps ++ [.select fields]) = sinceRequest steps ++ [.select fields] :=
    List.rtakeWhile_concat_pos _ _ _ rfl
  simp [latest, hsince, Step.request?, Step.selection?, Step.result?]

theorem latest_result (steps : List (Step Id Model)) (ids : List Id) (rows : List Model) :
    latest (steps ++ [.result ids rows]) = { latest steps with result := some ⟨ids, rows⟩ } := by
  have hsince : sinceRequest (steps ++ [.result ids rows]) =
      sinceRequest steps ++ [.result ids rows] := List.rtakeWhile_concat_pos _ _ _ rfl
  simp [latest, hsince, Step.request?, Step.selection?, Step.result?]

theorem select_catalog (s : Session Id Model) (fields : List FieldId) :
    (s.select fields).catalog = s.catalog := by
  rw [select_chosen]

theorem setRequest_catalog (s : Session Id Model) (r : Request) :
    (s.setRequest r).1.catalog = s.catalog := by
  rw [setRequest]
  split <;> simp [*]

theorem setRequest_congr (h : s.catalog = s₀.catalog) (r : Request) :
    s.setRequest r = s₀.setRequest r := by
  simp only [setRequest, h]

theorem select_select (h : s.draft.usage.Ordered) (fields fields' : List FieldId) :
    (s.select fields).select fields' = s.select fields' := by
  rw [select_chosen, select_chosen, select_chosen,
    UsageMap.unmarkAll_foldl_mark h Column.table .select]

theorem select_setResult (s : Session Id Model) (fields : List FieldId) (ids : List Id)
    (rows : List Model) :
    (s.setResult ids rows).select fields = (s.select fields).setResult ids rows := by
  rw [select_chosen, select_chosen]
  rfl

theorem Step.run_catalog (s : Session Id Model) (k : Step Id Model) :
    (k.run s).catalog = s.catalog := by
  cases k with
  | request r => exact setRequest_catalog s r
  | select fields => exact select_catalog s fields
  | result ids rows => rfl

theorem Step.run_ordered (h : s.draft.usage.Ordered) (k : Step Id Model) :
    (k.run s).draft.usage.Ordered := by
  cases k with
  | request r =>
    rw [run, setRequest]
    split
    · exact .empty
    · exact (Catalog.compile_tags _ r).1
  | select fields =>
    rw [run, select_chosen]
    exact (UsageMap.foldl_mark (h.unmarkAll .select) Column.table .select _).1
  | result ids rows => exact h

theorem play_append (s : Session Id Model) (steps steps' : List (Step Id Model)) :
    s.play (steps ++ steps') = (s.play steps).play steps' := List.foldl_append

theorem play_catalog (s : Session Id Model) (steps : List (Step Id Model)) :
    (s.play steps).catalog = s.catalog := by
  induction steps using List.reverseRecOn with
  | nil => rfl
  | append_singleton steps k ih =>
    rw [play_append]
    exact (k.run_catalog _).trans ih

theorem play_ordered (h : s.draft.usage.Ordered) (steps : List (Step Id Model)) :
    (s.play steps).draft.usage.Ordered := by
  induction steps using List.reverseRecOn with
  | nil => exact h
  | append_singleton steps k ih =>
    rw [play_append]
    exact Step.run_ordered ih k

theorem play_select (h : s.draft.usage.Ordered) (k : Latest Id Model) (fields : List FieldId) :
    (s.play k.steps).select fields = s.play { k with selection := some fields }.steps := by
  obtain ⟨request, selection, result⟩ := k
  have hordered := play_ordered h (request.toList.map .request)
  simp only [Latest.steps, play_append]
  -- from here on only the session that the request has left matters
  generalize s.play (request.toList.map .request) = s₁ at hordered ⊢
  cases selection with
  | none =>
    cases result with
    | none => rfl
    | some r => exact select_setResult s₁ fields r.ids r.rows
  | some earlier =>
    have hselect := select_select hordered earlier fields
    cases result with
    | none => exact hselect
    | some r =>
      calc ((s₁.select earlier).setResult r.ids r.rows).select fields
          = ((s₁.select earlier).select fields).setResult r.ids r.rows :=
            select_setResult _ fields r.ids r.rows
        _ = (s₁.select fields).setResult r.ids r.rows := by rw [hselect]

theorem play_setResult (s : Session Id Model) (k : Latest Id Model) (ids : List Id)
    (rows : List Model) :
    (s.play k.steps).setResult ids rows = s.play { k with result := some ⟨ids, rows⟩ }.steps := by
  simp only [Latest.steps, play_append]
  cases k.result <;> rfl

theorem play_latest (h : s.draft.usage.Ordered) (steps : List (Step Id Model)) :
    s.play steps = s.play (latest steps).steps := by
  induction steps using List.reverseRecOn with
  | nil => rfl
  | append_singleton steps k ih =>
    rw [play_append, ih]
    cases k with
    | request r =>
      -- a request reads nothing of the session but its catalog, and that never changes
      rw [latest_request]
      exact congrArg (·.1) (setRequest_congr (play_catalog s _) r)
    | select fields =>
      rw [latest_select]
      exact play_select h (latest steps) fields
    | result ids rows =>
      rw [latest_result]
      exact play_setResult s (latest steps) ids rows

end Listing.Session
