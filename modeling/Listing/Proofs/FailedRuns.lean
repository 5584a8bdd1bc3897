import Listing.Proofs.LatestCalls
import Listing.Proofs.PagerRuns

namespace Listing.Session

variable {Id Model : Type} {s s' s₀ : Session Id Model} {x : Executor Id}
  {encode : Id → Except String Json} {model : Decoder Model} {idField : FieldId}
  {fields : List FieldId} {run : PagerRun Id Model}

structure KeptBy (s s' : Session Id Model) : Prop where
  catalog : s'.catalog = s.catalog
  request : s'.request = s.request
  isProcessed : s'.isProcessed = s.isProcessed
  predicates : s'.draft.predicates = s.draft.predicates
  order : s'.order = s.order
  arguments : s'.draft.arguments = s.draft.arguments
  tags : ∀ t u, u ≠ .select → (s'.draft.usage.Has t u ↔ s.draft.usage.Has t u)
  result : s'.result = s.result

inductive FailedRuns (s : Session Id Model) : Session Id Model → Prop
  | none : FailedRuns s s
  | next {s' : Session Id Model} {x : Executor Id} {encode : Id → Except String Json}
      {model : Decoder Model} {idField : FieldId} {fields : List FieldId} {e : PagerError} :
      FailedRuns s s' →
      (s'.paginate x encode model idField fields).outcome = .error e →
      FailedRuns s (s'.paginate x encode model idField fields).session

theorem keptBy_select (h : s.draft.usage.Ordered) (fields : List FieldId) :
    s.KeptBy (s.select fields) := by
  obtain ⟨-, htags⟩ := UsageMap.foldl_mark (h.unmarkAll .select) Column.table .select
    (chosen s.catalog fields)
  rw [select_chosen]
  refine ⟨rfl, rfl, rfl, rfl, rfl, rfl, fun t u hu => ?_, rfl⟩
  rw [htags, UsageMap.has_unmarkAll h]
  simp [hu]

theorem paginate_select (h : s.draft.usage.Ordered) (earlier : List FieldId) (x : Executor Id)
    (encode : Id → Except String Json) (model : Decoder Model) (idField : FieldId)
    (fields : List FieldId) :
    (s.select earlier).paginate x encode model idField fields =
      s.paginate x encode model idField fields := by
  simp only [paginate, select_select h]

theorem Course.failed (hrun : Course s x encode model idField fields run)
    (h : s.draft.usage.Ordered) {e : PagerError} (he : run.outcome = .error e) :
    run.session = s.select [idField] ∨ run.session = s.select fields := by
  cases hrun with
  | refused | idsLost => exact .inl rfl
  | rowsRefused | rowsLost => exact .inr (select_select h [idField] fields)
  | outOfRange | answered => cases he

theorem FailedRuns.selected (hruns : FailedRuns s s') (h : s.draft.usage.Ordered) :
    s' = s ∨ ∃ earlier, s' = s.select earlier := by
  induction hruns with
  | none => exact .inl rfl
  | @next s' x encode model idField fields e _ he ih =>
    -- each run is one of `s` itself, so no selection piles up on another
    have hsame : s'.paginate x encode model idField fields =
        s.paginate x encode model idField fields := by
      rcases ih with rfl | ⟨earlier, rfl⟩
      · rfl
      · exact paginate_select h earlier x encode model idField fields
    rw [hsame] at he ⊢
    rcases (paginate_course s x encode model idField fields).failed h he with hids | hrows
    · exact .inr ⟨[idField], hids⟩
    · exact .inr ⟨fields, hrows⟩

theorem FailedRuns.kept (hruns : FailedRuns s s') (h : s.draft.usage.Ordered) :
    s.KeptBy s' ∧ ∀ x encode model idField fields, s'.paginate x encode model idField fields =
      s.paginate x encode model idField fields := by
  rcases hruns.selected h with rfl | ⟨earlier, rfl⟩
  · exact ⟨⟨rfl, rfl, rfl, rfl, rfl, rfl, fun _ _ _ => .rfl, rfl⟩, fun _ _ _ _ _ => rfl⟩
  · exact ⟨keptBy_select h earlier, paginate_select h earlier⟩

theorem Made.ordered_runCalls (h : s₀.Made) (calls : List (Call Id Model)) :
    (s₀.runCalls calls).draft.usage.Ordered := by
  rw [← play_trace]
  exact play_ordered h.ordered _

/-- A run that fails, for whatever reason and after whatever calls, has only selected fields: the
rest of the session is as it was, and later runs go as if that one had not been. -/
theorem failed_run_keeps_request (h : s₀.Made) (calls : List (Call Id Model)) {e : PagerError}
    (he : ((s₀.runCalls calls).paginate x encode model idField fields).outcome = .error e) :
    let s := s₀.runCalls calls
    let s' := (s.paginate x encode model idField fields).session
    (s' = s.select [idField] ∨ s' = s.select fields) ∧ s.KeptBy s' ∧
      ∀ x' encode' model' idField' fields', s'.paginate x' encode' model' idField' fields' =
        s.paginate x' encode' model' idField' fields' := by
  intro s s'
  have hordered : s.draft.usage.Ordered := h.ordered_runCalls calls
  have hruns : FailedRuns s s' := .next .none he
  exact ⟨(paginate_course s x encode model idField fields).failed hordered he,
    hruns.kept hordered⟩

def shopCalls : List (Call Json String) := [
  .change (.request { limit := 2, page := 1 }),
  .change (.result [.nat 2] ["lamp"]),
  .change (.select [3])]

def calledShop : Session Json String := (ofCatalog Catalog.shopCatalog).runCalls shopCalls

theorem failed_run_keeps_request_shop :
    (ofCatalog Catalog.shopCatalog : Session Json String).Made ∧
    (calledShop.paginate lostShop .ok .string 0 [0, 1]).outcome =
      .error (.executor (.database .poolTimedOut)) ∧
    (calledShop.paginate lostShop .ok .string 0 [0, 1]).session.result = some ⟨[.nat 2], ["lamp"]⟩ ∧
    ∃ response, ((calledShop.paginate lostShop .ok .string 0 [0, 1]).session.paginate openShop .ok
      .string 0 [0, 1]).outcome = .ok response ∧ response.ids = [.nat 7, .nat 8, .nat 9] := by
  have hmade : (ofCatalog Catalog.shopCatalog : Session Json String).Made :=
    .ofCatalog Catalog.build_shop
  have he : (calledShop.paginate lostShop .ok .string 0 [0, 1]).outcome =
      .error (.executor (.database .poolTimedOut)) := rfl
  obtain ⟨-, hkept, hlater⟩ := failed_run_keeps_request hmade shopCalls he
  refine ⟨hmade, he, hkept.result, ?_⟩
  have hretry := hlater openShop .ok .string 0 [0, 1]
  rw [calledShop, hretry]
  exact ⟨_, rfl, rfl⟩

end Listing.Session
