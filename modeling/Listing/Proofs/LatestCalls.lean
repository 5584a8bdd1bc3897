import Listing.Proofs.QueryScope
import Listing.Proofs.SessionSteps

namespace Listing.Session

variable {Id Model : Type} {c : Catalog} {s s₀ : Session Id Model}

def fetchSteps (s : Session Id Model) (x : Executor Id) (encode : Id → Except String Json)
    (model : Decoder Model) (idField : FieldId) (ids page : List Id) : List (Step Id Model) :=
  match s.rowQuery encode idField page with
  | .error _ => []
  | .ok second => match (x.fetchRows second).bind (decodeAll model) with
    | .error _ => []
    | .ok rows => [.result ids rows]

def pageSteps (s : Session Id Model) (x : Executor Id) (encode : Id → Except String Json)
    (model : Decoder Model) (idField : FieldId) (fields : List FieldId) : List (Step Id Model) :=
  let s := s.select [idField]
  .select [idField] :: match s.idQuery with
    | .error _ => []
    | .ok first => match x.fetchIds first with
      | .error _ => []
      | .ok ids => match s.page ids with
        | .error _ => [.result ids []]
        | .ok page =>
          .select fields :: (s.select fields).fetchSteps x encode model idField ids page

theorem play_fetchSteps (s : Session Id Model) (x : Executor Id) (encode : Id → Except String Json)
    (model : Decoder Model) (idField : FieldId) (first : Query) (ids page : List Id) :
    s.play (s.fetchSteps x encode model idField ids page) =
      (s.fetchPage x encode model idField first ids page).session := by
  rw [fetchSteps, fetchPage]
  cases s.rowQuery encode idField page with
  | error e => rfl
  | ok second =>
    dsimp only
    cases (x.fetchRows second).bind (decodeAll model) with
    | error e => rfl
    | ok rows => rfl

theorem play_pageSteps (s : Session Id Model) (x : Executor Id) (encode : Id → Except String Json)
    (model : Decoder Model) (idField : FieldId) (fields : List FieldId) :
    s.play (s.pageSteps x encode model idField fields) =
      (s.paginate x encode model idField fields).session := by
  simp only [pageSteps, paginate]
  cases (s.select [idField]).idQuery with
  | error e => rfl
  | ok first =>
    dsimp only
    cases x.fetchIds first with
    | error e => rfl
    | ok ids =>
      dsimp only
      cases (s.select [idField]).page ids with
      | error e => rfl
      | ok page =>
        exact play_fetchSteps ((s.select [idField]).select fields) x encode model idField first ids
          page

inductive Call (Id Model : Type) where
  | change (k : Step Id Model)
  | idQuery
  | rowQuery (encode : Id → Except String Json) (idField : FieldId) (ids : List Id)
  | paginate (x : Executor Id) (encode : Id → Except String Json) (model : Decoder Model)
      (idField : FieldId) (fields : List FieldId)

namespace Call

def run (s : Session Id Model) : Call Id Model → Session Id Model
  | change k => k.run s
  | idQuery | rowQuery _ _ _ => s
  | paginate x encode model idField fields => (s.paginate x encode model idField fields).session

def steps (s : Session Id Model) : Call Id Model → List (Step Id Model)
  | change k => [k]
  | idQuery | rowQuery _ _ _ => []
  | paginate x encode model idField fields => s.pageSteps x encode model idField fields

theorem play_steps (s : Session Id Model) (k : Call Id Model) :
    s.play (k.steps s) = k.run s := by
  cases k with
  | change k => rfl
  | idQuery => rfl
  | rowQuery encode idField ids => rfl
  | paginate x encode model idField fields => exact play_pageSteps s x encode model idField fields

end Call

def runCalls (s : Session Id Model) (calls : List (Call Id Model)) : Session Id Model :=
  calls.foldl Call.run s

def trace : Session Id Model → List (Call Id Model) → List (Step Id Model)
  | _, [] => []
  | s, k :: calls => k.steps s ++ trace (k.run s) calls

theorem play_trace (s : Session Id Model) (calls : List (Call Id Model)) :
    s.play (s.trace calls) = s.runCalls calls := by
  induction calls generalizing s with
  | nil => rfl
  | cons k calls ih =>
    rw [trace, play_append, k.play_steps]
    exact ih (k.run s)

def Accepted (s₀ : Session Id Model) (steps : List (Step Id Model)) : Prop :=
  ∃ before r after, steps = before ++ .request r :: after ∧
    (∀ k ∈ after, k.request? = none) ∧ ((s₀.play before).setRequest r).2 = .ok ()

def NamesField (c : Catalog) (steps : List (Step Id Model)) : Prop :=
  ∃ fields, (latest steps).selection = some fields ∧ ∃ i ∈ fields, (c.column? i).isSome = true

theorem setRequest_isProcessed (s : Session Id Model) (r : Request) :
    (s.setRequest r).1.isProcessed = true ↔ (s.setRequest r).2 = .ok () := by
  rw [setRequest]
  split
  · simp
  · rename_i c hcatalog
    by_cases hr : (c.compile r).refusals.isEmpty = true <;> simp [hr]

theorem setRequest_selection (s : Session Id Model) (r : Request) :
    (s.setRequest r).1.selection = [] := by
  rw [setRequest]
  split <;> rfl

theorem exists_latest_request (steps : List (Step Id Model)) :
    (∀ k ∈ steps, k.request? = none) ∨ ∃ before r after,
      steps = before ++ .request r :: after ∧ ∀ k ∈ after, k.request? = none := by
  induction steps using List.reverseRecOn with
  | nil => exact .inl nofun
  | append_singleton steps k ih =>
    cases hk : k.request? with
    | some r =>
      cases k with
      | request r => exact .inr ⟨steps, r, [], rfl, nofun⟩
      | select _ => cases hk
      | result _ _ => cases hk
    | none =>
      have hlast : ∀ after : List (Step Id Model), (∀ k ∈ after, k.request? = none) →
          ∀ k' ∈ after ++ [k], k'.request? = none := by
        intro after hafter k' hk'
        rcases List.mem_append.mp hk' with hk' | hk'
        · exact hafter k' hk'
        · rwa [List.mem_singleton.mp hk']
      rcases ih with hnone | ⟨before, r, after, rfl, hafter⟩
      · exact .inl (hlast steps hnone)
      · exact .inr ⟨before, r, after ++ [k], by simp, hlast after hafter⟩

theorem play_isProcessed (s : Session Id Model) {steps : List (Step Id Model)}
    (h : ∀ k ∈ steps, k.request? = none) : (s.play steps).isProcessed = s.isProcessed := by
  induction steps generalizing s with
  | nil => rfl
  | cons k steps ih =>
    have hrest := ih (k.run s) fun k' hk' => h k' (List.mem_cons_of_mem k hk')
    have hstep : (k.run s).isProcessed = s.isProcessed := by
      cases k with
      | request r => cases h (.request r) List.mem_cons_self
      | select fields => rw [Step.run, select_chosen]
      | result ids rows => rfl
    exact hrest.trans hstep

theorem isProcessed_iff_accepted (h : s₀.isProcessed = false) (steps : List (Step Id Model)) :
    (s₀.play steps).isProcessed = true ↔ Accepted s₀ steps := by
  have hlatest : ∀ before r {after : List (Step Id Model)}, (∀ k ∈ after, k.request? = none) →
      ((s₀.play (before ++ .request r :: after)).isProcessed = true ↔
        ((s₀.play before).setRequest r).2 = .ok ()) := by
    intro before r after hafter
    have hquiet := play_isProcessed ((s₀.play before).setRequest r).1 hafter
    rw [← setRequest_isProcessed, ← hquiet, play_append]
    rfl
  constructor
  · intro hp
    rcases exists_latest_request steps with hnone | ⟨before, r, after, rfl, hafter⟩
    · rw [play_isProcessed s₀ hnone, h] at hp
      cases hp
    · exact ⟨before, r, after, rfl, hafter, (hlatest before r hafter).mp hp⟩
  · rintro ⟨before, r, after, rfl, hafter, hok⟩
    exact (hlatest before r hafter).mpr hok

theorem play_latest_selection (h : s₀.selection = []) (k : Latest Id Model) :
    (s₀.play k.steps).selection = k.selection.elim [] (chosen s₀.catalog) := by
  obtain ⟨request, selection, result⟩ := k
  have hcatalog := play_catalog s₀ (request.toList.map .request)
  have hblank : (s₀.play (request.toList.map .request)).selection = [] := by
    cases request with
    | none => exact h
    | some r => exact setRequest_selection s₀ r
  simp only [Latest.steps, play_append]
  generalize s₀.play (request.toList.map .request) = s₁ at hcatalog hblank ⊢
  have hselected : (s₁.play (selection.toList.map .select)).selection =
      selection.elim [] (chosen s₀.catalog) := by
    cases selection with
    | none => exact hblank
    | some fields =>
      rw [← hcatalog]
      exact congrArg selection (select_chosen s₁ fields)
  cases result with
  | none => exact hselected
  | some r => exact hselected

theorem selection_ne_nil_iff (h : s₀.selection = []) (ho : s₀.draft.usage.Ordered)
    (hcatalog : s₀.catalog = some c) (steps : List (Step Id Model)) :
    (s₀.play steps).selection ≠ [] ↔ NamesField c steps := by
  rw [play_latest ho, play_latest_selection h, hcatalog, NamesField]
  cases (latest steps).selection with
  | none => simp
  | some fields => simp [chosen, Option.isSome_iff_ne_none]

theorem ready_eq (hc : c.WellFormed) (h : s.catalog = some c) : ∃ root, s.ready =
    if s.isProcessed = false then .error .notProcessed
    else if s.selection = [] then .error .emptySelection
    else .ok (c, root) := by
  obtain ⟨root, hroot⟩ := Catalog.table?_of_lt hc.root_lt
  exact ⟨root, by simp [ready, h, hroot]⟩

theorem idQuery_error_iff {e : SessionError} : s.idQuery = .error e ↔ s.ready = .error e := by
  rw [idQuery]
  cases s.ready <;> simp [bind, Except.bind]

theorem exists_idQuery_iff : (∃ q, s.idQuery = .ok q) ↔ ∃ x, s.ready = .ok x := by
  rw [idQuery]
  cases s.ready <;> simp [bind, Except.bind]

theorem exists_rowQuery_iff {encode : Id → Except String Json} {idField : FieldId}
    {ids : List Id} : (∃ q, s.rowQuery encode idField ids = .ok q) ↔
      ∃ x, s.ready = .ok x ∧ (x.1.column? idField).isSome = true ∧
        ∃ values, ids.mapM encode = .ok values := by
  simp only [rowQuery_ok_iff, Option.isSome_iff_exists]
  constructor
  · rintro ⟨_, c, root, f, values, hready, hf, hids, rfl⟩
    exact ⟨(c, root), hready, ⟨f, hf⟩, values, hids⟩
  · rintro ⟨⟨c, root⟩, hready, ⟨f, hf⟩, values, hids⟩
    exact ⟨_, c, root, f, values, hready, hf, hids, rfl⟩

inductive Made : Session Id Model → Prop
  | ofCatalog {x : Table} {c : Catalog} (h : Catalog.build x = .ok c) : Made (ofCatalog c)
  | passthrough (r : Request) : Made (passthrough r)

structure Outcomes (s₀ : Session Id Model) (steps : List (Step Id Model)) (s : Session Id Model) :
    Prop where
  idQuery : (∃ q, s.idQuery = .ok q) ↔
    ∃ c, s₀.catalog = some c ∧ Accepted s₀ steps ∧ NamesField c steps
  noCatalog : s.idQuery = .error .noCatalog ↔ s₀.catalog = none
  notProcessed : s.idQuery = .error .notProcessed ↔ s₀.catalog.isSome = true ∧ ¬ Accepted s₀ steps
  emptySelection : s.idQuery = .error .emptySelection ↔
    ∃ c, s₀.catalog = some c ∧ Accepted s₀ steps ∧ ¬ NamesField c steps
  rowQuery : ∀ (encode : Id → Except String Json) (idField : FieldId) (ids : List Id),
    (∃ q, s.rowQuery encode idField ids = .ok q) ↔ ∃ c, s₀.catalog = some c ∧ Accepted s₀ steps ∧
      NamesField c steps ∧ (c.column? idField).isSome = true ∧
        ∃ values, ids.mapM encode = .ok values
  rowRefused : ∀ (encode : Id → Except String Json) (idField : FieldId) (ids : List Id)
    (e : SessionError), s.rowQuery encode idField ids = .error e ↔ s.idQuery = .error e ∨
      ∃ c, s₀.catalog = some c ∧ Accepted s₀ steps ∧ NamesField c steps ∧
        ((c.column? idField = none ∧ e = .unknownIdField idField) ∨
          (c.column? idField).isSome = true ∧
            ∃ reason, ids.mapM encode = .error reason ∧ e = .unwritableId reason)

theorem outcomes_of_none (h₀ : s₀.catalog = none) (h : s.catalog = none)
    (steps : List (Step Id Model)) : Outcomes s₀ steps s := by
  have hready : s.ready = .error .noCatalog := by simp [ready, h]
  constructor <;> simp [exists_idQuery_iff, idQuery_error_iff, exists_rowQuery_iff,
    rowQuery_error_iff, hready, h₀]

theorem outcomes_of_some (hc : c.WellFormed) (h₀ : s₀.catalog = some c) (h : s.catalog = some c)
    {steps : List (Step Id Model)} (hp : s.isProcessed = true ↔ Accepted s₀ steps)
    (hs : s.selection ≠ [] ↔ NamesField c steps) : Outcomes s₀ steps s := by
  obtain ⟨root, hready⟩ := ready_eq hc h
  by_cases haccepted : Accepted s₀ steps
  · have hprocessed : ¬ s.isProcessed = false := by simp [hp.mpr haccepted]
    rw [if_neg hprocessed] at hready
    by_cases hnames : NamesField c steps
    · rw [if_neg (hs.mpr hnames)] at hready
      constructor <;> simp [exists_idQuery_iff, idQuery_error_iff, exists_rowQuery_iff,
        rowQuery_error_iff, hready, h₀, haccepted, hnames]
    · rw [if_pos (not_not.mp (mt hs.mp hnames))] at hready
      constructor <;> simp [exists_idQuery_iff, idQuery_error_iff, exists_rowQuery_iff,
        rowQuery_error_iff, hready, h₀, haccepted, hnames]
  · rw [if_pos (Bool.eq_false_iff.mpr (mt hp.mp haccepted))] at hready
    constructor <;> simp [exists_idQuery_iff, idQuery_error_iff, exists_rowQuery_iff,
      rowQuery_error_iff, hready, h₀, haccepted]

theorem Made.ordered (h : s₀.Made) : s₀.draft.usage.Ordered := by
  cases h <;> exact .empty

theorem Made.outcomes (h : s₀.Made) (steps : List (Step Id Model)) :
    Outcomes s₀ steps (s₀.play steps) := by
  have hcatalog := play_catalog s₀ steps
  cases h with
  | ofCatalog hbuild =>
    exact outcomes_of_some (Catalog.build_wellFormed hbuild) rfl hcatalog
      (isProcessed_iff_accepted rfl steps) (selection_ne_nil_iff rfl .empty rfl steps)
  | passthrough r => exact outcomes_of_none rfl hcatalog steps

/-- Whatever calls a session went through, it is as if there had been only the latest request, the
latest selection since then and the latest result since then, and these decide what it answers. -/
theorem latest_calls (h : s₀.Made) (calls : List (Call Id Model)) :
    s₀.runCalls calls = s₀.play (latest (s₀.trace calls)).steps ∧
    Outcomes s₀ (s₀.trace calls) (s₀.runCalls calls) := by
  rw [← play_trace]
  exact ⟨play_latest h.ordered _, h.outcomes _⟩

def lostShop : Executor Json where
  fetchIds _ := .ok [.nat 7]
  fetchRows _ := .error (.database .poolTimedOut)

def lampCalls : List (Call Json String) := [
  .change (.result [.nat 1] ["chair"]),
  .change (.request lampRequest),
  .change (.result [.nat 2] ["lamp"]),
  .change (.select [3]),
  .paginate lostShop .ok .string 0 [0, 6]]

def lampSteps : List (Step Json String) := [
  .result [.nat 1] ["chair"], .request lampRequest, .result [.nat 2] ["lamp"], .select [3],
  .select [0], .select [0, 6]]

theorem latest_calls_shop : (ofCatalog Catalog.shopCatalog : Session Json String).Made ∧
    (ofCatalog Catalog.shopCatalog).runCalls lampCalls =
      (((ofCatalog Catalog.shopCatalog).setRequest lampRequest).1.select [0, 6]).setResult [.nat 2]
        ["lamp"] ∧
    (∃ q, ((ofCatalog Catalog.shopCatalog).runCalls lampCalls).idQuery = .ok q) ∧
    ((ofCatalog Catalog.shopCatalog).runCalls lampCalls).rowQuery writeText 0
      [.string "7", .nat 7, .null] = .error (.unwritableId "key must be a string") := by
  have hmade : (ofCatalog Catalog.shopCatalog : Session Json String).Made :=
    .ofCatalog Catalog.build_shop
  have htrace : (ofCatalog Catalog.shopCatalog).trace lampCalls = lampSteps := by rfl
  obtain ⟨hstate, houtcomes⟩ := latest_calls hmade lampCalls
  rw [htrace] at hstate houtcomes
  have haccepted : Accepted (ofCatalog Catalog.shopCatalog) lampSteps :=
    ⟨[.result [.nat 1] ["chair"]], lampRequest, _, rfl, by simp [Step.request?], by rfl⟩
  have hnames : NamesField Catalog.shopCatalog lampSteps := ⟨[0, 6], rfl, 0, by simp, by decide⟩
  refine ⟨hmade, hstate, houtcomes.idQuery.mpr ⟨_, rfl, haccepted, hnames⟩, ?_⟩
  apply (houtcomes.rowRefused _ _ _ _).mpr
  exact .inr ⟨_, rfl, haccepted, hnames, .inr ⟨by decide, _, rfl, rfl⟩⟩

end Listing.Session
