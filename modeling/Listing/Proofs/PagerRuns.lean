import Listing.Proofs.PageSlices

namespace Listing

theorem length_decodeAll {α : Type} {d : Decoder α} {vs : List Json} {xs : List α}
    (h : decodeAll d vs = .ok xs) : xs.length = vs.length :=
  (mapM_eq_ok.mp h).length_eq.symm

namespace Session

variable {Id Model : Type} {s : Session Id Model} {x : Executor Id}
  {encode : Id → Except String Json} {model : Decoder Model} {idField : FieldId}
  {fields : List FieldId} {ids : List Id} {run : PagerRun Id Model}

theorem select_request (s : Session Id Model) (fields : List FieldId) :
    (s.select fields).request = s.request := by
  rw [select_chosen]

@[simp] theorem limit_select (s : Session Id Model) (fields : List FieldId) :
    (s.select fields).limit = s.limit := by
  rw [limit, select_request, limit]

@[simp] theorem pageNumber_select (s : Session Id Model) (fields : List FieldId) :
    (s.select fields).pageNumber = s.pageNumber := by
  rw [pageNumber, select_request, pageNumber]

theorem page_select (s : Session Id Model) (fields : List FieldId) (ids : List Id) :
    (s.select fields).page ids = s.page ids := by
  rw [page, page, select_request]

def forRows (s : Session Id Model) (idField : FieldId) (fields : List FieldId) :
    Session Id Model :=
  (s.select [idField]).select fields

inductive Course (s : Session Id Model) (x : Executor Id) (encode : Id → Except String Json)
    (model : Decoder Model) (idField : FieldId) (fields : List FieldId) : PagerRun Id Model → Prop
  | refused {e : SessionError} (hfirst : (s.select [idField]).idQuery = .error e) :
      Course s x encode model idField fields ⟨.error (.session e), [], s.select [idField]⟩
  | idsLost {first : Query} {e : ExecutorError}
      (hfirst : (s.select [idField]).idQuery = .ok first) (hids : x.fetchIds first = .error e) :
      Course s x encode model idField fields ⟨.error (.executor e), [first], s.select [idField]⟩
  | outOfRange {first : Query} {ids : List Id} {e : SessionError}
      (hfirst : (s.select [idField]).idQuery = .ok first) (hids : x.fetchIds first = .ok ids)
      (hpage : s.page ids = .error e) :
      Course s x encode model idField fields
        ⟨.ok ((s.select [idField]).setResult ids []).response, [first],
          (s.select [idField]).setResult ids []⟩
  | rowsRefused {first : Query} {ids page : List Id} {e : SessionError}
      (hfirst : (s.select [idField]).idQuery = .ok first) (hids : x.fetchIds first = .ok ids)
      (hpage : s.page ids = .ok page)
      (hsecond : (s.forRows idField fields).rowQuery encode idField page = .error e) :
      Course s x encode model idField fields
        ⟨.error (.session e), [first], s.forRows idField fields⟩
  | rowsLost {first second : Query} {ids page : List Id} {e : ExecutorError}
      (hfirst : (s.select [idField]).idQuery = .ok first) (hids : x.fetchIds first = .ok ids)
      (hpage : s.page ids = .ok page)
      (hsecond : (s.forRows idField fields).rowQuery encode idField page = .ok second)
      (hrows : (x.fetchRows second).bind (decodeAll model) = .error e) :
      Course s x encode model idField fields
        ⟨.error (.executor e), [first, second], s.forRows idField fields⟩
  | answered {first second : Query} {ids page : List Id} {rows : List Model}
      (hfirst : (s.select [idField]).idQuery = .ok first) (hids : x.fetchIds first = .ok ids)
      (hpage : s.page ids = .ok page)
      (hsecond : (s.forRows idField fields).rowQuery encode idField page = .ok second)
      (hrows : (x.fetchRows second).bind (decodeAll model) = .ok rows) :
      Course s x encode model idField fields
        ⟨.ok ((s.forRows idField fields).setResult ids rows).response, [first, second],
          (s.forRows idField fields).setResult ids rows⟩

theorem fetchPage_course {first : Query} {ids page : List Id}
    (hfirst : (s.select [idField]).idQuery = .ok first) (hids : x.fetchIds first = .ok ids)
    (hpage : s.page ids = .ok page) : Course s x encode model idField fields
      ((s.forRows idField fields).fetchPage x encode model idField first ids page) := by
  rw [fetchPage]
  cases hsecond : (s.forRows idField fields).rowQuery encode idField page with
  | error e => exact .rowsRefused hfirst hids hpage hsecond
  | ok second =>
    dsimp only
    cases hrows : (x.fetchRows second).bind (decodeAll model) with
    | error e => exact .rowsLost hfirst hids hpage hsecond hrows
    | ok rows => exact .answered hfirst hids hpage hsecond hrows

theorem paginate_course (s : Session Id Model) (x : Executor Id) (encode : Id → Except String Json)
    (model : Decoder Model) (idField : FieldId) (fields : List FieldId) :
    Course s x encode model idField fields (s.paginate x encode model idField fields) := by
  simp only [paginate, page_select]
  cases hfirst : (s.select [idField]).idQuery with
  | error e => exact .refused hfirst
  | ok first =>
    dsimp only
    cases hids : x.fetchIds first with
    | error e => exact .idsLost hfirst hids
    | ok ids =>
      dsimp only
      cases hpage : s.page ids with
      | error e => exact .outOfRange hfirst hids hpage
      | ok page => exact fetchPage_course hfirst hids hpage

theorem page_ok (h : ids.length < UInt64.size) {part : List Id} (hpage : s.page ids = .ok part) :
    HasPage s.limit s.pageNumber ids.length ∧ part = s.pageOf ids := by
  have hhas := (exists_page_iff h).mp ⟨part, hpage⟩
  rw [page_of_hasPage h hhas] at hpage
  exact ⟨hhas, (Except.ok.inj hpage).symm⟩

theorem page_error (h : ids.length < UInt64.size) {e : SessionError}
    (hpage : s.page ids = .error e) : ¬ HasPage s.limit s.pageNumber ids.length := by
  intro hhas
  rw [page_of_hasPage h hhas] at hpage
  cases hpage

def EndsWithIds (s : Session Id Model) (x : Executor Id) (encode : Id → Except String Json)
    (idField : FieldId) (fields : List FieldId) : Prop :=
  ∃ first, (s.select [idField]).idQuery = .ok first ∧
    ((∃ e, x.fetchIds first = .error e) ∨ ∃ ids, x.fetchIds first = .ok ids ∧
      (¬ HasPage s.limit s.pageNumber ids.length ∨
        ∃ e, (s.forRows idField fields).rowQuery encode idField (s.pageOf ids) = .error e))

def Fetches (s : Session Id Model) (x : Executor Id) (idField : FieldId) (first : Query)
    (ids : List Id) : Prop :=
  (s.select [idField]).idQuery = .ok first ∧ x.fetchIds first = .ok ids

theorem Course.count (h : Course s x encode model idField fields run)
    (hx : ∀ q ids, x.fetchIds q = .ok ids → ids.length < UInt64.size) :
    (run.queries.length = 0 ∧ (∃ e, (s.select [idField]).idQuery = .error e) ∧
      ¬ EndsWithIds s x encode idField fields) ∨
    (run.queries.length = 1 ∧ (¬ ∃ e, (s.select [idField]).idQuery = .error e) ∧
      EndsWithIds s x encode idField fields) ∨
    (run.queries.length = 2 ∧ (¬ ∃ e, (s.select [idField]).idQuery = .error e) ∧
      ¬ EndsWithIds s x encode idField fields) := by
  cases h with
  | refused hfirst => exact .inl ⟨rfl, ⟨_, hfirst⟩, by simp [EndsWithIds, hfirst]⟩
  | idsLost hfirst hids =>
    exact .inr (.inl ⟨rfl, by simp [hfirst], _, hfirst, .inl ⟨_, hids⟩⟩)
  | outOfRange hfirst hids hpage =>
    have hempty := page_error (hx _ _ hids) hpage
    exact .inr (.inl ⟨rfl, by simp [hfirst], _, hfirst, .inr ⟨_, hids, .inl hempty⟩⟩)
  | rowsRefused hfirst hids hpage hsecond =>
    obtain ⟨-, rfl⟩ := page_ok (hx _ _ hids) hpage
    exact .inr (.inl ⟨rfl, by simp [hfirst], _, hfirst, .inr ⟨_, hids, .inr ⟨_, hsecond⟩⟩⟩)
  | rowsLost hfirst hids hpage hsecond hrows =>
    obtain ⟨hhas, rfl⟩ := page_ok (hx _ _ hids) hpage
    exact .inr (.inr ⟨rfl, by simp [hfirst], by simp [EndsWithIds, hfirst, hids, hhas, hsecond]⟩)
  | answered hfirst hids hpage hsecond hrows =>
    obtain ⟨hhas, rfl⟩ := page_ok (hx _ _ hids) hpage
    exact .inr (.inr ⟨rfl, by simp [hfirst], by simp [EndsWithIds, hfirst, hids, hhas, hsecond]⟩)

theorem Course.first (h : Course s x encode model idField fields run) :
    ∀ q ∈ run.queries.head?, (s.select [idField]).idQuery = .ok q := by
  cases h with
  | refused hfirst => simp
  | idsLost hfirst | outOfRange hfirst | rowsRefused hfirst | rowsLost hfirst | answered hfirst =>
    simpa using hfirst

theorem rowQuery_arguments {q : Query} (h : s.rowQuery encode idField ids = .ok q) :
    ids.mapM encode = .ok q.arguments := by
  obtain ⟨c, root, f, values, -, -, hids, rfl⟩ := rowQuery_ok_iff.mp h
  exact hids

theorem Course.second (h : Course s x encode model idField fields run)
    (hx : ∀ q ids, x.fetchIds q = .ok ids → ids.length < UInt64.size) {first q : Query}
    (hq : run.queries = [first, q]) : ∃ ids, Fetches s x idField first ids ∧
      (s.forRows idField fields).rowQuery encode idField (s.pageOf ids) = .ok q := by
  cases h with
  | refused => cases hq
  | idsLost | outOfRange | rowsRefused => cases hq
  | rowsLost hfirst hids hpage hsecond hrows =>
    obtain ⟨-, rfl⟩ := page_ok (hx _ _ hids) hpage
    cases hq
    exact ⟨_, ⟨hfirst, hids⟩, hsecond⟩
  | answered hfirst hids hpage hsecond hrows =>
    obtain ⟨-, rfl⟩ := page_ok (hx _ _ hids) hpage
    cases hq
    exact ⟨_, ⟨hfirst, hids⟩, hsecond⟩

theorem response_setResult (s : Session Id Model) (ids : List Id) (rows : List Model) :
    (s.setResult ids rows).response =
      ⟨⟨rows.length, s.pageNumber, ids.length, ids.length ⌈/⌉ s.limit⟩, ids, rows⟩ := by
  rw [← metadata_setResult]
  rfl

def Answers (s : Session Id Model) (x : Executor Id) (model : Decoder Model) (first : Query)
    (ids : List Id) (response : Response Id Model) (run : PagerRun Id Model) : Prop :=
  response.ids = ids ∧
  response.metadata = ⟨response.rows.length, s.pageNumber, ids.length, ids.length ⌈/⌉ s.limit⟩ ∧
  run.session.result = some ⟨ids, response.rows⟩ ∧
  ((¬ HasPage s.limit s.pageNumber ids.length ∧ run.queries = [first] ∧ response.rows = []) ∨
    ∃ q rows, HasPage s.limit s.pageNumber ids.length ∧ run.queries = [first, q] ∧
      x.fetchRows q = .ok rows ∧ decodeAll model rows = .ok response.rows ∧
      response.rows.length = rows.length)

theorem Course.answer (h : Course s x encode model idField fields run)
    (hx : ∀ q ids, x.fetchIds q = .ok ids → ids.length < UInt64.size) {response : Response Id Model}
    (hr : run.outcome = .ok response) : ∃ first ids, Fetches s x idField first ids ∧
      Answers s x model first ids response run := by
  cases h with
  | refused | idsLost | rowsRefused | rowsLost => cases hr
  | @outOfRange first ids e hfirst hids hpage =>
    have hempty := page_error (hx _ _ hids) hpage
    rw [response_setResult, limit_select, pageNumber_select] at hr
    cases hr
    exact ⟨first, ids, ⟨hfirst, hids⟩, rfl, rfl, rfl, .inl ⟨hempty, rfl, rfl⟩⟩
  | @answered first second ids page rows hfirst hids hpage hsecond hrows =>
    obtain ⟨hhas, -⟩ := page_ok (hx _ _ hids) hpage
    obtain ⟨fetched, hfetched, hdecoded⟩ := of_bind_ok hrows
    rw [response_setResult, forRows, limit_select, limit_select, pageNumber_select,
      pageNumber_select] at hr
    cases hr
    exact ⟨first, ids, ⟨hfirst, hids⟩, rfl, rfl, rfl,
      .inr ⟨second, fetched, hhas, rfl, hfetched, hdecoded, length_decodeAll hdecoded⟩⟩

/-- A run of the pager issues no query exactly if the session has none for ids, one if it ends with
that, and two otherwise. The second asks for the ids of the page, in their order. What the run
answers, and keeps as the result, are all the ids that were fetched and the rows of the page. The
length of a list of ids is a number of 64 bits. -/
theorem paginate_two_phases (s : Session Id Model) (x : Executor Id)
    (encode : Id → Except String Json) (model : Decoder Model) (idField : FieldId)
    (fields : List FieldId)
    (hx : ∀ q ids, x.fetchIds q = .ok ids → ids.length < UInt64.size) :
    let run := s.paginate x encode model idField fields
    (run.queries.length = 0 ↔ ∃ e, (s.select [idField]).idQuery = .error e) ∧
    (∀ e, (s.select [idField]).idQuery = .error e → run.outcome = .error (.session e)) ∧
    (run.queries.length = 1 ↔ EndsWithIds s x encode idField fields) ∧
    (run.queries.length = 2 ↔ (¬ ∃ e, (s.select [idField]).idQuery = .error e) ∧
      ¬ EndsWithIds s x encode idField fields) ∧
    (∀ q ∈ run.queries.head?, (s.select [idField]).idQuery = .ok q) ∧
    (∀ first q, run.queries = [first, q] → ∃ ids, Fetches s x idField first ids ∧
      (s.forRows idField fields).rowQuery encode idField (s.pageOf ids) = .ok q ∧
      (s.pageOf ids).mapM encode = .ok q.arguments) ∧
    ∀ response, run.outcome = .ok response → ∃ first ids, Fetches s x idField first ids ∧
      Answers s x model first ids response run := by
  intro run
  have hcourse := paginate_course s x encode model idField fields
  have hcount := hcourse.count hx
  refine ⟨?_, fun e he => ?_, ?_, ?_, hcourse.first, fun first q hq => ?_,
    fun response => hcourse.answer hx⟩
  · grind
  · simp only [run, paginate, he]
  · grind
  · grind
  · obtain ⟨ids, hfetch, hsecond⟩ := hcourse.second hx hq
    exact ⟨ids, hfetch, hsecond, rowQuery_arguments hsecond⟩

def openShop : Executor Json where
  fetchIds _ := .ok [.nat 7, .nat 8, .nat 9]
  fetchRows _ := .ok [.string "lamp"]

def lastProducts : Session Json String :=
  ((ofCatalog Catalog.shopCatalog).setRequest { limit := 2, page := 2 }).1

theorem paginate_two_phases_shop :
    (∀ q ids, openShop.fetchIds q = .ok ids → ids.length < UInt64.size) ∧
    (∃ first q, (lastProducts.paginate openShop .ok .string 0 [0, 1]).queries = [first, q] ∧
      q.arguments = [.nat 9]) ∧
    (∃ response, (lastProducts.paginate openShop .ok .string 0 [0, 1]).outcome = .ok response ∧
      response.ids = [.nat 7, .nat 8, .nat 9] ∧ response.metadata = ⟨1, 2, 3, 2⟩) ∧
    (lastProducts.paginate openShop writeText .string 0 [0, 1]).queries.length = 1 := by
  have hx : ∀ q ids, openShop.fetchIds q = .ok ids → ids.length < UInt64.size := by
    rintro q ids ⟨⟩
    decide
  obtain ⟨-, -, -, -, -, hsecond, hanswer⟩ :=
    paginate_two_phases lastProducts openShop .ok .string 0 [0, 1] hx
  obtain ⟨-, -, hone, -⟩ := paginate_two_phases lastProducts openShop writeText .string 0 [0, 1] hx
  refine ⟨hx, ⟨_, _, rfl, ?_⟩, ⟨_, rfl, ?_⟩, hone.mpr ⟨_, rfl, .inr ⟨_, rfl, .inr ⟨_, rfl⟩⟩⟩⟩
  · obtain ⟨ids, ⟨-, ⟨⟩⟩, -, hargs⟩ := hsecond _ _ rfl
    exact (Except.ok.inj hargs).symm
  · obtain ⟨first, ids, ⟨-, ⟨⟩⟩, hids, hmeta, -⟩ := hanswer _ rfl
    exact ⟨hids, hmeta⟩

end Session
end Listing
