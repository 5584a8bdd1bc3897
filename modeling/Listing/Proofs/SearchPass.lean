import Listing.Proofs.SortPass

/-!
The search of a request as the compiler goes through the columns to search. A column of numbers is
passed over if the term is no number, but its table is marked all the same, so that marks, tests
and arguments are not the same in number.
-/
namespace Listing

structure SearchPass where
  draft : Draft
  tests : List SearchTest := []

namespace SearchPass

def mark (p : SearchPass) (f : Column) : SearchPass := { p with draft := p.draft.mark f .search }

def bind (p : SearchPass) (v : Json) (test : Nat → SearchTest) : SearchPass where
  draft := { p.draft with arguments := p.draft.arguments ++ [v] }
  tests := p.tests ++ [test (p.draft.arguments.length + 1)]

def take (term : String) (p : SearchPass) (f : Column) : SearchPass :=
  if f.field.kind = .numeric then
    if Search.isNumeric term then (p.mark f).bind (.string (term ++ "%")) (.startsWith f)
    else p.mark f
  else (p.mark f).bind (.string ("%" ++ Text.lowercase term ++ "%")) (.contains f)

def finish (p : SearchPass) : Draft :=
  { p.draft with predicates := p.draft.predicates ++ [.anyOf p.tests] }

end SearchPass

def Compiled.takeSearch (c : Catalog) (k : Compiled) (term : String) : Compiled :=
  if c.searchColumns.isEmpty then k.refuse .search .noSearchFields
  else if term.isEmpty then k
  else { k with draft := (c.searchColumns.foldl (SearchPass.take term) ⟨k.draft, []⟩).finish }

namespace Search

variable {f : Column}

theorem test_numeric (hf : f.field.kind = .numeric) : test f = .startsWith f := by
  funext n
  rw [test, hf]

theorem test_of_ne (hf : f.field.kind ≠ .numeric) : test f = .contains f := by
  funext n
  rw [test]
  split
  · contradiction
  all_goals rfl

theorem pattern_numeric (hf : f.field.kind = .numeric) (term : String) :
    pattern term f = .string (term ++ "%") := by
  rw [pattern, hf]

theorem pattern_of_ne (hf : f.field.kind ≠ .numeric) (term : String) :
    pattern term f = .string ("%" ++ Text.lowercase term ++ "%") := by
  rw [pattern]
  split
  · contradiction
  all_goals rfl

def isTested (term : String) (f : Column) : Bool := f.field.kind != .numeric || isNumeric term

end Search

namespace SearchPass

open Search (isTested)

theorem take_eq (term : String) (p : SearchPass) (f : Column) : p.take term f =
    if isTested term f then (p.mark f).bind (Search.pattern term f) (Search.test f)
    else p.mark f := by
  by_cases hf : f.field.kind = .numeric
  · have htested : isTested term f = Search.isNumeric term := by rw [isTested, hf]; rfl
    rw [take, if_pos hf, htested, Search.test_numeric hf, Search.pattern_numeric hf]
  · have htested : isTested term f = true := by rw [isTested, bne_iff_ne.mpr hf, Bool.true_or]
    rw [take, if_neg hf, if_pos htested, Search.test_of_ne hf, Search.pattern_of_ne hf]

theorem foldl_take (term : String) (fs : List Column) (p : SearchPass) :
    fs.foldl (take term) p =
      { draft :=
          { p.draft with
            arguments := p.draft.arguments ++ (fs.filter (isTested term)).map (Search.pattern term)
            usage := fs.foldl (fun m f => m.mark f.table .search) p.draft.usage }
        tests := p.tests ++ ((fs.filter (isTested term)).zipIdx (p.draft.arguments.length + 1)).map
          fun e => Search.test e.1 e.2 } := by
  induction fs generalizing p with
  | nil => simp
  | cons f fs ih =>
    rw [List.foldl_cons, ih, take_eq]
    by_cases hf : isTested term f = true
    · rw [if_pos hf, List.filter_cons_of_pos hf]
      simp [bind, mark, Draft.mark, List.zipIdx_cons]
    · rw [if_neg hf, List.filter_cons_of_neg hf]
      rfl

end SearchPass

namespace Compiled

theorem takeSearch_eq (c : Catalog) (k : Compiled) (term : String) : k.takeSearch c term =
    { k with
      draft := Search.add c term k.draft
      refusals := k.refusals ++ Search.refused c } := by
  rw [takeSearch, Search.add, Search.refused]
  cases c.searchColumns.isEmpty with
  | true => simp [refuse]
  | false =>
    cases term.isEmpty with
    | true => simp
    | false =>
      rw [SearchPass.foldl_take, Draft.foldl_mark_eq fun f => f]
      simp only [Bool.or_self, Bool.false_eq_true, if_false, List.append_nil]
      rfl

end Compiled

theorem joinWith_ne_empty {s : String} (h : s ≠ "") (separator : String) (ss : List String) :
    joinWith separator (s :: ss) ≠ "" := by
  cases ss with
  | nil => exact h
  | cons t ss =>
    intro heq
    rw [joinWith, String.append_eq_empty_iff, String.append_eq_empty_iff] at heq
    exact h heq.1.1

theorem SearchTest.text_ne_empty (t : SearchTest) : t.text ≠ "" := by
  cases t with
  | startsWith f n =>
    intro h
    rw [text, String.append_eq_empty_iff, String.append_eq_empty_iff] at h
    exact absurd h.1.2 (by decide)
  | contains f n =>
    intro h
    rw [text, String.append_eq_empty_iff, String.append_eq_empty_iff,
      String.append_eq_empty_iff] at h
    exact absurd h.1.1.1 (by decide)

theorem Predicate.text_anyOf {tests : List SearchTest} (h : tests ≠ []) :
    (anyOf tests).text = "(" ++ joinWith " OR " (tests.map (·.text)) ++ ")" := by
  cases tests with
  | nil => contradiction
  | cons t ts => rfl

namespace Search

structure Extends (c : Catalog) (term : String) (d d' : Draft) : Prop where
  clause : ∃ p, d'.predicates = d.predicates ++ [p] ∧
    let fs := c.columns.filter fun f =>
      f.field.searchable ∧ (f.field.kind = .numeric → isNumeric term)
    (fs = [] ↔ isNumeric term = false ∧
      ∀ f ∈ c.columns, f.field.searchable = true → f.field.kind = .numeric) ∧
    d'.arguments = d.arguments ++ fs.map (pattern term) ∧
    (fs = [] → p.text = "(FALSE)") ∧
    (fs ≠ [] →
      p.text = "(" ++ joinWith " OR " ((fs.zipIdx (d.arguments.length + 1)).map fun e =>
        if e.1.field.kind = .numeric then e.1.statement ++ "::text like $" ++ toString e.2
        else "lower(" ++ e.1.statement ++ ") like $" ++ toString e.2) ++ ")" ∧
      p.text ≠ "()")
  ordered : d'.usage.Ordered
  usage : ∀ t u, d'.usage.Has t u ↔
    (u = .search ∧ ∃ f ∈ c.columns, f.field.searchable = true ∧ f.table = t) ∨ d.usage.Has t u

theorem text_test (f : Column) (n : Nat) : (test f n).text =
    if f.field.kind = .numeric then f.statement ++ "::text like $" ++ toString n
    else "lower(" ++ f.statement ++ ") like $" ++ toString n := by
  by_cases hf : f.field.kind = .numeric
  · have hlike : "::text like $" = "::text like " ++ "$" := rfl
    rw [if_pos hf, test_numeric hf, SearchTest.text, placeholder, hlike]
    simp only [String.append_assoc]
  · have hlike : ") like $" = ") like " ++ "$" := rfl
    rw [if_neg hf, test_of_ne hf, SearchTest.text, placeholder, hlike]
    simp only [String.append_assoc]

theorem tested_eq (c : Catalog) (term : String) : tested c term = c.columns.filter fun f =>
    f.field.searchable ∧ (f.field.kind = .numeric → isNumeric term) := by
  rw [tested, Catalog.searchColumns, List.filter_filter]
  apply List.filter_congr
  intro f _
  rw [Bool.eq_iff_iff, Bool.and_eq_true, Bool.or_eq_true, bne_iff_ne, decide_eq_true_eq, and_comm,
    ← imp_iff_not_or]

variable {c : Catalog} {term : String}

theorem tested_eq_nil_iff (hc : ∃ f ∈ c.columns, f.field.searchable = true) :
    tested c term = [] ↔ isNumeric term = false ∧
      ∀ f ∈ c.columns, f.field.searchable = true → f.field.kind = .numeric := by
  rw [tested_eq, List.filter_eq_nil_iff]
  simp only [decide_eq_true_eq, not_and, Classical.not_imp, Bool.not_eq_true]
  constructor
  · intro h
    obtain ⟨f, hf, hs⟩ := hc
    exact ⟨(h f hf hs).2, fun g hg hgs => (h g hg hgs).1⟩
  · rintro ⟨hterm, hnumeric⟩ f hf hs
    exact ⟨hnumeric f hf hs, hterm⟩

theorem extends_add {d : Draft} (ho : d.usage.Ordered) (hterm : term ≠ "")
    (hc : ∃ f ∈ c.columns, f.field.searchable = true) : Extends c term d (add c term d) := by
  have hempty : term.isEmpty = false := by simpa using hterm
  have hcolumns : c.searchColumns.isEmpty = false := by
    obtain ⟨f, hf, hs⟩ := hc
    rw [List.isEmpty_eq_false_iff]
    exact List.ne_nil_of_mem (List.mem_filter.mpr ⟨hf, hs⟩)
  have hadd : add c term d =
      { predicates := d.predicates ++
          [.anyOf (((tested c term).zipIdx (d.arguments.length + 1)).map fun e => test e.1 e.2)]
        arguments := d.arguments ++ (tested c term).map (pattern term)
        usage := c.searchColumns.foldl (fun m f => m.mark f.table .search) d.usage } := by
    rw [add, hempty, hcolumns, Draft.foldl_mark_eq fun f => f]
    rfl
  obtain ⟨hordered, htags⟩ := UsageMap.foldl_mark ho Column.table .search c.searchColumns
  rw [hadd]
  refine ⟨⟨_, rfl, ?_⟩, hordered, ?_⟩
  · rw [← tested_eq]
    refine ⟨tested_eq_nil_iff hc, rfl, ?_, ?_⟩
    · intro hnil
      rw [hnil]
      rfl
    · intro hne
      have htests : ((tested c term).zipIdx (d.arguments.length + 1)).map
          (fun e => test e.1 e.2) ≠ [] := by
        simpa using hne
      obtain ⟨t, ts, hcons⟩ := List.exists_cons_of_ne_nil htests
      constructor
      · rw [Predicate.text_anyOf htests, List.map_map]
        simp only [Function.comp_def, text_test]
      · rw [Predicate.text_anyOf htests, hcons, List.map_cons]
        intro heq
        have hparts : "()" = "(" ++ "" ++ ")" := rfl
        have hinner := (String.append_left_inj ")").mp (heq.trans hparts)
        exact joinWith_ne_empty t.text_ne_empty _ _ ((String.append_right_inj "(").mp hinner)
  · intro t u
    rw [htags]
    simp only [Catalog.searchColumns, List.mem_filter, and_assoc]

end Search

namespace Compiled

theorem search_exact (c : Catalog) (k : Compiled) (ho : k.draft.usage.Ordered) (term : String) :
    (term = "" → (k.takeSearch c term).draft = k.draft) ∧
    (term ≠ "" → (∃ f ∈ c.columns, f.field.searchable = true) →
      (k.takeSearch c term).refusals = k.refusals ∧
      Search.Extends c term k.draft (k.takeSearch c term).draft) ∧
    ∀ r : Request, c.compile r =
      ((((({ draft := { usage := c.defaultUsage } } : Compiled).takeSearch c r.search).takeFilters c
        .request 1 r.filters).takeFilters c .trusted 1 r.localFilters).takeSorts c r.sorts) := by
  rw [takeSearch_eq]
  refine ⟨?_, ?_, ?_⟩
  · rintro rfl
    rfl
  · intro hterm hc
    refine ⟨?_, Search.extends_add ho hterm hc⟩
    obtain ⟨f, hf, hs⟩ := hc
    have hcolumns : c.searchColumns ≠ [] := List.ne_nil_of_mem (List.mem_filter.mpr ⟨hf, hs⟩)
    rw [Search.refused, if_neg (mt List.isEmpty_iff.mp hcolumns), List.append_nil]
  · intro r
    rw [takeSearch_eq, c.compile_takeSorts]
    rfl

def stockCatalog : Catalog where
  tables := [⟨0, "stock", none⟩]
  columns := [⟨0, 0, "stock", { name := "count", kind := .numeric, searchable := true }⟩]

theorem search_exact_stock : ({} : Compiled).draft.usage.Ordered ∧
    ∃ p, (({} : Compiled).takeSearch stockCatalog "many").draft.predicates = [p] ∧
      p.text = "(FALSE)" ∧ (({} : Compiled).takeSearch stockCatalog "many").draft.arguments = [] ∧
      (({} : Compiled).takeSearch stockCatalog "many").draft.usage.Has 0 .search := by
  have ho : ({} : Compiled).draft.usage.Ordered := .empty
  have hcount : ∃ f ∈ stockCatalog.columns, f.field.searchable = true :=
    ⟨_, List.mem_singleton_self _, rfl⟩
  obtain ⟨-, hsearch, -⟩ := search_exact stockCatalog {} ho "many"
  obtain ⟨-, ⟨p, hpredicates, hnil, harguments, hfalse, -⟩, -, husage⟩ :=
    hsearch (by decide) hcount
  have hnumeric : ∀ f ∈ stockCatalog.columns, f.field.searchable = true →
      f.field.kind = .numeric := by
    intro f hf _
    rw [List.mem_singleton.mp hf]
  have hnone := hnil.mpr ⟨by rfl, hnumeric⟩
  rw [hnone] at harguments
  obtain ⟨f, hf, hs⟩ := hcount
  have htable : f.table = 0 := by rw [List.mem_singleton.mp hf]
  have hmark := (husage 0 .search).mpr (.inl ⟨rfl, f, hf, hs, htable⟩)
  exact ⟨ho, p, hpredicates, hfalse hnone, harguments, hmark⟩

end Compiled
end Listing
