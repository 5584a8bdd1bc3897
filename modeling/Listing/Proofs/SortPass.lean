import Listing.Proofs.ColumnNames
import Listing.Proofs.DerivedLists
import Listing.Proofs.FilterPass
import Listing.Proofs.OuterJoins

namespace Listing

structure SortPass where
  compiled : Compiled
  left : List Column
  seen : List String := []
  terms : List SortTerm := []
  failed : Bool := false

namespace SortPass

def start (c : Catalog) (k : Compiled) : SortPass where
  compiled := k
  left := c.defaultSorts

def mark (p : SortPass) (f : Column) : SortPass :=
  { p with compiled := { p.compiled with draft := p.compiled.draft.mark f .sort } }

def refuse (p : SortPass) (n : Nat) (e : Refusal) : SortPass :=
  { p with compiled := p.compiled.refuse (.sort n) e, failed := true }

def request (p : SortPass) (t : SortTerm) : SortPass :=
  { p.mark t.column with
    left := p.left.filter fun f => f.id != t.column.id
    terms := p.terms ++ [t] }

def take (c : Catalog) (p : SortPass) (n : Nat) (raw : String) : SortPass :=
  match Text.words raw.toList with
  | [key, direction] =>
    let key := String.ofList key
    match (c.indexed? key).filter fun f => f.field.sortable with
    | none => p.refuse n .sortField
    | some column =>
      if p.seen.contains key then p.refuse n (.sortDuplicate key)
      else
        let p := { p with seen := key :: p.seen }
        match SortDirection.ofName? (String.ofList direction) with
        | none => p.refuse n .sortDirection
        | some direction => p.request ⟨column, direction⟩
  | _ => p.refuse n .sortFormat

def takeAll (c : Catalog) (p : SortPass) (n : Nat) : List String → SortPass
  | [] => p
  | raw :: raws => (p.take c n raw).takeAll c (n + 1) raws

def addDefault (p : SortPass) (f : Column) : SortPass :=
  match f.field.sort with
  | none => p
  | some d => { p.mark f with terms := p.terms ++ [⟨f, d⟩] }

def finish (p : SortPass) : Compiled :=
  if p.failed then p.compiled
  else { (p.left.foldl addDefault p).compiled with order := (p.left.foldl addDefault p).terms }

end SortPass

def Compiled.takeSorts (c : Catalog) (k : Compiled) (raws : List String) : Compiled :=
  ((SortPass.start c k).takeAll c 1 raws).finish

theorem Draft.foldl_mark_congr {α : Type} {d : Draft} (h : d.usage.Ordered) (column : α → Column)
    (u : Usage) {xs ys : List α} (hxy : ∀ x, x ∈ xs ↔ x ∈ ys) :
    xs.foldl (fun d x => d.mark (column x) u) d = ys.foldl (fun d x => d.mark (column x) u) d := by
  obtain ⟨hxs, txs⟩ := UsageMap.foldl_mark h (fun x => (column x).table) u xs
  obtain ⟨hys, tys⟩ := UsageMap.foldl_mark h (fun x => (column x).table) u ys
  rw [foldl_mark_eq column, foldl_mark_eq column, hxs.ext hys]
  intro t v
  simp only [txs, tys, hxy]

namespace SortTerm

def requested (verdicts : List (Except Refusal SortTerm)) : List SortTerm :=
  verdicts.filterMap (·.toOption)

def default? (f : Column) : Option SortTerm := f.field.sort.map fun d => ⟨f, d⟩

end SortTerm

namespace SortPass

open SortTerm (judge judgeAll requested default?)

variable {c : Catalog} {p q : SortPass} {n : Nat} {verdicts : List (Except Refusal SortTerm)}

def record (p : SortPass) (n : Nat) : Except Refusal SortTerm → SortPass
  | .ok t => p.request t
  | .error e => p.refuse n e

theorem seen_record (p : SortPass) (n : Nat) (v : Except Refusal SortTerm) :
    (p.record n v).seen = p.seen := by
  cases v <;> rfl

theorem take_eq (c : Catalog) (p : SortPass) (n : Nat) (raw : String) : p.take c n raw =
    { p with seen := (judge c p.seen raw).2 }.record n (judge c p.seen raw).1 := by
  rw [take, judge]
  rcases Text.words raw.toList with _ | ⟨key, _ | ⟨direction, _ | ⟨word, words⟩⟩⟩
  · rfl
  · rfl
  · simp only
    cases (c.indexed? (String.ofList key)).filter fun f => f.field.sortable with
    | none => rfl
    | some column =>
      simp only
      by_cases hseen : p.seen.contains (String.ofList key) = true
      · simp only [hseen, if_true]
        rfl
      · simp only [hseen]
        cases SortDirection.ofName? (String.ofList direction) <;> rfl
  · rfl

structure Records (p : SortPass) (n : Nat) (verdicts : List (Except Refusal SortTerm))
    (q : SortPass) : Prop where
  left : q.left = p.left.filter fun f => !(requested verdicts).any fun t => t.column.id == f.id
  terms : q.terms = p.terms ++ requested verdicts
  failed : q.failed = (p.failed || !(numberedRefusals verdicts n).isEmpty)
  compiled : q.compiled =
    { p.compiled with
      draft := (requested verdicts).foldl (fun d t => d.mark t.column .sort) p.compiled.draft
      refusals := p.compiled.refusals ++
        (numberedRefusals verdicts n).map fun e => (.sort e.1, e.2) }

theorem Records.nil (p : SortPass) (n : Nat) : Records p n [] p where
  left := by simp [requested]
  terms := by simp [requested]
  failed := by simp [numberedRefusals]
  compiled := by simp [requested, numberedRefusals]

theorem Records.cons {v : Except Refusal SortTerm} (h : Records (p.record n v) (n + 1) verdicts q) :
    Records p n (v :: verdicts) q := by
  cases v with
  | error e =>
    have hterms : requested (.error e :: verdicts) = requested verdicts :=
      List.filterMap_cons_none rfl
    exact {
      left := by rw [hterms, h.left]; rfl
      terms := by rw [hterms, h.terms]; rfl
      failed := by simp [numberedRefusals_error, h.failed, record, refuse]
      compiled := by
        rw [hterms, h.compiled, numberedRefusals_error]
        simp [record, refuse, Compiled.refuse] }
  | ok t =>
    have hterms : requested (.ok t :: verdicts) = t :: requested verdicts :=
      List.filterMap_cons_some rfl
    exact {
      left := by
        rw [hterms, h.left, record, request, List.filter_filter]
        congr 1
        funext f
        rw [List.any_cons, Bool.not_or, Bool.and_comm, bne, Bool.beq_comm]
      terms := by
        rw [hterms, h.terms, record, request, List.append_assoc, List.singleton_append]
      failed := by rw [h.failed, numberedRefusals_ok]; rfl
      compiled := by rw [hterms, h.compiled, numberedRefusals_ok]; rfl }

theorem takeAll_records (c : Catalog) (p : SortPass) (n : Nat) (raws : List String) :
    Records p n (judgeAll c p.seen raws) (p.takeAll c n raws) := by
  induction raws generalizing p n with
  | nil => exact .nil p n
  | cons raw raws ih =>
    have hrest := ih (p.take c n raw) (n + 1)
    rw [take_eq, seen_record] at hrest
    rw [takeAll, judgeAll, take_eq]
    -- the keys that were seen are no part of what is recorded
    have hcons := Records.cons hrest
    exact ⟨hcons.left, hcons.terms, hcons.failed, hcons.compiled⟩

theorem foldl_addDefault (fs : List Column) (p : SortPass) : fs.foldl addDefault p =
    { p with
      compiled := { p.compiled with
        draft := (fs.filterMap default?).foldl (fun d t => d.mark t.column .sort) p.compiled.draft }
      terms := p.terms ++ fs.filterMap default? } := by
  induction fs generalizing p with
  | nil => simp
  | cons f fs ih =>
    rw [List.foldl_cons, ih, addDefault]
    cases hsort : f.field.sort with
    | none =>
      have hnone : default? f = none := by rw [default?, hsort]; rfl
      rw [List.filterMap_cons_none hnone]
    | some d =>
      have hsome : default? f = some ⟨f, d⟩ := by rw [default?, hsort]; rfl
      simp only [List.filterMap_cons_some hsome, List.foldl_cons, List.append_assoc,
        List.singleton_append, mark]

end SortPass

namespace Compiled

variable (c : Catalog)

theorem takeSorts_eq {k : Compiled} (hk : k.order = []) (ho : k.draft.usage.Ordered)
    (raws : List String) : k.takeSorts c raws = k.sorted c raws := by
  obtain ⟨hleft, hterms, hfailed, hcompiled⟩ := SortPass.takeAll_records c (.start c k) 1 raws
  rw [takeSorts, SortPass.finish, sorted, SortTerm.order, SortTerm.refused_eq_map, List.isEmpty_map]
  generalize (SortPass.start c k).takeAll c 1 raws = q at hleft hterms hfailed hcompiled ⊢
  change q.terms = SortTerm.accepted c raws at hterms
  change q.failed = !(SortTerm.numberedRefused c raws).isEmpty at hfailed
  rw [SortPass.foldl_addDefault, hcompiled, hfailed, hterms, hleft]
  cases (SortTerm.numberedRefused c raws).isEmpty with
  | true =>
    -- with the order, what the entries ask for is marked once more
    have hmembers : ∀ t, t ∈ SortTerm.accepted c raws ++ (SortTerm.accepted c raws ++
        SortTerm.defaults c (SortTerm.accepted c raws)) ↔
        t ∈ SortTerm.accepted c raws ++ SortTerm.defaults c (SortTerm.accepted c raws) := by
      simp
    simp only [Bool.not_true, Bool.false_eq_true, if_false, if_true]
    rw [Draft.foldl_mark_congr ho SortTerm.column .sort hmembers, List.foldl_append]
    rfl
  | false =>
    simp only [Bool.not_false, if_true, Bool.false_eq_true, if_false, List.append_nil]
    rw [← hk]
    rfl

end Compiled

namespace Catalog

variable (c : Catalog) (r : Request)

theorem ordered_draft : (c.draft r).usage.Ordered := by
  have hsearch : (Search.add c r.search { usage := c.defaultUsage }).usage.Ordered := by
    rw [Search.usage_add]
    split_ifs
    · exact c.defaultUsage_tags.1
    · exact (UsageMap.foldl_mark c.defaultUsage_tags.1 Column.table .search _).1
  rw [draft, Draft.usage_addFilters, Draft.usage_addFilters]
  apply (UsageMap.foldl_mark _ (fun f : Filter => f.column.table) .filter _).1
  exact (UsageMap.foldl_mark hsearch (fun f : Filter => f.column.table) .filter _).1

theorem compile_takeSorts : c.compile r =
    (((Compiled.searched c r.search).takeFilters c .request 1 r.filters).takeFilters c .trusted 1
      r.localFilters).takeSorts c r.sorts := by
  rw [compile_eq_passes, Compiled.takeFilters_refused, Compiled.takeFilters_refused]
  exact (Compiled.takeSorts_eq c rfl (c.ordered_draft r) r.sorts).symm

end Catalog

namespace SortTerm

variable {c : Catalog} {raws : List String}

def Requests (c : Catalog) (raw : String) (t : SortTerm) : Prop :=
  ∃ key direction, Text.words raw.toList = [key, direction] ∧
    c.indexed? (String.ofList key) = some t.column ∧ t.column.field.sortable = true ∧
    SortDirection.ofName? (String.ofList direction) = some t.direction

end SortTerm

namespace Catalog

end Catalog

namespace Session

variable {Id Model : Type} {c : Catalog} {s : Session Id Model} {q : Query}

theorem ready_isProcessed {y : Catalog × TableEntry} (h : s.ready = .ok y) :
    s.isProcessed = true := by
  rw [ready] at h
  split at h
  · cases h
  · by_contra hp
    rw [Bool.eq_false_iff.mpr hp] at h
    cases h

theorem Issues.ordered (hq : s.Issues q) : s.isProcessed = true ∧ q.statement.order = s.order := by
  cases hq with
  | ids hq =>
    obtain ⟨y, hr, hq⟩ := of_bind_ok hq
    cases hq
    exact ⟨ready_isProcessed hr, rfl⟩
  | rows encode idField ids hq =>
    obtain ⟨c, root, f, values, hr, -, -, rfl⟩ := rowQuery_ok_iff.mp hq
    exact ⟨ready_isProcessed hr, rfl⟩

end Session
end Listing
