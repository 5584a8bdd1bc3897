import Listing.Proofs.ArenaJoins
import Listing.Proofs.SearchPass

namespace Listing

namespace Arena

def indexed (a : Arena) (key : String) (p : Field → Bool) : Except Fault (Option FieldId) :=
  match a.index.lookup key with
  | none => pure none
  | some i => do
    let f ← a.field i
    pure (if p f.field then some i else none)

def search (a : Arena) (k : Compiled) (term : String) : Except Fault Compiled :=
  if a.searchFields.isEmpty then pure (k.refuse .search .noSearchFields)
  else if term.isEmpty then pure k
  else do
    let p ← a.searchFields.foldlM (fun (p : SearchPass) i => do
      let f ← a.field i
      pure (p.take term f)) ⟨k.draft, []⟩
    pure { k with draft := p.finish }

def removeFirst : List Json → Except Fault Json
  | [] => .error .noValue
  | v :: _ => .ok v

def filterTest (operator : FilterOperator) (kind : FieldKind) (value : List Char) :
    Checked Refusal FilterTest := do
  let some values := splitValues value | throw (.filterValue kind)
  if operator ≠ .among ∧ values.length ≠ 1 then throw (.filterValue kind)
  let some typed := values.mapM (typedValue kind) | throw (.filterValue kind)
  match operator with
  | .among => pure (.among typed)
  | .compare op => do
    let v ← removeFirst typed
    pure (.compare op v)

def filter (a : Arena) (scope : FilterScope) (raw : String) : Checked Refusal Filter := do
  let some (key, operator, value) := Filter.parts? raw.toList | throw .filterFormat
  let some i ← a.indexed (String.ofList key) scope.allows | throw .filterField
  let f ← a.field i
  let some operator := FilterOperator.ofName? operator | throw .filterOperator
  let test ← filterTest operator f.field.kind value
  pure ⟨f, test⟩

def takeFilter (a : Arena) (scope : FilterScope) (k : Compiled) (n : Nat) (raw : String) :
    Except Fault Compiled := do
  match ← (a.filter scope raw).run with
  | .ok f => pure (k.addFilter f)
  | .error e => pure (k.refuse (scope.position n) e)

def takeFilters (a : Arena) (scope : FilterScope) (k : Compiled) (n : Nat) :
    List String → Except Fault Compiled
  | [] => pure k
  | raw :: raws => do
    let k ← a.takeFilter scope k n raw
    a.takeFilters scope k (n + 1) raws

def takeSort (a : Arena) (left : List FieldId) (p : SortPass) (n : Nat) (raw : String) :
    Except Fault (List FieldId × SortPass) :=
  match Text.words raw.toList with
  | [key, direction] => do
    let key := String.ofList key
    match ← a.indexed key (·.sortable) with
    | none => pure (left, p.refuse n .sortField)
    | some i =>
      if p.seen.contains key then pure (left, p.refuse n (.sortDuplicate key))
      else
        let p := { p with seen := key :: p.seen }
        match SortDirection.ofName? (String.ofList direction) with
        | none => pure (left, p.refuse n .sortDirection)
        | some direction => do
          let f ← a.field i
          pure (left.filter (· != i), p.request ⟨f, direction⟩)
  | _ => pure (left, p.refuse n .sortFormat)

def takeSorts (a : Arena) (left : List FieldId) (p : SortPass) (n : Nat) :
    List String → Except Fault (List FieldId × SortPass)
  | [] => pure (left, p)
  | raw :: raws => do
    let (left, p) ← a.takeSort left p n raw
    a.takeSorts left p (n + 1) raws

def sorts (a : Arena) (k : Compiled) (raws : List String) : Except Fault Compiled := do
  let (left, p) ← a.takeSorts a.defaultSorts { compiled := k, left := [] } 1 raws
  if p.failed then pure p.compiled
  else
    let p ← left.foldlM (fun (p : SortPass) i => do
      let f ← a.field i
      pure (p.addDefault f)) p
    pure { p.compiled with order := p.terms }

def compile (a : Arena) (r : Request) : Except Fault Compiled := do
  let k ← a.search { draft := { usage := a.defaultUsage } } r.search
  let k ← a.takeFilters .request k 1 r.filters
  let k ← a.takeFilters .trusted k 1 r.localFilters
  a.sorts k r.sorts

end Arena

def SortPass.handles (p : SortPass) : List FieldId × SortPass :=
  (p.left.map (·.id), { p with left := [] })

def Catalog.Indexes (c : Catalog) : Prop :=
  ∀ key i, c.index.lookup key = some i → ∃ f, c.column? i = some f

theorem Catalog.build_indexes {x : Table} {c : Catalog} (h : build x = .ok c) : c.Indexes := by
  intro key i hi
  have hc := (build_wellFormed h).toSound
  obtain ⟨f, hf, hid, -, -⟩ := (build_visited h).entry hc (mem_of_lookup hi)
  have hid : f.id = i := hid
  exact ⟨f, hid ▸ hc.column_mem hf⟩

namespace Arena

variable {c : Catalog}

theorem of_indexed (hc : c.Sound) (hi : c.Indexes) (key : String) (p : Field → Bool) :
    (of c).indexed key p = .ok (((c.indexed? key).filter fun f => p f.field).map (·.id)) := by
  rw [indexed, Catalog.indexed?]
  change (match c.index.lookup key with
    | none => _
    | some i => _) = _
  cases hlookup : c.index.lookup key with
  | none => rfl
  | some i =>
    obtain ⟨f, hf⟩ := hi key i hlookup
    have hid : f.id = i := hc.column_id i f hf
    rw [Option.bind_some, hf, Option.filter_some]
    refine (bind_eq_of_ok (of_field hf) _).trans ?_
    split_ifs
    · rw [Option.map_some, hid]
      rfl
    · rfl

theorem of_indexed_field (hc : c.Sound) {key : String} {p : Column → Bool} {f : Column}
    (h : (c.indexed? key).filter p = some f) : (of c).field f.id = .ok f := by
  apply of_field
  exact hc.column_mem (Catalog.indexed?_mem (Option.filter_eq_some_iff.mp h).1)

theorem of_search (hc : c.Sound) (k : Compiled) (term : String) :
    (of c).search k term = .ok (k.takeSearch c term) := by
  have hempty : (of c).searchFields.isEmpty = c.searchColumns.isEmpty := List.isEmpty_map
  have hpass : (of c).searchFields.foldlM (fun (p : SearchPass) i => do
      let f ← (of c).field i
      pure (p.take term f)) ⟨k.draft, []⟩ =
      .ok (c.searchColumns.foldl (SearchPass.take term) ⟨k.draft, []⟩) := by
    apply foldlM_handles (fun p => p)
    intro p f hf
    exact bind_eq_of_ok (of_field (hc.column_mem (List.mem_of_mem_filter hf))) _
  rw [search, Compiled.takeSearch, hempty]
  split_ifs
  · rfl
  · rfl
  · rw [bind_eq_of_ok hpass]
    rfl

theorem run_filterTest (operator : FilterOperator) (kind : FieldKind) (value : List Char) :
    (filterTest operator kind value).run = .ok (match Filter.test? operator kind value with
      | none => .error (.filterValue kind)
      | some test => .ok test) := by
  rw [filterTest, Filter.test?]
  cases splitValues value with
  | none => rfl
  | some values =>
    simp only [Option.bind_eq_bind, Option.bind_some]
    cases htyped : values.mapM (typedValue kind) with
    | none => split_ifs <;> rfl
    | some typed =>
      -- there are as many arguments as values, so that the first one is there to be taken
      have hlength : values.length = typed.length := by
        simpa using congrArg List.length (mapM_some htyped)
      rw [hlength]
      cases operator with
      | among => rfl
      | compare op => rcases typed with _ | ⟨v, _ | ⟨w, typed⟩⟩ <;> rfl

theorem run_filter (hc : c.Sound) (hi : c.Indexes) (scope : FilterScope) (raw : String) :
    ((of c).filter scope raw).run = .ok (Filter.accept c scope raw) := by
  rw [filter, Filter.accept]
  cases Filter.parts? raw.toList with
  | none => rfl
  | some parts =>
    obtain ⟨key, operator, value⟩ := parts
    simp only
    rw [Checked.run_bind_ok (Checked.run_lift (of_indexed hc hi _ _))]
    cases hindexed : (c.indexed? (String.ofList key)).filter fun f => scope.allows f.field with
    | none => rfl
    | some f =>
      simp only [Option.map_some]
      rw [Checked.run_bind_ok (Checked.run_lift (of_indexed_field hc hindexed))]
      cases FilterOperator.ofName? operator with
      | none => rfl
      | some operator =>
        have htest := run_filterTest operator f.field.kind value
        simp only
        cases ht : Filter.test? operator f.field.kind value with
        | none =>
          rw [ht] at htest
          exact Checked.run_bind_error htest _
        | some test =>
          rw [ht] at htest
          exact Checked.run_bind_ok htest _

theorem of_takeFilter (hc : c.Sound) (hi : c.Indexes) (scope : FilterScope) (k : Compiled) (n : Nat)
    (raw : String) : (of c).takeFilter scope k n raw = .ok (k.takeFilter c scope n raw) := by
  rw [takeFilter, bind_eq_of_ok (run_filter hc hi scope raw), Compiled.takeFilter_eq]
  cases Filter.accept c scope raw <;> rfl

theorem of_takeFilters (hc : c.Sound) (hi : c.Indexes) (scope : FilterScope) (k : Compiled)
    (n : Nat) (raws : List String) :
    (of c).takeFilters scope k n raws = .ok (k.takeFilters c scope n raws) := by
  induction raws generalizing k n with
  | nil => rfl
  | cons raw raws ih =>
    rw [takeFilters, bind_eq_of_ok (of_takeFilter hc hi scope k n raw)]
    exact ih _ _

theorem of_takeSort (hc : c.Sound) (hi : c.Indexes) (p : SortPass) (n : Nat) (raw : String) :
    (of c).takeSort p.handles.1 p.handles.2 n raw = .ok (p.take c n raw).handles := by
  rw [takeSort, SortPass.take]
  rcases Text.words raw.toList with _ | ⟨key, _ | ⟨direction, _ | ⟨word, words⟩⟩⟩
  · rfl
  · rfl
  · simp only
    rw [bind_eq_of_ok (of_indexed hc hi _ _)]
    cases hindexed : (c.indexed? (String.ofList key)).filter fun f => f.field.sortable with
    | none => rfl
    | some f =>
      have hseen : p.handles.2.seen = p.seen := rfl
      simp only [Option.map_some, hseen]
      cases p.seen.contains (String.ofList key) with
      | true => rfl
      | false =>
        cases SortDirection.ofName? (String.ofList direction) with
        | none => rfl
        | some direction =>
          have hleft : p.handles.1.filter (· != f.id) =
              (p.left.filter fun g => g.id != f.id).map (·.id) := List.filter_map
          simp only
          rw [bind_eq_of_ok (of_indexed_field hc hindexed), hleft]
          rfl
  · rfl

theorem of_takeSorts (hc : c.Sound) (hi : c.Indexes) (p : SortPass) (n : Nat) (raws : List String) :
    (of c).takeSorts p.handles.1 p.handles.2 n raws = .ok (p.takeAll c n raws).handles := by
  induction raws generalizing p n with
  | nil => rfl
  | cons raw raws ih =>
    rw [takeSorts, bind_eq_of_ok (of_takeSort hc hi p n raw)]
    exact ih _ _

theorem of_sorts (hc : c.Sound) (hi : c.Indexes) (k : Compiled) (raws : List String) :
    (of c).sorts k raws = .ok (k.takeSorts c raws) := by
  have hleft : ∀ f ∈ ((SortPass.start c k).takeAll c 1 raws).left, f ∈ c.columns := by
    intro f hf
    rw [(SortPass.takeAll_records c (.start c k) 1 raws).left] at hf
    exact SortTerm.defaultSorts_mem (List.mem_of_mem_filter hf)
  have htake : (of c).takeSorts (of c).defaultSorts { compiled := k, left := [] } 1 raws =
      .ok ((SortPass.start c k).takeAll c 1 raws).handles :=
    of_takeSorts hc hi (.start c k) 1 raws
  rw [sorts, bind_eq_of_ok htake, Compiled.takeSorts, SortPass.finish]
  generalize (SortPass.start c k).takeAll c 1 raws = p at hleft ⊢
  change (if p.failed then _ else _) = _
  split_ifs with hfailed
  · rfl
  · have hpass : (p.left.map (·.id)).foldlM (fun (p : SortPass) i => do
        let f ← (of c).field i
        pure (p.addDefault f)) { p with left := [] } =
        .ok (p.left.foldl SortPass.addDefault { p with left := [] }) := by
      apply foldlM_handles (fun p => p)
      intro p f hf
      exact bind_eq_of_ok (of_field (hc.column_mem (hleft f hf))) _
    rw [bind_eq_of_ok hpass, SortPass.foldl_addDefault, SortPass.foldl_addDefault]
    rfl

theorem of_compile (hc : c.Sound) (hi : c.Indexes) (r : Request) :
    (of c).compile r = .ok (c.compile r) := by
  have hsearched : ({ draft := { usage := c.defaultUsage } } : Compiled).takeSearch c r.search =
      Compiled.searched c r.search := by
    rw [Compiled.takeSearch_eq]
    rfl
  rw [compile, bind_eq_of_ok (of_search hc _ _), bind_eq_of_ok (of_takeFilters hc hi _ _ _ _),
    bind_eq_of_ok (of_takeFilters hc hi _ _ _ _), of_sorts hc hi, c.compile_takeSorts, ← hsearched]
  rfl

end Arena
end Listing
