import Listing.Proofs.RequestTags

namespace Listing

def SearchTest.place : SearchTest → Column × Nat
  | .startsWith f n => (f, n)
  | .contains f n => (f, n)

def Predicate.places : Predicate → List (Column × Nat)
  | .anyOf tests => tests.map (·.place)
  | .compare f _ n => [(f, n)]
  | .among f ns => ns.map fun n => (f, n)
  | .isFalse _ => []
  | .idAmong f ns => ns.map fun n => (f, n)
  | .never => []

structure Clause where
  predicate : Nat → Predicate
  values : List (Column × Json)
  places : ∀ n, (predicate n).places = (values.map (·.1)).zipIdx n

namespace Clause

def arguments (k : Clause) : List Json := k.values.map (·.2)

def numbered : Nat → List Clause → List Predicate
  | _, [] => []
  | n, k :: ks => k.predicate n :: numbered (n + k.arguments.length) ks

theorem numbered_append (n : Nat) (ks ks' : List Clause) : numbered n (ks ++ ks') =
    numbered n ks ++ numbered (n + (ks.flatMap (·.arguments)).length) ks' := by
  induction ks generalizing n with
  | nil => rfl
  | cons k ks ih =>
    rw [List.cons_append, numbered, ih, numbered, List.flatMap_cons, List.length_append,
      ← Nat.add_assoc]
    rfl

end Clause

def FilterTest.values : FilterTest → List Json
  | .compare _ v => [v]
  | .among vs => vs

def Filter.predicate (f : Filter) (n : Nat) : Predicate :=
  match f.test with
  | .compare op _ => .compare f.column op n
  | .among vs => .among f.column (List.range' n vs.length)

theorem map_range'_eq_zipIdx (f : Column) (vs : List Json) (n : Nat) :
    (List.range' n vs.length).map (fun m => (f, m)) =
      ((vs.map fun v => (f, v)).map (·.1)).zipIdx n := by
  induction vs generalizing n with
  | nil => rfl
  | cons v vs ih => simp [List.range'_succ, ih]

def Filter.clause (f : Filter) : Clause where
  predicate := f.predicate
  values := f.test.values.map fun v => (f.column, v)
  places := fun n => by
    rw [Filter.predicate]
    cases f.test with
    | compare op v => rfl
    | among vs => exact map_range'_eq_zipIdx f.column vs n

theorem mapM_some {α β : Type} {f : α → Option β} {xs : List α} {ys : List β}
    (h : xs.mapM f = some ys) : xs.map f = ys.map some := by
  induction xs generalizing ys with
  | nil =>
    cases h
    rfl
  | cons x xs ih =>
    rw [List.mapM_cons] at h
    obtain ⟨y, hy, h⟩ := Option.bind_eq_some_iff.mp h
    obtain ⟨ys', hys, h⟩ := Option.bind_eq_some_iff.mp h
    cases h
    rw [List.map_cons, hy, ih hys, List.map_cons]

theorem Filter.test?_some {op : FilterOperator} {kind : FieldKind} {value : List Char}
    {test : FilterTest} (h : test? op kind value = some test) : ∃ values,
      splitValues value = some values ∧ values.map (typedValue kind) = test.values.map some ∧
      ((∃ o v, op = .compare o ∧ test = .compare o v) ∨ ∃ vs, op = .among ∧ test = .among vs) := by
  obtain ⟨values, hsplit, h⟩ := Option.bind_eq_some_iff.mp h
  obtain ⟨vs, htyped, h⟩ := Option.bind_eq_some_iff.mp h
  have hmap := mapM_some htyped
  refine ⟨values, hsplit, ?_⟩
  split at h
  · cases h
    exact ⟨hmap, .inl ⟨_, _, rfl, rfl⟩⟩
  · cases h
  · cases h
    exact ⟨hmap, .inr ⟨vs, rfl, rfl⟩⟩

theorem Filter.accept_values {c : Catalog} {scope : FilterScope} {raw : String} {f : Filter}
    (h : accept c scope raw = .ok f) : ∃ key operator value values,
      parts? raw.toList = some (key, operator, value) ∧
      c.indexed? (String.ofList key) = some f.column ∧ splitValues value = some values ∧
      values.map (fun v => (f.column, typedValue f.column.field.kind v)) =
        f.clause.values.map fun e => (e.1, some e.2) := by
  obtain ⟨key, operator, value, op, hparts, hcolumn, _, _, htest⟩ := accept_ok h
  obtain ⟨values, hsplit, hvalues, _⟩ := test?_some htest
  refine ⟨key, operator, value, values, hparts, hcolumn, hsplit, ?_⟩
  have hpair := congrArg (List.map fun v => (f.column, v)) hvalues
  simpa [clause, Function.comp_def] using hpair

theorem Filter.accepted_cons {c : Catalog} {scope : FilterScope} {raw : String} {f : Filter}
    (h : accept c scope raw = .ok f) (raws : List String) :
    accepted c scope (raw :: raws) = f :: accepted c scope raws :=
  List.filterMap_cons_some (by rw [h]; rfl)

theorem Filter.accepted_erase {c : Catalog} {scope : FilterScope} {raw : String} {e : Refusal}
    (h : accept c scope raw = .error e) (before after : List String) :
    accepted c scope (before ++ raw :: after) = accepted c scope (before ++ after) := by
  simp [accepted, h, Except.toOption]

namespace Search

theorem place_test (f : Column) (n : Nat) : (test f n).place = (f, n) := by
  rw [test]
  split <;> rfl

def clause (c : Catalog) (term : String) : Clause where
  predicate := fun n => .anyOf (((tested c term).zipIdx n).map fun e => test e.1 e.2)
  values := (tested c term).map fun f => (f, pattern term f)
  places := fun n => by simp [Predicate.places, Function.comp_def, place_test]

def clauses (c : Catalog) (term : String) : List Clause :=
  if term.isEmpty || c.searchColumns.isEmpty then [] else [clause c term]

theorem clauses_values {c : Catalog} {term : String} {k : Clause} (h : k ∈ clauses c term) :
    k.values = (tested c term).map fun f => (f, pattern term f) := by
  rw [clauses] at h
  split at h
  · cases h
  · rw [List.mem_singleton.mp h]
    rfl

end Search

namespace Draft

structure Adds (d : Draft) (ks : List Clause) (d' : Draft) : Prop where
  predicates : d'.predicates = d.predicates ++ Clause.numbered (d.arguments.length + 1) ks
  arguments : d'.arguments = d.arguments ++ ks.flatMap (·.arguments)

theorem Adds.refl (d : Draft) : d.Adds [] d := ⟨(List.append_nil _).symm, (List.append_nil _).symm⟩

theorem Adds.trans {d d' d'' : Draft} {ks ks' : List Clause} (h : d.Adds ks d')
    (h' : d'.Adds ks' d'') : d.Adds (ks ++ ks') d'' where
  predicates := by
    rw [h'.predicates, h.predicates, h.arguments, Clause.numbered_append, List.append_assoc,
      List.length_append, Nat.add_right_comm]
  arguments := by
    rw [h'.arguments, h.arguments, List.flatMap_append, List.append_assoc]

theorem Adds.add (d : Draft) (k : Clause) : d.Adds [k] (d.add k.predicate k.arguments) where
  predicates := rfl
  arguments := by simp [Draft.add]

theorem adds_addFilter (d : Draft) (f : Filter) : d.Adds [f.clause] (d.addFilter f) := by
  have hvalues : f.clause.arguments = f.test.values := by
    simp [Filter.clause, Clause.arguments, Function.comp_def]
  obtain ⟨column, test⟩ := f
  have hadd := Draft.Adds.add d (Filter.clause ⟨column, test⟩)
  rw [hvalues] at hadd
  cases test with
  | compare op v => exact ⟨hadd.predicates, hadd.arguments⟩
  | among vs => exact ⟨hadd.predicates, hadd.arguments⟩

theorem adds_addFilters (d : Draft) (fs : List Filter) :
    d.Adds (fs.map (·.clause)) (d.addFilters fs) := by
  induction fs generalizing d with
  | nil => exact .refl d
  | cons f fs ih => exact (d.adds_addFilter f).trans (ih (d.addFilter f))

end Draft

theorem Search.adds_add (c : Catalog) (term : String) (d : Draft) :
    d.Adds (clauses c term) (add c term d) := by
  rw [add, clauses]
  split
  · exact .refl d
  · have hk : (clause c term).arguments = (tested c term).map (pattern term) := by
      simp [clause, Clause.arguments, Function.comp_def]
    rw [Draft.foldl_mark_eq fun f => f, ← hk]
    obtain ⟨hp, ha⟩ := Draft.Adds.add d (clause c term)
    exact ⟨hp, ha⟩

namespace Catalog

def clauses (c : Catalog) (r : Request) : List Clause :=
  Search.clauses c r.search ++ (Filter.accepted c .request r.filters).map (·.clause) ++
    (Filter.accepted c .trusted r.localFilters).map (·.clause)

theorem compile_adds (c : Catalog) (r : Request) :
    Draft.Adds { usage := c.defaultUsage } (c.clauses r) (c.compile r).draft := by
  have hsearch := Search.adds_add c r.search { usage := c.defaultUsage }
  have hrequest := hsearch.trans (Draft.adds_addFilters _ (Filter.accepted c .request r.filters))
  have htrusted := hrequest.trans
    (Draft.adds_addFilters _ (Filter.accepted c .trusted r.localFilters))
  rw [compile, Draft.foldl_mark_eq SortTerm.column]
  exact ⟨htrusted.predicates, htrusted.arguments⟩

theorem compile_predicates_eq (c : Catalog) (r : Request) :
    (c.compile r).draft.predicates = Clause.numbered 1 (c.clauses r) :=
  (c.compile_adds r).predicates

theorem compile_arguments_eq (c : Catalog) (r : Request) :
    (c.compile r).draft.arguments = (c.clauses r).flatMap (·.arguments) :=
  (c.compile_adds r).arguments

end Catalog
end Listing
