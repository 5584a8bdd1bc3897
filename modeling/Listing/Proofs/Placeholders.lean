import Listing.Proofs.QueryScope

namespace Listing

inductive Piece where
  | column (f : Column)
  | table (t : TableEntry)
  | fixed (text : String)
  | argument (n : Nat)
deriving DecidableEq, Repr

namespace Piece

def text : Piece → String
  | .column f => f.statement
  | .table t => t.statement
  | .fixed s => s
  | .argument n => placeholder n

def number? : Piece → Option Nat
  | .argument n => some n
  | .column _ | .table _ | .fixed _ => none

def textOf (ps : List Piece) : String := String.join (ps.map text)

def numbers (ps : List Piece) : List Nat := ps.filterMap number?

def separated (separator : String) : List (List Piece) → List Piece
  | [] => []
  | [ps] => ps
  | ps :: qs :: rest => ps ++ .fixed separator :: separated separator (qs :: rest)

def listed (opening separator : String) (pss : List (List Piece)) : List Piece :=
  if pss.isEmpty then [] else .fixed opening :: separated separator pss

def typedArgument (kind : FieldKind) (n : Nat) : List Piece :=
  match kind with
  | .date => [.argument n, .fixed "::timestamptz"]
  | .numeric | .string | .boolean => [.argument n]

def comparand (f : Column) : List Piece :=
  match f.field.kind with
  | .string => [.column f, .fixed "::text"]
  | .numeric | .boolean | .date => [.column f]

end Piece

def SearchTest.pieces : SearchTest → List Piece
  | .startsWith f n => [.column f, .fixed "::text like ", .argument n]
  | .contains f n => [.fixed "lower(", .column f, .fixed ") like ", .argument n]

def Predicate.pieces : Predicate → List Piece
  | .anyOf [] => [.fixed "(FALSE)"]
  | .anyOf tests => .fixed "(" :: Piece.separated " OR " (tests.map (·.pieces)) ++ [.fixed ")"]
  | .compare f op n => Piece.comparand f ++ .fixed " " :: .fixed op.sign :: .fixed " " ::
      Piece.typedArgument f.field.kind n
  | .among f ns => Piece.comparand f ++ .fixed " IN (" ::
      Piece.separated "," (ns.map (Piece.typedArgument f.field.kind)) ++ [.fixed ")"]
  | .isFalse f => [.column f, .fixed " is false"]
  | .idAmong f ns => Piece.comparand f ++ .fixed " IN (" ::
      Piece.separated ", " (ns.map fun n => [.argument n]) ++ [.fixed ")"]
  | .never => [.fixed "1 = 0"]

def Join.pieces (j : Join) : List Piece :=
  [.fixed (if j.isInner then "JOIN " else "LEFT JOIN "), .table j.table, .fixed " ON ",
    .column j.foreignKey, .fixed " = ", .column j.referenceKey]

def SortTerm.pieces (t : SortTerm) : List Piece :=
  [.column t.column, .fixed " ", .fixed t.direction.keyword]

def Statement.pieces (s : Statement) : List Piece :=
  (.fixed "SELECT " :: Piece.separated ", " (s.columns.map fun f => [.column f]) ++
      [.fixed " FROM ", .table s.root]) ++
    Piece.listed "\n" "\n" (s.joins.map (·.pieces)) ++
    Piece.listed "\nWHERE " "\nAND " (s.predicates.map (·.pieces)) ++
    Piece.listed "\nORDER BY " ", " (s.order.map (·.pieces))

theorem Piece.forall_mem_separated {P : Piece → Prop} {separator : String}
    (hs : P (.fixed separator)) {pss : List (List Piece)} (h : ∀ ps ∈ pss, ∀ p ∈ ps, P p) :
    ∀ p ∈ separated separator pss, P p := by
  induction pss with
  | nil => exact List.forall_mem_nil _
  | cons ps pss ih =>
    have hhead := h ps List.mem_cons_self
    have htail := ih fun qs hq => h qs (List.mem_cons_of_mem _ hq)
    cases pss with
    | nil => exact hhead
    | cons qs pss =>
      simp only [separated, List.forall_mem_append, List.forall_mem_cons]
      exact ⟨hhead, hs, htail⟩

namespace Piece

@[simp] theorem textOf_nil : textOf [] = "" := rfl

@[simp] theorem textOf_cons (p : Piece) (ps : List Piece) :
    textOf (p :: ps) = p.text ++ textOf ps := String.join_cons

@[simp] theorem textOf_append (ps qs : List Piece) :
    textOf (ps ++ qs) = textOf ps ++ textOf qs := by
  simp only [textOf, List.map_append, String.join_append]

@[simp] theorem textOf_separated (separator : String) (pss : List (List Piece)) :
    textOf (separated separator pss) = joinWith separator (pss.map textOf) := by
  induction pss with
  | nil => rfl
  | cons ps pss ih =>
    cases pss with
    | nil => rfl
    | cons qs pss =>
      rw [separated, textOf_append, textOf_cons, ih, ← String.append_assoc]
      rfl

@[simp] theorem textOf_listed (opening separator : String) (pss : List (List Piece)) :
    textOf (listed opening separator pss) =
      if pss.isEmpty then "" else opening ++ joinWith separator (pss.map textOf) := by
  rw [listed]
  split
  · rfl
  · rw [textOf_cons, textOf_separated]
    rfl

@[simp] theorem textOf_typedArgument (kind : FieldKind) (n : Nat) :
    textOf (typedArgument kind n) = typedPlaceholder kind n := by
  cases kind <;> simp [typedArgument, typedPlaceholder, text]

@[simp] theorem textOf_comparand (f : Column) : textOf (comparand f) = f.comparand := by
  cases h : f.field.kind <;> simp [comparand, Column.comparand, h, text]

end Piece

@[simp] theorem SearchTest.textOf_pieces (t : SearchTest) : Piece.textOf t.pieces = t.text := by
  cases t <;> simp [pieces, text, Piece.text, String.append_assoc]

@[simp] theorem Predicate.textOf_pieces (p : Predicate) : Piece.textOf p.pieces = p.text := by
  cases p with
  | anyOf tests =>
    cases tests with
    | nil => rfl
    | cons t ts => simp [pieces, text, Piece.text, Function.comp_def, String.append_assoc]
  | compare f op n => simp [pieces, text, Piece.text, String.append_assoc]
  | among f ns => simp [pieces, text, Piece.text, Function.comp_def, String.append_assoc]
  | isFalse f => simp [pieces, text, Piece.text]
  | idAmong f ns => simp [pieces, text, Piece.text, Function.comp_def, String.append_assoc]
  | never => rfl

@[simp] theorem Join.textOf_pieces (j : Join) : Piece.textOf j.pieces = j.text := by
  simp [pieces, text, Piece.text, String.append_assoc]

@[simp] theorem SortTerm.textOf_pieces (t : SortTerm) : Piece.textOf t.pieces = t.text := by
  simp [pieces, text, Piece.text, String.append_assoc]

theorem Statement.textOf_pieces (s : Statement) : Piece.textOf s.pieces = s.text := by
  simp [pieces, text, selectText, joinText, whereText, orderText, Piece.text, Function.comp_def,
    String.append_assoc]

namespace Piece

@[simp] theorem numbers_nil : numbers [] = [] := rfl

@[simp] theorem numbers_column (f : Column) (ps : List Piece) :
    numbers (.column f :: ps) = numbers ps := rfl

@[simp] theorem numbers_table (t : TableEntry) (ps : List Piece) :
    numbers (.table t :: ps) = numbers ps := rfl

@[simp] theorem numbers_fixed (s : String) (ps : List Piece) :
    numbers (.fixed s :: ps) = numbers ps := rfl

@[simp] theorem numbers_argument (n : Nat) (ps : List Piece) :
    numbers (.argument n :: ps) = n :: numbers ps := rfl

@[simp] theorem numbers_append (ps qs : List Piece) :
    numbers (ps ++ qs) = numbers ps ++ numbers qs := List.filterMap_append

@[simp] theorem numbers_separated (separator : String) (pss : List (List Piece)) :
    numbers (separated separator pss) = pss.flatMap numbers := by
  induction pss with
  | nil => rfl
  | cons ps pss ih =>
    cases pss with
    | nil => simp [separated]
    | cons qs pss =>
      rw [separated, numbers_append, numbers_fixed, ih]
      rfl

@[simp] theorem numbers_listed (opening separator : String) (pss : List (List Piece)) :
    numbers (listed opening separator pss) = pss.flatMap numbers := by
  rw [listed]
  split
  · rename_i h
    rw [List.isEmpty_iff.mp h]
    rfl
  · simp

@[simp] theorem numbers_comparand (f : Column) : numbers (comparand f) = [] := by
  rw [comparand]
  split <;> rfl

@[simp] theorem numbers_typedArgument (kind : FieldKind) (n : Nat) :
    numbers (typedArgument kind n) = [n] := by
  cases kind <;> rfl

end Piece

namespace Piece

def fixedTexts : List String :=
  ["SELECT ", ", ", " FROM ", "\n", "JOIN ", "LEFT JOIN ", " ON ", " = ",
    "\nWHERE ", "\nAND ", "(", " OR ", ")", "(FALSE)", "::text like ", "lower(", ") like ",
    "::text", "::timestamptz", " ", "=", "!=", "<", "<=", ">", ">=", " IN (", ",", " is false",
    "1 = 0", "\nORDER BY ", "ASC", "DESC"]

def Fixed (ps : List Piece) : Prop := ∀ s, .fixed s ∈ ps → s ∈ fixedTexts

@[simp] theorem fixed_nil : Fixed [] := by simp [Fixed]

@[simp] theorem fixed_column (f : Column) (ps : List Piece) :
    Fixed (.column f :: ps) ↔ Fixed ps := by simp [Fixed]

@[simp] theorem fixed_table (t : TableEntry) (ps : List Piece) :
    Fixed (.table t :: ps) ↔ Fixed ps := by simp [Fixed]

@[simp] theorem fixed_argument (n : Nat) (ps : List Piece) :
    Fixed (.argument n :: ps) ↔ Fixed ps := by simp [Fixed]

@[simp] theorem fixed_fixed (s : String) (ps : List Piece) :
    Fixed (.fixed s :: ps) ↔ s ∈ fixedTexts ∧ Fixed ps := by
  simp [Fixed, or_imp, forall_and]

@[simp] theorem fixed_append (ps qs : List Piece) :
    Fixed (ps ++ qs) ↔ Fixed ps ∧ Fixed qs := by
  simp [Fixed, or_imp, forall_and]

theorem fixed_separated {separator : String} {pss : List (List Piece)}
    (hs : separator ∈ fixedTexts) (h : ∀ ps ∈ pss, Fixed ps) : Fixed (separated separator pss) := by
  have hseparator : ∀ s, Piece.fixed separator = .fixed s → s ∈ fixedTexts := by
    rintro s ⟨⟩
    exact hs
  have hpieces : ∀ ps ∈ pss, ∀ p ∈ ps, ∀ s, p = .fixed s → s ∈ fixedTexts := by
    rintro ps hps p hp s rfl
    exact h ps hps s hp
  exact fun s hm => forall_mem_separated hseparator hpieces _ hm s rfl

theorem fixed_listed {opening separator : String} {pss : List (List Piece)}
    (ho : opening ∈ fixedTexts) (hs : separator ∈ fixedTexts) (h : ∀ ps ∈ pss, Fixed ps) :
    Fixed (listed opening separator pss) := by
  rw [listed]
  split
  · exact fixed_nil
  · exact (fixed_fixed _ _).mpr ⟨ho, fixed_separated hs h⟩

@[simp] theorem fixed_comparand (f : Column) : Fixed (comparand f) := by
  rw [comparand]
  split <;> simp [fixedTexts]

@[simp] theorem fixed_typedArgument (kind : FieldKind) (n : Nat) :
    Fixed (typedArgument kind n) := by
  cases kind <;> simp [typedArgument, fixedTexts]

end Piece

theorem SearchTest.fixed_pieces (t : SearchTest) : Piece.Fixed t.pieces := by
  cases t <;> simp [pieces, Piece.fixedTexts]

theorem Predicate.fixed_pieces (p : Predicate) : Piece.Fixed p.pieces := by
  cases p with
  | anyOf tests =>
    cases tests with
    | nil => simp [pieces, Piece.fixedTexts]
    | cons t ts =>
      have hsep : Piece.Fixed (Piece.separated " OR " ((t :: ts).map (·.pieces))) := by
        apply Piece.fixed_separated (by decide)
        simp [SearchTest.fixed_pieces]
      simpa [pieces, Piece.fixedTexts] using hsep
  | compare f op n => cases op <;> simp [pieces, Comparison.sign, Piece.fixedTexts]
  | among f ns =>
    have hsep : Piece.Fixed (Piece.separated "," (ns.map (Piece.typedArgument f.field.kind))) := by
      apply Piece.fixed_separated (by decide)
      simp
    simpa [pieces, Piece.fixedTexts] using hsep
  | isFalse f => simp [pieces, Piece.fixedTexts]
  | idAmong f ns =>
    have hsep : Piece.Fixed (Piece.separated ", " (ns.map fun n => [.argument n])) := by
      apply Piece.fixed_separated (by decide)
      simp
    simpa [pieces, Piece.fixedTexts] using hsep
  | never => simp [pieces, Piece.fixedTexts]

theorem Join.fixed_pieces (j : Join) : Piece.Fixed j.pieces := by
  cases h : j.isInner <;> simp [pieces, h, Piece.fixedTexts]

theorem SortTerm.fixed_pieces (t : SortTerm) : Piece.Fixed t.pieces := by
  cases h : t.direction <;> simp [pieces, h, SortDirection.keyword, Piece.fixedTexts]

theorem Statement.fixed_pieces (s : Statement) : Piece.Fixed s.pieces := by
  have hselect : Piece.Fixed (Piece.separated ", " (s.columns.map fun f => [.column f])) := by
    apply Piece.fixed_separated (by decide)
    simp
  have hjoins : Piece.Fixed (Piece.listed "\n" "\n" (s.joins.map (·.pieces))) := by
    apply Piece.fixed_listed (by decide) (by decide)
    simp [Join.fixed_pieces]
  have hwhere : Piece.Fixed (Piece.listed "\nWHERE " "\nAND " (s.predicates.map (·.pieces))) := by
    apply Piece.fixed_listed (by decide) (by decide)
    simp [Predicate.fixed_pieces]
  have horder : Piece.Fixed (Piece.listed "\nORDER BY " ", " (s.order.map (·.pieces))) := by
    apply Piece.fixed_listed (by decide) (by decide)
    simp [SortTerm.fixed_pieces]
  simp [pieces, hselect, hjoins, hwhere, horder, Piece.fixedTexts]

namespace Catalog

end Catalog

namespace Session

variable {Id Model : Type} {c : Catalog} {s : Session Id Model}

end Session
end Listing
