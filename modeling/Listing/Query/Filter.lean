import Listing.Catalog.Basic
import Listing.Query.Refusal
import Listing.Query.Values

namespace Listing

inductive Comparison where
  | eq
  | ne
  | lt
  | lte
  | gt
  | gte
deriving DecidableEq, Repr

def Comparison.sign : Comparison → String
  | .eq => "="
  | .ne => "!="
  | .lt => "<"
  | .lte => "<="
  | .gt => ">"
  | .gte => ">="

inductive FilterOperator where
  | compare (op : Comparison)
  | among
deriving DecidableEq, Repr

def FilterOperator.ofName? (name : List Char) : Option FilterOperator :=
  if name = "eq".toList then some (.compare .eq)
  else if name = "ne".toList then some (.compare .ne)
  else if name = "lt".toList then some (.compare .lt)
  else if name = "lte".toList then some (.compare .lte)
  else if name = "gt".toList then some (.compare .gt)
  else if name = "gte".toList then some (.compare .gte)
  else if name = "in".toList then some .among
  else none

inductive FilterScope where
  | request
  | trusted
deriving DecidableEq, Repr

namespace FilterScope

def position : FilterScope → Nat → Position
  | .request, n => .filter n
  | .trusted, n => .localFilter n

def allows (scope : FilterScope) (f : Field) : Bool :=
  match scope with
  | .request => f.filterable
  | .trusted => f.filterable || f.localFilterable

end FilterScope

inductive FilterTest where
  | compare (op : Comparison) (value : Json)
  | among (values : List Json)
deriving DecidableEq, Repr

structure Filter where
  column : Column
  test : FilterTest
deriving DecidableEq, Repr

namespace Filter

def parts? (raw : List Char) : Option (List Char × List Char × List Char) := do
  let (key, rest) ← Text.cutAtBlank (Text.trim raw)
  let (operator, value) ← Text.cutAtBlank (Text.trimStart rest)
  if (Text.trim value).isEmpty then none else some (key, operator, value)

def test? (operator : FilterOperator) (kind : FieldKind) (value : List Char) :
    Option FilterTest := do
  let values ← (← splitValues value).mapM (typedValue kind)
  match operator, values with
  | .compare op, [v] => some (.compare op v)
  | .compare _, _ => none
  | .among, vs => some (.among vs)

def accept (c : Catalog) (scope : FilterScope) (raw : String) : Except Refusal Filter :=
  match parts? raw.toList with
  | none => .error .filterFormat
  | some (key, operator, value) =>
    match (c.indexed? (String.ofList key)).filter fun f => scope.allows f.field with
    | none => .error .filterField
    | some column => match FilterOperator.ofName? operator with
      | none => .error .filterOperator
      | some operator => match test? operator column.field.kind value with
        | none => .error (.filterValue column.field.kind)
        | some test => .ok ⟨column, test⟩

def accepted (c : Catalog) (scope : FilterScope) (raws : List String) : List Filter :=
  raws.filterMap fun raw => (accept c scope raw).toOption

def refused (c : Catalog) (scope : FilterScope) (raws : List String) :
    List (Position × Refusal) :=
  (raws.zipIdx 1).filterMap fun e => match accept c scope e.1 with
    | .error r => some (scope.position e.2, r)
    | .ok _ => none

end Filter
end Listing
