import Listing.Catalog.Joins
import Listing.Query.Filter
import Listing.Query.Sort

namespace Listing

def joinWith (separator : String) : List String → String
  | [] => ""
  | [s] => s
  | s :: t :: ss => s ++ separator ++ joinWith separator (t :: ss)

inductive SearchTest where
  | startsWith (column : Column) (argument : Nat)
  | contains (column : Column) (argument : Nat)
deriving DecidableEq, Repr

inductive Predicate where
  | anyOf (tests : List SearchTest)
  | compare (column : Column) (op : Comparison) (argument : Nat)
  | among (column : Column) (arguments : List Nat)
  | isFalse (column : Column)
  | idAmong (column : Column) (arguments : List Nat)
  | never
deriving DecidableEq, Repr

structure Join where
  isInner : Bool
  table : TableEntry
  foreignKey : Column
  referenceKey : Column
deriving DecidableEq, Repr

structure Statement where
  columns : List Column
  root : TableEntry
  joins : List Join
  predicates : List Predicate
  order : List SortTerm
deriving DecidableEq, Repr

structure Query where
  statement : Statement
  arguments : List Json
deriving DecidableEq

def placeholder (n : Nat) : String := "$" ++ toString n

def typedPlaceholder (kind : FieldKind) (n : Nat) : String :=
  match kind with
  | .date => placeholder n ++ "::timestamptz"
  | .numeric | .string | .boolean => placeholder n

def SearchTest.text : SearchTest → String
  | .startsWith f n => f.statement ++ "::text like " ++ placeholder n
  | .contains f n => "lower(" ++ f.statement ++ ") like " ++ placeholder n

def Predicate.text : Predicate → String
  | .anyOf [] => "(FALSE)"
  | .anyOf tests => "(" ++ joinWith " OR " (tests.map (·.text)) ++ ")"
  | .compare f op n =>
    f.comparand ++ " " ++ op.sign ++ " " ++ typedPlaceholder f.field.kind n
  | .among f ns =>
    f.comparand ++ " IN (" ++ joinWith "," (ns.map (typedPlaceholder f.field.kind)) ++ ")"
  | .isFalse f => f.statement ++ " is false"
  | .idAmong f ns => f.comparand ++ " IN (" ++ joinWith ", " (ns.map placeholder) ++ ")"
  | .never => "1 = 0"

def Join.text (j : Join) : String :=
  (if j.isInner then "JOIN " else "LEFT JOIN ") ++ j.table.statement ++ " ON " ++
    j.foreignKey.statement ++ " = " ++ j.referenceKey.statement

def SortTerm.text (t : SortTerm) : String := t.column.statement ++ " " ++ t.direction.keyword

namespace Statement

def selectText (s : Statement) : String :=
  "SELECT " ++ joinWith ", " (s.columns.map (·.statement)) ++ " FROM " ++ s.root.statement

def joinText (s : Statement) : String :=
  if s.joins.isEmpty then "" else "\n" ++ joinWith "\n" (s.joins.map (·.text))

def whereText (s : Statement) : String :=
  if s.predicates.isEmpty then ""
  else "\nWHERE " ++ joinWith "\nAND " (s.predicates.map (·.text))

def orderText (s : Statement) : String :=
  if s.order.isEmpty then "" else "\nORDER BY " ++ joinWith ", " (s.order.map (·.text))

def text (s : Statement) : String := s.selectText ++ s.joinText ++ s.whereText ++ s.orderText

theorem text_eq (s : Statement) :
    s.text = s.selectText ++ s.joinText ++ s.whereText ++ s.orderText := rfl

end Statement

namespace Catalog

/-- The join over a relation: an inner one if a row always has a related one, or if the table takes
part for its filters alone. -/
def join? (c : Catalog) (usage : UsageMap) (r : RelationEntry) : Option Join := do
  let table ← c.table? r.child
  let foreignKey ← c.column? r.foreignKey
  let referenceKey ← c.column? r.referenceKey
  some ⟨r.mandatory || (usage.get r.child).isOnly .filter, table, foreignKey, referenceKey⟩

def joins (c : Catalog) (usage : UsageMap) (purposes : UsageSet) : List Join :=
  (c.requiredRelations (usage.tablesWithAny purposes)).filterMap (c.join? usage)

end Catalog
end Listing
