import Listing.Report
import Listing.Schema.Table

namespace Listing

inductive Position where
  | search
  | filter (n : Nat)
  | localFilter (n : Nat)
  | sort (n : Nat)
deriving DecidableEq, Repr

def Position.key : Position → String
  | .search => "search"
  | .filter n => "filters." ++ toString n
  | .localFilter n => "localFilters." ++ toString n
  | .sort n => "sorts." ++ toString n

inductive Refusal where
  | noSearchFields
  | filterFormat
  | filterField
  | filterOperator
  | filterValue (kind : FieldKind)
  | sortFormat
  | sortField
  | sortDuplicate (key : String)
  | sortDirection
deriving DecidableEq, Repr

def Refusal.message : Refusal → String
  | .noSearchFields => "no available search fields for this entity"
  | .filterFormat => "invalid format"
  | .filterField => "invalid field"
  | .filterOperator => "invalid operator"
  | .filterValue kind => "value must be a valid " ++ kind.name ++ " format"
  | .sortFormat => "invalid sorts format"
  | .sortField => "invalid sorts field"
  | .sortDuplicate key => "duplicate with \"" ++ key ++ "\" field"
  | .sortDirection => "invalid sorts operator"

def Report.ofRefusals (rs : List (Position × Refusal)) : Report :=
  ⟨rs.map fun r => ⟨r.1.key, [r.2.message]⟩⟩

end Listing
