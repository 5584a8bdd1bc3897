import Listing.Json.Decode
import Listing.Text.FormEncoding

namespace Listing

structure Request where
  limit : UInt64 := 0
  page : UInt64 := 0
  search : String := ""
  /-- Each a key, an operator and values, as in `count in (1 2 3)`. -/
  filters : List String := []
  localFilters : List String := []
  /-- Each a key and a direction, as in `created_on desc`. -/
  sorts : List String := []
deriving DecidableEq, Repr

namespace Request

/-- The fields of a request's object. There is none for local filters. -/
def slots : List (Decoder.Slot Request) :=
  let texts := Decoder.sequence (Json.maxDepth - 1) .string
  [.optional "limit" .unsigned fun v r => { r with limit := v },
   .optional "page" .unsigned fun v r => { r with page := v },
   .optional "search" .string fun v r => { r with search := v },
   .optional "filters" texts fun v r => { r with filters := v },
   { Decoder.Slot.optional "sorts" texts fun v r => { r with sorts := v } with
     otherKeys := ["sort"] }]

def decode : Decoder Request := .record Json.maxDepth "struct Parameter" slots {}

def ofText (s : String) : Except DecodeError Request := decodeText decode s

def toJson (r : Request) : Json :=
  .object
    [("limit", .nat r.limit.toNat),
     ("page", .nat r.page.toNat),
     ("search", .string r.search),
     ("filters", .array (r.filters.map .string)),
     ("local_filters", .array (r.localFilters.map .string)),
     ("sorts", .array (r.sorts.map .string))]

def link (r : Request) : String :=
  let search := if r.search.isEmpty then [] else [("search", r.search)]
  "?" ++ Text.formPairs
    (("limit", toString r.limit.toNat) :: ("page", toString r.page.toNat) :: search)

end Request
end Listing
