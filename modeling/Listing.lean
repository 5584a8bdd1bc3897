import Listing.Schema.Load
import Listing.Catalog.Build
import Listing.Database.Result
import Listing.Proofs.JoinResolution
import Listing.Proofs.QueryScope
import Listing.Proofs.OuterJoins
import Listing.Proofs.Placeholders
import Listing.Proofs.Conditions
import Listing.Proofs.ValueIndependence
import Listing.Proofs.WhereText
import Listing.Proofs.RequestParts
import Listing.Proofs.JsonText
import Listing.Proofs.Capabilities
import Listing.Proofs.RowConditions
import Listing.Proofs.NarrowedJoins
import Listing.Proofs.PageRows
import Listing.Proofs.Flattening
import Listing.Proofs.RowObjects
import Listing.Proofs.RequestKeys
import Listing.Proofs.WalkOrder
import Listing.Proofs.Acceptance
import Listing.Proofs.DerivedLists
import Listing.Proofs.RequestUsage
import Listing.Proofs.LatestCalls
import Listing.Proofs.PageSlices
import Listing.Proofs.PagerRuns
import Listing.Proofs.Refusals
import Listing.Proofs.FilterPass
import Listing.Proofs.FilterText
import Listing.Proofs.ColumnNames
import Listing.Proofs.LowerForms
import Listing.Proofs.SearchPass
import Listing.Proofs.SearchPatterns
import Listing.Proofs.ValueTokens
import Listing.Proofs.ValueLists
import Listing.Proofs.Numerals
import Listing.Proofs.ArgumentKinds
import Listing.Proofs.OperandTypes
import Listing.Proofs.IdPredicates
import Listing.Proofs.IntegerIds
import Listing.Proofs.FailedRuns
import Listing.Proofs.GroupedMessages
import Listing.Proofs.PagingLinks
import Listing.Proofs.SchemaForms
import Listing.Proofs.ArenaSessions
import Listing.Proofs.UsageRuns
