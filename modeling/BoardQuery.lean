import BoardQuery.Main
import BoardQuery.Api.Handler
import BoardQuery.Configuration
import BoardQuery.Proofs.Api.CanonicalValues
import BoardQuery.Proofs.Json.Bytes
import BoardQuery.Proofs.Query.CursorCodec
import BoardQuery.Proofs.Query.PageChain
import BoardQuery.Proofs.Filter.Operands
import BoardQuery.Proofs.Calendar.DayNumbers
import BoardQuery.Proofs.Calendar.TextOrder
import BoardQuery.Proofs.Calendar.ByteOrder
import BoardQuery.Proofs.Filter.Rebuild
import BoardQuery.Proofs.Json.Occurrences
import BoardQuery.Proofs.Query.Complements
import BoardQuery.Proofs.Query.Emptiness
import BoardQuery.Proofs.Query.Membership
import BoardQuery.Proofs.Query.StaleFilters
import BoardQuery.Proofs.Query.WrittenValues
import BoardQuery.Proofs.Filter.ValidFilters
import BoardQuery.Proofs.Value.Conforming
import BoardQuery.Proofs.Query.FilterMeaning
import BoardQuery.Proofs.Query.Chronology
import BoardQuery.Proofs.Service.OneByOne
import BoardQuery.Proofs.Service.Savepoints
import BoardQuery.Proofs.Service.StampListings
import BoardQuery.Proofs.Service.StaleListings
import BoardQuery.Proofs.Api.FailedRequests
import BoardQuery.Proofs.Api.Noninterference
import BoardQuery.Proofs.Api.ValueTable
import BoardQuery.Proofs.Api.PrivateFilters
import BoardQuery.Proofs.Api.CarriedFilters
import BoardQuery.Proofs.Api.Admission
import BoardQuery.Proofs.Api.RequiredValues
import BoardQuery.Proofs.Number.Overflow
import BoardQuery.Proofs.Value.Faults
import BoardQuery.Proofs.Filter.Faults
import BoardQuery.Proofs.Filter.WireForm
import BoardQuery.Proofs.Api.BulkPreviews
import BoardQuery.Proofs.Query.CursorKeys
import BoardQuery.Proofs.Api.CursorRequests
import BoardQuery.Proofs.Service.BatchOutcomes
import BoardQuery.Proofs.Api.BulkFrame
import BoardQuery.Proofs.Service.Labels
import BoardQuery.Proofs.Api.BulkMoves
import BoardQuery.Proofs.Api.BulkBatches
import BoardQuery.Proofs.Api.LabelRequests
import BoardQuery.Proofs.Filter.IssuePaths
import BoardQuery.Proofs.Filter.Agreement
import BoardQuery.Proofs.Api.SetsOfValues
import BoardQuery.Proofs.Api.PageNumbers
import BoardQuery.Proofs.Query.ParameterRules
import BoardQuery.Proofs.Query.PickedColumns
