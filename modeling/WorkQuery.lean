import WorkQuery.Column.Set
import WorkQuery.CompactForm.Filters
import WorkQuery.CompactForm.Sorts
import WorkQuery.Json.Writer
import WorkQuery.Log.Record
import WorkQuery.Log.Settings
import WorkQuery.Query.Document
import WorkQuery.Query.Preset
import WorkQuery.Saved.Store
import WorkQuery.Service.Answer
import WorkQuery.Service.Target
import WorkQuery.Sql.Statement
import WorkQuery.Table.Listing
import WorkQuery.Proofs.IntegerText
import WorkQuery.Proofs.Rounding
import WorkQuery.Proofs.NumberText
import WorkQuery.Proofs.WholeNumber
import WorkQuery.Proofs.LiteralTokens
import WorkQuery.Proofs.WhereClause
import WorkQuery.Proofs.DateText
import WorkQuery.Proofs.OperatorCode
import WorkQuery.Proofs.OperatorLanguage
import WorkQuery.Proofs.TypedFilter
import WorkQuery.Proofs.CompactRoundTrip
import WorkQuery.Proofs.DayCount
import WorkQuery.Proofs.StoredQuery
import WorkQuery.Proofs.ShownText
import WorkQuery.Proofs.QueryBody
import WorkQuery.Proofs.QueryTable
import WorkQuery.Proofs.FaultyRows
import WorkQuery.Proofs.ColumnForm
import WorkQuery.Proofs.LenientInteger
import WorkQuery.Proofs.DocumentForm
import WorkQuery.Proofs.ValidatedQuery
import WorkQuery.Proofs.FilterCondition
import WorkQuery.Proofs.DocumentMeaning
import WorkQuery.Proofs.Conjunction
import WorkQuery.Proofs.JoinedRows
import WorkQuery.Proofs.SelectedPage
import WorkQuery.Proofs.PrivateRows
import WorkQuery.Proofs.TableChange
import WorkQuery.Proofs.OwnedRows
import WorkQuery.Proofs.StoredCondition
import WorkQuery.Proofs.SavedRun
import WorkQuery.Proofs.CompactFailure
import WorkQuery.Proofs.DocumentFailure
import WorkQuery.Proofs.RequesterPlaceholder
import WorkQuery.Proofs.LiteralSearch
import WorkQuery.Proofs.WellFormedRows
import WorkQuery.Proofs.PageCount
import WorkQuery.Proofs.RowOrder
import WorkQuery.Proofs.Paging
import WorkQuery.Proofs.StoredOrder
import WorkQuery.Proofs.BoundValues
import WorkQuery.Proofs.PrescribedValue
import WorkQuery.Proofs.DroppedParts
import WorkQuery.Proofs.BareValue
import WorkQuery.Proofs.BuiltQuery
import WorkQuery.Proofs.SettledFilters
import WorkQuery.Proofs.BodyParts
import WorkQuery.Proofs.PatchedRows
import WorkQuery.Proofs.CreatedAndUpdated
import WorkQuery.Proofs.RebuiltQuery
import WorkQuery.Proofs.ListedRows
import WorkQuery.Proofs.DayOrder
import WorkQuery.Proofs.WholeDays
import WorkQuery.Proofs.OppositeConditions
import WorkQuery.Proofs.PageArithmetic
import WorkQuery.Proofs.RelativeSpelling
import WorkQuery.Proofs.ResolvedNames
import WorkQuery.Proofs.IntegerSpelling
import WorkQuery.Proofs.OrderClause
import WorkQuery.Proofs.ReorderedColumns
import WorkQuery.Proofs.NumberedColumns
import WorkQuery.Proofs.JoinClause
