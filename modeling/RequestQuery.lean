import RequestQuery.Cast.Codec
import RequestQuery.SelectPage
import RequestQuery.Definition.Describe
import RequestQuery.Distinct
import RequestQuery.Request
import RequestQuery.Settings.Layers
import RequestQuery.Proofs.BoundValues
import RequestQuery.Proofs.Definition.LastDeclaration
import RequestQuery.Proofs.Distinct.NullsLast
import RequestQuery.Proofs.Definition.Addons
import RequestQuery.Proofs.Json.RoundTrip
import RequestQuery.Proofs.Calendar.NumericField
import RequestQuery.Proofs.Calendar.DatePattern
import RequestQuery.Proofs.Calendar.LeapSecond
import RequestQuery.Proofs.Calendar.StrictDate
import RequestQuery.Proofs.Calendar.LenientDate
import RequestQuery.Proofs.Calendar.YearFirst
import RequestQuery.Proofs.Calendar.DayNumber
import RequestQuery.Proofs.Cast.ShownText
import RequestQuery.Proofs.Cast.DateOnly
import RequestQuery.Proofs.Cast.Timestamp
import RequestQuery.Proofs.Cast.Agreement
import RequestQuery.Proofs.Cast.ExtendedDocument
import RequestQuery.Proofs.Cast.MonthYear
import RequestQuery.Proofs.Cast.EpochDigits
import RequestQuery.Proofs.Filter.Items
import RequestQuery.Proofs.Filter.Bounds
import RequestQuery.Proofs.Filter.Marks
import RequestQuery.Proofs.Request.Directives
import RequestQuery.Proofs.Request.Effect
import RequestQuery.Proofs.Filter.Months
import RequestQuery.Proofs.Filter.NamedOperator
import RequestQuery.Proofs.Distinct.Requirements
import RequestQuery.Proofs.Distinct.Assembly
import RequestQuery.Proofs.Distinct.Spelling
import RequestQuery.Proofs.Filter.SoloOperator
import RequestQuery.Proofs.Number.Ladder
import RequestQuery.Proofs.Number.Rounding
import RequestQuery.Proofs.Number.Grammar
import RequestQuery.Proofs.Filter.Operand
import RequestQuery.Proofs.Number.WholeNumber
import RequestQuery.Proofs.Sql.Numeric
import RequestQuery.Proofs.Distinct.IntegerPlace
import RequestQuery.Proofs.Column.Levels
import RequestQuery.Proofs.Definition.FieldMap
import RequestQuery.Proofs.Definition.SpelledOut
import RequestQuery.Proofs.Request.Listing
import RequestQuery.Proofs.Column.Display
import RequestQuery.Proofs.Selection.Pages
import RequestQuery.Proofs.Selection.Labels
