import RowExpr.Codec.Dialect
import RowExpr.Codec.Host
import RowExpr.CommandLine.Run
import RowExpr.Decimal.Reader
import RowExpr.Main
import RowExpr.Settings.EnvFile
import RowExpr.Sql.Limit
import RowExpr.Sql.OrderBy
import RowExpr.Proofs.Sql.NullOrder
import RowExpr.Proofs.Sql.Vocabulary
import RowExpr.Proofs.Sql.CatalogReading
import RowExpr.Proofs.Host.Soundness
import RowExpr.Proofs.Host.MissingImplementors
import RowExpr.Proofs.Host.Nullability
import RowExpr.Proofs.Host.NullReading
import RowExpr.Proofs.Host.NullGuarantee
import RowExpr.Proofs.Node.Built
import RowExpr.Proofs.Codec.FieldOrder
import RowExpr.Proofs.Codec.RoundTrip
import RowExpr.Proofs.Operator.Registration
import RowExpr.Proofs.Sql.StepTokens
import RowExpr.Proofs.Sql.StringContents
import RowExpr.Proofs.Sql.TrimPattern
import RowExpr.Proofs.Sql.Override
import RowExpr.Proofs.Sql.Context
import RowExpr.Proofs.Sql.Minimality
import RowExpr.Proofs.Sql.Raise
import RowExpr.Proofs.Sql.Spelling
import RowExpr.Proofs.Document.Resolution
import RowExpr.Proofs.Host.NullTests
import RowExpr.Proofs.Sql.SortKeys
import RowExpr.Proofs.Host.Invocations
import RowExpr.Proofs.Host.MethodCalls
import RowExpr.Proofs.Host.Substring
import RowExpr.Proofs.Host.ThreeValued
import RowExpr.Proofs.Host.Overloads
import RowExpr.Proofs.Operator.Promotion
import RowExpr.Proofs.Operator.ExactNumbers
import RowExpr.Proofs.Sql.RowLimit
import RowExpr.Proofs.Sql.ColumnText
import RowExpr.Proofs.Codec.HostExpression
import RowExpr.Proofs.Host.Comparison
import RowExpr.Proofs.Sql.Spacing
import RowExpr.Proofs.Sql.Quoting
import RowExpr.Proofs.Host.Division
import RowExpr.Proofs.Dialect.VersionGrammar
import RowExpr.Proofs.Sql.StringPlaces
