import RowQuery.Json.Printer
import RowQuery.Json.Reader
import RowQuery.Main
import RowQuery.Memory.Basic
import RowQuery.Problem
import RowQuery.Query.Codec
import RowQuery.Sql.Adapt
import RowQuery.Sql.Evaluate
import RowQuery.Sql.Statement
import RowQuery.Proofs.Apply.Calls
import RowQuery.Proofs.Apply.Narrowing
import RowQuery.Proofs.Apply.Validate
import RowQuery.Proofs.Memory.Narrowed
import RowQuery.Proofs.Memory.Row
import RowQuery.Proofs.Memory.Sort
import RowQuery.Proofs.Memory.Sort.Stable
import RowQuery.Proofs.Memory.Sorted
import RowQuery.Proofs.Memory.Hidden
import RowQuery.Proofs.Number.Decimal
import RowQuery.Proofs.Query.Component
import RowQuery.Proofs.Query.WellFormed
import RowQuery.Proofs.Query.Reference
import RowQuery.Proofs.Memory.Compare
import RowQuery.Proofs.Query.Limits
import RowQuery.Proofs.Query.Rearranged
import RowQuery.Proofs.Query.Unsigned
import RowQuery.Proofs.Query.Size
import RowQuery.Proofs.Query.OrderBy
import RowQuery.Proofs.Memory.Order
import RowQuery.Proofs.Memory.Evaluate
import RowQuery.Proofs.Sql.Narrowed
import RowQuery.Proofs.Memory.Paged
import RowQuery.Proofs.Number.Units
import RowQuery.Proofs.Sql.Agreement
import RowQuery.Proofs.Sql.Continued
import RowQuery.Proofs.Memory.Series
import RowQuery.Proofs.Memory.Repeated
import RowQuery.Proofs.Memory.Uniform
import RowQuery.Proofs.Memory.Visible
import RowQuery.Proofs.CommandLine.Outcome
import RowQuery.Proofs.Json.Written
import RowQuery.Proofs.Apply.Verdict
import RowQuery.Proofs.Apply.DryRun
import RowQuery.Proofs.Apply.Reports
import RowQuery.Proofs.Settings.Environment
import RowQuery.Proofs.Settings.FromYaml
import RowQuery.Proofs.Settings.Layers
import RowQuery.Proofs.Settings.Merge
import RowQuery.Proofs.Settings.Hidden
import RowQuery.Proofs.Settings.ReadBack
import RowQuery.Proofs.Visibility.Inserted
