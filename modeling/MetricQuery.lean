import MetricQuery.Codec.Config
import MetricQuery.Codec.Formula
import MetricQuery.Codec.Request
import MetricQuery.Codec.Samples
import MetricQuery.Formula.Cursor
import MetricQuery.Retrieval.Plan
import MetricQuery.Proofs.Formula.Acceptance
import MetricQuery.Proofs.Retrieval.Range
import MetricQuery.Proofs.Time.Agreement
import MetricQuery.Proofs.Time.Change
import MetricQuery.Proofs.Time.Fit
import MetricQuery.Proofs.Time.Table
import MetricQuery.Proofs.Time.Calm
import MetricQuery.Proofs.Formula.Pointwise
import MetricQuery.Proofs.Time.Aligned
import MetricQuery.Proofs.Time.Paced
import MetricQuery.Proofs.Time.Days
import MetricQuery.Proofs.Time.Intervals
import MetricQuery.Proofs.Retrieval.Formulas
import MetricQuery.Proofs.Time.Fixed
import MetricQuery.Proofs.Retrieval.Split
import MetricQuery.Proofs.Formula.Lexing
import MetricQuery.Proofs.Retrieval.Sources
import MetricQuery.Proofs.Pipeline.Sequence
import MetricQuery.Proofs.Retrieval.Failures
import MetricQuery.Proofs.Formula.Spelling
import MetricQuery.Proofs.Formula.Descent
import MetricQuery.Proofs.Formula.Offence
import MetricQuery.Proofs.Formula.Literals
import MetricQuery.Proofs.Formula.Printing
import MetricQuery.Proofs.Series.Window
import MetricQuery.Proofs.Series.TwoSteps
import MetricQuery.Proofs.Series.Projection
import MetricQuery.Proofs.Series.Totals
import MetricQuery.Proofs.Formula.Missing
import MetricQuery.Proofs.Formula.Asking
import MetricQuery.Proofs.Formula.Lossless
import MetricQuery.Proofs.Formula.Pushback
import MetricQuery.Proofs.Partition
import MetricQuery.Proofs.Time.Dates
import MetricQuery.Proofs.Store.Listing
import MetricQuery.Proofs.Retrieval.NodeGrid
import MetricQuery.Proofs.Pipeline.Branching
import MetricQuery.Proofs.Codec.RoundTrip
import MetricQuery.Proofs.Formula.Respacing
import MetricQuery.Proofs.Store.Known
import MetricQuery.Proofs.Series.Extremes
import MetricQuery.Proofs.Time.Walk
