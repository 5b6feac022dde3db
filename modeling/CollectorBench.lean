import CollectorBench.Drawing.Sheet
import CollectorBench.Files.Outline
import CollectorBench.Main
import CollectorBench.Results.Writer
import CollectorBench.Synthetic.Measurements
import CollectorBench.Proofs.Harness.StaleResults
import CollectorBench.Proofs.Labels.Completeness
import CollectorBench.Proofs.Results.RoundTrip
import CollectorBench.Proofs.Harness.RunProtocol
import CollectorBench.Proofs.Chart.Colours
import CollectorBench.Proofs.Chart.Axes
import CollectorBench.Proofs.Chart.Panels
import CollectorBench.Proofs.Chart.Drawable
import CollectorBench.Proofs.CommandLine.Printed
import CollectorBench.Proofs.CommandLine.RoundTrip
import CollectorBench.Proofs.Results.Attribution
import CollectorBench.Proofs.Labels.InputOrder
import CollectorBench.Proofs.Labels.FilesAndSets
import CollectorBench.Proofs.Labels.Names
import CollectorBench.Proofs.Labels.Numbering
import CollectorBench.Proofs.Number.Finite
import CollectorBench.Proofs.Number.Doubles
import CollectorBench.Proofs.Number.Rounding
import CollectorBench.Proofs.Number.Arithmetic
import CollectorBench.Proofs.Number.Magnitudes
import CollectorBench.Proofs.Report.Decoder
import CollectorBench.Proofs.Report.Decoding
import CollectorBench.Proofs.Number.ShortestDigits
import CollectorBench.Proofs.Report.Numbers
import CollectorBench.Proofs.Report.Summary
import CollectorBench.Proofs.Harness.ExitPolicies
import CollectorBench.Proofs.CommandLine.AllOrNothing
import CollectorBench.Proofs.Results.Layout
import CollectorBench.Proofs.Chart.Categories
import CollectorBench.Proofs.Labels.Search
import CollectorBench.Proofs.Number.Overflow
import CollectorBench.Proofs.Chart.Whiskers
import CollectorBench.Proofs.Chart.ProperRanges
import CollectorBench.Proofs.CommandLine.CatalogWord
import CollectorBench.Proofs.CommandLine.Leading
import CollectorBench.Proofs.Number.Grammar
import CollectorBench.Proofs.Results.DataLine
import CollectorBench.Proofs.Results.SummaryLine
import CollectorBench.Proofs.Files.Removal
import CollectorBench.Proofs.Harness.Workloads
import CollectorBench.Proofs.Report.TableRows
import CollectorBench.Proofs.Report.CallCounts
import CollectorBench.Proofs.Labels.Priority
import CollectorBench.Proofs.Synthetic.Prefixes
import CollectorBench.Proofs.Drawing.Coverage
import CollectorBench.Proofs.Files.ReadOrder
