import StatusDigest.Main
import StatusDigest.Files.Tree
import StatusDigest.Proofs.Text.Utf8
import StatusDigest.Proofs.Text.Repair
import StatusDigest.Proofs.Dump.Lines
import StatusDigest.Proofs.Dump.Reading
import StatusDigest.Proofs.Dump.Writing
import StatusDigest.Proofs.Dump.Repaired
import StatusDigest.Proofs.Decimal.Double
import StatusDigest.Proofs.Decimal.Text
import StatusDigest.Proofs.Stats.Series
import StatusDigest.Proofs.Stats.Counting
import StatusDigest.Proofs.Dump.Bracketing
import StatusDigest.Proofs.Snapshot.Folding
import StatusDigest.Proofs.Snapshot.Counts
import StatusDigest.Proofs.Snapshot.Consistency
import StatusDigest.Proofs.Mrtg.Names
import StatusDigest.Proofs.Report.Agreement
import StatusDigest.Proofs.Decimal.Rounding
import StatusDigest.Proofs.Decimal.Shortest
import StatusDigest.Proofs.Json.Numbers
import StatusDigest.Proofs.Json.Quoting
import StatusDigest.Proofs.Json.Acceptance
import StatusDigest.Proofs.Json.RoundTrip
import StatusDigest.Proofs.Snapshot.Json
import StatusDigest.Proofs.Snapshot.Interleaving
import StatusDigest.Proofs.Dump.Joining
import StatusDigest.Proofs.Dump.Failing
import StatusDigest.Proofs.Stats.Clamping
import StatusDigest.Proofs.Dump.Numbers
import StatusDigest.Proofs.Dump.LastBlock
import StatusDigest.Proofs.Mrtg.Figures
import StatusDigest.Proofs.Dump.Editing
import StatusDigest.Proofs.Dump.Rewriting
import StatusDigest.Proofs.Snapshot.Remarking
import StatusDigest.Proofs.CommandLine.Endings
import StatusDigest.Proofs.CommandLine.Overriding
import StatusDigest.Proofs.Stats.Sampling
import StatusDigest.Proofs.Text.Octets
import StatusDigest.Proofs.Decimal.Grammar
import StatusDigest.Proofs.Decimal.Numerals
import StatusDigest.Proofs.Dump.Values
import StatusDigest.Proofs.Snapshot.Slots
import StatusDigest.Proofs.CommandLine.Directives
import StatusDigest.Proofs.Snapshot.Ages
import StatusDigest.Proofs.Stats.Averages
import StatusDigest.Proofs.Snapshot.Samples
import StatusDigest.Proofs.Snapshot.Averages
import StatusDigest.Proofs.Decimal.Nearest
import StatusDigest.Proofs.Decimal.Operations
import StatusDigest.Proofs.Decimal.Thousandths
import StatusDigest.Proofs.Mrtg.Timings
import StatusDigest.Proofs.Mrtg.Lists
import StatusDigest.Proofs.Report.Durations
import StatusDigest.Proofs.Toml.Spelling
import StatusDigest.Proofs.Toml.Written
import StatusDigest.Proofs.Settings.Documents
