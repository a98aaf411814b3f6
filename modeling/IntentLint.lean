import IntentLint.Bench
import IntentLint.Files.Tree
import IntentLint.Settings.Session
import IntentLint.Main
import IntentLint.Proofs.Report
import IntentLint.Proofs.Linter.Tally
import IntentLint.Proofs.Linter.Delivery
import IntentLint.Proofs.Linter.Chains
import IntentLint.Proofs.Check.Clash
import IntentLint.Proofs.Text.Trim
import IntentLint.Proofs.Check.Bracket
import IntentLint.Proofs.Linter.Verdict
import IntentLint.Proofs.Batch.Loading
import IntentLint.Proofs.Text.Utf8
import IntentLint.Proofs.Batch.Containment
import IntentLint.Proofs.Json.Digits
import IntentLint.Proofs.Batch.Sources
import IntentLint.Proofs.Command.ExitCode
import IntentLint.Proofs.Batch.Isolation
import IntentLint.Proofs.Command.Formats
import IntentLint.Proofs.Edit.Trimmed
import IntentLint.Proofs.Edit.Repaired
import IntentLint.Proofs.Edit.Rearranged
import IntentLint.Proofs.Linter.Counts
import IntentLint.Proofs.Edit.Reordered
import IntentLint.Proofs.Edit.Shrunk
import IntentLint.Proofs.Model.Readings
import IntentLint.Proofs.Model.Grammar
import IntentLint.Proofs.Json.Names
import IntentLint.Proofs.Text.Numeral
import IntentLint.Proofs.Model.Faults
import IntentLint.Proofs.Model.Places
import IntentLint.Proofs.Edit.Rewritten
import IntentLint.Proofs.Json.Strict
import IntentLint.Proofs.Json.RoundTrip
import IntentLint.Proofs.Command.Payload
import IntentLint.Proofs.Batch.Visits
import IntentLint.Proofs.Batch.Coherence
import IntentLint.Proofs.Batch.Log
import IntentLint.Proofs.Command.Reasons
import IntentLint.Proofs.Text.OneLine
import IntentLint.Proofs.Linter.Stream
import IntentLint.Proofs.Check.Duplicate
import IntentLint.Proofs.Batch.Surroundings
import IntentLint.Proofs.Command.Logging
import IntentLint.Proofs.Settings.Session
import IntentLint.Proofs.Check.BraceLanguage
import IntentLint.Proofs.Check.OuterBlank
import IntentLint.Proofs.Check.KeptOwner
import IntentLint.Proofs.Text.Lowercase
import IntentLint.Proofs.Text.Key
import IntentLint.Proofs.Json.Bound
