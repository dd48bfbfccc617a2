import TrackerAudit.Files.Tree
import TrackerAudit.Main
import TrackerAudit.Proofs.Classify.Case
import TrackerAudit.Proofs.Classify.Context
import TrackerAudit.Proofs.Classify.FanOut
import TrackerAudit.Proofs.Classify.Monotone
import TrackerAudit.Proofs.Classify.Order
import TrackerAudit.Proofs.Classify.Origins
import TrackerAudit.Proofs.Classify.Pool
import TrackerAudit.Proofs.Classify.Reason
import TrackerAudit.Proofs.Classify.Scope
import TrackerAudit.Proofs.Command.Arguments
import TrackerAudit.Proofs.Command.Frame
import TrackerAudit.Proofs.Command.Parts
import TrackerAudit.Proofs.Command.Steps
import TrackerAudit.Proofs.Compliance.Monotone
import TrackerAudit.Proofs.Compliance.Sets
import TrackerAudit.Proofs.Evidence.Directory
import TrackerAudit.Proofs.Files.Change
import TrackerAudit.Proofs.Files.Place
import TrackerAudit.Proofs.Host.Address
import TrackerAudit.Proofs.Host.Case
import TrackerAudit.Proofs.Host.Composed
import TrackerAudit.Proofs.Host.Domain
import TrackerAudit.Proofs.Host.SiteLabels
import TrackerAudit.Proofs.Host.Walk
import TrackerAudit.Proofs.Json.Lossless
import TrackerAudit.Proofs.Json.Number
import TrackerAudit.Proofs.Json.Text
import TrackerAudit.Proofs.Json.Value
import TrackerAudit.Proofs.Matching.Case
import TrackerAudit.Proofs.Matching.Folding
import TrackerAudit.Proofs.Matching.HostList
import TrackerAudit.Proofs.Matching.NegatedFlag
import TrackerAudit.Proofs.Matching.Partition
import TrackerAudit.Proofs.Matching.Scan
import TrackerAudit.Proofs.Matching.SchemeRelative
import TrackerAudit.Proofs.Pattern.Folding
import TrackerAudit.Proofs.Pattern.Pieces
import TrackerAudit.Proofs.Regex.Search
import TrackerAudit.Proofs.Rule.Accounting
import TrackerAudit.Proofs.Rule.Continuation
import TrackerAudit.Proofs.Rule.Domains
import TrackerAudit.Proofs.Rule.PatternText
import TrackerAudit.Proofs.Rule.Places
import TrackerAudit.Proofs.Rule.RawRegex
import TrackerAudit.Proofs.Rule.Restriction
import TrackerAudit.Proofs.Summary.Consistency
import TrackerAudit.Proofs.Summary.Occurrences
import TrackerAudit.Proofs.Summary.Ranking
import TrackerAudit.Proofs.Text.Letters
import TrackerAudit.Proofs.Text.Lower
import TrackerAudit.Rule.Source
