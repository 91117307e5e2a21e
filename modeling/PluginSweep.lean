import PluginSweep.Main
import PluginSweep.Rehearsal.Basic
import PluginSweep.Rehearsal.Shell
import PluginSweep.Proofs.Dialogue.Run
import PluginSweep.Proofs.Dialogue.Work
import PluginSweep.Proofs.Probe.Trial
import PluginSweep.Proofs.Probe.Restoration
import PluginSweep.Proofs.Request.History
import PluginSweep.Proofs.Check.Scan
import PluginSweep.Proofs.Check.Batch
import PluginSweep.Proofs.Sweep.Sources
import PluginSweep.Proofs.Sweep.Survey
import PluginSweep.Proofs.Sweep.Harmless
import PluginSweep.Proofs.Walk.Candidate
import PluginSweep.Proofs.Sweep.Conclusion
import PluginSweep.Proofs.Sweep.Gate
import PluginSweep.Proofs.FileSystem.Write
import PluginSweep.Proofs.CommandLine.Session
import PluginSweep.Proofs.CommandLine.Interruption
import PluginSweep.Proofs.FileSystem.Below
import PluginSweep.Proofs.Walk.Exclusion
import PluginSweep.Proofs.CommandLine.ReportBase
import PluginSweep.Proofs.Probe.Course
import PluginSweep.Proofs.Probe.Verdict
import PluginSweep.Proofs.FileSystem.DeadEnd
import PluginSweep.Proofs.FileSystem.Canonical
import PluginSweep.Proofs.FileSystem.Thinning
import PluginSweep.Proofs.Lock.LockFile
import PluginSweep.Proofs.Lock.Custody
import PluginSweep.Proofs.Lock.Exclusion
import PluginSweep.Proofs.Lock.Refusal
import PluginSweep.Proofs.Report.Writing
import PluginSweep.Proofs.Report.Clearing
import PluginSweep.Proofs.Tool.Execution
import PluginSweep.Proofs.Request.Garbled
import PluginSweep.Proofs.Sweep.Failure
import PluginSweep.Proofs.Sweep.Reports
import PluginSweep.Proofs.Sweep.Completion
import PluginSweep.Proofs.Sweep.Structure
import PluginSweep.Proofs.Sweep.Sparing
import PluginSweep.Proofs.CommandLine.Sparing
import PluginSweep.Proofs.Sweep.Faithful
import PluginSweep.Proofs.Sweep.Recorded
import PluginSweep.Proofs.Sweep.Snapshot
import PluginSweep.Proofs.Sweep.Independence
import PluginSweep.Proofs.Sweep.Steps
import PluginSweep.Proofs.Sweep.Cut
import PluginSweep.Proofs.FileSystem.Links
import PluginSweep.Proofs.Walk.Trail
import PluginSweep.Proofs.Walk.Reach
import PluginSweep.Proofs.Walk.Coverage
import PluginSweep.Proofs.Dialogue.Partial
import PluginSweep.Proofs.Probe.Questions
import PluginSweep.Proofs.Request.Said
import PluginSweep.Proofs.Sweep.Approach
import PluginSweep.Proofs.Sweep.Stage
import PluginSweep.Proofs.Sweep.Passage
import PluginSweep.Proofs.Sweep.Account
import PluginSweep.Proofs.Together.Config
import PluginSweep.Proofs.Together.Order
import PluginSweep.Proofs.Together.Undisturbed
import PluginSweep.Proofs.Report.Contents
import PluginSweep.Proofs.Report.Numbers
import PluginSweep.Proofs.Sweep.Entries
import PluginSweep.Proofs.Sweep.Filing
import PluginSweep.Proofs.Sweep.Numbers
import PluginSweep.Proofs.FileSystem.Grounded
import PluginSweep.Proofs.FileSystem.Resolved
import PluginSweep.Proofs.Report.Again
import PluginSweep.Proofs.Walk.Again
import PluginSweep.Proofs.Report.Furnished
import PluginSweep.Proofs.Sweep.Again
import PluginSweep.Proofs.CommandLine.Again
import PluginSweep.Proofs.Text.Lines
import PluginSweep.Proofs.Text.Utf8
import PluginSweep.Proofs.Pattern.Match
import PluginSweep.Proofs.Pattern.Call
import PluginSweep.Proofs.Rule.Lines
import PluginSweep.Proofs.Rule.Bytes
import PluginSweep.Proofs.Sweep.Layout
import PluginSweep.Proofs.Text.Newlines
import PluginSweep.Proofs.Rule.Newlines
import PluginSweep.Proofs.Rule.Numbering
import PluginSweep.Proofs.Walk.Precedence
import PluginSweep.Proofs.Walk.Pruning
import PluginSweep.Proofs.Walk.Relisting
import PluginSweep.Proofs.Walk.Segments
import PluginSweep.Proofs.Report.Itemized
import PluginSweep.Proofs.Tool.Lint
import PluginSweep.Proofs.Sweep.Lint
import PluginSweep.Proofs.Probe.Outcome
import PluginSweep.Proofs.Sweep.Denial
import PluginSweep.Proofs.Text.Occurrence
import PluginSweep.Proofs.Check.Reported
import PluginSweep.Proofs.Check.Handlers
import PluginSweep.Proofs.Check.Translations
import PluginSweep.Proofs.Text.Case
import PluginSweep.Proofs.Pattern.Case
import PluginSweep.Proofs.Rule.Case
import PluginSweep.Proofs.Check.Secrets
import PluginSweep.Proofs.Check.Credentials
import PluginSweep.Proofs.FileSystem.Denotes
import PluginSweep.Proofs.FileSystem.Meaning
import PluginSweep.Proofs.Target.Canonical
import PluginSweep.Proofs.Target.Refusal
import PluginSweep.Proofs.CommandLine.Refusal
import PluginSweep.Proofs.Rehearsal.Course
import PluginSweep.Proofs.Rehearsal.Format
import PluginSweep.Proofs.Rehearsal.Shell
