import Toolset.Main
import Toolset.Log.Template
import Toolset.Proofs.Action
import Toolset.Proofs.History
import Toolset.Proofs.Telling
import Toolset.Proofs.Calls
import Toolset.Proofs.Waits
import Toolset.Proofs.Fetching
import Toolset.Proofs.Stages
import Toolset.Proofs.Source
import Toolset.Proofs.Installation
import Toolset.Proofs.Work
import Toolset.Proofs.Entries
import Toolset.Proofs.Walks
import Toolset.Proofs.Removal
import Toolset.Proofs.Acceptance
import Toolset.Proofs.Containment
import Toolset.Proofs.Release
import Toolset.Proofs.Conclusion
import Toolset.Proofs.Run
import Toolset.Proofs.Cleanup
import Toolset.Proofs.Reaping
import Toolset.Proofs.Accounting
import Toolset.Proofs.FailFast
import Toolset.Proofs.Likeness
import Toolset.Proofs.Agreement
import Toolset.Proofs.Isolation
import Toolset.Proofs.Masking
import Toolset.Proofs.Narration
import Toolset.Proofs.Chronicle
import Toolset.Proofs.Provenance
import Toolset.Proofs.Unfetched
import Toolset.Proofs.Interruptions
import Toolset.Proofs.Recounting
import Toolset.Proofs.Cancellation
import Toolset.Proofs.Counting
import Toolset.Proofs.Samples
import Toolset.Proofs.Metering
import Toolset.Proofs.Totals
import Toolset.Proofs.Endings
import Toolset.Proofs.Sessions
import Toolset.Proofs.ExitCodes
import Toolset.Proofs.Pushing
import Toolset.Proofs.Precedence
import Toolset.Proofs.Preparation
import Toolset.Proofs.Replay
import Toolset.Proofs.Frame
import Toolset.Proofs.Decoding
import Toolset.Proofs.Streaming
import Toolset.Proofs.Verdicts
import Toolset.Proofs.Killing
import Toolset.Proofs.Lines
import Toolset.Proofs.Results
import Toolset.Proofs.Decisions
import Toolset.Proofs.Keeping
import Toolset.Proofs.Delivery
import Toolset.Proofs.NormalForms
import Toolset.Proofs.Specifying
import Toolset.Proofs.Quoting
import Toolset.Proofs.Options
import Toolset.Proofs.Handover
import Toolset.Proofs.Correspondence
import Toolset.Proofs.Canonical
import Toolset.Proofs.Comparing
import Toolset.Proofs.Limits
import Toolset.Proofs.Buckets
import Toolset.Proofs.Folding
import Toolset.Proofs.Reporting
import Toolset.Proofs.Naming
import Toolset.Proofs.Reasons
import Toolset.Proofs.Vacancy
