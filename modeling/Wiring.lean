import Wiring.Logging.EffectiveLevel
import Wiring.Logging.Subscriber
import Wiring.Proofs.Properties.RoundTrip
import Wiring.Proofs.Records.Lines
import Wiring.Proofs.Resolution.Soundness
import Wiring.Registry
import Wiring.Settings.Load
import Wiring.Proofs.Resolution.Selectors
import Wiring.Proofs.Records.Reordered
import Wiring.Proofs.Resolution.ModuleOrder
import Wiring.Proofs.Instantiation.Group
import Wiring.Proofs.Properties.Failures
import Wiring.Proofs.Loader
import Wiring.Proofs.Registry.Runs
import Wiring.Proofs.Registry.History
import Wiring.Proofs.Registry.Identity
import Wiring.Proofs.Records.Locality
import Wiring.Proofs.Definition.RoundTrip
import Wiring.Proofs.Records.Rewritten
import Wiring.Proofs.Resolution.Pinned
import Wiring.Proofs.Diagnostics.Warnings
import Wiring.Proofs.Resolution.Misses
import Wiring.Proofs.Interleaved
import Wiring.Proofs.Resolution.Isolation
import Wiring.Proofs.Diagnostics.Interjected
import Wiring.Proofs.Resolution.Exclusion
import Wiring.Proofs.Diagnostics.Alike
import Wiring.Proofs.Resolution.Routine
import Wiring.Proofs.Resolution.Verbosity
import Wiring.Proofs.Loader.Reporting
import Wiring.Proofs.Records.Names
import Wiring.Proofs.Loader.Handed
import Wiring.Proofs.Registry.SingleFlight
import Wiring.Proofs.Registry.Invalidation
import Wiring.Proofs.Resolution.OwnText
import Wiring.Proofs.Properties.Continuation
import Wiring.Proofs.Properties.CodePoints
import Wiring.Proofs.Instantiation.ParameterPath
import Wiring.Proofs.Registry.Contexts
import Wiring.Proofs.Settings.TextForms
import Wiring.Proofs.Settings.Priority
import Wiring.Proofs.Settings.Decisions
import Wiring.Proofs.Logging.Precedence
import Wiring.Proofs.Logging.EngineTargets
import Wiring.Proofs.Properties.Backslashes
import Wiring.Proofs.Properties.InsertionOrder
