import Fanout.Json.Reader
import Fanout.Number.Shortest
import Fanout.Pipeline.Session
import Fanout.Pipeline.Launch
import Fanout.SharedCounters
import Fanout.Environment
import Fanout.SocketAddress
import Fanout.Json.Shape
import Fanout.Config.Forms
import Fanout.Workload
import Fanout.Runner
import Fanout.Main
import Fanout.Proofs.Pipeline.Rules
import Fanout.Proofs.SharedCounters
import Fanout.Proofs.Pipeline.Run
import Fanout.Proofs.Pipeline.Plan
import Fanout.Proofs.Pipeline.Wiring
import Fanout.Proofs.Pipeline.Tickets
import Fanout.Proofs.Pipeline.Places
import Fanout.Proofs.Pipeline.Conservation
import Fanout.Proofs.Pipeline.Supply
import Fanout.Proofs.Pipeline.Shutdown
import Fanout.Proofs.Pipeline.Verdict
import Fanout.Proofs.Pipeline.Progress
import Fanout.Proofs.Pipeline.Termination
import Fanout.Proofs.Pipeline.Return
import Fanout.Proofs.Pipeline.Reports
import Fanout.Proofs.Pipeline.Scheduled
import Fanout.Proofs.Pipeline.Backpressure
import Fanout.Proofs.Pipeline.History
import Fanout.Proofs.Pipeline.Packets
import Fanout.Proofs.Pipeline.Late
import Fanout.Proofs.Pipeline.Compensation
import Fanout.Proofs.Pipeline.Fates
import Fanout.Proofs.Pipeline.Reasons
import Fanout.Proofs.Pipeline.Independence
import Fanout.Proofs.Pipeline.SingleWorker
import Fanout.Proofs.Pipeline.Crashes
import Fanout.Proofs.Pipeline.Closing
import Fanout.Proofs.Pipeline.Takings
import Fanout.Proofs.Pipeline.Metrics
import Fanout.Proofs.Pipeline.Livelock
import Fanout.Proofs.Pipeline.Calls
import Fanout.Proofs.Pipeline.Lockstep
import Fanout.Proofs.Json.Written
import Fanout.Proofs.SocketAddress.Scan
import Fanout.Proofs.SocketAddress.Display
import Fanout.Proofs.Config.Faithful
import Fanout.Proofs.Config.RoundTrip
import Fanout.Proofs.Settings.Names
import Fanout.Proofs.Settings.Entries
import Fanout.Proofs.Settings.Leaves
import Fanout.Proofs.Settings.Variables
import Fanout.Proofs.Settings.Precedence
import Fanout.Proofs.Number.Rounding
import Fanout.Proofs.Text.Utf8
import Fanout.Proofs.Text.Lines
import Fanout.Proofs.Settings.Files
import Fanout.Proofs.Config.Held
import Fanout.Proofs.Settings.Reload
import Fanout.Proofs.Pipeline.Draining
import Fanout.Proofs.Pipeline.Intake
import Fanout.Proofs.Pipeline.Crew
import Fanout.Proofs.Pipeline.Timers
import Fanout.Proofs.Pipeline.Driven
import Fanout.Proofs.Pipeline.Launch
import Fanout.Proofs.Pipeline.Resolution
import Fanout.Proofs.Signal.Broadcast
import Fanout.Proofs.Settings.Selection
import Fanout.Proofs.Environment
import Fanout.Proofs.Workload
import Fanout.Proofs.Overriding
import Fanout.Proofs.Failure.Sameness
import Fanout.Proofs.Failure.Kind
import Fanout.Proofs.Failure.Rendering
import Fanout.Proofs.Json.Grammar
import Fanout.Proofs.Config.Spelling
import Fanout.Proofs.Config.Record
import Fanout.Proofs.Config.AnyForm
import Fanout.Proofs.Pipeline.Abandon
