import Switchboard.Bytes
import Switchboard.Enumerated
import Switchboard.Keyed
import Switchboard.Handle
import Switchboard.Transfer.FileId
import Switchboard.Transfer.Table
import Switchboard.Text.Decimal
import Switchboard.Text.Blank
import Switchboard.Text.Hex
import Switchboard.Time.Timestamp
import Switchboard.Time.Text
import Switchboard.Json
import Switchboard.Json.Writer
import Switchboard.Json.Reader
import Switchboard.Json.Field
import Switchboard.Event
import Switchboard.Event.Queue
import Switchboard.Event.Wire
import Switchboard.Failure
import Switchboard.Violation
import Switchboard.Error
import Switchboard.Error.Wire
import Switchboard.Options
import Switchboard.Options.Wire
import Switchboard.Log
import Switchboard.Log.Wire
import Switchboard.Run
import Switchboard.Notification
import Switchboard.Notification.Wire
import Switchboard.Engine
import Switchboard.Session
import Switchboard.Session.Interpretation
import Switchboard.Session.Pass
import Switchboard.Session.Request
import Switchboard.Registry
import Switchboard.Registry.Config
import Switchboard.Guard
import Switchboard.Bridge
import Switchboard.Simulation
import Switchboard.Simulation.SimulatedEngine
import Switchboard.Simulation.Report
import Switchboard.Simulation.FaultyEngine
import Switchboard.Simulation.SimulatedFactory
import Switchboard.Telemetry
import Switchboard.Proofs.Run
import Switchboard.Proofs.Recorded
import Switchboard.Proofs.Registry.Slots
import Switchboard.Proofs.Registry.Operations
import Switchboard.Proofs.Registry.Change
import Switchboard.Proofs.Registry.Upkeep
import Switchboard.Proofs.Registry.Admission
import Switchboard.Proofs.Registry.Command
import Switchboard.Proofs.Registry.Handles
import Switchboard.Proofs.Transfer.Remote
import Switchboard.Proofs.Session.Parallel
import Switchboard.Proofs.Session.Agreement
import Switchboard.Proofs.Session.Translation
import Switchboard.Proofs.Session.Pass
import Switchboard.Proofs.Bridge.Delivery
import Switchboard.Proofs.Registry.Tally
import Switchboard.Proofs.Registry.Removal
import Switchboard.Proofs.Session.Moments
import Switchboard.Proofs.Transfer.Course
import Switchboard.Proofs.Session.Effects
import Switchboard.Proofs.Session.Accomplished
import Switchboard.Proofs.Bridge.Moments
import Switchboard.Proofs.Bridge.Accomplished
import Switchboard.Proofs.Bridge.Download
import Switchboard.Proofs.Bridge.Upload
import Switchboard.Proofs.Bridge.Transfers
import Switchboard.Proofs.Bridge.Markers
import Switchboard.Proofs.Bridge.DownloadEnd
import Switchboard.Proofs.Bridge.Offsets
import Switchboard.Proofs.Session.Built
import Switchboard.Proofs.Registry.Capacity
import Switchboard.Proofs.Registry.Separation
import Switchboard.Proofs.Bridge.Separation
import Switchboard.Proofs.Bridge.Disabled
import Switchboard.Proofs.Bridge.Contiguous
import Switchboard.Proofs.Simulation.Disguised
import Switchboard.Proofs.Simulation.Steady
import Switchboard.Proofs.Session.Calm
import Switchboard.Proofs.Bridge.Calm
import Switchboard.Proofs.Bridge.Injection
import Switchboard.Proofs.Session.Shim
import Switchboard.Proofs.Registry.Parallel
import Switchboard.Proofs.Bridge.Shim
import Switchboard.Proofs.Json.RoundTrip
import Switchboard.Proofs.Json.Field
import Switchboard.Proofs.Time.RoundTrip
import Switchboard.Proofs.Event.RoundTrip
import Switchboard.Proofs.ErrorLog
import Switchboard.Proofs.Registry.Deeds
import Switchboard.Proofs.Registry.Enduring
import Switchboard.Proofs.Registry.Shutdown
import Switchboard.Proofs.Registry.Guards
import Switchboard.Proofs.Session.Asked
import Switchboard.Proofs.Session.Atomic
import Switchboard.Proofs.Session.Refusals
import Switchboard.Proofs.Bridge.Failed
import Switchboard.Proofs.Session.ErrorLog
import Switchboard.Proofs.Registry.ErrorLog
import Switchboard.Proofs.Bridge.ErrorLog
import Switchboard.Proofs.Session.Codes
import Switchboard.Proofs.Bridge.Codes
import Switchboard.Proofs.Session.Closing
import Switchboard.Proofs.Bridge.Passes
import Switchboard.Proofs.Bridge.Closing
import Switchboard.Proofs.Transfer.Lingering
import Switchboard.Proofs.Bridge.Lingering
import Switchboard.Proofs.Transfer.Outstanding
import Switchboard.Proofs.Bridge.Outstanding
import Switchboard.Proofs.Options.Plan
import Switchboard.Proofs.Bridge.Creation
import Switchboard.Proofs.Transfer.Named
import Switchboard.Proofs.Bridge.Named
import Switchboard.Proofs.Transfer.Sizes
import Switchboard.Proofs.Bridge.Sizes
import Switchboard.Proofs.Options.RoundTrip
import Switchboard.Proofs.Keyed
import Switchboard.Proofs.Simulation.Holdings
import Switchboard.Proofs.Simulation.Friends
import Switchboard.Proofs.Session.Work
import Switchboard.Proofs.Session.Backlog
import Switchboard.Proofs.Registry.Behind
import Switchboard.Proofs.Session.Readback
import Switchboard.Proofs.Bridge.Readback
