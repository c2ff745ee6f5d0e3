import Rckam.Library.ByteOrder
import Rckam.Library.Completions
import Rckam.Library.Attempts
import Rckam.Library.Outcomes
import Rckam.Library.Erasure
import Rckam.Library.Variants
import Rckam.Library.Views
import Rckam.Library.Grouping
import Rckam.Library.Appending
import Rckam.Library.Slots
import Rckam.Library.Lifetimes
import Rckam.Library.Framing
import Rckam.Common.Format
import Rckam.Common.Protocol
import Rckam.Preview.ReadPreview
import Rckam.Preview.Wire
import Rckam.Preview.Refinement
import Rckam.Preview.Delivery
import Rckam.Preview.FailedSend
import Rckam.Preview.Splicing
import Rckam.Preview.Portability
import Rckam.Preview.Fragmentation
import Rckam.Preview.Resync
import Rckam.Tracker.Drift
import Rckam.Tracker.Bounce
import Rckam.Tracker.Commands
import Rckam.Tracker.Controller
import Rckam.Tracker.Goto
import Rckam.Tracker.LeftDriven
import Rckam.Tracker.Operations
import Rckam.Tracker.Asked
import Rckam.Tracker.OnCourse
import Rckam.Tracker.CallbackSlots
import Rckam.Tracker.Axes
import Rckam.Tracker.Program
import Rckam.Server.CameraController
import Rckam.Server.Server
import Rckam.Server.Isolation
import Rckam.Server.Detections
import Rckam.Server.Arrival
import Rckam.Server.Bounds
import Rckam.Server.Selection
import Rckam.Server.Status
import Rckam.Server.ListCaches
import Rckam.Server.ListHandles
import Rckam.Server.UserspaceDevice
import Rckam.Server.MatchProperty
import Rckam.Server.CaptureCard
import Rckam.Server.NodeCalls
import Rckam.Server.HdmiCapture
import Rckam.Server.Alive
import Rckam.Server.Availability
import Rckam.Client.Client
import Rckam.Client.Failures
import Rckam.Client.RoundTrip
import Rckam.Client.Truncation
import Rckam.Client.Queries
import Rckam.Client.DoubleBuffer
import Rckam.Client.CriticalSections
import Rckam.Client.Handover
import Rckam.Client.Stopping
import Rckam.Client.Teardown
import Rckam.Client.Progress
import Rckam.Client.Shutdown
import Rckam.Client.Rest
import Rckam.Client.Pipeline
import Rckam.Client.MainWindow
import Rckam.Client.Sessions
import Rckam.Tracker.Session
import Rckam.Tracker.Roles
import Rckam.Tracker.Following
import Rckam.Server.Lifetime
import Rckam.ClientQt5.ImageLoader
