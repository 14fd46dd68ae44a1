import MailMsg.Lib.Transition
import MailMsg.Lib.Object
import MailMsg.Lib.Progress
import MailMsg.Lib.Circular
import MailMsg.Lib.Keyed
import MailMsg.Lib.Cache
import MailMsg.Lib.Crc
import MailMsg.Lib.Distance
import MailMsg.Lib.Python
import MailMsg.Lib.Json
import MailMsg.Lib.Pattern
import MailMsg.Protocol.Message
import MailMsg.Protocol.Ring
import MailMsg.Protocol.Crc
import MailMsg.Protocol.Damage
import MailMsg.Protocol.Distance
import MailMsg.Protocol.Bounds
import MailMsg.Protocol.Accounting
import MailMsg.Protocol.Channel
import MailMsg.Protocol.Interleaving
import MailMsg.Protocol.Endpoint
import MailMsg.Protocol.Sending
import MailMsg.Protocol.Independence
import MailMsg.Protocol.Layout
import MailMsg.Protocol.Cached.Machine
import MailMsg.Protocol.Cached.Views
import MailMsg.Protocol.Cached.Refinement
import MailMsg.Protocol.Cached.Producer
import MailMsg.Protocol.Cached.Consumer
import MailMsg.Protocol.Cached
import MailMsg.Protocol.Session
import MailMsg.Platform.Hardware
import MailMsg.Driver.State
import MailMsg.Driver.Lifecycle
import MailMsg.Driver.User
import MailMsg.Driver.Injection
import MailMsg.Driver.Machine
import MailMsg.Driver.Effects
import MailMsg.Driver.Transitions
import MailMsg.Driver.EntryPoints
import MailMsg.Driver.PeerRecord
import MailMsg.Driver.Regions
import MailMsg.Driver.Safety
import MailMsg.Driver.Records
import MailMsg.Driver.Draining
import MailMsg.Driver.StopReply
import MailMsg.Driver.Sequence
import MailMsg.Driver.Rearm
import MailMsg.Driver.Files
import MailMsg.Driver.Wake
import MailMsg.Driver.Exclusive
import MailMsg.Driver.Reading
import MailMsg.Driver.Ownership
import MailMsg.Driver.Watchdog
import MailMsg.Driver.Image
import MailMsg.Driver.Geometry
import MailMsg.Driver.Recovery
import MailMsg.Firmware.Service
import MailMsg.Firmware.Effects
import MailMsg.Firmware.Link
import MailMsg.Firmware.Doorbell
import MailMsg.Firmware.Drain
import MailMsg.Firmware.Replies
import MailMsg.Firmware.Announce
import MailMsg.Firmware.Telemetry
import MailMsg.Firmware.Progress
import MailMsg.Firmware.Settling
import MailMsg.Amp.Machine
import MailMsg.Amp.Session
import MailMsg.Amp.Refinement
import MailMsg.Amp.Cycle
import MailMsg.Amp.PowerOff
import MailMsg.Amp.Exchange
import MailMsg.Amp.Window
import MailMsg.Amp.Agent
import MailMsg.Amp.Observation
import MailMsg.Amp.Wakeup
import MailMsg.Amp.Application
import MailMsg.Amp.RoundTrip
import MailMsg.Amp.Polling
import MailMsg.Tools.WindowBench
import MailMsg.Tools.Latency
import MailMsg.Tools.Decision
