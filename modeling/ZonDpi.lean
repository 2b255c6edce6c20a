import ZonDpi.Lib.Program
import ZonDpi.Lib.Service
import ZonDpi.Lib.SlidingWindow
import ZonDpi.Lib.Bytes
import ZonDpi.Std.IpAddr
import ZonDpi.Std.Text
import ZonDpi.Dns.Config
import ZonDpi.Dns.Controller
import ZonDpi.Dns.World
import ZonDpi.Dns.Snapshot
import ZonDpi.Dns.Override
import ZonDpi.Dns.Windows
import ZonDpi.Dns.Tracking
import ZonDpi.Supervisor.Process
import ZonDpi.Supervisor.Stop
import ZonDpi.Supervisor.Tracking
import ZonDpi.Supervisor.Budget
import ZonDpi.Engine.Types
import ZonDpi.Engine.Arguments
import ZonDpi.Engine.GoodbyeConfig
import ZonDpi.Engine.ByeDpiConfig
import ZonDpi.Engine.Adapter
import ZonDpi.Engine.Workers
import ZonDpi.Engine.Refinement
import ZonDpi.Manager.Program
import ZonDpi.Manager.World
import ZonDpi.Manager.Environment
import ZonDpi.Manager.Start
import ZonDpi.Manager.Operations
import ZonDpi.Manager.Runs
import ZonDpi.Manager.DnsOverride
import ZonDpi.Manager.Status
import ZonDpi.Manager.Compatibility
import ZonDpi.Ipc.Framing
import ZonDpi.Ipc.Protocol
import ZonDpi.Ipc.Server
import ZonDpi.Engine.GoodbyeOptions
import ZonDpi.Engine.GoodbyeLine
import ZonDpi.Engine.GoodbyeSuppression
import ZonDpi.Engine.GoodbyeOrder
import ZonDpi.Engine.GoodbyeTranslation
import ZonDpi.Engine.CiadpiOptions
import ZonDpi.Engine.GoodbyeCodec
import ZonDpi.Engine.ByeDpiCodec
import ZonDpi.Engine.GoodbyeTtl
import ZonDpi.Engine.CiadpiCopies
import ZonDpi.Engine.ByeDpiLine
import ZonDpi.Engine.CiadpiVariables
import ZonDpi.Engine.CiadpiListen
import ZonDpi.Engine.CiadpiOrder
import ZonDpi.Engine.ByeDpiWritten
import ZonDpi.Engine.ByeDpiTranslation
import ZonDpi.Lib.JsonReader
import ZonDpi.Manager.Profiles
import ZonDpi.Lib.FirstByKey
import ZonDpi.Manager.ProfileListing
import ZonDpi.Engine.SecurityDetector
import ZonDpi.Lib.Components
import ZonDpi.Scm.DriverPath
import ZonDpi.Scm.DriverCleanup
import ZonDpi.Dns.SavedState
import ZonDpi.Dns.Script
import ZonDpi.Lib.BoundedQueue
import ZonDpi.Supervisor.RingBuffer
import ZonDpi.Supervisor.Redaction
import ZonDpi.Gui.AutoProtect
import ZonDpi.Supervisor.Output
import ZonDpi.Engine.GoodbyeHealth
import ZonDpi.Std.JsonText
import ZonDpi.Ipc.Codec
import ZonDpi.Ipc.Client
import ZonDpi.Gui.Tray
import ZonDpi.Lib.ExpiringTable
import ZonDpi.Lib.ByteText
import ZonDpi.Goodbye.Http
import ZonDpi.Goodbye.Hosts
import ZonDpi.Goodbye.Conntrack
import ZonDpi.Goodbye.Packet
import ZonDpi.Goodbye.Loop
import ZonDpi.Goodbye.Traffic
import ZonDpi.Goodbye.DnsRedirect
import ZonDpi.Goodbye.FakeTtl
import ZonDpi.Lib.RecordStream
import ZonDpi.Byedpi.Packets
import ZonDpi.Byedpi.Tamp
import ZonDpi.Byedpi.Desync
import ZonDpi.Byedpi.TlsTimer
import ZonDpi.Lib.LinkedList
import ZonDpi.Byedpi.Timers
import ZonDpi.Byedpi.Pool
import ZonDpi.Byedpi.Board
import ZonDpi.Byedpi.EventLoop
