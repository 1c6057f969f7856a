import DbusEv.Lib.Exec
import DbusEv.Lib.Clock
import DbusEv.Lib.Trace
import DbusEv.Lib.Threads
import DbusEv.Lib.Watch
import DbusEv.Lib.Journal
import DbusEv.Lib.Latest
import DbusEv.Python.Value
import DbusEv.Mercedes.Error
import DbusEv.Mercedes.Protocol
import DbusEv.Mercedes.Merge
import DbusEv.ChargingState
import DbusEv.Mercedes.Snapshot
import DbusEv.Mercedes.Session
import DbusEv.Mercedes.Order
import DbusEv.Mercedes.Atomic
import DbusEv.Mercedes.Traffic
import DbusEv.Mercedes.TrafficRuns
import DbusEv.Mercedes.World
import DbusEv.Mercedes.Serve
import DbusEv.Mercedes.Acts
import DbusEv.Mercedes.Walk
import DbusEv.Mercedes.Pulls
import DbusEv.Mercedes.Spacing
import DbusEv.Mercedes.Login
import DbusEv.Mercedes.Gate
import DbusEv.Mercedes.Survival
import DbusEv.Mercedes.Healthy
import DbusEv.Vehicle
import DbusEv.HaClient
import DbusEv.Providers.Evcc
import DbusEv.Providers.Pacing
import DbusEv.Providers.Upstream
import DbusEv.Providers.Acquisitions
import DbusEv.Providers.Logged
import DbusEv.Providers.Latch
import DbusEv.App
import DbusEv.Freshness
import DbusEv.Polls
import DbusEv.HaPolls
import DbusEv.Engine.Traffic
import DbusEv.Engine.Cooldown
import DbusEv.Engine.Pause
import DbusEv.Engine.Advertised
import DbusEv.Python.Json
import DbusEv.CerboMqtt
import DbusEv.Publication
import DbusEv.Charger
import DbusEv.Meter
import DbusEv.Lib.Pacing
import DbusEv.Refresh
import DbusEv.Mercedes.ChargingStatus
import DbusEv.Lib.Lines
import DbusEv.BootFile
import DbusEv.Lib.Replace
import DbusEv.Lib.Jinja
import DbusEv.Template
import DbusEv.Mercedes.Metadata
import DbusEv.Mercedes.Discovery
import DbusEv.Receiver
import DbusEv.Decoder
import DbusEv.Coordinator
import DbusEv.Agreement
import DbusEv.Python.Double
import DbusEv.Engine.Sample
import DbusEv.Normalize
import DbusEv.Providers.Answered
import DbusEv.Providers.Totality
import DbusEv.Providers.Backoff
import DbusEv.Providers.Projection
import DbusEv.Engine.Pipe
import DbusEv.Providers.Exchange
import DbusEv.Providers.Reply
import DbusEv.Providers.InStep
import DbusEv.Worker
import DbusEv.Python.Lexemes
import DbusEv.Mercedes.Store
import DbusEv.Mercedes.Ownership
import DbusEv.VehicleService
import DbusEv.MainLoop
import DbusEv.Reported
import DbusEv.Convergence
import DbusEv.Relay
import DbusEv.Mercedes.Oauth
import DbusEv.Lib.Casing
import DbusEv.Mercedes.Normalization
import DbusEv.Mercedes.Attributes
import DbusEv.Mercedes.Stream
import DbusEv.Lib.Tasks
import DbusEv.Update
import DbusEv.Providers.Recovery
