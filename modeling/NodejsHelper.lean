import NodejsHelper.Lib.Run
import NodejsHelper.Lib.Relay
import NodejsHelper.Lib.Workers
import NodejsHelper.Lib.Strings
import NodejsHelper.Lib.Base64
import NodejsHelper.Lib.Json
import NodejsHelper.Lib.Script
import NodejsHelper.Lib.JsonText
import NodejsHelper.Lib.Bytes
import NodejsHelper.Lib.Double
import NodejsHelper.Lib.Instant
import NodejsHelper.Auth.Token
import NodejsHelper.Socket.Basic
import NodejsHelper.Hub.Basic
import NodejsHelper.Redis.Bridge
import NodejsHelper.Redis.Wire
import NodejsHelper.Redis.Identity
import NodejsHelper.Redis.Fidelity
import NodejsHelper.Redis.Payload
import NodejsHelper.Redis.Report
import NodejsHelper.Redis.Health
import NodejsHelper.Hub.Track
import NodejsHelper.Hub.Reports
import NodejsHelper.Socket.Spec
import NodejsHelper.Auth.Sample
import NodejsHelper.Auth.Domain
import NodejsHelper.Auth.Verify
import NodejsHelper.Socket.Presence
import NodejsHelper.Socket.Expiry
import NodejsHelper.Socket.Binding
import NodejsHelper.Widget.Connect
import NodejsHelper.Widget.Admin
import NodejsHelper.Server.Basic
import NodejsHelper.Server.Spec
import NodejsHelper.Server.Records
import NodejsHelper.Server.Confinement
import NodejsHelper.Server.Stall
import NodejsHelper.Server.Ledger
import NodejsHelper.Server.Answer
import NodejsHelper.Server.Batch
import NodejsHelper.Server.Refusal
import NodejsHelper.Server.Queue
import NodejsHelper.Server.Log
import NodejsHelper.Server.Order
import NodejsHelper.Server.Shutdown
import NodejsHelper.Log.RateLimit
import NodejsHelper.Cluster.Basic
import NodejsHelper.Cluster.FanOut
import NodejsHelper.WebSocket.Frame
import NodejsHelper.WebSocket.Message
import NodejsHelper.WebSocket.Roundtrip
import NodejsHelper.WebSocket.Writer
import NodejsHelper.Socket.Worker
import NodejsHelper.Lib.JsonRoundtrip
import NodejsHelper.Client.Message
import NodejsHelper.Server.Text
import NodejsHelper.Server.Delivery
import NodejsHelper.Server.Arrival
import NodejsHelper.Lib.EventLoop
import NodejsHelper.Client.Basic
import NodejsHelper.Client.Spec
import NodejsHelper.Client.Connection
import NodejsHelper.Client.Calls
import NodejsHelper.Client.Later
import NodejsHelper.Client.Match
import NodejsHelper.Server.Response
import NodejsHelper.Client.Link
import NodejsHelper.Client.Wake
