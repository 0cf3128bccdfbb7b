import WebATM.Wire.Identity
import WebATM.Wire.Value
import WebATM.Wire.Text
import WebATM.Wire.Convert
import WebATM.Client.Basic
import WebATM.Client.Subscription
import WebATM.Client.Discovery
import WebATM.Client.ActiveBindings
import WebATM.Client.KeySymmetry
import WebATM.Client.Selection
import WebATM.Client.Dispatch
import WebATM.Client.Context
import WebATM.Client.Header
import WebATM.Proxy.State
import WebATM.Proxy.Nodes
import WebATM.Proxy.Lifecycle
import WebATM.Proxy.Handlers
import WebATM.Proxy.Poll
import WebATM.Proxy.Requests
import WebATM.Proxy.System
import WebATM.Proxy.Snapshot
import WebATM.Proxy.Frames
import WebATM.Proxy.Registry
import WebATM.Proxy.Disconnected
import WebATM.Proxy.Health
import WebATM.Proxy.Restart
import WebATM.Proxy.DiscoveryOrder
import WebATM.Proxy.ShapeStores
import WebATM.Proxy.ShapeEvents
import WebATM.Proxy.Silence
import WebATM.Proxy.Wiring
import WebATM.Proxy.Commands
import WebATM.Proxy.ShapeRetention
import WebATM.Proxy.Throttle
import WebATM.Proxy.Audience
import WebATM.Server.Sessions
import WebATM.Server.App
import WebATM.Server.Accounting
import WebATM.Wire.JsonForm
