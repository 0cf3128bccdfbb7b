import WebATM.Proxy.Nodes

/-!
# Starting, stopping and disconnecting

The connection manager's lifecycle (`start_client`, `stop_client`, `reconnect`, the
disconnect transition `_handle_disconnection` and its `close`), the data manager's state
clearing and backup loop, and the grace check that disconnects after the last node left.
A method that raises in the source returns the state it left together with `true`.
-/

namespace WebATM

/-- The empty aircraft table `_emit_cleared_data` pushes. -/
def clearedTraffic : Value :=
  .dict [(.str "id", .list []), (.str "lat", .list []), (.str "lon", .list []),
    (.str "alt", .list []), (.str "tas", .list []), (.str "trk", .list []), (.str "vs", .list []),
    (.str "inconf", .list []), (.str "tcpamax", .list []), (.str "nconf_cur", .int 0),
    (.str "nconf_tot", .int 0), (.str "nlos_cur", .int 0), (.str "nlos_tot", .int 0)]

/-- The empty simulation info `_emit_cleared_data` pushes. -/
def clearedSimInfo : Value :=
  .dict [(.str "speed", .float (.finite 0)), (.str "simdt", .float (.finite 0)),
    (.str "simt", .float (.finite 0)), (.str "simutc", .str ""), (.str "ntraf", .int 0),
    (.str "state", .int 0), (.str "scenname", .str "disconnected")]

/-- A time as the float seconds `time.time()` returns. -/
def timestamp (now : Int) : Value := .float (.finite ((now : ℚ) / 1000))

namespace Proxy

/-- `_emit_cleared_data` at time `now`. -/
def emitClearedData (p : Proxy) (now : Int) : Proxy :=
  ((((p.broadcast "acdata" clearedTraffic).broadcast "siminfo" clearedSimInfo).broadcast "poly"
    emptyShapes).broadcast "polyline" emptyShapes).broadcast "server_disconnected"
      (.dict [(.str "timestamp", timestamp now), (.str "reason", .str "BlueSky server disconnected")])

/-- `ConnectionManager.close()` at time `now`: close the client, keep it, and clear the
registries, caches, throttle times and command dictionary. The shape stores stay. -/
def close (p : Proxy) (now : Int) : Proxy :=
  { p with allowReconnection := false, client := p.client.map BlueSkyClient.close,
           wasConnected := false, lastSuccessfulUpdate := now, trackedNodes := [],
           trackedServers := [], trafficData := .emptyDict, simData := .emptyDict,
           echoData := .emptyDict, lastUpdate := 0, lastSiminfoEmit := 0, lastAcdataEmit := 0,
           lastEchoEmit := 0, cmddict := [] }

/-- `_handle_disconnection` at time `now`: report the loss, stop without reconnecting,
clear the active node, the registries, the caches and the shape stores, push the cleared
state, then `close()`. Pending timers are not cancelled. -/
def handleDisconnection (p : Proxy) (now : Int) : Proxy :=
  let p := if p.wasConnected then { p with wasConnected := false }.emitConnectionStatus false now
    else p
  let p := { p with running := false, allowReconnection := false, connectionFailures := 0,
                    client := p.client.map fun (c : BlueSkyClient) => { c with actId := none },
                    trackedNodes := [],
                    trackedServers := [], trafficData := .emptyDict, simData := .emptyDict,
                    echoData := .emptyDict, polyDataByNode := [], polylineDataByNode := [] }
  let p := if p.socketio ∧ 0 < p.connectedClients then (p.emitClearedData now).emitNodeInfo else p
  p.close now

/-- `_check_node_shutdown`: the grace check disconnects when still no node is tracked. -/
def checkNodeShutdown (p : Proxy) (now : Int) : Proxy :=
  if p.trackedNodes.isEmpty && p.wasConnected && p.running then p.handleDisconnection now else p

/-- `_cancel_timers`: cancel the poll and backup timers through their handles. -/
def cancelTimers (p : Proxy) : Proxy :=
  let p := match p.networkTimer with
    | some t => { p.cancelTimer t with networkTimer := none }
    | none => p
  match p.backupTimer with
  | some t => { p.cancelTimer t with backupTimer := none }
  | none => p

/-- `DataManager._clear_state` at time `now`. -/
def clearState (p : Proxy) (now : Int) : Proxy :=
  { p with wasConnected := false, lastSuccessfulUpdate := now, trackedNodes := [],
           trackedServers := [], trafficData := .emptyDict, simData := .emptyDict,
           echoData := .emptyDict, lastUpdate := 0, polyDataByNode := [],
           polylineDataByNode := [], lastSiminfoEmit := 0, lastAcdataEmit := 0,
           lastEchoEmit := 0, cmddict := [] }.emitNodeInfo

/-- `stop_client` at time `now`: stop, cancel the timers, close and drop the client, and
clear the state. -/
def stopClient (p : Proxy) (now : Int) : Proxy :=
  ({ { p with running := false, allowReconnection := false }.cancelTimers with
      client := none }).clearState now

/-- `_start_network_timer`: a new poll tick, whose handle replaces the previous one
without cancelling it. -/
def startNetworkTimer (p : Proxy) : Proxy :=
  let r := p.startTimer .networkTick
  { r.1 with networkTimer := some r.2 }

/-- `start_backup_timer`: cancel the previous backup timer and start a new one. -/
def startBackupTimer (p : Proxy) : Proxy :=
  let p := match p.backupTimer with
    | some t => p.cancelTimer t
    | none => p
  let r := p.startTimer .backupEmit
  { r.1 with backupTimer := some r.2 }

/-- `backup_data_emit`: while running, push the cached simulation info and traffic, then
start the next backup timer. -/
def backupDataEmit (p : Proxy) : Proxy :=
  if !p.running then p
  else
    let p := if p.socketio ∧ 0 < p.connectedClients then
        let p := if p.simData.truthy then p.broadcast "siminfo" p.simData else p
        if p.trafficData.truthy then p.broadcast "acdata" p.trafficData else p
      else p
    p.startBackupTimer

/-- The failure branch of `start_client`: stopped, not reconnecting, not connected. -/
def startFailed (p : Proxy) : Proxy × Bool :=
  ({ p with running := false, allowReconnection := false, wasConnected := false }, true)

/-- The part of `start_client(hostname)` before connecting, at time `now`: a client is
created only when there is none (`rnd` is its random source); a running proxy is stopped
first, which drops the client; the server address is set and reconnection enabled. -/
def prepareStart (p : Proxy) (rnd : Nat → UInt8) (hostname : String) (now : Int) : Proxy :=
  let p := if p.client.isNone then { p with client := some (BlueSkyClient.new rnd) } else p
  let p := if p.running then p.stopClient now else p
  let p := if hostname ≠ "" then { p with serverIp := hostname } else p
  { p with allowReconnection := true }

/-- The connection attempt of `start_client` at time `now`, where `ok` is whether the
sockets open: `connect` on the client, or the error of calling it on `None`. On success the
silence clock restarts, the proxy runs, and the poll and backup timers start. Returns
whether it raised. -/
def connectStarted (p : Proxy) (ok : Bool) (now : Int) : Proxy × Bool :=
  match p.client with
  | none => p.startFailed
  | some c =>
    let r := c.connect ok
    let p := { p with client := some r.1 }
    if !r.2 then p.startFailed
    else
      ({ p with lastSuccessfulUpdate := now, wasConnected := false, running := true }.startNetworkTimer.startBackupTimer,
        false)

/-- `start_client(hostname)` at time `now`. -/
def startClient (p : Proxy) (rnd : Nat → UInt8) (hostname : String) (ok : Bool) (now : Int) :
    Proxy × Bool :=
  (p.prepareStart rnd hostname now).connectStarted ok now

/-- `reconnect(hostname)`: stop, clear, and start again. -/
def reconnect (p : Proxy) (rnd : Nat → UInt8) (hostname : String) (ok : Bool) (now : Int) :
    Proxy × Bool :=
  ((p.stopClient now).clearState now).startClient rnd hostname ok now

/-- `len(shapes.get("polys", {}))`, the count `get_current_data` logs; `none` for the
error of a stored value that is not a dictionary or whose shapes have no length. -/
def shapeCount (shapes : Value) : Option Nat :=
  (shapes.get? "polys").bind fun polys => pyLen (polys.getD .emptyDict)

/-- `get_current_data()` at time `now`: the snapshot a consumer receives on joining;
`none` when counting the active node's shapes raises. -/
def getCurrentData (p : Proxy) (now : Int) : Option Value :=
  let active := p.getSafeActiveNode
  let shapes (store : List (String × Value)) : Value :=
    (active.bind (assocGet store)).getD .emptyDict
  if active.isSome && ((shapeCount (shapes p.polyDataByNode)).isNone ||
      (shapeCount (shapes p.polylineDataByNode)).isNone) then none
  else some <| .dict [(.str "traffic_data", p.trafficData), (.str "sim_data", p.simData),
    (.str "echo_data", p.echoData), (.str "poly_data", shapes p.polyDataByNode),
    (.str "polyline_data", shapes p.polylineDataByNode), (.str "cmddict", .dict p.cmddict),
    (.str "connection_status", .dict [
      (.str "connected", .bool (p.wasConnected && p.running && !p.trackedNodes.isEmpty)),
      (.str "server_ip", .str p.serverIp), (.str "last_update", timestamp p.lastSuccessfulUpdate)]),
    (.str "node_info", .dict [
      (.str "nodes", .dict (p.trackedNodes.map fun e => (.str e.1, e.2.toValue))),
      (.str "servers", .dict (serverDirectory p.trackedServers fun s =>
        .dict [(.str "server_id", .bin s)])),
      (.str "active_node", (active.map Value.str).getD .none),
      (.str "total_nodes", .int p.trackedNodes.length)]),
    (.str "timestamp", timestamp now)]

end Proxy

end WebATM
