import WebATM.Server.Sessions
import WebATM.Proxy.Audience

/-!
# The application

`create_app` puts a session manager and a proxy behind one Flask application, and
`start_WebATM` gives the proxy its default server address. The application then reacts to
the Socket.IO events of its consumers (`register_socket_handlers`), to the HTTP routes of
`register_basic_routes`, and to the proxy's timers. A consumer's Flask session holds the id
`on_connect` drew for it, so the state keeps that id per connection.

`update_server_config` replaces the proxy by a fresh one and then waits, polling every
100 ms for at most 10 s, for a node to appear. Other events interleave with that wait, so a
waiting request is part of the state and each of its polls is an event. What a replaced
proxy pushed has reached the consumers and is kept apart.
-/

namespace WebATM

/-- `type(v).__name__`, which an `AttributeError`'s text names. -/
def Value.typeName : Value → String
  | .none => "NoneType"
  | .bool _ => "bool"
  | .int _ => "int"
  | .float _ => "float"
  | .str _ => "str"
  | .bin _ => "bytes"
  | .list _ => "list"
  | .dict _ => "dict"

/-- An HTTP response: its status and the body `jsonify` makes. -/
structure Response where
  status : Nat
  body : Value

/-- The application's state. -/
structure Server where
  sessions : SessionManager
  /-- The connected consumers by Socket.IO `sid`, each with its Flask session's `session_id`. -/
  sockets : List (Nat × String)
  /-- `current_app.bluesky_proxy`. -/
  proxy : Proxy
  /-- The `update_server_config` requests waiting for a node: the server address and the
  time the wait began. -/
  waits : List (String × Int)
  /-- What the proxies replaced so far pushed. -/
  retired : List Push

/-- An event of the application. -/
inductive ServerEvent where
  /-- A consumer connects as `sid`; `sessionId` is the `uuid4` its handler draws. -/
  | connect (sid : Nat) (sessionId : String)
  | disconnect (sid : Nat)
  | heartbeat (sid : Nat)
  | command (data : Value)
  | setActiveNode (data : Value)
  | getNodes
  | addNodes (data : Value)
  /-- `POST /api/simulation/command` with `request.json`, or the text of the error Flask
  raises when it cannot read the body. -/
  | postCommand (json : Except String Value)
  /-- `POST /api/server/config`; `rnd` is the new client's random source and `ok` whether
  its sockets open. -/
  | postServerConfig (json : Except String Value) (rnd : Nat → UInt8) (ok : Bool)
  /-- One poll of the `i`-th waiting `update_server_config`. -/
  | pollServerConfig (i : Nat)
  | postDisconnect
  /-- A timer of the proxy fires. -/
  | fire (id : Nat) (round : PollRound)

/-- `start_WebATM(hostname)` at time `t0`: `create_app` makes a session manager from the
environment's `HEARTBEAT_INTERVAL` (and raises when it does) and a proxy attached to
Socket.IO with its subscribers registered; the default server address is `host`. -/
def Server.start (env : Option String) (t0 : Int) (host : String) : Option Server :=
  (SessionManager.new env).map fun m => ⟨m, [], (Proxy.fresh t0 true 0 host).registerSubscribers, [], []⟩

namespace Server

/-- The `heartbeat_config` reply of `on_connect`. -/
def heartbeatConfig (m : SessionManager) : Push :=
  ⟨"heartbeat_config", .dict [(.str "interval", .int m.heartbeatInterval)]⟩

/-- `on_connect(auth)` of the consumer `sid` at time `now`, which draws `sessionId`: track
the session, refusing the connection when the id is already tracked; count the consumer;
answer with the current data and the heartbeat interval, then push the active node's
shapes. An error while answering ends the handler. -/
def onConnect (s : Server) (sid : Nat) (sessionId : String) (now : Int) : Server × List Push :=
  let r := s.sessions.addSession sessionId now
  if !r.2 then (s, [])
  else
    let p := { s.proxy with connectedClients := s.proxy.connectedClients + 1 }
    let s := { s with sessions := r.1, sockets := upsert s.sockets sid sessionId }
    match p.getCurrentData now with
    | some d => ({ s with proxy := p.emitActiveNodePolyData },
        [⟨"initial_data", d⟩, heartbeatConfig r.1])
    | none => ({ s with proxy := p }, [])

/-- `on_disconnect` of the consumer `sid`: forget the session its Flask session names, if
any, and count one consumer fewer, never below zero. -/
def onDisconnect (s : Server) (sid : Nat) : Server :=
  let sessions := match assocGet s.sockets sid with
    | some sessionId => if sessionId = "" then s.sessions else (s.sessions.removeSession sessionId).1
    | none => s.sessions
  { s with sessions := sessions, sockets := remove s.sockets sid, proxy := s.proxy.onDisconnect }

/-- The `session_error` reply of `on_heartbeat`. -/
def sessionError : Push := ⟨"session_error", .dict [(.str "message", .str "Session not found")]⟩

/-- The `heartbeat_ack` reply of `on_heartbeat` at time `now`. -/
def heartbeatAck (now : Int) : Push := ⟨"heartbeat_ack", .dict [(.str "timestamp", timestamp now)]⟩

/-- `on_heartbeat` of the consumer `sid` at time `now`: refresh and acknowledge a tracked
session, report any other. -/
def onHeartbeat (s : Server) (sid : Nat) (now : Int) : Server × List Push :=
  match assocGet s.sockets sid with
  | some sessionId =>
    let r := s.sessions.updateHeartbeat sessionId now
    if sessionId ≠ "" ∧ r.2 then ({ s with sessions := r.1 }, [heartbeatAck now])
    else (s, [sessionError])
  | none => (s, [sessionError])

/-- A consumer event the proxy answers, at time `now`, with the replies to the consumer. -/
def request (s : Server) (now : Int) (r : Request) : Server × List Push :=
  let q := s.proxy.request now r
  ({ s with proxy := q.1 }, q.2)

/-- `POST /api/simulation/command` at time `now`: the body's `command`, or `""` for an
empty body, goes to `send_command`; an unreadable body, or one that is not a dictionary,
is answered with 500. -/
def postCommand (s : Server) (json : Except String Value) (now : Int) : Server × Response :=
  let command := match json with
    | .ok v => if v.truthy then (v.get? "command").map (·.getD (.str "")) else some (.str "")
    | .error _ => none
  match command with
  | some command =>
    let r := s.proxy.sendCommand command now
    ({ s with proxy := r.1 }, ⟨200, .dict [(.str "success", .bool r.2), (.str "command", command)]⟩)
  | none => (s, ⟨500, .dict [(.str "error", .str "Failed to send command")]⟩)

/-- `GET /api/server/config`. -/
def getServerConfig (s : Server) : Response :=
  ⟨200, .dict [(.str "server_ip", .str s.proxy.serverIp), (.str "is_connected", .bool s.proxy.running)]⟩

/-- The server address `update_server_config` reads: the body's `server_ip` (`localhost`
when absent), stripped, `localhost` when that is empty; the text of the exception when the
body is unreadable, not a dictionary, or names a server that is not a string. -/
def configServerIp (json : Except String Value) : Except String String :=
  match json with
  | .error e => .error e
  | .ok v =>
    let data := if v.truthy then v else .emptyDict
    match data.get? "server_ip" with
    | none => .error ("'" ++ data.typeName ++ "' object has no attribute 'get'")
    | some ip =>
      match ip.getD (.str "localhost") with
      | .str ip => .ok (if pyStrip ip = "" then "localhost" else pyStrip ip)
      | v => .error ("'" ++ v.typeName ++ "' object has no attribute 'strip'")

/-- The 500 response of `update_server_config` for an exception with text `e`. -/
def configFailed (e : String) : Response :=
  ⟨500, .dict [(.str "success", .bool false), (.str "error", .str ("Failed to connect to server: " ++ e))]⟩

/-- `POST /api/server/config` at time `now`: stop and close the proxy, replace it by a fresh
one with the old Socket.IO attachment and consumer count, start it on the new address and
register its subscribers, then wait for a node. A `start_client` that raises is answered
with 500 at once. `none` while the request waits. -/
def postServerConfig (s : Server) (json : Except String Value) (rnd : Nat → UInt8) (ok : Bool)
    (now : Int) : Server × Option Response :=
  match configServerIp json with
  | .error e => (s, some (configFailed e))
  | .ok serverIp =>
    let old := (if s.proxy.running then s.proxy.stopClient now else s.proxy).close now
    let r := (Proxy.fresh now s.proxy.socketio s.proxy.connectedClients serverIp).startClient rnd
      serverIp ok now
    let s := { s with retired := s.retired ++ old.pushes }
    if r.2 then ({ s with proxy := r.1 }, some (configFailed "Failed to connect to BlueSky server"))
    else ({ s with proxy := r.1.registerSubscribers, waits := s.waits ++ [(serverIp, now)] }, none)

/-- One poll at time `now` of the `i`-th waiting `update_server_config`: answer once the
proxy tracks a node; after 10 s without one, stop the proxy and answer with 500; otherwise
keep waiting. -/
def pollServerConfig (s : Server) (i : Nat) (now : Int) : Server × Option Response :=
  match s.waits.get? i with
  | none => (s, none)
  | some (serverIp, started) =>
    if now - started < 10000 then
      if !s.proxy.trackedNodes.isEmpty then
        ({ s with waits := s.waits.eraseIdx i }, some ⟨200, .dict [(.str "success", .bool true),
          (.str "server_ip", .str serverIp),
          (.str "message", .str "Connected to BlueSky remote server hosted by amvlab")]⟩)
      else (s, none)
    else
      ({ s with waits := s.waits.eraseIdx i, proxy := s.proxy.stopClient now },
        some ⟨500, .dict [(.str "success", .bool false), (.str "error", .str
          ("No BlueSky nodes detected on server " ++ serverIp ++
            ". Server may be offline or not configured properly."))]⟩)

/-- `POST /api/server/disconnect` at time `now`: stop a running proxy. -/
def postDisconnect (s : Server) (now : Int) : Server × Response :=
  ({ s with proxy := if s.proxy.running then s.proxy.stopClient now else s.proxy },
    ⟨200, .dict [(.str "success", .bool true), (.str "message", .str "Disconnected from server")]⟩)

/-- `GET /status` at time `now`, where `port11000` and `port11001` are whether the BlueSky
ports accept a connection. -/
def statusCheck (s : Server) (port11000 port11001 : Bool) (now : Int) : Response :=
  ⟨200, .dict [(.str "status", .str "healthy"),
    (.str "bluesky_server", .dict [(.str "ports_accessible", .bool (port11000 || port11001)),
      (.str "port_11000", .bool port11000), (.str "port_11001", .bool port11001),
      (.str "proxy_connected", .bool s.proxy.running),
      (.str "has_active_nodes", .bool !s.proxy.trackedNodes.isEmpty)]),
    (.str "session_info", s.sessions.getSessionInfo), (.str "config", s.sessions.getConfigInfo),
    (.str "timestamp", timestamp now)]⟩

/-- One event at time `now`. -/
def step (s : Server) (now : Int) : ServerEvent → Server
  | .connect sid sessionId => (s.onConnect sid sessionId now).1
  | .disconnect sid => s.onDisconnect sid
  | .heartbeat sid => (s.onHeartbeat sid now).1
  | .command data => (s.request now (.command data)).1
  | .setActiveNode data => (s.request now (.setActiveNode data)).1
  | .getNodes => (s.request now .getNodes).1
  | .addNodes data => (s.request now (.addNodes data)).1
  | .postCommand json => (s.postCommand json now).1
  | .postServerConfig json rnd ok => (s.postServerConfig json rnd ok now).1
  | .pollServerConfig i => (s.pollServerConfig i now).1
  | .postDisconnect => (s.postDisconnect now).1
  | .fire id round => { s with proxy := s.proxy.fire id now round }

end Server

/-- The states some order of events reaches from a started application. -/
inductive ServerReachable : Server → Prop where
  | start {env : Option String} {t0 : Int} {host : String} {s : Server}
      (h : Server.start env t0 host = some s) : ServerReachable s
  | step {s : Server} (now : Int) (e : ServerEvent) : ServerReachable s → ServerReachable (s.step now e)

end WebATM
