import WebATM.Proxy.Requests

/-!
# The proxy as a system

The proxy reacts to the operator's lifecycle calls (`start_client`, `stop_client`,
`reconnect`, `close`, `register_subscribers`), to consumer requests, and to its own
`threading.Timer`s firing. A timer is a pending event that may fire at any later step: it
leaves the pending set and runs its callback, a poll tick with whatever the sockets yield.
Each step reads one clock value. The reachable states are those of every order of steps
from a freshly configured proxy.
-/

namespace WebATM

/-- A step of the proxy's environment. -/
inductive Event where
  /-- `start_client(hostname)`; `rnd` is a new client's random source, `ok` whether the
  sockets open. -/
  | startClient (rnd : Nat → UInt8) (hostname : String) (ok : Bool)
  | stopClient
  | reconnect (rnd : Nat → UInt8) (hostname : String) (ok : Bool)
  | close
  | registerSubscribers
  /-- The pending timer with this handle fires; a poll tick polls with this outcome. -/
  | fire (id : Nat) (round : PollRound)
  | request (r : Request)

/-- The topic bindings `register_subscribers` makes, in order: topic, handler, and
whether the binding is active-only. -/
def subscriptions : List (String × Callback × Bool) :=
  [("SIMINFO", .onSiminfoReceived, false), ("ACDATA", .onAcdataReceived, true),
   ("ROUTEDATA", .onRoutedataReceived, true), ("ECHO", .echo, false),
   ("STACKCMDS", .onStackcmdsReceived, false), ("STACK", .onStackReceived, false),
   ("POLY", .onPolyReceived, false), ("RESET", .onResetReceived, false),
   ("REQUEST", .onRequestReceived, false), ("PLOT", .onPlotReceived, false),
   ("SHOWDIALOG", .onShowdialogReceived, false), ("SIMSETTINGS", .onSimsettingsReceived, false),
   ("TRAILS", .onTrailsReceived, false), ("DEFWPT", .onDefwptReceived, false)]

/-- A proxy as `BlueSkyProxy()` leaves it once the application has configured it: any
Socket.IO attachment, consumer count and server address. -/
def Proxy.fresh (t0 : Int) (socketio : Bool) (clients : Nat) (serverIp : String) : Proxy :=
  { Proxy.init t0 with socketio := socketio, connectedClients := clients, serverIp := serverIp }

namespace Proxy

/-- `register_subscribers()`: nothing without a client. -/
def registerSubscribers (p : Proxy) : Proxy :=
  match p.client with
  | some c => { p with client := some (subscriptions.foldl (fun c s => c.subscribe s.1 s.2.1 s.2.2) c) }
  | none => p

/-- The callback of a fired timer at time `now`. -/
def runTask (p : Proxy) (now : Int) (round : PollRound) : TimerTask → Proxy
  | .networkTick => p.networkTick now round
  | .backupEmit => p.backupDataEmit
  | .shutdownCheck => p.checkNodeShutdown now

/-- The pending timer with handle `id` fires at time `now`: it is no longer pending, and
its callback runs. A handle that is not pending changes nothing. -/
def fire (p : Proxy) (id : Nat) (now : Int) (round : PollRound) : Proxy :=
  match p.pending.find? (·.id = id) with
  | some t => (p.cancelTimer id).runTask now round t.task
  | none => p

/-- One step at time `now`. -/
def step (p : Proxy) (now : Int) : Event → Proxy
  | .startClient rnd hostname ok => (p.startClient rnd hostname ok now).1
  | .stopClient => p.stopClient now
  | .reconnect rnd hostname ok => (p.reconnect rnd hostname ok now).1
  | .close => p.close now
  | .registerSubscribers => p.registerSubscribers
  | .fire id round => p.fire id now round
  | .request r => (p.request now r).1

/-- The steps of a timed run, in order. -/
def run (p : Proxy) : List (Int × Event) → Proxy
  | [] => p
  | (now, e) :: rest => (p.step now e).run rest

end Proxy

/-- The states some order of steps reaches from a freshly configured proxy. -/
inductive Reachable : Proxy → Prop where
  | fresh (t0 : Int) (socketio : Bool) (clients : Nat) (serverIp : String) :
      Reachable (Proxy.fresh t0 socketio clients serverIp)
  | step {p : Proxy} (now : Int) (e : Event) : Reachable p → Reachable (p.step now e)

/-- Every run from a reachable state stays reachable. -/
theorem Reachable.run {p : Proxy} (h : Reachable p) :
    ∀ steps : List (Int × Event), Reachable (p.run steps)
  | [] => h
  | (now, e) :: rest => (h.step now e).run rest

end WebATM
