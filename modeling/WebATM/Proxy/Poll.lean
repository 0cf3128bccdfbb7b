import WebATM.Proxy.Handlers

/-!
# The poll tick

Every 20 ms `network_timer_callback` polls the client: `update()` calls `receive()`,
which reads at most one message from each socket, the SUB socket first, and processes
it, running the proxy's handlers and signal slots. The tick then judges the connection's
health, disconnects on silence, and schedules the next tick. The poll's outcome is an
input: the messages the sockets yield and how the poll ends.
-/

namespace WebATM

/-- How `poller.poll` and the reads end: normally, with `zmq.Again`, or with another
exception. -/
inductive PollEnding where
  | completed
  | again
  | failed
  deriving DecidableEq, Repr

/-- One poll of the sockets: the message read from the SUB socket, the first frame of the
message read from the XPUB socket, and how the poll ends after processing them. -/
structure PollRound where
  data : Option DataMsg
  control : Option Bytes
  ending : PollEnding

namespace Proxy

/-- The proxy's slot for a client signal, as `_connect_bluesky_client_signals` connects
them. -/
def slot (p : Proxy) (now : Int) : Signal → Proxy
  | .nodeAdded id => p.onNodeAdded id now
  | .nodeRemoved id => p.onNodeRemoved id
  | .serverAdded id => p.onServerAdded id
  | .serverRemoved id => p.onServerRemoved id
  | .actnodeChanged _ => p.onActnodeChanged

/-- The slots for signals emitted in this order. -/
def runSlots (p : Proxy) (now : Int) (sigs : List Signal) : Proxy :=
  sigs.foldl (fun p s => p.slot now s) p

/-- `_process_data_message` with the proxy's handlers as subscribers. -/
def dataMessage (p : Proxy) (now : Int) (m : DataMsg) : Proxy :=
  match p.client with
  | none => p
  | some c =>
    let r := c.processDataMessage m
    let p := { p with client := some r.1 }
    match r.2 with
    | some d => p.deliver now d (r.1.subscribersOf d.topic)
    | none => p

/-- `_process_subscription_message` with the proxy's slots connected. -/
def controlMessage (p : Proxy) (now : Int) (frame : Bytes) : Proxy :=
  match p.client with
  | none => p
  | some c =>
    let r := c.processSubscriptionMessage frame
    { p with client := some r.1 }.runSlots now r.2

/-- `receive(timeout=0)`: nothing when the client is not running or has no poller;
otherwise the data message, then the control message, and `False` only when the poll
failed. Every exception is caught. -/
def receive (p : Proxy) (now : Int) (round : PollRound) : Proxy × Bool :=
  match p.client with
  | some c =>
    if !c.running || !c.poller then (p, false)
    else
      let p := match round.data with
        | some m => p.dataMessage now m
        | none => p
      let p := match round.control with
        | some f => p.controlMessage now f
        | none => p
      (p, round.ending != .failed)
  | none => (p, false)

/-- `update()`: `False` when the client is not running or not connected, `receive()`
otherwise, whose exceptions it catches. The error case is a call on a missing client. -/
def update (p : Proxy) (now : Int) (round : PollRound) : Except Proxy (Proxy × Bool) :=
  match p.client with
  | some c => if !c.running || !c.connected then .ok (p, false) else .ok (p.receive now round)
  | none => .error p

/-- Schedule the next tick while running and reconnecting is allowed. -/
def reschedule (p : Proxy) : Proxy :=
  if p.running && p.allowReconnection then p.startNetworkTimer else p

/-- The aggressive check: connected but silent for longer than `connection_timeout`. -/
def timeoutCheck (p : Proxy) (now : Int) : Proxy :=
  if p.wasConnected ∧ connectionTimeout < now - p.lastSuccessfulUpdate then
    p.handleDisconnection now
  else p.reschedule

/-- The tick after a poll that did not raise: reset the failure count; become connected
when nodes are tracked; disconnect when no node is left and the silence has lasted longer
than `connection_timeout`; otherwise apply the aggressive check. -/
def afterPoll (p : Proxy) (now : Int) : Proxy :=
  let p := { p with connectionFailures := 0 }
  if !p.trackedNodes.isEmpty && !p.wasConnected then
    ({ p with wasConnected := true }.emitConnectionStatus true now).timeoutCheck now
  else if p.trackedNodes.isEmpty && p.wasConnected &&
      decide (connectionTimeout < now - p.lastSuccessfulUpdate) then
    ({ p with wasConnected := false }.emitConnectionStatus false now).handleDisconnection now
  else p.timeoutCheck now

/-- `network_timer_callback` at time `now`: poll while running, reconnecting is allowed
and a client exists; count a poll that raised, disconnecting at
`max_connection_failures`; and schedule the next tick unless it disconnected. -/
def networkTick (p : Proxy) (now : Int) (round : PollRound) : Proxy :=
  if !(p.running && p.allowReconnection && p.client.isSome) then p
  else
    match p.update now round with
    | .ok r => r.1.afterPoll now
    | .error p =>
      let p := { p with connectionFailures := p.connectionFailures + 1 }
      if maxConnectionFailures ≤ p.connectionFailures then p.handleDisconnection now
      else p.reschedule

end Proxy

end WebATM
