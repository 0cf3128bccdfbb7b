import WebATM.Proxy.Health
import WebATM.Proxy.Disconnected

/-!
# Restarting the connection

The application connects a new proxy with `start_client(hostname)` followed by
`register_subscribers()`. The connection manager restarts in two other ways: `reconnect`
stops, clears and starts again with a new client, and after a health-triggered disconnect
`start_client` reconnects the closed client it kept. This file computes, for all three, what
a restart is compared on: the registries, the active node, the caches, the shape stores, the
throttle times, the command dictionary, the filters on the SUB socket and whether the next
node discovered is selected as active. Neither restart calls `register_subscribers`, and both
leave the command dictionary that `close()` and `_clear_state` emptied.
-/

namespace WebATM

/-- What a restart is compared on. -/
structure RestartView where
  trackedNodes : List (String × NodeRecord)
  trackedServers : List Bytes
  actId : Option Bytes
  trafficData : Value
  simData : Value
  echoData : Value
  polyDataByNode : List (String × Value)
  polylineDataByNode : List (String × Value)
  lastUpdate : Int
  lastSiminfoEmit : Int
  lastAcdataEmit : Int
  lastEchoEmit : Int
  cmddict : List (Key × Value)
  /-- The filters of `sock_recv`, absent when the socket is. -/
  filters : Option (Multiset Bytes)
  /-- Whether `actnode` is still a slot of `node_added`. -/
  autoSelect : Bool

/-- The view of a proxy whose client is `c`. -/
def Proxy.viewWith (p : Proxy) (c : BlueSkyClient) : RestartView :=
  ⟨p.trackedNodes, p.trackedServers, c.actId, p.trafficData, p.simData, p.echoData,
    p.polyDataByNode, p.polylineDataByNode, p.lastUpdate, p.lastSiminfoEmit, p.lastAcdataEmit,
    p.lastEchoEmit, p.cmddict, c.sockRecv, c.autoSelect⟩

/-- The view of a proxy with a client. -/
def Proxy.restartView (p : Proxy) : Option RestartView := p.client.map p.viewWith

/-- A started proxy that has discovered, cached and stored nothing, with the given command
dictionary, filters and auto-selection. -/
def startedView (cmddict : List (Key × Value)) (filters : Multiset Bytes) (autoSelect : Bool) :
    RestartView :=
  ⟨[], [], none, .emptyDict, .emptyDict, .emptyDict, [], [], 0, 0, 0, 0, cmddict, some filters,
    autoSelect⟩

/-- The filter `connect()` installs for the client's own identity: `_subscribe("", "",
node_id)`. -/
def ownFilter (nodeId : Bytes) : Bytes := ljust nodeId idlen wildcard

/-- The filters of `register_subscribers` without an active node: one from the simulation
group for each row that is not active-only. -/
def tableFilters : Multiset Bytes :=
  ((subscriptions.filter fun s => !s.2.2).filterMap fun s =>
    subscriptionKey s.1 (.int groupidSim) (.str "") : List Bytes)

/-- Twelve of the table's fourteen topics are subscribed at once. -/
example : Multiset.card tableFilters = 12 := by decide

theorem subscriptionKey_own (nodeId : Bytes) :
    subscriptionKey "" (.str "") (.bytes nodeId) = some (ownFilter nodeId) := by
  have hempty : asbytestr (.str "") = some [] := rfl
  simp [subscriptionKey, ownFilter, hempty]

namespace BlueSkyClient

/-- A successful `connect()` opens the sockets with the one filter of the client's identity. -/
theorem connect_true (c : BlueSkyClient) : (c.connect true).1 =
    { c with sockRecv := some {ownFilter c.nodeId}, sockSend := true, poller := true,
             connected := true, running := true } := by
  simp only [connect, if_true, netSubscribe, Option.isNone_some, Bool.false_eq_true, if_false,
    subscriptionKey_own]
  rw [if_neg (by decide)]
  rfl

/-- With no active node, `register_subscribers`' loop adds the filter of every row that is not
active-only to those already installed. -/
theorem foldl_subscribe_sockRecv (L : List (String × Callback × Bool)) :
    ∀ (c : BlueSkyClient) (F : Multiset Bytes), c.actId = none → c.sockRecv = some F →
      (L.foldl (fun c s => c.subscribe s.1 s.2.1 s.2.2) c).sockRecv =
        some (F + ((L.filter fun s => !s.2.2).filterMap fun s =>
          subscriptionKey s.1 (.int groupidSim) (.str "") : List Bytes)) := by
  induction L with
  | nil => intro c F _ hF; simpa using hF
  | cons s rest ih =>
    intro c F hact hF
    obtain ⟨tt, F', hs⟩ := subscribe_frame c s.1 s.2.1 s.2.2
    have hact' : (c.subscribe s.1 s.2.1 s.2.2).actId = none := by rw [hs]; exact hact
    -- one row: an active-only one is deferred, any other adds its key
    have hrow : (c.subscribe s.1 s.2.1 s.2.2).sockRecv =
        some (F + (([s].filter fun s => !s.2.2).filterMap fun s =>
          subscriptionKey s.1 (.int groupidSim) (.str "") : List Bytes)) := by
      obtain ⟨topic, cb, actonly⟩ := s
      cases actonly
      · cases hk : subscriptionKey topic (.int groupidSim) (.str "") with
        | none => simp [subscribe, netSubscribe, hF, hk, addFilter]
        | some k =>
          simp [subscribe, netSubscribe, hF, hk, addFilter]
          rw [add_comm, Multiset.singleton_add]
      · simp [subscribe, netSubscribe, hF, hact]
    rw [List.foldl_cons, ih _ _ hact' hrow, show s :: rest = [s] ++ rest from rfl,
      List.filter_append, List.filterMap_append, ← Multiset.coe_add, add_assoc]

end BlueSkyClient

namespace Proxy

variable (p : Proxy) (now : Int)

theorem startBackupTimer_view :
    p.startBackupTimer.client = p.client ∧ p.startBackupTimer.viewWith = p.viewWith := by
  unfold startBackupTimer
  split <;> exact ⟨rfl, rfl⟩

/-- The part of `start_client` before connecting, on a stopped proxy: the client it finds, or
a new one, and reconnection enabled. -/
theorem prepareStart_of_stopped {q : Proxy} (hq : q.running = false) (rnd : Nat → UInt8)
    (hostname : String) : ∃ ip, q.prepareStart rnd hostname now =
      { q with client := some (q.client.getD (BlueSkyClient.new rnd)), allowReconnection := true,
               serverIp := ip } := by
  rcases q with ⟨_ | c, running⟩ <;> simp only at hq <;> subst hq <;>
    simp only [prepareStart, Option.isNone_none, Option.isNone_some, Bool.false_eq_true, if_true,
      if_false] <;>
    split_ifs <;> exact ⟨_, rfl⟩

/-- `start_client` on a stopped proxy whose sockets open: the client it finds, or a new one,
is connected, and nothing else the view compares changes. -/
theorem startClient_of_stopped {q : Proxy} (hq : q.running = false) (rnd : Nat → UInt8)
    (hostname : String) :
    (q.startClient rnd hostname true now).1.client =
        some ((q.client.getD (BlueSkyClient.new rnd)).connect true).1 ∧
      (q.startClient rnd hostname true now).1.viewWith = q.viewWith := by
  obtain ⟨ip, hprep⟩ := prepareStart_of_stopped now hq rnd hostname
  rw [startClient, hprep, connectStarted]
  dsimp only
  rw [show ((q.client.getD (BlueSkyClient.new rnd)).connect true).2 = true from rfl]
  simp only [Bool.not_true, Bool.false_eq_true, if_false]
  rw [(startBackupTimer_view _).1, (startBackupTimer_view _).2]
  exact ⟨rfl, rfl⟩

/-- `register_subscribers` without an active node adds the table's filters and changes
nothing else the view compares. -/
theorem registerSubscribers_restartView {q : Proxy} {c : BlueSkyClient} (hc : q.client = some c)
    (hact : c.actId = none) {F : Multiset Bytes} (hF : c.sockRecv = some F) :
    q.registerSubscribers.restartView = some { q.viewWith c with filters := some (F + tableFilters) } := by
  obtain ⟨subs, tt, F', h⟩ := BlueSkyClient.foldl_subscribe_frame subscriptions c
  have hfilters := BlueSkyClient.foldl_subscribe_sockRecv subscriptions c F hact hF
  rw [h] at hfilters
  simp only [registerSubscribers, hc, restartView, Option.map_some', h]
  simp only at hfilters
  rw [hfilters]
  rfl

end Proxy

/-- **A restart is not the application's fresh start.** The fresh sequence (a new proxy,
`start_client(h)`, `register_subscribers()`) ends with the initial command dictionary, the
filter of the client's identity and one for each topic of the table that is not
active-only, and auto-selection on. `reconnect(h)` ends with an empty command dictionary and
only the identity's filter. `start_client(h)` after a health-triggered disconnect ends like
`reconnect`, but keeps the closed client's identity and its auto-selection, which is off once
a node was selected. Everything else compared agrees. -/
theorem restarts_differ_from_fresh_connect (p : Proxy) (rnd : Nat → UInt8) (h : String)
    (now : Int) (t0 : Int) (socketio : Bool) (clients : Nat) (serverIp : String) :
    (((Proxy.fresh t0 socketio clients serverIp).startClient rnd h true now).1.registerSubscribers).restartView =
        some (startedView initialCmddict ({ownFilter (clientNodeId rnd)} + tableFilters) true) ∧
      (p.reconnect rnd h true now).1.restartView =
        some (startedView [] {ownFilter (clientNodeId rnd)} true) ∧
      ∀ c ∈ p.client, ∀ now', ((p.handleDisconnection now).startClient rnd h true now').1.restartView =
        some (startedView [] {ownFilter c.nodeId} c.autoSelect) := by
  refine ⟨?_, ?_, fun c hc now' => ?_⟩
  · -- the fresh sequence: a new client, connected, then the table registered
    obtain ⟨hc1, hv1⟩ :=
      @Proxy.startClient_of_stopped now (Proxy.fresh t0 socketio clients serverIp) rfl rnd h
    rw [Proxy.registerSubscribers_restartView hc1 rfl
      (by rw [BlueSkyClient.connect_true]), hv1]
    rfl
  · -- `reconnect`: stopped and cleared, then a new client, connected
    obtain ⟨pending, nt, bt, hstop⟩ := Proxy.stopClient_eq p now
    have hq : ((p.stopClient now).clearState now).running = false := by rw [hstop]; rfl
    obtain ⟨hc2, hv2⟩ := Proxy.startClient_of_stopped now hq rnd h
    rw [Proxy.reconnect, Proxy.restartView, hc2, Option.map_some', hv2, BlueSkyClient.connect_true,
      hstop]
    rfl
  · -- after `_handle_disconnection`: the closed client, connected again
    have hq : (p.handleDisconnection now).running = false := by rw [Proxy.handleDisconnection_eq]
    obtain ⟨hc3, hv3⟩ := Proxy.startClient_of_stopped now' hq rnd h
    rw [Proxy.restartView, hc3, Option.map_some', hv3, BlueSkyClient.connect_true,
      Proxy.handleDisconnection_eq, Option.mem_def.mp hc]
    rfl

/-- The proxy of the grace check's race before the check fires: it has selected and then lost
its first node, so its client's auto-selection is off. The health-triggered disconnect, then
`start_client`, keeps that client's identity with auto-selection off and only the identity's
filter. -/
theorem restarts_differ_from_fresh_connect_after_node_loss :
    let p := (Proxy.fresh 0 true 0 "localhost").run
      [(0, .startClient (fun _ => 65) "" true),
       (20, .fire 0 ⟨none, some [1, 83, 65, 65, 65, 129], .completed⟩),
       (40, .fire 2 ⟨none, some [0, 83, 65, 65, 65, 129], .completed⟩)]
    p.client.map (·.autoSelect) = some false ∧ ∀ c ∈ p.client,
      ((p.handleDisconnection 1040).startClient (fun _ => 65) "" true 1100).1.restartView =
        some (startedView [] {ownFilter c.nodeId} c.autoSelect) := by
  intro p
  exact ⟨by decide, fun c hc =>
    (restarts_differ_from_fresh_connect p (fun _ => 65) "" 1040 0 true 0 "localhost").2.2 c hc 1100⟩

end WebATM
