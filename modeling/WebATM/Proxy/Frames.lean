import WebATM.Proxy.System

/-!
# What each method writes

A topic handler writes the caches, the shape stores, the silence timestamp, the throttle
times, the command dictionary and the push log, and at most the status of a tracked
node's record; it never touches the connection loop, the client or the registries. The
signal slots write the registries but not the loop. This file states these frames once per
method, so that later proofs cite them and never unfold a handler.
-/

namespace WebATM

/-- A tracked node as the registry laws see it: its key, identity and index. -/
def NodeRecord.view (e : String × NodeRecord) : String × Bytes × Int := (e.1, e.2.nodeId, e.2.nodeNum)

/-- The fields of the proxy that no topic handler writes. -/
structure Core where
  running : Bool
  allowReconnection : Bool
  connectionFailures : Nat
  pending : List Timer
  nextTimer : Nat
  networkTimer : Option Nat
  backupTimer : Option Nat
  client : Option BlueSkyClient
  wasConnected : Bool
  tracked : List (String × Bytes × Int)
  trackedServers : List Bytes
  socketio : Bool
  connectedClients : Nat

/-- The connection loop's control state: what neither a handler nor a slot writes. -/
structure Loop where
  running : Bool
  allowReconnection : Bool
  connectionFailures : Nat
  ticks : List Timer

/-- What the registry laws read of a client: its identity, nodes and servers, and whether
it runs. -/
structure ClientIds where
  nodeId : Bytes
  nodes : Finset Bytes
  servers : Finset Bytes
  running : Bool

/-- The registries as the registry laws see them: whether the proxy runs, its client's
identities, and the tracked nodes' keys, identities and indices. -/
structure Registry where
  running : Bool
  client : Option ClientIds
  tracked : List (String × Bytes × Int)

namespace BlueSkyClient

/-- The client's identities. -/
def ids (c : BlueSkyClient) : ClientIds := ⟨c.nodeId, c.nodes, c.servers, c.running⟩

/-- Dispatching a data frame changes only the dispatch context. -/
theorem ids_processDataMessage (c : BlueSkyClient) (m : DataMsg) :
    (c.processDataMessage m).1.ids = c.ids := by
  unfold processDataMessage sharedState
  dsimp only
  repeat' split
  all_goals rfl

theorem ids_actnode (c : BlueSkyClient) (n : Bytes) : (c.actnode n).1.ids = c.ids := by
  by_cases hr : n = [] ∨ n ∉ c.nodes ∨ some n = c.actId
  · rw [actnode_of_reject hr]
  · simp only [not_or, not_not] at hr
    rw [actnode_of_switch hr.1 hr.2.1 hr.2.2]
    obtain ⟨tt, F, h⟩ := foldl_rebind_frame c.actId n (actPairs c.acttopics) c.firstSelection
    rw [h]
    unfold firstSelection
    split_ifs <;> rfl

/-- `actnode` emits `actnode_changed` only. -/
theorem actnode_signals (c : BlueSkyClient) (n : Bytes) :
    ∀ s ∈ (c.actnode n).2, ∃ a, s = .actnodeChanged a := by
  by_cases hr : n = [] ∨ n ∉ c.nodes ∨ some n = c.actId
  · simp [actnode_of_reject hr]
  · simp only [not_or, not_not] at hr
    simp [actnode_of_switch hr.1 hr.2.1 hr.2.2]

theorem ids_send (c : BlueSkyClient) (topic : String) (data : Value) (toGroup : Tag) :
    (c.send topic data toGroup).1.ids = c.ids := by
  rw [send_fst]; rfl

theorem ids_subscribe (c : BlueSkyClient) (topic : String) (cb : Callback) (actonly : Bool) :
    (c.subscribe topic cb actonly).ids = c.ids := by
  obtain ⟨tt, F, h⟩ := subscribe_frame c topic cb actonly
  rw [h]; rfl

theorem ids_stack (c : BlueSkyClient) (cmdline : String) : (c.stack cmdline).ids = c.ids := by
  unfold stack; dsimp only; split_ifs <;> rfl

theorem ids_addnodes (c : BlueSkyClient) (count serverId : Value) :
    (c.addnodes count serverId).1.ids = c.ids := by
  unfold addnodes
  dsimp only
  repeat' split
  all_goals first | rfl | exact ids_send ..

end BlueSkyClient

/-- Replacing the value of a present key by one that looks the same keeps the view. -/
theorem map_upsert_of_assocGet {α β γ : Type} [DecidableEq α] {d : List (α × β)} {a : α}
    {b b' : β} (f : α × β → γ) (h : assocGet d a = some b) (hf : f (a, b') = f (a, b)) :
    (upsert d a b').map f = d.map f := by
  induction d with
  | nil => cases h
  | cons e rest ih =>
    obtain ⟨k, v⟩ := e
    by_cases hk : k = a
    · subst hk
      simp only [assocGet, if_true, Option.some.injEq] at h
      subst h
      simp [upsert, hf]
    · simp only [assocGet, hk, if_false] at h
      simp [upsert, hk, ih h]

namespace Proxy

/-- The proxy's fields that no topic handler writes. -/
def core (p : Proxy) : Core :=
  ⟨p.running, p.allowReconnection, p.connectionFailures, p.pending, p.nextTimer, p.networkTimer,
    p.backupTimer, p.client, p.wasConnected, p.trackedNodes.map NodeRecord.view, p.trackedServers,
    p.socketio, p.connectedClients⟩

/-- The connection loop's control state. -/
def loop (p : Proxy) : Loop := ⟨p.running, p.allowReconnection, p.connectionFailures, p.pendingTicks⟩

/-- The registries. -/
def registry (p : Proxy) : Registry :=
  ⟨p.running, p.client.map BlueSkyClient.ids, p.trackedNodes.map NodeRecord.view⟩

theorem registry_of_core {p q : Proxy} (h : q.core = p.core) : q.registry = p.registry :=
  congrArg (fun k : Core => Registry.mk k.running (k.client.map BlueSkyClient.ids) k.tracked) h

theorem loop_of_core {p q : Proxy} (h : q.core = p.core) : q.loop = p.loop :=
  congrArg (fun k : Core => Loop.mk k.running k.allowReconnection k.connectionFailures
    (k.pending.filter (·.task = .networkTick))) h

/-- The shape stores. -/
def stores (p : Proxy) : List (String × Value) × List (String × Value) :=
  (p.polyDataByNode, p.polylineDataByNode)

/-- `q` is `p` with only pushes added. -/
def PushesOnly (p q : Proxy) : Prop := q = { p with pushes := q.pushes }

theorem PushesOnly.refl (p : Proxy) : PushesOnly p p := rfl

theorem PushesOnly.trans {p q r : Proxy} (h₁ : PushesOnly p q) (h₂ : PushesOnly q r) :
    PushesOnly p r := by
  unfold PushesOnly at *; rw [h₂, h₁]

theorem PushesOnly.core {p q : Proxy} (h : PushesOnly p q) : q.core = p.core := by rw [h]; rfl

theorem PushesOnly.stores {p q : Proxy} (h : PushesOnly p q) : q.stores = p.stores := by
  rw [h]; rfl

theorem PushesOnly.getSafeActiveNode {p q : Proxy} (h : PushesOnly p q) :
    q.getSafeActiveNode = p.getSafeActiveNode := by rw [h]; rfl

theorem PushesOnly.trackedNodes {p q : Proxy} (h : PushesOnly p q) :
    q.trackedNodes = p.trackedNodes := by rw [h]

theorem PushesOnly.client {p q : Proxy} (h : PushesOnly p q) : q.client = p.client := by rw [h]

theorem PushesOnly.running {p q : Proxy} (h : PushesOnly p q) : q.running = p.running := by rw [h]

section Frames

variable (p : Proxy) (now : Int)

theorem pushesOnly_broadcast (event : String) (data : Value) :
    PushesOnly p (p.broadcast event data) := rfl

theorem pushesOnly_emitNodeInfo : PushesOnly p p.emitNodeInfo := rfl

theorem pushesOnly_emitConnectionStatus (connected : Bool) :
    PushesOnly p (p.emitConnectionStatus connected now) := rfl

theorem pushesOnly_emitClearedData : PushesOnly p (p.emitClearedData now) :=
  ((((pushesOnly_broadcast _ _ _).trans (pushesOnly_broadcast _ _ _)).trans
    (pushesOnly_broadcast _ _ _)).trans (pushesOnly_broadcast _ _ _)).trans (pushesOnly_broadcast _ _ _)

theorem pushesOnly_emitActiveShapes {event : String} {store : List (String × Value)} {q : Proxy}
    (h : p.emitActiveShapes event store = some q) : PushesOnly p q := by
  unfold emitActiveShapes at h
  repeat' split at h
  all_goals cases h <;> rfl

theorem pushesOnly_emitActiveNodePolyData : PushesOnly p p.emitActiveNodePolyData := by
  unfold emitActiveNodePolyData
  split
  next q hq =>
    have hp := pushesOnly_emitActiveShapes p hq
    cases hl : q.emitActiveShapes "polyline" q.polylineDataByNode with
    | none => exact hp
    | some r => exact hp.trans (pushesOnly_emitActiveShapes q hl)
  next => exact .refl p

theorem pushesOnly_onActnodeChanged : PushesOnly p p.onActnodeChanged := by
  unfold onActnodeChanged
  split
  · exact (pushesOnly_emitNodeInfo p).trans (pushesOnly_emitActiveNodePolyData _)
  · exact .refl p

@[simp] theorem core_broadcast (event : String) (data : Value) :
    (p.broadcast event data).core = p.core := rfl

@[simp] theorem stores_broadcast (event : String) (data : Value) :
    (p.broadcast event data).stores = p.stores := rfl

/-- `_on_server_added` writes the server registry and the pushes only. -/
theorem onServerAdded_frame (s : Bytes) :
    ∃ ts ps, p.onServerAdded s = { p with trackedServers := ts, pushes := ps } := by
  unfold onServerAdded
  dsimp only
  split_ifs <;> exact ⟨_, _, rfl⟩

theorem core_throttledPush (event : String) (data : Value) (last interval : Int)
    (record : Proxy → Int → Proxy) (hr : ∀ q t, (record q t).core = q.core) :
    (p.throttledPush event data last interval now record).core = p.core := by
  unfold throttledPush
  split_ifs
  · rw [hr]; rfl
  · rfl

theorem stores_throttledPush (event : String) (data : Value) (last interval : Int)
    (record : Proxy → Int → Proxy) (hr : ∀ q t, (record q t).stores = q.stores) :
    (p.throttledPush event data last interval now record).stores = p.stores := by
  unfold throttledPush
  split_ifs
  · rw [hr]; rfl
  · rfl

/-- The record update of `on_siminfo_received` changes a tracked node's status and time
only. -/
theorem core_of_updateNodeStatus {p q : Proxy} {s : String} {simt scen : Value}
    (h : p.updateNodeStatus s simt scen = .ok q ∨ p.updateNodeStatus s simt scen = .error q) :
    q.core = p.core := by
  unfold updateNodeStatus at h
  split at h
  next r hr =>
    have hv : ∀ st txt, (upsert p.trackedNodes s { r with status := st, time := txt }).map
        NodeRecord.view = p.trackedNodes.map NodeRecord.view :=
      fun _ _ => map_upsert_of_assocGet _ hr rfl
    dsimp only at h
    repeat' split at h
    all_goals rcases h with h | h <;> cases h <;> simp only [core, emitNodeInfo, broadcast, hv]
  next => rcases h with h | h <;> cases h <;> rfl

theorem core_onSiminfoReceived (a b c d e f g h : Value) :
    (p.onSiminfoReceived now a b c d e f g h).core = p.core := by
  unfold onSiminfoReceived
  dsimp only
  repeat' split
  any_goals rfl
  · rename_i hu
    have := core_of_updateNodeStatus (.inr hu)
    exact this
  · rename_i hu
    have := core_of_updateNodeStatus (.inl hu)
    rw [core_throttledPush]
    · exact this
    · exact fun _ _ => rfl

theorem core_onAcdataReceived (d : Value) : (p.onAcdataReceived now d).core = p.core := by
  unfold onAcdataReceived throttledPush
  dsimp only
  repeat' split
  all_goals rfl

theorem core_onRoutedataReceived (d : Value) : (p.onRoutedataReceived now d).core = p.core := by
  unfold onRoutedataReceived
  dsimp only
  repeat' split
  all_goals rfl

theorem core_echo (t f s : Value) : (p.echo now t f s).core = p.core := by
  unfold echo
  dsimp only
  repeat' split
  all_goals rfl

theorem core_onStackcmdsReceived (d : Value) : (p.onStackcmdsReceived now d).core = p.core := by
  unfold onStackcmdsReceived
  repeat' split
  all_goals rfl

theorem core_processServerCommand (cmdline : String) :
    (p.processServerCommand cmdline now).core = p.core := by
  unfold processServerCommand
  dsimp only
  repeat' split
  all_goals rfl

theorem core_serverCommands : ∀ (p : Proxy) (cmds : List Value),
    (serverCommands now p cmds).core = p.core
  | p, [] => rfl
  | p, .str s :: rest => by
    unfold serverCommands
    split_ifs
    · exact core_serverCommands p rest
    · rw [core_serverCommands, core_processServerCommand]
  | p, .none :: rest | p, .bool _ :: rest | p, .int _ :: rest | p, .float _ :: rest
  | p, .bin _ :: rest | p, .list _ :: rest | p, .dict _ :: rest => by
    unfold serverCommands
    split_ifs
    · rfl
    · exact core_serverCommands p rest

theorem core_onStackReceived (d : Value) : (p.onStackReceived now d).core = p.core := by
  unfold onStackReceived
  split
  all_goals first | rfl | exact core_serverCommands now _ _

/-- The store updates of `on_poly_received` write the shape stores only. -/
theorem core_of_storeShapes {p q : Proxy} {s : String} {d : Value} {sep : Value × Value}
    (h : p.storeShapes s d sep = .ok q ∨ p.storeShapes s d sep = .error q) : q.core = p.core := by
  unfold storeShapes at h
  dsimp only at h
  repeat' split at h
  all_goals rcases h with h | h <;> cases h <;> rfl

theorem core_onPolyReceived (d : Value) : (p.onPolyReceived now d).core = p.core := by
  unfold onPolyReceived
  dsimp only
  repeat' split
  any_goals rfl
  · rename_i hs
    have := core_of_storeShapes (.inr hs)
    exact this
  all_goals
    rename_i hs _
    have := core_of_storeShapes (.inl hs)
    exact this

theorem core_onResetReceived : (p.onResetReceived now).core = p.core := by
  unfold onResetReceived
  dsimp only
  repeat' split
  all_goals rfl

theorem core_onDataNoted : (p.onDataNoted now).core = p.core := by
  unfold onDataNoted
  split <;> rfl

/-- No topic handler writes the loop, the client or the registries. -/
theorem core_runHandler (cb : Callback) (vals : List Value) :
    (p.runHandler now cb vals).core = p.core := by
  unfold runHandler
  split
  all_goals first
    | rfl
    | apply core_onSiminfoReceived | apply core_onAcdataReceived | apply core_onRoutedataReceived
    | apply core_echo | apply core_onStackcmdsReceived | apply core_onStackReceived
    | apply core_onPolyReceived | apply core_onResetReceived | apply core_onDataNoted

theorem core_deliver (d : Delivery) (subscribers : List Callback) :
    (p.deliver now d subscribers).core = p.core := by
  unfold deliver
  induction subscribers generalizing p with
  | nil => rfl
  | cons cb rest ih =>
    rw [List.foldl_cons, ih]
    split
    · exact core_runHandler ..
    · rfl

theorem loop_deliver (d : Delivery) (subscribers : List Callback) :
    (p.deliver now d subscribers).loop = p.loop :=
  loop_of_core (core_deliver ..)

theorem registry_deliver (d : Delivery) (subscribers : List Callback) :
    (p.deliver now d subscribers).registry = p.registry :=
  registry_of_core (core_deliver ..)

end Frames

section Registries

variable (p : Proxy) (now : Int)

theorem PushesOnly.registry {p q : Proxy} (h : PushesOnly p q) : q.registry = p.registry :=
  registry_of_core h.core

theorem PushesOnly.loop {p q : Proxy} (h : PushesOnly p q) : q.loop = p.loop :=
  loop_of_core h.core

theorem registry_dataMessage (m : DataMsg) : (p.dataMessage now m).registry = p.registry := by
  unfold dataMessage
  split
  · rfl
  · rename_i c hc
    have h : ({ p with client := some (c.processDataMessage m).1 }).registry = p.registry := by
      simp only [registry, hc, Option.map_some', BlueSkyClient.ids_processDataMessage]
    dsimp only
    split
    · rw [registry_deliver, h]
    · exact h

theorem loop_dataMessage (m : DataMsg) : (p.dataMessage now m).loop = p.loop := by
  unfold dataMessage
  split
  · rfl
  · dsimp only
    split
    · rw [loop_deliver]; rfl
    · rfl

/-- The slots of `actnode_changed` only push. -/
theorem pushesOnly_runSlots {sigs : List Signal} (h : ∀ s ∈ sigs, ∃ a, s = .actnodeChanged a) :
    PushesOnly p (p.runSlots now sigs) := by
  induction sigs generalizing p with
  | nil => exact .refl p
  | cons s rest ih =>
    obtain ⟨a, rfl⟩ := h s (List.mem_cons_self _ _)
    exact (pushesOnly_onActnodeChanged p).trans
      (ih _ fun s hs => h s (List.mem_cons_of_mem _ hs))

theorem registry_actnode (n : Bytes) : (p.actnode n now).registry = p.registry := by
  unfold actnode
  split
  · rename_i c hc
    rw [(pushesOnly_runSlots _ _ (BlueSkyClient.actnode_signals c n)).registry]
    simp only [registry, hc, Option.map_some', BlueSkyClient.ids_actnode]
  · rfl

theorem registry_forwardCommand (cmdline : String) :
    (p.forwardCommand cmdline now).registry = p.registry := by
  unfold forwardCommand
  split
  · rename_i c hc
    simp only [registry, hc, Option.map_some', BlueSkyClient.ids_send]
  · rfl

theorem registry_stackCommand (cmdline : String) :
    (p.stackCommand now cmdline).registry = p.registry := by
  unfold stackCommand
  dsimp only
  repeat' split
  all_goals first | rfl | exact registry_forwardCommand ..

theorem registry_foldl_stackCommand (lines : List String) (p : Proxy) :
    (lines.foldl (fun q l => q.stackCommand now l) p).registry = p.registry := by
  induction lines generalizing p with
  | nil => rfl
  | cons l rest ih => rw [List.foldl_cons, ih, registry_stackCommand]

theorem registry_processStackCommands : (p.processStackCommands now).registry = p.registry := by
  unfold processStackCommands
  split
  · rename_i c hc
    split
    · rfl
    · rw [registry_foldl_stackCommand]
      simp only [registry, hc, Option.map_some']; rfl
  · rfl

theorem registry_sendCommand (command : Value) :
    (p.sendCommand command now).1.registry = p.registry := by
  unfold sendCommand
  split
  · rename_i c s hc
    split
    · rw [registry_processStackCommands]
      simp only [registry, hc, Option.map_some', BlueSkyClient.ids_stack]
    · rfl
  · rfl

theorem registry_onAddNodes (data : Value) : (p.onAddNodes data).registry = p.registry := by
  unfold onAddNodes
  split
  · rename_i c hc
    simp only [registry, hc, Option.map_some', BlueSkyClient.ids_addnodes]
  · rfl

theorem registry_onSetActiveNode (data : Value) :
    (p.onSetActiveNode data now).registry = p.registry := by
  unfold onSetActiveNode
  repeat' split
  all_goals first | rfl | exact registry_actnode ..

theorem registry_onConnect (admitted : Bool) :
    (p.onConnect admitted now).1.registry = p.registry := by
  unfold onConnect
  split
  · rfl
  · dsimp only
    split
    · exact (pushesOnly_emitActiveNodePolyData _).registry
    · rfl

theorem registry_onCommand (data : Value) : (p.onCommand data now).1.registry = p.registry := by
  unfold onCommand
  split
  · exact registry_sendCommand ..
  · rfl

/-- No consumer request changes the registries. -/
theorem registry_request (r : Request) : (p.request now r).1.registry = p.registry := by
  cases r with
  | connect admitted => exact registry_onConnect ..
  | disconnect => rfl
  | command data => exact registry_onCommand ..
  | setActiveNode data => exact registry_onSetActiveNode ..
  | getNodes => rfl
  | addNodes data => exact registry_onAddNodes ..

theorem ids_foldl_subscribe (L : List (String × Callback × Bool)) (c : BlueSkyClient) :
    (L.foldl (fun c s => c.subscribe s.1 s.2.1 s.2.2) c).ids = c.ids := by
  induction L generalizing c with
  | nil => rfl
  | cons s rest ih => rw [List.foldl_cons, ih, BlueSkyClient.ids_subscribe]

theorem registry_registerSubscribers : p.registerSubscribers.registry = p.registry := by
  unfold registerSubscribers
  split
  · rename_i c hc
    simp only [registry, hc, Option.map_some', ids_foldl_subscribe]
  · rfl

theorem registry_startBackupTimer : p.startBackupTimer.registry = p.registry := by
  unfold startBackupTimer
  split <;> rfl

theorem registry_backupDataEmit : p.backupDataEmit.registry = p.registry := by
  unfold backupDataEmit
  split
  · rfl
  · dsimp only
    rw [registry_startBackupTimer]
    repeat' split
    all_goals rfl

theorem registry_reschedule : p.reschedule.registry = p.registry := by
  unfold reschedule
  split <;> rfl

end Registries



section Lifecycle

variable (p : Proxy) (now : Int)

/-- `_handle_disconnection` leaves the proxy stopped, not reconnecting and not connected,
with the active node cleared, the client closed, and the registries, caches, shape stores
and command dictionary empty; it cancels no timer. -/
theorem handleDisconnection_eq : p.handleDisconnection now =
    { p with running := false, allowReconnection := false, connectionFailures := 0,
             client := (p.client.map fun c => ({ c with actId := none } : BlueSkyClient)).map
               BlueSkyClient.close,
             wasConnected := false, lastSuccessfulUpdate := now, trackedNodes := [],
             trackedServers := [], trafficData := .emptyDict, simData := .emptyDict,
             echoData := .emptyDict, lastUpdate := 0, polyDataByNode := [], polylineDataByNode := [],
             lastSiminfoEmit := 0, lastAcdataEmit := 0, lastEchoEmit := 0, cmddict := [],
             pushes := (p.handleDisconnection now).pushes } := by
  unfold handleDisconnection
  dsimp only
  split_ifs <;> rfl

theorem cancelTimers_eq : ∃ pending nt bt,
    p.cancelTimers = { p with pending := pending, networkTimer := nt, backupTimer := bt } := by
  unfold cancelTimers cancelTimer
  dsimp only
  repeat' split
  all_goals exact ⟨_, _, _, rfl⟩

/-- `stop_client` leaves the proxy stopped and without a client, with its state cleared;
only the timers it cancelled and its pushes differ otherwise. -/
theorem stopClient_eq : ∃ pending nt bt, p.stopClient now =
    { p with running := false, allowReconnection := false, client := none, pending := pending,
             networkTimer := nt, backupTimer := bt, wasConnected := false,
             lastSuccessfulUpdate := now, trackedNodes := [], trackedServers := [],
             trafficData := .emptyDict, simData := .emptyDict, echoData := .emptyDict,
             lastUpdate := 0, polyDataByNode := [], polylineDataByNode := [], lastSiminfoEmit := 0,
             lastAcdataEmit := 0, lastEchoEmit := 0, cmddict := [],
             pushes := (p.stopClient now).pushes } := by
  unfold stopClient clearState
  obtain ⟨pending, nt, bt, h⟩ := cancelTimers_eq { p with running := false, allowReconnection := false }
  rw [h]
  exact ⟨_, _, _, rfl⟩

end Lifecycle

end Proxy

end WebATM
