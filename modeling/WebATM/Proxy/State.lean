import WebATM.Client.Dispatch

/-!
# The proxy's state

`BlueSkyProxy` holds the protocol client, the connection-health fields, the caches served
to consumers, the per-node shape stores, and the node and server registries. Its managers
keep no state of their own. Besides the attributes, the state records the
`threading.Timer`s that are started and have neither fired nor been cancelled, and the
events pushed to consumers through Socket.IO.

Times are integer milliseconds; a step reads one clock value for every `time.time()` it
makes.
-/

namespace WebATM

/-- A record of `tracked_nodes`. -/
structure NodeRecord where
  nodeId : Bytes
  nodeIdStr : String
  nodeNum : Int
  serverId : Bytes
  status : Value
  time : String

/-- The record as the dictionary `tracked_nodes` holds. -/
def NodeRecord.toValue (r : NodeRecord) : Value :=
  .dict [(.str "node_id", .bin r.nodeId), (.str "node_id_str", .str r.nodeIdStr),
    (.str "node_num", .int r.nodeNum), (.str "server_id", .bin r.serverId),
    (.str "status", r.status), (.str "time", .str r.time)]

/-- The callback a `threading.Timer` runs. -/
inductive TimerTask where
  /-- `network_timer_callback`, the poll tick. -/
  | networkTick
  /-- `DataManager.backup_data_emit`. -/
  | backupEmit
  /-- `NodeManager._check_node_shutdown`, the grace check after the last node left. -/
  | shutdownCheck
  deriving DecidableEq, Repr

/-- A started timer, with the handle that `cancel()` goes through. -/
structure Timer where
  id : Nat
  task : TimerTask
  deriving DecidableEq, Repr

/-- `socketio.emit(event, data)`. -/
structure Push where
  event : String
  data : Value

/-- `BlueSkyProxy`, with the attributes its managers and handlers read or write. -/
structure Proxy where
  /-- `bluesky_client`: absent until `start_client`, and again after `stop_client`. -/
  client : Option BlueSkyClient
  running : Bool
  /-- The handle of the last poll timer started. -/
  networkTimer : Option Nat
  allowReconnection : Bool
  lastSuccessfulUpdate : Int
  wasConnected : Bool
  connectionFailures : Nat
  trafficData : Value
  simData : Value
  echoData : Value
  lastUpdate : Int
  /-- `poly_data_by_node`: hex node identity to `{"polys": ...}`. -/
  polyDataByNode : List (String × Value)
  polylineDataByNode : List (String × Value)
  lastSiminfoEmit : Int
  lastAcdataEmit : Int
  lastEchoEmit : Int
  /-- The handle of the last backup timer started. -/
  backupTimer : Option Nat
  connectedClients : Nat
  /-- `tracked_nodes`, keyed by the hex of the node identity. -/
  trackedNodes : List (String × NodeRecord)
  /-- The keys of `tracked_servers`; each maps to `{"server_id": key}`. -/
  trackedServers : List Bytes
  serverIp : String
  cmddict : List (Key × Value)
  /-- Whether `socketio` is set. -/
  socketio : Bool
  /-- Timers started and not yet fired or cancelled. -/
  pending : List Timer
  /-- The handle the next timer gets. -/
  nextTimer : Nat
  /-- Events pushed to consumers, oldest first. -/
  pushes : List Push

/-- `connection_timeout`: 10 s. -/
def connectionTimeout : Int := 10000

/-- `max_connection_failures`. -/
def maxConnectionFailures : Nat := 3

/-- `siminfo_interval`: 0.1 s. -/
def siminfoInterval : Int := 100

/-- `acdata_interval`: 0.1 s. -/
def acdataInterval : Int := 100

/-- The initial `cmddict`. -/
def initialCmddict : List (Key × Value) :=
  [(.str "HELP", .str "HELP [command]: Display help information"),
   (.str "?", .str "?: Display help information (alias for HELP)")]

/-- `BlueSkyProxy.__init__` at time `now`. -/
def Proxy.init (now : Int) : Proxy where
  client := none
  running := false
  networkTimer := none
  allowReconnection := false
  lastSuccessfulUpdate := now
  wasConnected := false
  connectionFailures := 0
  trafficData := .emptyDict
  simData := .emptyDict
  echoData := .emptyDict
  lastUpdate := 0
  polyDataByNode := []
  polylineDataByNode := []
  lastSiminfoEmit := 0
  lastAcdataEmit := 0
  lastEchoEmit := 0
  backupTimer := none
  connectedClients := 0
  trackedNodes := []
  trackedServers := []
  serverIp := "localhost"
  cmddict := initialCmddict
  socketio := false
  pending := []
  nextTimer := 0
  pushes := []

/-- `d.get(key)` on a dictionary the proxy keeps. -/
def assocGet {α β : Type} [DecidableEq α] : List (α × β) → α → Option β
  | [], _ => none
  | (k, v) :: rest, a => if k = a then some v else assocGet rest a

/-- `d[key] = value` on a dictionary the proxy keeps: an existing key keeps its place. -/
def upsert {α β : Type} [DecidableEq α] : List (α × β) → α → β → List (α × β)
  | [], a, b => [(a, b)]
  | (k, v) :: rest, a, b => if k = a then (k, b) :: rest else (k, v) :: upsert rest a b

/-- `del d[key]`. -/
def remove {α β : Type} [DecidableEq α] : List (α × β) → α → List (α × β)
  | [], _ => []
  | (k, v) :: rest, a => if k = a then rest else (k, v) :: remove rest a

section Assoc

variable {α β : Type} [DecidableEq α]

@[simp] theorem assocGet_upsert_self (d : List (α × β)) (a : α) (b : β) :
    assocGet (upsert d a b) a = some b := by
  induction d with
  | nil => simp [upsert, assocGet]
  | cons e rest ih =>
    by_cases h : e.1 = a <;> simp [upsert, assocGet, h, ih]

theorem assocGet_upsert_ne (d : List (α × β)) {a a' : α} (b : β) (h : a ≠ a') :
    assocGet (upsert d a b) a' = assocGet d a' := by
  induction d with
  | nil => simp [upsert, assocGet, h]
  | cons e rest ih =>
    by_cases hk : e.1 = a
    · simp [upsert, assocGet, hk, h]
    · by_cases hk' : e.1 = a' <;> simp [upsert, assocGet, hk, hk', ih, h.symm]

theorem assocGet_remove_ne (d : List (α × β)) {a a' : α} (h : a ≠ a') :
    assocGet (remove d a) a' = assocGet d a' := by
  induction d with
  | nil => rfl
  | cons e rest ih =>
    by_cases hk : e.1 = a
    · simp [remove, assocGet, hk, h]
    · by_cases hk' : e.1 = a' <;> simp [remove, assocGet, hk, hk', ih, h.symm]

theorem assocGet_eq_none_iff (d : List (α × β)) (a : α) :
    assocGet d a = none ↔ a ∉ d.map Prod.fst := by
  induction d with
  | nil => simp [assocGet]
  | cons e rest ih =>
    by_cases hk : e.1 = a
    · simp [assocGet, hk]
    · simp [assocGet, hk, ih, Ne.symm hk]

/-- A new key is appended. -/
theorem upsert_of_not_mem {d : List (α × β)} {a : α} (b : β) (h : a ∉ d.map Prod.fst) :
    upsert d a b = d ++ [(a, b)] := by
  induction d with
  | nil => rfl
  | cons e rest ih =>
    simp only [List.map_cons, List.mem_cons, not_or] at h
    simp [upsert, Ne.symm h.1, ih h.2]

theorem remove_keys (d : List (α × β)) (a : α) :
    (remove d a).map Prod.fst = (d.map Prod.fst).erase a := by
  induction d with
  | nil => rfl
  | cons e rest ih =>
    by_cases hk : e.1 = a
    · simp [remove, hk]
    · simp [remove, hk, ih, List.erase_cons]

theorem remove_sublist (d : List (α × β)) (a : α) : (remove d a).Sublist d := by
  induction d with
  | nil => exact .slnil
  | cons e rest ih =>
    unfold remove
    split_ifs
    · exact .cons _ (.refl _)
    · exact ih.cons₂ _

theorem mem_upsert {d : List (α × β)} {a : α} {b : β} {x : α × β} (h : x ∈ upsert d a b) :
    x ∈ d ∨ x = (a, b) := by
  induction d with
  | nil => simp_all [upsert]
  | cons e rest ih =>
    unfold upsert at h
    split_ifs at h with he
    · rcases List.mem_cons.mp h with rfl | h
      · exact .inr (by rw [he])
      · exact .inl (List.mem_cons_of_mem _ h)
    · rcases List.mem_cons.mp h with rfl | h
      · exact .inl (List.mem_cons_self _ _)
      · exact (ih h).imp_left (List.mem_cons_of_mem _)

theorem assocGet_mem {d : List (α × β)} {a : α} {b : β} (h : assocGet d a = some b) :
    (a, b) ∈ d := by
  induction d with
  | nil => cases h
  | cons e rest ih =>
    unfold assocGet at h
    split_ifs at h with he
    · cases h; rw [← he]; exact List.mem_cons_self _ _
    · exact List.mem_cons_of_mem _ (ih h)

end Assoc

namespace Proxy

/-- The handlers' common guard `if proxy.socketio and proxy.connected_clients > 0`
around a push. -/
def broadcast (p : Proxy) (event : String) (data : Value) : Proxy :=
  { p with pushes := if p.socketio ∧ 0 < p.connectedClients then p.pushes ++ [⟨event, data⟩]
                     else p.pushes }

/-- `threading.Timer(delay, task).start()`: a new pending timer and its handle. -/
def startTimer (p : Proxy) (task : TimerTask) : Proxy × Nat :=
  ({ p with pending := p.pending ++ [⟨p.nextTimer, task⟩], nextTimer := p.nextTimer + 1 },
    p.nextTimer)

/-- `timer.cancel()`: the timer no longer fires, if it had not yet. -/
def cancelTimer (p : Proxy) (id : Nat) : Proxy :=
  { p with pending := p.pending.filter (·.id ≠ id) }

/-- The pending poll ticks. -/
def pendingTicks (p : Proxy) : List Timer := p.pending.filter (·.task = .networkTick)

end Proxy

end WebATM
