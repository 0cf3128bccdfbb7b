import WebATM.Proxy.Frames

/-!
# After a disconnect

`stop_client` and `_handle_disconnection` both leave the proxy stopped, not reconnecting,
with no active node, and with its registries, caches and shape stores empty. Until the
next `start_client` or `reconnect` nothing brings any of it back. A poll tick, the backup
timer and the grace check find the proxy stopped and do nothing. A consumer's command or
node request finds the client stopped, so no frame goes upstream either.
-/

namespace WebATM

/-- The steps that start the client again. -/
def Event.restarts : Event → Bool
  | .startClient .. | .reconnect .. => true
  | _ => false

namespace BlueSkyClient

/-- `register_subscribers`' loop of `subscribe` calls changes only the subscriber list, the
registry and the socket's filters. -/
theorem foldl_subscribe_frame (L : List (String × Callback × Bool)) (c : BlueSkyClient) :
    ∃ subs tt F, L.foldl (fun c s => c.subscribe s.1 s.2.1 s.2.2) c =
      { c with subscribers := subs, acttopics := tt, sockRecv := F } := by
  induction L generalizing c with
  | nil => exact ⟨_, _, _, rfl⟩
  | cons s rest ih =>
    obtain ⟨tt, F, h⟩ := subscribe_frame c s.1 s.2.1 s.2.2
    obtain ⟨subs, tt', F', h'⟩ := ih (c.subscribe s.1 s.2.1 s.2.2)
    rw [List.foldl_cons, h', h]
    exact ⟨_, _, _, rfl⟩

/-- A stopped client sends nothing. -/
theorem send_of_stopped {c : BlueSkyClient} (h : c.running = false) (topic : String)
    (data : Value) (toGroup : Tag) : c.send topic data toGroup = (c, false) := by
  simp [send, h]

theorem addnodes_of_stopped {c : BlueSkyClient} (h : c.running = false) (count serverId : Value) :
    (c.addnodes count serverId).1 = c := by
  unfold addnodes
  dsimp only
  split
  · rw [send_of_stopped h]
  · rfl

end BlueSkyClient

namespace Proxy

/-- The state a disconnect leaves: stopped and not reconnecting, a client (if one is kept)
stopped and without active node, and nothing tracked, cached or stored. -/
structure Disconnected (p : Proxy) : Prop where
  running : p.running = false
  allowReconnection : p.allowReconnection = false
  client : ∀ c ∈ p.client, c.running = false ∧ c.actId = none
  trackedNodes : p.trackedNodes = []
  trackedServers : p.trackedServers = []
  trafficData : p.trafficData = .emptyDict
  simData : p.simData = .emptyDict
  echoData : p.echoData = .emptyDict
  polyDataByNode : p.polyDataByNode = []
  polylineDataByNode : p.polylineDataByNode = []

/-- Nothing went upstream from `p` to `q`: every client of `q` is one of `p` with the same
log of sent frames. -/
def SentNothing (p q : Proxy) : Prop := ∀ c' ∈ q.client, ∃ c ∈ p.client, c'.sent = c.sent

theorem SentNothing.of_client_eq {p q : Proxy} (h : q.client = p.client) : SentNothing p q :=
  fun c hc => ⟨c, h ▸ hc, rfl⟩

theorem SentNothing.trans {p q r : Proxy} (h₁ : SentNothing p q) (h₂ : SentNothing q r) :
    SentNothing p r := by
  intro c'' hc''
  obtain ⟨c', hc', hs'⟩ := h₂ c'' hc''
  obtain ⟨c, hc, hs⟩ := h₁ c' hc'
  exact ⟨c, hc, hs'.trans hs⟩

section Stopped

variable {p : Proxy} (now : Int)

/-- The steps that find the proxy or its client stopped and do nothing. -/
theorem networkTick_of_stopped (h : p.running = false) (round : PollRound) :
    p.networkTick now round = p := by
  simp [networkTick, h]

theorem runTask_of_stopped (h : p.running = false) (round : PollRound) :
    ∀ t, p.runTask now round t = p
  | .networkTick => networkTick_of_stopped now h round
  | .backupEmit => by simp [runTask, backupDataEmit, h]
  | .shutdownCheck => by simp [runTask, checkNodeShutdown, h]

theorem sendCommand_of_stopped (h : ∀ c ∈ p.client, c.running = false) (command : Value) :
    (p.sendCommand command now).1 = p := by
  unfold sendCommand
  split
  · rename_i c s hc
    rw [h c hc]
    rfl
  · rfl

theorem onAddNodes_of_stopped (h : ∀ c ∈ p.client, c.running = false) (data : Value) :
    p.onAddNodes data = p := by
  unfold onAddNodes
  split
  · rename_i c _ _ hc
    dsimp only
    rw [BlueSkyClient.addnodes_of_stopped (h c hc), ← hc]
  · rfl

theorem onSetActiveNode_of_untracked (h : p.trackedNodes = []) (data : Value) :
    p.onSetActiveNode data now = p := by
  unfold onSetActiveNode
  split
  · split_ifs
    · rfl
    · rw [h]; rfl
  · rfl

end Stopped

namespace Disconnected

variable {p : Proxy} (now : Int)

/-- Timers, the consumer count and the pushes are not part of the disconnected state. -/
theorem with_ (h : Disconnected p) (pending : List Timer) (cc : Nat) (pushes : List Push) :
    Disconnected { p with pending := pending, connectedClients := cc, pushes := pushes } :=
  ⟨h.1, h.2, h.3, h.4, h.5, h.6, h.7, h.8, h.9, h.10⟩

theorem of_pushesOnly {q : Proxy} (h : Disconnected p) (hq : PushesOnly p q) : Disconnected q := by
  rw [hq]
  exact h.with_ p.pending p.connectedClients q.pushes

theorem stopClient (p : Proxy) : Disconnected (p.stopClient now) := by
  obtain ⟨pending, nt, bt, h⟩ := stopClient_eq p now
  rw [h]
  exact ⟨rfl, rfl, by simp, rfl, rfl, rfl, rfl, rfl, rfl, rfl⟩

theorem handleDisconnection (p : Proxy) : Disconnected (p.handleDisconnection now) := by
  rw [handleDisconnection_eq]
  refine ⟨rfl, rfl, ?_, rfl, rfl, rfl, rfl, rfl, rfl, rfl⟩
  intro c hc
  simp only [Option.mem_def, Option.map_map, Option.map_eq_some'] at hc
  obtain ⟨a, -, rfl⟩ := hc
  exact ⟨rfl, rfl⟩

theorem close (h : Disconnected p) : Disconnected (p.close now) ∧ SentNothing p (p.close now) := by
  refine ⟨⟨h.running, rfl, ?_, rfl, rfl, rfl, rfl, rfl, h.polyDataByNode, h.polylineDataByNode⟩, ?_⟩
  · intro c hc
    simp only [Proxy.close, Option.mem_def, Option.map_eq_some'] at hc
    obtain ⟨a, -, rfl⟩ := hc
    exact ⟨rfl, rfl⟩
  · intro c hc
    simp only [Proxy.close, Option.mem_def, Option.map_eq_some'] at hc
    obtain ⟨a, ha, rfl⟩ := hc
    exact ⟨a, ha, rfl⟩

theorem registerSubscribers (h : Disconnected p) :
    Disconnected p.registerSubscribers ∧ SentNothing p p.registerSubscribers := by
  unfold Proxy.registerSubscribers
  split
  · rename_i c hc
    obtain ⟨subs, tt, F, hf⟩ := BlueSkyClient.foldl_subscribe_frame subscriptions c
    rw [hf]
    refine ⟨⟨h.1, h.2, ?_, h.4, h.5, h.6, h.7, h.8, h.9, h.10⟩, fun c' hc' => ⟨c, hc, ?_⟩⟩
    · rintro c' ⟨⟩
      exact h.client c hc
    · cases hc'; rfl
  · exact ⟨h, .of_client_eq rfl⟩

theorem fire (h : Disconnected p) (id : Nat) (round : PollRound) :
    Disconnected (p.fire id now round) ∧ SentNothing p (p.fire id now round) := by
  unfold Proxy.fire
  split
  · rw [runTask_of_stopped now (show (p.cancelTimer id).running = false from h.running)]
    exact ⟨h.with_ _ p.connectedClients p.pushes, .of_client_eq rfl⟩
  · exact ⟨h, .of_client_eq rfl⟩

theorem request (h : Disconnected p) (r : Request) :
    Disconnected (p.request now r).1 ∧ SentNothing p (p.request now r).1 := by
  have stopped : ∀ c ∈ p.client, c.running = false := fun c hc => (h.client c hc).1
  cases r with
  | connect admitted =>
    dsimp only [Proxy.request, onConnect]
    split_ifs
    · exact ⟨h, .of_client_eq rfl⟩
    · have h' := h.with_ p.pending (p.connectedClients + 1) p.pushes
      split
      · have hq := pushesOnly_emitActiveNodePolyData { p with connectedClients := p.connectedClients + 1 }
        exact ⟨h'.of_pushesOnly hq, .of_client_eq hq.client⟩
      · exact ⟨h', .of_client_eq rfl⟩
  | disconnect => exact ⟨h.with_ p.pending _ p.pushes, .of_client_eq rfl⟩
  | command data =>
    dsimp only [Proxy.request, onCommand]
    split
    · rw [sendCommand_of_stopped now stopped]
      exact ⟨h, .of_client_eq rfl⟩
    · exact ⟨h, .of_client_eq rfl⟩
  | setActiveNode data =>
    simp only [Proxy.request, onSetActiveNode_of_untracked now h.trackedNodes]
    exact ⟨h, .of_client_eq rfl⟩
  | getNodes => exact ⟨h.of_pushesOnly (pushesOnly_emitNodeInfo p), .of_client_eq rfl⟩
  | addNodes data =>
    simp only [Proxy.request, onAddNodes_of_stopped stopped]
    exact ⟨h, .of_client_eq rfl⟩

/-- One step that does not restart the client keeps the proxy disconnected and sends
nothing upstream. -/
theorem step (h : Disconnected p) {e : Event} (he : e.restarts = false) :
    Disconnected (p.step now e) ∧ SentNothing p (p.step now e) := by
  cases e with
  | startClient => simp [Event.restarts] at he
  | reconnect => simp [Event.restarts] at he
  | stopClient =>
    obtain ⟨_, _, _, hs⟩ := stopClient_eq p now
    refine ⟨stopClient now p, fun c hc => ?_⟩
    change (p.stopClient now).client = some c at hc
    rw [hs] at hc
    cases hc
  | close => exact h.close now
  | registerSubscribers => exact h.registerSubscribers
  | fire id round => exact h.fire now id round
  | request r => exact h.request now r

/-- A run of such steps keeps the proxy disconnected and sends nothing upstream. -/
theorem run (h : Disconnected p) (steps : List (Int × Event))
    (hs : ∀ s ∈ steps, s.2.restarts = false) :
    Disconnected (p.run steps) ∧ SentNothing p (p.run steps) := by
  induction steps generalizing p with
  | nil => exact ⟨h, .of_client_eq rfl⟩
  | cons s rest ih =>
    obtain ⟨h₁, s₁⟩ := h.step s.1 (hs s (List.mem_cons_self _ _))
    obtain ⟨h₂, s₂⟩ := ih h₁ fun s' hs' => hs s' (List.mem_cons_of_mem _ hs')
    exact ⟨h₂, s₁.trans s₂⟩

end Disconnected

/-- **A disconnect is absorbing.** From the state `stop_client` or `_handle_disconnection`
leaves, whatever state it was called in, every run of steps other than `start_client` and
`reconnect` keeps the proxy stopped and not reconnecting, its client stopped and without
active node, its registries, caches and shape stores empty, and sends no frame upstream. -/
theorem disconnect_is_absorbing (p : Proxy) (t : Int) (steps : List (Int × Event))
    (hsteps : ∀ s ∈ steps, s.2.restarts = false) :
    ∀ q ∈ [p.stopClient t, p.handleDisconnection t],
      Disconnected (q.run steps) ∧ SentNothing q (q.run steps) := by
  intro q hq
  simp only [List.mem_cons, List.mem_singleton, List.not_mem_nil, or_false] at hq
  rcases hq with rfl | rfl
  · exact (Disconnected.stopClient t p).run steps hsteps
  · exact (Disconnected.handleDisconnection t p).run steps hsteps

/-- A started proxy disconnected at 20 ms, then a poll tick that announces a node, a
consumer's command and a node listing. -/
theorem disconnect_is_absorbing_after_start :
    let p := (Proxy.fresh 0 true 1 "localhost").run [(0, .startClient (fun _ => 65) "" true)]
    let steps : List (Int × Event) :=
      [(30, .fire 0 ⟨none, some [1, 83, 65, 65, 65, 129], .completed⟩),
       (40, .request (.command (.dict [(.str "command", .str "CRE KL1")]))),
       (50, .request .getNodes)]
    ∀ q ∈ [p.stopClient 20, p.handleDisconnection 20],
      Disconnected (q.run steps) ∧ SentNothing q (q.run steps) :=
  disconnect_is_absorbing _ _ _ (by decide)

end Proxy

end WebATM
