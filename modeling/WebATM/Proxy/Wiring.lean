import WebATM.Proxy.ShapeEvents

/-!
# How the client is wired

Only the lifecycle and `register_subscribers` change what the protocol client is wired
with: whether it runs, whether its send socket is open, the handlers subscribed to each
topic, and its command stack. This file proves, over every run from a freshly configured
proxy, that a running client has its send socket open, that every handler it calls is one
`register_subscribers` installs for that topic, and that no command is left on the stack
between steps. The command and shape laws assume no more than this.
-/

namespace WebATM

/-- What the lifecycle and `register_subscribers` set up in a client. -/
structure Wiring where
  running : Bool
  sockSend : Bool
  subscribers : List (String × Callback)
  cmdstack : List (String × Option Bytes)

/-- A client's wiring. -/
def BlueSkyClient.wiring (c : BlueSkyClient) : Wiring :=
  ⟨c.running, c.sockSend, c.subscribers, c.cmdstack⟩

/-- A sound wiring: the send socket of a running client is open, every subscription is a
row of `register_subscribers`' table, and the stack is drained. -/
structure Wiring.Ok (w : Wiring) : Prop where
  sockSend : w.running = true → w.sockSend = true
  subscribers : ∀ x ∈ w.subscribers, ∃ a, (x.1, x.2, a) ∈ subscriptions
  cmdstack : w.cmdstack = []

/-- The wiring of the proxy's client, if any. -/
def Proxy.wiring (p : Proxy) : Option Wiring := p.client.map BlueSkyClient.wiring

/-- The proxy's client, if any, is soundly wired. -/
def Proxy.Wired (p : Proxy) : Prop := ∀ w ∈ p.wiring, w.Ok

namespace BlueSkyClient

variable (c : BlueSkyClient)

/-- A closed client keeps its subscribers and its stack. -/
theorem wiring_close : c.close.wiring = { c.wiring with running := false, sockSend := false } := rfl

theorem wiring_send (topic : String) (data : Value) (toGroup : Tag) :
    (c.send topic data toGroup).1.wiring = c.wiring := by
  rw [send_fst]; rfl

theorem wiring_onNodeAddedRequestData : c.onNodeAddedRequestData.wiring = c.wiring := by
  rw [onNodeAddedRequestData_eq]; rfl

theorem wiring_actnode (n : Bytes) : (c.actnode n).1.wiring = c.wiring := by
  by_cases hr : n = [] ∨ n ∉ c.nodes ∨ some n = c.actId
  · rw [actnode_of_reject hr]
  · simp only [not_or, not_not] at hr
    rw [actnode_of_switch hr.1 hr.2.1 hr.2.2]
    obtain ⟨tt, F, h⟩ := foldl_rebind_frame c.actId n (actPairs c.acttopics) c.firstSelection
    rw [h]
    unfold firstSelection
    split_ifs <;> rfl

theorem wiring_processDataMessage (m : DataMsg) : (c.processDataMessage m).1.wiring = c.wiring := by
  rw [processDataMessage_fst]
  split <;> rfl

theorem wiring_announce (a : Announcement) : (c.announce a).1.wiring = c.wiring := by
  cases a with
  | nodeUp id =>
    simp only [announce, emitNodeAdded]
    split_ifs <;> first | rfl | (simp only [wiring_onNodeAddedRequestData, wiring_actnode]; rfl)
  | nodeDown id | serverUp id | serverDown id => simp only [announce]; split_ifs <;> rfl
  | ignored => rfl

theorem wiring_addnodes (count serverId : Value) : (c.addnodes count serverId).1.wiring = c.wiring := by
  unfold addnodes
  dsimp only
  split <;> first | exact wiring_send .. | rfl

/-- `stack.stack` writes the stack only. -/
theorem stack_eq (cmdline : String) : ∃ l, c.stack cmdline = { c with cmdstack := l } := by
  unfold stack
  dsimp only
  split_ifs <;> exact ⟨_, rfl⟩

/-- Registering the table's handlers appends them, in the table's order. -/
theorem wiring_foldl_subscribe (L : List (String × Callback × Bool)) :
    (L.foldl (fun c s => c.subscribe s.1 s.2.1 s.2.2) c).wiring =
      { c.wiring with subscribers := c.subscribers ++ L.map fun s => (s.1, s.2.1) } := by
  induction L generalizing c with
  | nil => simp [wiring]
  | cons s rest ih =>
    obtain ⟨tt, F, h⟩ := subscribe_frame c s.1 s.2.1 s.2.2
    rw [List.foldl_cons, ih, h]
    simp [wiring]

end BlueSkyClient

namespace Wiring

/-- A sound wiring stays sound when the client is closed. -/
theorem Ok.close {w : Wiring} (h : w.Ok) : ({ w with running := false, sockSend := false } : Wiring).Ok :=
  ⟨fun hr => absurd hr Bool.false_ne_true, h.subscribers, h.cmdstack⟩

end Wiring

namespace Proxy

section Frames

variable (p : Proxy) (now : Int)

theorem client_onServerAdded (s : Bytes) : (p.onServerAdded s).client = p.client := by
  unfold onServerAdded
  dsimp only
  split_ifs <;> rfl

theorem client_onNodeAdded (n : Bytes) : (p.onNodeAdded n now).client = p.client := by
  unfold onNodeAdded
  dsimp only
  split_ifs
  · rfl
  · split
    · rfl
    · split <;> split_ifs <;> simp [emitNodeInfo, emitConnectionStatus, broadcast, client_onServerAdded]

theorem client_onNodeRemoved (n : Bytes) : (p.onNodeRemoved n).client = p.client := by
  unfold onNodeRemoved startTimer
  dsimp only
  split_ifs <;> rfl

theorem client_onServerRemoved (s : Bytes) : (p.onServerRemoved s).client = p.client := by
  unfold onServerRemoved
  split_ifs <;> rfl

/-- No slot of the client's signals changes the client. -/
theorem client_runSlots (sigs : List Signal) : (p.runSlots now sigs).client = p.client := by
  induction sigs generalizing p with
  | nil => rfl
  | cons s rest ih =>
    rw [runSlots, List.foldl_cons, ← runSlots, ih]
    cases s with
    | nodeAdded n => exact client_onNodeAdded p now n
    | nodeRemoved n => exact client_onNodeRemoved p n
    | serverAdded n => exact client_onServerAdded p n
    | serverRemoved n => exact client_onServerRemoved p n
    | actnodeChanged n => exact (pushesOnly_onActnodeChanged p).client

theorem wiring_dataMessage (m : DataMsg) : (p.dataMessage now m).wiring = p.wiring := by
  unfold wiring
  rw [client_dataMessage]
  cases p.client with
  | none => rfl
  | some c => exact congrArg some (c.wiring_processDataMessage m)

theorem wiring_controlMessage (f : Bytes) : (p.controlMessage now f).wiring = p.wiring := by
  cases hc : p.client with
  | none => simp [controlMessage, hc]
  | some c =>
    simp only [wiring, controlMessage, hc, client_runSlots, Option.map_some',
      BlueSkyClient.processSubscriptionMessage_eq, BlueSkyClient.wiring_announce]

theorem wiring_receive (round : PollRound) : (p.receive now round).1.wiring = p.wiring := by
  obtain ⟨data, control, ending⟩ := round
  unfold receive
  split
  · split
    · rfl
    · cases data <;> cases control <;> simp [wiring_dataMessage, wiring_controlMessage]
  · rfl

theorem wiring_stackCommand (q : Proxy) (l : String) : (q.stackCommand now l).wiring = q.wiring := by
  unfold stackCommand forwardCommand echoResponse
  dsimp only
  repeat' split
  all_goals first | rfl | simp only [wiring, Option.map_some', BlueSkyClient.wiring_send, *]

theorem wiring_foldl_stackCommand (lines : List String) (q : Proxy) :
    (lines.foldl (fun q l => q.stackCommand now l) q).wiring = q.wiring := by
  induction lines generalizing q with
  | nil => rfl
  | cons l rest ih => rw [List.foldl_cons, ih, wiring_stackCommand]

theorem client_startBackupTimer : p.startBackupTimer.client = p.client := by
  unfold startBackupTimer
  split <;> rfl

theorem client_backupDataEmit : p.backupDataEmit.client = p.client := by
  unfold backupDataEmit
  split
  · rfl
  · dsimp only
    rw [client_startBackupTimer]
    split_ifs <;> rfl

end Frames

namespace Wired

variable {p : Proxy} (now : Int)

theorem of_wiring {q : Proxy} (h : p.Wired) (he : q.wiring = p.wiring) : q.Wired :=
  fun w hw => h w (he ▸ hw)

theorem of_client {q : Proxy} (h : p.Wired) (he : q.client = p.client) : q.Wired :=
  h.of_wiring (by rw [wiring, he]; rfl)

/-- The client, if any, has only been closed. -/
theorem of_closed {q : Proxy} (h : p.Wired)
    (he : q.client = p.client.map fun c => (c.close : BlueSkyClient)) : q.Wired := by
  intro w hw
  simp only [wiring, he, Option.map_map, Option.mem_def, Option.map_eq_some'] at hw
  obtain ⟨c, hc, rfl⟩ := hw
  exact (h _ (Option.mem_map_of_mem _ hc)).close

theorem close (h : p.Wired) : (p.close now).Wired := h.of_closed rfl

theorem handleDisconnection (h : p.Wired) : (p.handleDisconnection now).Wired := by
  have h' : ({ p with client := p.client.map fun (c : BlueSkyClient) => { c with actId := none } }).Wired :=
    h.of_wiring (by simp only [wiring]; cases p.client <;> rfl)
  rw [handleDisconnection_eq]
  exact h'.of_closed rfl

theorem fresh (t0 : Int) (socketio : Bool) (clients : Nat) (serverIp : String) :
    (Proxy.fresh t0 socketio clients serverIp).Wired :=
  fun _ hw => by cases hw

theorem stopClient : (p.stopClient now).Wired := by
  obtain ⟨_, _, _, he⟩ := p.stopClient_eq now
  rw [he]
  exact fun _ hw => by cases hw

/-- Before connecting, `start_client` holds a soundly wired client: a new one, or the one
it had. -/
theorem prepareStart (h : p.Wired) (rnd : Nat → UInt8) (hostname : String) :
    (p.prepareStart rnd hostname now).Wired := by
  unfold Proxy.prepareStart
  dsimp only
  have h₁ : (if p.client.isNone then { p with client := some (BlueSkyClient.new rnd) } else p).Wired := by
    split_ifs
    · intro w hw
      simp only [wiring, Option.map_some', Option.mem_def, Option.some.injEq] at hw
      subst hw
      exact ⟨fun hr => absurd hr Bool.false_ne_true, fun x hx => (List.not_mem_nil x hx).elim, rfl⟩
    · exact h
  have h₂ : ∀ q : Proxy, q.Wired → (if q.running then q.stopClient now else q).Wired := fun q hq => by
    split_ifs
    · exact Wired.stopClient now
    · exact hq
  have h₃ : ∀ q : Proxy, q.Wired →
      ({ (if hostname ≠ "" then { q with serverIp := hostname } else q) with allowReconnection := true }).Wired :=
    fun q hq => hq.of_client (by split_ifs <;> rfl)
  exact h₃ _ (h₂ _ h₁)

theorem connectStarted (h : p.Wired) (ok : Bool) : (p.connectStarted ok now).1.Wired := by
  unfold Proxy.connectStarted
  split
  · exact h.of_client rfl
  rename_i c hc
  have hok : c.wiring.Ok := h _ (by simp [wiring, hc])
  -- a failed connect closes the client; a successful one opens both sockets and runs it
  have hconn : (c.connect ok).1.wiring.Ok := by
    cases ok with
    | false => exact hok.close
    | true =>
      obtain ⟨tt, F, hcon⟩ := c.connect_frame
      rw [hcon]
      exact ⟨fun _ => rfl, hok.subscribers, hok.cmdstack⟩
  have hq : ∀ q : Proxy, q.client = some (c.connect ok).1 → q.Wired := fun q hq w hw => by
    simp only [wiring, hq, Option.map_some', Option.mem_def, Option.some.injEq] at hw
    exact hw ▸ hconn
  dsimp only
  split_ifs
  · exact hq _ rfl
  · exact hq _ (by rw [client_startBackupTimer]; rfl)

theorem startClient (h : p.Wired) (rnd : Nat → UInt8) (hostname : String) (ok : Bool) :
    (p.startClient rnd hostname ok now).1.Wired :=
  (h.prepareStart now rnd hostname).connectStarted now ok

theorem reconnect (rnd : Nat → UInt8) (hostname : String) (ok : Bool) :
    (p.reconnect rnd hostname ok now).1.Wired :=
  ((@Wired.stopClient p now).of_client rfl : ((p.stopClient now).clearState now).Wired).startClient now
    rnd hostname ok

/-- `register_subscribers` installs rows of its own table. -/
theorem registerSubscribers (h : p.Wired) : p.registerSubscribers.Wired := by
  unfold Proxy.registerSubscribers
  split
  · rename_i c hc
    intro w hw
    simp only [wiring, Option.map_some', Option.mem_def, Option.some.injEq,
      BlueSkyClient.wiring_foldl_subscribe] at hw
    subst hw
    have hok : c.wiring.Ok := h _ (by simp [wiring, hc])
    refine ⟨hok.sockSend, fun x hx => ?_, hok.cmdstack⟩
    rcases List.mem_append.mp hx with hx | hx
    · exact hok.subscribers x hx
    · obtain ⟨s, hs, rfl⟩ := List.mem_map.mp hx
      exact ⟨s.2.2, hs⟩
  · exact h

theorem reschedule (h : p.Wired) : p.reschedule.Wired :=
  h.of_client (by unfold Proxy.reschedule; split <;> rfl)

theorem timeoutCheck (h : p.Wired) : (p.timeoutCheck now).Wired := by
  unfold Proxy.timeoutCheck
  split
  · exact h.handleDisconnection now
  · exact h.reschedule

theorem afterPoll (h : p.Wired) : (p.afterPoll now).Wired := by
  unfold Proxy.afterPoll
  dsimp only
  split
  · exact Wired.timeoutCheck now (h.of_client rfl)
  · split
    · exact Wired.handleDisconnection now (h.of_client rfl)
    · exact Wired.timeoutCheck now (h.of_client rfl)

/-- The poll tick: the poll keeps the wiring, and the tick then disconnects or reschedules. -/
theorem networkTick (h : p.Wired) (round : PollRound) : (p.networkTick now round).Wired := by
  unfold Proxy.networkTick Proxy.update
  split
  · exact h
  split
  · rename_i r hr
    split at hr
    · split at hr <;> cases hr
      · exact h.afterPoll now
      · exact (h.of_wiring (wiring_receive p now round)).afterPoll now
    · cases hr
  · rename_i q hq
    split at hq
    · split at hq <;> cases hq
    · cases hq
      dsimp only
      split
      · exact Wired.handleDisconnection now (h.of_client rfl)
      · exact Wired.reschedule (h.of_client rfl)

theorem fire (h : p.Wired) (id : Nat) (round : PollRound) : (p.fire id now round).Wired := by
  unfold Proxy.fire
  split
  · rename_i t _
    have hc : (p.cancelTimer id).Wired := h.of_client rfl
    cases t.task with
    | networkTick => exact hc.networkTick now round
    | backupEmit => exact hc.of_client (client_backupDataEmit _)
    | shutdownCheck =>
      show ((p.cancelTimer id).checkNodeShutdown now).Wired
      unfold Proxy.checkNodeShutdown
      split
      · exact hc.handleDisconnection now
      · exact hc
  · exact h

/-- A command leaves the stack drained and the rest of the wiring as it was. -/
theorem sendCommand (h : p.Wired) (command : Value) : (p.sendCommand command now).1.Wired := by
  unfold Proxy.sendCommand
  split
  · rename_i c s hc
    split
    · rename_i hrun
      have hcs : c.cmdstack = [] := (h c.wiring (by simp [wiring, hc])).cmdstack
      obtain ⟨l, hl⟩ := c.stack_eq s
      refine h.of_wiring ?_
      rw [hl]
      unfold Proxy.processStackCommands
      simp only [hrun, Bool.not_true, Bool.false_eq_true, if_false, wiring_foldl_stackCommand]
      simp [wiring, hc, BlueSkyClient.wiring, hcs, hrun]
    · exact h
  · exact h

/-- No consumer request changes the wiring, beyond draining the stack it fills. -/
theorem request (h : p.Wired) (r : Request) : (p.request now r).1.Wired := by
  cases r with
  | connect admitted =>
    refine h.of_client ?_
    show (p.onConnect admitted now).1.client = p.client
    unfold Proxy.onConnect
    split_ifs
    · rfl
    · dsimp only
      split
      · exact (pushesOnly_emitActiveNodePolyData _).client
      · rfl
  | disconnect => exact h.of_client rfl
  | command data =>
    show (p.onCommand data now).1.Wired
    unfold Proxy.onCommand
    split
    · exact h.sendCommand now _
    · exact h
  | setActiveNode data =>
    refine h.of_wiring ?_
    show (p.onSetActiveNode data now).wiring = p.wiring
    unfold Proxy.onSetActiveNode
    repeat' split
    all_goals first | rfl | simp only [wiring, client_actnode, Option.map_map, Function.comp_def,
      BlueSkyClient.wiring_actnode]
  | getNodes => exact h.of_client rfl
  | addNodes data =>
    refine h.of_wiring ?_
    show (p.onAddNodes data).wiring = p.wiring
    unfold Proxy.onAddNodes
    split
    · rename_i _ hc
      simp only [wiring, hc, Option.map_some', BlueSkyClient.wiring_addnodes]
    · rfl

/-- Every step keeps the client soundly wired. -/
theorem step (h : p.Wired) (e : Event) : (p.step now e).Wired := by
  cases e with
  | startClient rnd hostname ok => exact h.startClient now rnd hostname ok
  | stopClient => exact Wired.stopClient now
  | reconnect rnd hostname ok => exact Wired.reconnect now rnd hostname ok
  | close => exact h.close now
  | registerSubscribers => exact h.registerSubscribers
  | fire id round => exact h.fire now id round
  | request r => exact h.request now r

/-- The handlers a soundly wired client calls come from `register_subscribers`' table. -/
theorem subscribedFromTable (h : p.Wired) : p.SubscribedFromTable :=
  fun _ hc => (h _ (Option.mem_map_of_mem _ hc)).subscribers

end Wired

end Proxy

/-- Every reachable state has its client soundly wired. -/
theorem Reachable.wired {p : Proxy} (hp : Reachable p) : p.Wired := by
  induction hp with
  | fresh t0 socketio clients serverIp => exact Proxy.Wired.fresh t0 socketio clients serverIp
  | step now e _ ih => exact ih.step now e

end WebATM
