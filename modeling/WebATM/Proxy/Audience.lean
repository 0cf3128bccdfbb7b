import WebATM.Proxy.Frames

/-!
# Who the proxy pushes to

Every push of the proxy passes the guard `socketio and connected_clients > 0`. Only the
application writes these two fields: `create_app` and `update_server_config` when they set
a proxy up, and the consumer handlers `on_connect` and `on_disconnect` when they count a
consumer in or out. No poll tick, timer, lifecycle call, topic handler, signal slot or
other consumer request touches them. This file states that once per method and assembles
the effect of one step.
-/

namespace WebATM

namespace Proxy

/-- The proxy's audience: whether a Socket.IO server is attached, and how many consumers
it counts. -/
def audience (p : Proxy) : Bool × Nat := (p.socketio, p.connectedClients)

theorem audience_of_core {p q : Proxy} (h : q.core = p.core) : q.audience = p.audience :=
  congrArg (fun k : Core => (k.socketio, k.connectedClients)) h

theorem PushesOnly.audience {p q : Proxy} (h : PushesOnly p q) : q.audience = p.audience :=
  audience_of_core h.core

section Slots

variable (p : Proxy) (now : Int)

theorem audience_onServerAdded (s : Bytes) : (p.onServerAdded s).audience = p.audience := by
  unfold onServerAdded
  dsimp only
  split_ifs <;> rfl

theorem audience_slot (s : Signal) : (p.slot now s).audience = p.audience := by
  cases s with
  | actnodeChanged a => exact (pushesOnly_onActnodeChanged p).audience
  | serverAdded n => exact audience_onServerAdded p n
  | nodeAdded n =>
    simp only [slot, onNodeAdded]
    repeat' split
    all_goals first | rfl | exact audience_onServerAdded p _
  | _ =>
    simp only [slot, onNodeRemoved, onServerRemoved]
    repeat' split
    all_goals rfl

theorem audience_runSlots (sigs : List Signal) : (p.runSlots now sigs).audience = p.audience := by
  induction sigs generalizing p with
  | nil => rfl
  | cons s rest ih => exact (ih _).trans (audience_slot p now s)

end Slots

section Poll

variable (p : Proxy) (now : Int)

theorem audience_dataMessage (m : DataMsg) : (p.dataMessage now m).audience = p.audience := by
  unfold dataMessage
  split
  · rfl
  · dsimp only
    split
    · rw [audience_of_core (core_deliver ..)]
      rfl
    · rfl

theorem audience_controlMessage (f : Bytes) : (p.controlMessage now f).audience = p.audience := by
  unfold controlMessage
  split
  · rfl
  · exact audience_runSlots _ now _

theorem audience_receive (round : PollRound) : (p.receive now round).1.audience = p.audience := by
  unfold receive
  split
  · split
    · rfl
    · dsimp only
      have hd : ∀ q : Proxy, (match round.data with
          | some m => q.dataMessage now m
          | none => q).audience = q.audience := by
        intro q
        split
        · exact audience_dataMessage q now _
        · rfl
      split
      · exact (audience_controlMessage _ now _).trans (hd p)
      · exact hd p
  · rfl

theorem audience_handleDisconnection : (p.handleDisconnection now).audience = p.audience := by
  rw [handleDisconnection_eq]
  rfl

theorem audience_reschedule : p.reschedule.audience = p.audience := by
  unfold reschedule
  split <;> rfl

theorem audience_timeoutCheck : (p.timeoutCheck now).audience = p.audience := by
  unfold timeoutCheck
  split_ifs
  · exact audience_handleDisconnection p now
  · exact audience_reschedule p

theorem audience_afterPoll : (p.afterPoll now).audience = p.audience := by
  unfold afterPoll
  dsimp only
  split_ifs
  · exact audience_timeoutCheck _ now
  · exact audience_handleDisconnection _ now
  · exact audience_timeoutCheck _ now

theorem audience_networkTick (round : PollRound) :
    (p.networkTick now round).audience = p.audience := by
  unfold networkTick
  split
  · rfl
  · split
    · rename_i r hr
      unfold update at hr
      split at hr
      · split at hr <;> injection hr with hr <;> rw [← hr]
        · exact audience_afterPoll p now
        · exact (audience_afterPoll _ now).trans (audience_receive p now round)
      · cases hr
    · rename_i q hq
      have hqp : q = p := by
        unfold update at hq
        split at hq
        · split at hq <;> cases hq
        · injection hq with hq; exact hq.symm
      subst hqp
      dsimp only
      split
      · exact audience_handleDisconnection _ now
      · exact audience_reschedule _

end Poll

section Lifecycle

variable (p : Proxy) (now : Int)

theorem audience_stopClient : (p.stopClient now).audience = p.audience := by
  obtain ⟨_, _, _, h⟩ := stopClient_eq p now
  rw [h]
  rfl

theorem audience_startBackupTimer : p.startBackupTimer.audience = p.audience := by
  unfold startBackupTimer
  split <;> rfl

theorem audience_backupDataEmit : p.backupDataEmit.audience = p.audience := by
  unfold backupDataEmit
  dsimp only
  split_ifs <;> first | rfl | exact audience_startBackupTimer _

theorem audience_checkNodeShutdown : (p.checkNodeShutdown now).audience = p.audience := by
  unfold checkNodeShutdown
  split_ifs
  · exact audience_handleDisconnection p now
  · rfl

theorem audience_prepareStart (rnd : Nat → UInt8) (hostname : String) :
    (p.prepareStart rnd hostname now).audience = p.audience := by
  unfold prepareStart
  dsimp only
  split_ifs <;> first | rfl | exact audience_stopClient _ now

theorem audience_connectStarted (ok : Bool) : (p.connectStarted ok now).1.audience = p.audience := by
  unfold connectStarted startFailed
  split
  · rfl
  · dsimp only
    split
    · rfl
    · exact audience_startBackupTimer _

theorem audience_startClient (rnd : Nat → UInt8) (hostname : String) (ok : Bool) :
    (p.startClient rnd hostname ok now).1.audience = p.audience :=
  (audience_connectStarted _ now ok).trans (audience_prepareStart p now rnd hostname)

theorem audience_registerSubscribers : p.registerSubscribers.audience = p.audience := by
  unfold registerSubscribers
  split <;> rfl

theorem audience_fire (id : Nat) (round : PollRound) : (p.fire id now round).audience = p.audience := by
  unfold fire
  split
  · rename_i t _
    cases t.task
    · exact audience_networkTick _ now round
    · exact audience_backupDataEmit _
    · exact audience_checkNodeShutdown _ now
  · rfl

end Lifecycle

section Requests

variable (p : Proxy) (now : Int)

theorem audience_stackCommand (l : String) : (p.stackCommand now l).audience = p.audience := by
  unfold stackCommand forwardCommand
  dsimp only
  repeat' split
  all_goals rfl

theorem audience_foldl_stackCommand (lines : List String) (q : Proxy) :
    (lines.foldl (fun p l => p.stackCommand now l) q).audience = q.audience := by
  induction lines generalizing q with
  | nil => rfl
  | cons l rest ih => exact (ih _).trans (audience_stackCommand q now l)

theorem audience_processStackCommands : (p.processStackCommands now).audience = p.audience := by
  unfold processStackCommands
  split
  · split
    · rfl
    · exact audience_foldl_stackCommand now _ _
  · rfl

theorem audience_sendCommand (command : Value) :
    (p.sendCommand command now).1.audience = p.audience := by
  unfold sendCommand
  split
  · split
    · exact audience_processStackCommands _ now
    · rfl
  · rfl

theorem audience_onSetActiveNode (data : Value) :
    (p.onSetActiveNode data now).audience = p.audience := by
  unfold onSetActiveNode actnode
  repeat' split
  all_goals first | rfl | exact audience_runSlots _ now _

end Requests

end Proxy

/-- What a step does to the consumer count `n`: a join the session manager admitted counts
one more, a leave one fewer (`max(0, n - 1)`); no other step counts. -/
def Event.recount (n : Nat) : Event → Nat
  | .request (.connect true) => n + 1
  | .request .disconnect => n - 1
  | _ => n

namespace Proxy

/-- One step keeps the Socket.IO attachment and changes the consumer count only as
`Event.recount` says. -/
theorem audience_step (p : Proxy) (now : Int) (e : Event) :
    (p.step now e).audience = (p.socketio, e.recount p.connectedClients) := by
  cases e with
  | startClient rnd hostname ok => exact audience_startClient p now rnd hostname ok
  | stopClient => exact audience_stopClient p now
  | reconnect rnd hostname ok =>
    exact (audience_startClient _ now rnd hostname ok).trans (audience_stopClient p now)
  | close => rfl
  | registerSubscribers => exact audience_registerSubscribers p
  | fire id round => exact audience_fire p now id round
  | request r =>
    cases r with
    | connect admitted =>
      cases admitted
      · rfl
      · simp only [step, request, onConnect, Bool.not_true, Bool.false_eq_true, ↓reduceIte]
        split
        · exact (pushesOnly_emitActiveNodePolyData _).audience
        · rfl
    | disconnect => rfl
    | command data =>
      simp only [step, request, onCommand]
      split
      · exact audience_sendCommand p now _
      · rfl
    | setActiveNode data => exact audience_onSetActiveNode p now data
    | getNodes => rfl
    | addNodes data =>
      simp only [step, request, onAddNodes]
      split <;> rfl

/-- **Only joins and leaves count consumers.** Over any run the proxy keeps its Socket.IO
attachment, and its consumer count is the count it started with, recounted by each step in
turn: no poll, timer, lifecycle call or other request moves it. -/
theorem consumers_follow_joins_and_leaves (p : Proxy) (steps : List (Int × Event)) :
    (p.run steps).socketio = p.socketio ∧
      (p.run steps).connectedClients = steps.foldl (fun n s => s.2.recount n) p.connectedClients := by
  induction steps generalizing p with
  | nil => exact ⟨rfl, rfl⟩
  | cons s rest ih =>
    obtain ⟨now, e⟩ := s
    obtain ⟨hio, hcount⟩ := Prod.mk.inj (audience_step p now e)
    obtain ⟨hio', hcount'⟩ := ih (p.step now e)
    exact ⟨hio'.trans hio, by rw [run, hcount', hcount, List.foldl_cons]⟩

end Proxy

end WebATM
