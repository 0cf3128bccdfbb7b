import WebATM.Proxy.Health
import WebATM.Proxy.Disconnected
import WebATM.Proxy.ShapeEvents

/-!
# Silence over a run

`network_timer_callback` measures silence from `last_successful_update`. A topic handler
sets it to the time the handler runs, and only while reconnecting is allowed. Nothing else
that leaves the proxy polling moves it: no control frame (a node's discovery included), no
other timer, no consumer request. So along a timed run without a restart, the clock at a
tick is the latest time at which a handled data frame refreshed it, or its value at the
start. A tick then disconnects exactly when, after its poll, the proxy is connected or tracks
a node and every one of those times lies more than `connection_timeout` back. This file
states what one step does to the clock, carries it along the run, and reads the tick's
decision off the result.
-/

namespace WebATM

namespace Proxy

/-- The proxy runs and may reconnect: its ticks poll and its handlers refresh the clock. -/
def polling (p : Proxy) : Bool := p.running && p.allowReconnection

theorem polling_iff {p : Proxy} : p.polling = true ↔ p.running = true ∧ p.allowReconnection = true := by
  simp only [polling, Bool.and_eq_true]

theorem polling_of_silence {p q : Proxy} (h : q.silence = p.silence) : q.polling = p.polling :=
  congrArg (fun v : Bool × Bool × Int => v.1 && v.2.1) h

theorem clock_of_silence {p q : Proxy} (h : q.silence = p.silence) :
    q.lastSuccessfulUpdate = p.lastSuccessfulUpdate :=
  congrArg (fun v : Bool × Bool × Int => v.2.2) h

/-- A step that leaves the silence clock where it was or sets it to the step's time. -/
def ClockStep (now : Int) (p q : Proxy) : Prop :=
  q.lastSuccessfulUpdate = p.lastSuccessfulUpdate ∨ q.lastSuccessfulUpdate = now

theorem ClockStep.refl (now : Int) (p : Proxy) : ClockStep now p p := .inl rfl

/-- A clock step's clock is the step's time when it equals it, and the old clock
otherwise. -/
theorem ClockStep.eq_ite {now : Int} {p q : Proxy} (h : ClockStep now p q) :
    q.lastSuccessfulUpdate = if (q.lastSuccessfulUpdate == now) then now else p.lastSuccessfulUpdate := by
  by_cases hn : q.lastSuccessfulUpdate = now
  · simp [hn]
  · simpa [hn] using h.resolve_right hn

theorem ClockStep.trans {now : Int} {p q r : Proxy} (h₁ : ClockStep now p q)
    (h₂ : ClockStep now q r) : ClockStep now p r := by
  rcases h₂ with h | h
  · rw [ClockStep, h]; exact h₁
  · exact .inr h

section Handlers

variable (p : Proxy) (now : Int)

theorem throttledPush_clock (event : String) (data : Value) (last interval : Int)
    (record : Proxy → Int → Proxy)
    (hr : ∀ q t, (record q t).lastSuccessfulUpdate = q.lastSuccessfulUpdate) :
    (p.throttledPush event data last interval now record).lastSuccessfulUpdate =
      p.lastSuccessfulUpdate := by
  unfold throttledPush
  split_ifs
  · exact hr _ _
  · rfl

theorem clock_of_updateNodeStatus {p q : Proxy} {s : String} {simt scen : Value}
    (h : p.updateNodeStatus s simt scen = .ok q ∨ p.updateNodeStatus s simt scen = .error q) :
    q.lastSuccessfulUpdate = p.lastSuccessfulUpdate := by
  unfold updateNodeStatus at h
  dsimp only at h
  repeat' split at h
  all_goals rcases h with h | h <;> cases h <;> rfl

theorem clock_of_storeShapes {p q : Proxy} {s : String} {d : Value} {sep : Value × Value}
    (h : p.storeShapes s d sep = .ok q ∨ p.storeShapes s d sep = .error q) :
    q.lastSuccessfulUpdate = p.lastSuccessfulUpdate := by
  unfold storeShapes at h
  dsimp only at h
  repeat' split at h
  all_goals rcases h with h | h <;> cases h <;> rfl

theorem serverCommands_clock : ∀ (p : Proxy) (cmds : List Value),
    (serverCommands now p cmds).lastSuccessfulUpdate = p.lastSuccessfulUpdate
  | p, [] => rfl
  | p, .str s :: rest => by
    unfold serverCommands
    split_ifs
    · exact serverCommands_clock p rest
    · rw [serverCommands_clock]
      unfold processServerCommand
      dsimp only
      repeat' split
      all_goals rfl
  | p, .none :: rest | p, .bool _ :: rest | p, .int _ :: rest | p, .float _ :: rest
  | p, .bin _ :: rest | p, .list _ :: rest | p, .dict _ :: rest => by
    unfold serverCommands
    split_ifs
    · rfl
    · exact serverCommands_clock p rest

theorem clockStep_onSiminfoReceived (a b c d e f g h : Value) :
    ClockStep now p (p.onSiminfoReceived now a b c d e f g h) := by
  unfold onSiminfoReceived ClockStep
  dsimp only
  repeat' split
  any_goals first | (left; rfl) | (right; rfl)
  · right; exact clock_of_updateNodeStatus (.inr ‹_›)
  · right
    rw [throttledPush_clock]
    · exact clock_of_updateNodeStatus (.inl ‹_›)
    · exact fun _ _ => rfl

theorem clockStep_onAcdataReceived (d : Value) : ClockStep now p (p.onAcdataReceived now d) := by
  unfold onAcdataReceived throttledPush ClockStep
  dsimp only
  repeat' split
  all_goals first | (left; rfl) | (right; rfl)

theorem clockStep_onRoutedataReceived (d : Value) :
    ClockStep now p (p.onRoutedataReceived now d) := by
  unfold onRoutedataReceived ClockStep
  dsimp only
  repeat' split
  all_goals first | (left; rfl) | (right; rfl)

theorem clockStep_echo (t f s : Value) : ClockStep now p (p.echo now t f s) := by
  unfold echo ClockStep
  dsimp only
  repeat' split
  all_goals first | (left; rfl) | (right; rfl)

theorem clockStep_onStackcmdsReceived (d : Value) :
    ClockStep now p (p.onStackcmdsReceived now d) := by
  unfold onStackcmdsReceived
  repeat' split
  all_goals exact .inr rfl

theorem clockStep_onStackReceived (d : Value) : ClockStep now p (p.onStackReceived now d) := by
  unfold onStackReceived
  split
  all_goals first | exact .inr rfl | exact .inr (serverCommands_clock now _ _)

theorem clockStep_onPolyReceived (d : Value) : ClockStep now p (p.onPolyReceived now d) := by
  unfold onPolyReceived ClockStep
  dsimp only
  repeat' split
  any_goals first | (left; rfl) | (right; rfl)
  · right; exact clock_of_storeShapes (.inr ‹_›)
  all_goals right; exact clock_of_storeShapes (.inl ‹_›)

theorem clockStep_onResetReceived : ClockStep now p (p.onResetReceived now) := by
  unfold onResetReceived ClockStep
  dsimp only
  repeat' split
  all_goals first | (left; rfl) | (right; rfl)

theorem clockStep_onDataNoted : ClockStep now p (p.onDataNoted now) := by
  unfold onDataNoted
  split
  · exact .inl rfl
  · exact .inr rfl

/-- Every topic handler leaves the clock or sets it to the time it runs. -/
theorem clockStep_runHandler (cb : Callback) (vals : List Value) :
    ClockStep now p (p.runHandler now cb vals) := by
  unfold runHandler
  split
  all_goals first
    | exact .refl now p
    | apply clockStep_onSiminfoReceived | apply clockStep_onAcdataReceived
    | apply clockStep_onRoutedataReceived | apply clockStep_echo
    | apply clockStep_onStackcmdsReceived | apply clockStep_onStackReceived
    | apply clockStep_onPolyReceived | apply clockStep_onResetReceived
    | apply clockStep_onDataNoted

theorem clockStep_deliver (d : Delivery) (subscribers : List Callback) :
    ClockStep now p (p.deliver now d subscribers) := by
  unfold deliver
  induction subscribers generalizing p with
  | nil => exact .refl now p
  | cons cb rest ih =>
    rw [List.foldl_cons]
    refine ClockStep.trans ?_ (ih _)
    split
    · exact clockStep_runHandler ..
    · exact .refl now p

theorem clockStep_dataMessage (m : DataMsg) : ClockStep now p (p.dataMessage now m) := by
  unfold dataMessage
  split
  · exact .refl now p
  · dsimp only
    split
    · exact clockStep_deliver _ now _ _
    · exact .refl now p

theorem polling_dataMessage (m : DataMsg) : (p.dataMessage now m).polling = p.polling :=
  congrArg (fun l : Loop => l.running && l.allowReconnection) (loop_dataMessage p now m)

end Handlers

/-- Whether the poll of a tick at `now` handles a data frame that leaves the silence clock
at `now`: the tick polls, the client runs, is connected and has its poller, and the frame
read from the data socket sets the clock. A control frame never counts. -/
def refreshesAt (p : Proxy) (now : Int) (round : PollRound) : Bool :=
  p.polling &&
    match p.client, round.data with
    | some c, some m =>
      c.running && c.connected && c.poller && (p.dataMessage now m).lastSuccessfulUpdate == now
    | _, _ => false

section Tick

variable (p : Proxy) (now : Int)

theorem timeoutCheck_silence (h : (p.timeoutCheck now).running = true) :
    (p.timeoutCheck now).silence = p.silence := by
  unfold timeoutCheck at h ⊢
  split_ifs at h ⊢
  · simp at h
  · unfold reschedule
    split <;> rfl

/-- A tick's judgement that leaves the proxy running keeps the silence view. -/
theorem afterPoll_silence (h : (p.afterPoll now).running = true) :
    (p.afterPoll now).silence = p.silence := by
  unfold afterPoll at h ⊢
  dsimp only at h ⊢
  split_ifs at h ⊢
  · exact timeoutCheck_silence _ now h
  · simp at h
  · exact timeoutCheck_silence _ now h

/-- `receive()` on a client that runs and has its poller: what it leaves, as the silence
law sees it, is what the data frame's handlers leave, since the control frame's slots keep
it. -/
theorem receive_silence {c : BlueSkyClient} (hc : p.client = some c) (hr : c.running = true)
    (hpl : c.poller = true) (round : PollRound) :
    (p.receive now round).1.silence =
      (match round.data with | some m => p.dataMessage now m | none => p).silence := by
  simp only [receive, hc, hr, hpl, Bool.not_true, Bool.or_self, Bool.false_eq_true, ↓reduceIte]
  split
  · exact controlMessage_silence _ now _
  · rfl

/-- The poll keeps whether the proxy polls, and sets the clock to the tick's time exactly
when it handles a refreshing frame. -/
theorem update_clock {round : PollRound} {q : Proxy} {b : Bool} (hp : p.polling = true)
    (hpoll : p.update now round = .ok (q, b)) :
    q.polling = p.polling ∧
      q.lastSuccessfulUpdate = if p.refreshesAt now round then now else p.lastSuccessfulUpdate := by
  cases hc : p.client with
  | none => simp [update, hc] at hpoll
  | some c =>
    by_cases hlive : (c.running && c.connected && c.poller) = true
    · simp only [Bool.and_eq_true] at hlive
      obtain ⟨⟨h1, h2⟩, h3⟩ := hlive
      have hs := receive_silence p now hc h1 h3 round
      simp only [update, hc, h1, h2, Bool.not_true, Bool.or_self, Bool.false_eq_true, ↓reduceIte,
        Except.ok.injEq] at hpoll
      rw [hpoll] at hs
      cases hd : round.data with
      | none =>
        have hr : p.refreshesAt now round = false := by simp [refreshesAt, hc, hd]
        rw [hd] at hs
        rw [polling_of_silence hs, hr]
        exact ⟨rfl, clock_of_silence hs⟩
      | some m =>
        have hr : p.refreshesAt now round = ((p.dataMessage now m).lastSuccessfulUpdate == now) := by
          simp [refreshesAt, hc, hd, hp, h1, h2, h3]
        rw [hd] at hs
        rw [polling_of_silence hs, polling_dataMessage, hr]
        exact ⟨rfl, (clock_of_silence hs).trans (clockStep_dataMessage p now m).eq_ite⟩
    · have hq : q = p := by
        simp only [Bool.and_eq_true, not_and, Bool.not_eq_true] at hlive
        simp only [update, receive, hc] at hpoll
        by_cases h1 : c.running = true <;> by_cases h2 : c.connected = true <;> simp_all
      have hr : p.refreshesAt now round = false := by
        cases hd : round.data <;> simp_all [refreshesAt]
      rw [hq, hr]
      exact ⟨rfl, rfl⟩

/-- **The clock's tick lemma.** A tick that leaves the proxy polling found it polling, and
sets the clock to its time when its poll handled a refreshing frame, leaving it alone
otherwise. -/
theorem networkTick_clock (round : PollRound) (h : (p.networkTick now round).polling = true) :
    p.polling = true ∧ (p.networkTick now round).lastSuccessfulUpdate =
      if p.refreshesAt now round then now else p.lastSuccessfulUpdate := by
  by_cases hp : p.polling = true
  · cases hc : p.client with
    | none =>
      have ht : p.networkTick now round = p := by simp [networkTick, hc]
      have hr : p.refreshesAt now round = false := by simp [refreshesAt, hc]
      rw [ht, hr]
      exact ⟨hp, rfl⟩
    | some c =>
      obtain ⟨⟨q, b⟩, hpoll⟩ := update_of_client p now hc round
      rw [networkTick_of_polled p now (polling_iff.1 hp).1 (polling_iff.1 hp).2 hpoll] at h ⊢
      exact ⟨hp, (clock_of_silence (afterPoll_silence q now (polling_iff.1 h).1)).trans
        (update_clock p now hp hpoll).2⟩
  · have ht : p.networkTick now round = p := by
      simp [networkTick, show (p.running && p.allowReconnection) = false by simpa [polling] using hp]
    rw [ht] at h
    exact absurd h hp

end Tick

section Steps

variable (p : Proxy) (now : Int)

theorem silence_startBackupTimer : p.startBackupTimer.silence = p.silence := by
  unfold startBackupTimer
  split <;> rfl

theorem silence_backupDataEmit : p.backupDataEmit.silence = p.silence := by
  unfold backupDataEmit
  dsimp only
  split_ifs <;> first | rfl | exact silence_startBackupTimer _

theorem silence_registerSubscribers : p.registerSubscribers.silence = p.silence := by
  unfold registerSubscribers
  split <;> rfl

theorem silence_actnode (n : Bytes) : (p.actnode n now).silence = p.silence := by
  unfold actnode
  split
  · exact runSlots_silence _ now _
  · rfl

theorem silence_stackCommand (l : String) : (p.stackCommand now l).silence = p.silence := by
  unfold stackCommand forwardCommand
  dsimp only
  repeat' split
  all_goals rfl

theorem silence_foldl_stackCommand (lines : List String) (q : Proxy) :
    (lines.foldl (fun p l => p.stackCommand now l) q).silence = q.silence := by
  induction lines generalizing q with
  | nil => rfl
  | cons l rest ih => exact (ih _).trans (silence_stackCommand q now l)

theorem silence_sendCommand (command : Value) :
    (p.sendCommand command now).1.silence = p.silence := by
  unfold sendCommand processStackCommands
  repeat' split
  all_goals first | rfl | exact silence_foldl_stackCommand now _ _

/-- No consumer request stops the proxy, forbids reconnecting or moves the silence clock. -/
theorem silence_request (r : Request) : (p.request now r).1.silence = p.silence := by
  cases r with
  | connect admitted =>
    simp only [request, onConnect]
    split
    · rfl
    · split
      · exact (pushesOnly_emitActiveNodePolyData _).silence
      · rfl
  | disconnect => rfl
  | command data =>
    simp only [request, onCommand]
    split
    · exact silence_sendCommand p now _
    · rfl
  | setActiveNode data =>
    simp only [request, onSetActiveNode]
    repeat' split
    all_goals first | rfl | exact silence_actnode p now _
  | getNodes => rfl
  | addNodes data =>
    simp only [request, onAddNodes]
    split <;> rfl

end Steps

/-- Whether a step at `now` is a poll tick whose poll handles a refreshing frame. -/
def refreshedBy (p : Proxy) (now : Int) : Event → Bool
  | .fire id round =>
    match p.pending.find? (·.id = id) with
    | some ⟨_, .networkTick⟩ => (p.cancelTimer id).refreshesAt now round
    | _ => false
  | _ => false

/-- The times of a run's steps whose poll handled a refreshing frame, in order. -/
def refreshTimes (p : Proxy) : List (Int × Event) → List Int
  | [] => []
  | (now, e) :: rest => (if p.refreshedBy now e then [now] else []) ++ (p.step now e).refreshTimes rest

section Run

variable (p : Proxy)

/-- **The clock's step lemma.** A step that does not restart the client and leaves the
proxy polling found it polling; it sets the clock to its time when it is a tick whose poll
handled a refreshing frame, and leaves it alone otherwise. -/
theorem step_clock (now : Int) {e : Event} (he : e.restarts = false)
    (h : (p.step now e).polling = true) :
    p.polling = true ∧
      (p.step now e).lastSuccessfulUpdate = if p.refreshedBy now e then now else p.lastSuccessfulUpdate := by
  have kept (hs : (p.step now e).silence = p.silence) (hr : p.refreshedBy now e = false) :
      p.polling = true ∧ (p.step now e).lastSuccessfulUpdate =
        if p.refreshedBy now e then now else p.lastSuccessfulUpdate := by
    rw [hr, clock_of_silence hs]
    exact ⟨(polling_of_silence hs).symm.trans h, rfl⟩
  cases e with
  | startClient => cases he
  | reconnect => cases he
  | stopClient =>
    obtain ⟨_, _, _, hs⟩ := stopClient_eq p now
    have hrun : (p.stopClient now).running = false := by rw [hs]
    simp only [step, polling, hrun, Bool.false_and, Bool.false_eq_true] at h
  | close => simp only [step, close, polling, Bool.and_false, Bool.false_eq_true] at h
  | registerSubscribers => exact kept (silence_registerSubscribers p) rfl
  | request r => exact kept (silence_request p now r) rfl
  | fire id round =>
    rcases hf : p.pending.find? (·.id = id) with _ | ⟨tid, task⟩
    · exact kept (by simp only [step, fire, hf]) (by simp only [refreshedBy, hf])
    · cases task with
      | networkTick =>
        simp only [step, fire, refreshedBy, hf, runTask] at h ⊢
        exact networkTick_clock (p.cancelTimer id) now round h
      | backupEmit =>
        exact kept (by simp only [step, fire, hf, runTask]; exact silence_backupDataEmit _)
          (by simp only [refreshedBy, hf])
      | shutdownCheck =>
        refine kept ?_ (by simp only [refreshedBy, hf])
        simp only [step, fire, hf, runTask, checkNodeShutdown] at h ⊢
        split_ifs at h ⊢
        · simp [polling] at h
        · rfl

/-- A run without a restart that leaves the proxy polling started from a polling proxy. -/
theorem polling_of_run (steps : List (Int × Event)) (hs : ∀ s ∈ steps, s.2.restarts = false)
    (h : (p.run steps).polling = true) : p.polling = true := by
  induction steps generalizing p with
  | nil => exact h
  | cons s rest ih =>
    have hrest := ih (p.step s.1 s.2) (fun s' h' => hs s' (List.mem_cons_of_mem _ h')) h
    exact (step_clock p s.1 (hs s (List.mem_cons_self _ _)) hrest).1

/-- **The clock over a run.** Along a run without a restart whose times never go back from
the clock, a proxy left polling has as its clock the latest of its starting clock and the
times at which the run's ticks handled a refreshing frame. -/
theorem run_clock (steps : List (Int × Event)) (later : List Int)
    (hs : ∀ s ∈ steps, s.2.restarts = false)
    (ht : List.Chain (· ≤ ·) p.lastSuccessfulUpdate (steps.map Prod.fst ++ later))
    (h : (p.run steps).polling = true) :
    (p.run steps).lastSuccessfulUpdate ∈ p.lastSuccessfulUpdate :: p.refreshTimes steps ∧
      ∀ t ∈ p.lastSuccessfulUpdate :: p.refreshTimes steps, t ≤ (p.run steps).lastSuccessfulUpdate := by
  induction steps generalizing p with
  | nil => simp [run, refreshTimes]
  | cons s rest ih =>
    obtain ⟨now, e⟩ := s
    have hrest : ∀ s ∈ rest, s.2.restarts = false := fun s' h' => hs s' (List.mem_cons_of_mem _ h')
    have hclock := (step_clock p now (hs _ (List.mem_cons_self _ _))
      (polling_of_run _ rest hrest h)).2
    rw [List.map_cons, List.cons_append, List.chain_cons] at ht
    -- the step's clock lies between the clock before it and its time
    have hle : p.lastSuccessfulUpdate ≤ (p.step now e).lastSuccessfulUpdate ∧
        (p.step now e).lastSuccessfulUpdate ≤ now := by
      rw [hclock]; split_ifs <;> omega
    obtain ⟨hmem, hall⟩ := ih (p.step now e) hrest
      (ht.2.imp' (fun _ _ h => h) fun _ hc => le_trans hle.2 hc) h
    have hiff : ∀ t, t ∈ p.lastSuccessfulUpdate :: p.refreshTimes ((now, e) :: rest) ↔
        t = p.lastSuccessfulUpdate ∨
          t ∈ (p.step now e).lastSuccessfulUpdate :: (p.step now e).refreshTimes rest := by
      intro t
      rw [refreshTimes, hclock]
      split_ifs <;> simp
    refine ⟨(hiff _).2 (.inr hmem), fun t htm => ?_⟩
    rcases (hiff t).1 htm with rfl | htm
    · exact le_trans hle.1 (hall _ (List.mem_cons_self _ _))
    · exact hall t htm

end Run

/-- **The silence law.** Take a run without a restart whose times never go back from the
clock, ending in a proxy that polls, and a tick at `now` whose poll leaves the state `q`.
The tick disconnects exactly when `q` is connected or tracks a node and no data frame that
refreshed the clock was handled within `connection_timeout` before `now`: every refresh of
the run and of the tick's own poll, and the clock the run started from, lies more than
`connection_timeout` back. A node's discovery is a control frame and is not among them. -/
theorem silence_disconnect_law (p : Proxy) (steps : List (Int × Event)) (now : Int)
    (round : PollRound) {q : Proxy} {b : Bool} (hsteps : ∀ s ∈ steps, s.2.restarts = false)
    (htimes : List.Chain (· ≤ ·) p.lastSuccessfulUpdate (steps.map Prod.fst ++ [now]))
    (hpolling : (p.run steps).polling = true) (hpoll : (p.run steps).update now round = .ok (q, b)) :
    ((p.run steps).networkTick now round).running = false ↔
      (q.wasConnected = true ∨ q.trackedNodes ≠ []) ∧
        ∀ t ∈ p.lastSuccessfulUpdate :: (p.refreshTimes steps ++
          if (p.run steps).refreshesAt now round then [now] else []),
          connectionTimeout < now - t := by
  obtain ⟨hmem, hle⟩ := run_clock p steps [now] hsteps htimes hpolling
  obtain ⟨hq, hclock⟩ := update_clock _ now hpolling hpoll
  have hp := polling_iff.1 hpolling
  rw [networkTick_of_polled _ now hp.1 hp.2 hpoll,
    afterPoll_running now (polling_iff.1 (hq.trans hpolling)).1, hclock]
  refine and_congr_right fun _ => ?_
  split_ifs
  · have hnow : ¬ connectionTimeout < now - now := by simp [connectionTimeout]
    exact ⟨fun h => absurd h hnow, fun h => absurd (h now (by simp)) hnow⟩
  · rw [List.append_nil]
    exact ⟨fun hlt t ht => by have := hle t ht; omega, fun h => h _ hmem⟩

/-- The law after a refreshing frame: with nodes `A` and `B` tracked and `A` active, the
tick at 60 ms reads a `POLY` pair from `A`, whose handler refreshes the clock, and the tick
at 10.07 s finds 10.01 s of silence. -/
theorem silence_disconnect_law_after_poly :
    let steps : List (Int × Event) := [(60, .fire 3 ⟨some (polyFrame nodeA), none, .completed⟩)]
    let round : PollRound := ⟨none, none, .completed⟩
    let q := ((twoNodes.run steps).receive 10070 round).1
    ((twoNodes.run steps).networkTick 10070 round).running = false ↔
      (q.wasConnected = true ∨ q.trackedNodes ≠ []) ∧
        ∀ t ∈ twoNodes.lastSuccessfulUpdate :: (twoNodes.refreshTimes steps ++
          if (twoNodes.run steps).refreshesAt 10070 round then [10070] else []),
          connectionTimeout < 10070 - t := by
  intro steps round q
  exact silence_disconnect_law twoNodes steps 10070 round (by decide)
    (.cons (by decide) (.cons (by decide) .nil)) (by decide) rfl

example : twoNodes.refreshTimes [(60, .fire 3 ⟨some (polyFrame nodeA), none, .completed⟩)] = [60] := by
  decide

/-- Discovery does not hold off the silence disconnect. The same first tick, whose poll
discovers the first node, connects the proxy when it fires 20 ms after the start and
disconnects it when it fires 10.02 s after. -/
theorem first_discovery_after_timeout_disconnects :
    let p := (Proxy.fresh 0 true 1 "localhost").run [(0, .startClient (fun _ => 65) "" true)]
    let e : Event := .fire 0 ⟨none, some [1, 83, 65, 65, 65, 129], .completed⟩
    p.running = true ∧ (p.step 20 e).running = true ∧ (p.step 20 e).wasConnected = true ∧
      (p.step 10020 e).running = false := by
  decide

end Proxy

end WebATM
