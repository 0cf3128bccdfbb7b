import WebATM.Proxy.Frames

/-!
# The health of the connection

`network_timer_callback` judges the connection by two signals: a poll that raises, counted
in `connection_failures`, and silence, measured from `last_successful_update`. The client's
`update()` catches every transport error itself, so a poll never raises while a client
exists. The first signal is therefore never counted. The second decides every disconnect a
tick makes: a tick disconnects exactly when, after its poll, the proxy is connected or
tracks a node and the silence has lasted longer than `connection_timeout`. No control frame
moves the silence clock or stops the proxy. And because `_handle_disconnection` cancels no
timer, a `start_client` after a grace-check disconnect leaves two poll ticks pending.
-/

namespace WebATM

namespace Proxy

section Tick

variable (p : Proxy) (now : Int)

@[simp] theorem handleDisconnection_running : (p.handleDisconnection now).running = false := by
  rw [handleDisconnection_eq]

@[simp] theorem handleDisconnection_connectionFailures :
    (p.handleDisconnection now).connectionFailures = 0 := by
  rw [handleDisconnection_eq]

@[simp] theorem reschedule_running : p.reschedule.running = p.running := by
  unfold reschedule; split <;> rfl

@[simp] theorem reschedule_connectionFailures :
    p.reschedule.connectionFailures = p.connectionFailures := by
  unfold reschedule; split <;> rfl

/-- The aggressive check stops the proxy exactly when it is connected and silent for
longer than `connection_timeout`. -/
@[simp] theorem timeoutCheck_running : (p.timeoutCheck now).running =
    (p.running && !(p.wasConnected && decide (connectionTimeout < now - p.lastSuccessfulUpdate))) := by
  unfold timeoutCheck
  split_ifs with hc
  · simp [hc]
  · cases hw : p.wasConnected <;> simp_all

theorem timeoutCheck_connectionFailures {p : Proxy} (h : p.connectionFailures = 0) :
    (p.timeoutCheck now).connectionFailures = 0 := by
  unfold timeoutCheck
  split_ifs <;> simp [h]

/-- After a poll that did not raise, the tick disconnects a running proxy exactly when it
is connected or tracks a node, and is silent for longer than `connection_timeout`. -/
theorem afterPoll_running {p : Proxy} (h : p.running = true) :
    (p.afterPoll now).running = false ↔
      (p.wasConnected = true ∨ p.trackedNodes ≠ []) ∧
        connectionTimeout < now - p.lastSuccessfulUpdate := by
  unfold afterPoll
  dsimp only
  split_ifs with hnew hlost
  · simp only [Bool.and_eq_true, Bool.not_eq_true', List.isEmpty_eq_false] at hnew
    simp [emitConnectionStatus, broadcast, h, hnew.2, hnew.1]
  · simp only [Bool.and_eq_true, List.isEmpty_iff, decide_eq_true_eq] at hlost
    simp [hlost]
  · simp only [Bool.and_eq_true, Bool.not_eq_true', List.isEmpty_eq_false, not_and,
      List.isEmpty_iff, decide_eq_true_eq] at hnew hlost
    cases hw : p.wasConnected
    · have ht : p.trackedNodes = [] := by
        by_contra hne
        exact absurd (hnew hne) (by simp [hw])
      simp [h, hw, ht]
    · simp [h, hw]

@[simp] theorem afterPoll_connectionFailures : (p.afterPoll now).connectionFailures = 0 := by
  unfold afterPoll
  dsimp only
  split_ifs
  · exact timeoutCheck_connectionFailures now rfl
  · simp
  · exact timeoutCheck_connectionFailures now rfl

end Tick

section Poll

variable (p : Proxy) (now : Int)

/-- What the silence law reads of the proxy: whether it runs, whether reconnecting is
allowed, and `last_successful_update`. -/
def silence (p : Proxy) : Bool × Bool × Int := (p.running, p.allowReconnection, p.lastSuccessfulUpdate)

theorem PushesOnly.silence {p q : Proxy} (h : PushesOnly p q) : q.silence = p.silence := by
  rw [h]; rfl

theorem onServerAdded_silence (s : Bytes) : (p.onServerAdded s).silence = p.silence := by
  unfold onServerAdded
  dsimp only
  split_ifs <;> rfl

/-- No slot stops the proxy, forbids reconnecting or refreshes its silence clock. -/
theorem slot_silence (s : Signal) : (p.slot now s).silence = p.silence := by
  cases s with
  | actnodeChanged a => exact (pushesOnly_onActnodeChanged p).silence
  | serverAdded n => exact onServerAdded_silence p n
  | nodeAdded n =>
    -- `_on_node_added` calls `_on_server_added`, which stays folded
    simp only [slot, onNodeAdded]
    repeat' split
    all_goals first | rfl | exact onServerAdded_silence p _
  | _ =>
    simp only [slot, onNodeRemoved, onServerRemoved]
    repeat' split
    all_goals rfl

theorem runSlots_silence (sigs : List Signal) : (p.runSlots now sigs).silence = p.silence := by
  induction sigs generalizing p with
  | nil => rfl
  | cons s rest ih => exact (ih (p.slot now s)).trans (slot_silence p now s)

/-- A control frame, a node's discovery or removal among them, neither stops the proxy
nor refreshes its silence clock. -/
theorem controlMessage_silence (f : Bytes) : (p.controlMessage now f).silence = p.silence := by
  unfold controlMessage
  split
  · rfl
  · exact runSlots_silence _ now _

theorem receive_running (round : PollRound) : (p.receive now round).1.running = p.running := by
  unfold receive
  split
  · split
    · rfl
    · dsimp only
      have hd : ∀ q : Proxy, (match round.data with
          | some m => q.dataMessage now m
          | none => q).running = q.running := by
        intro q
        split
        · exact congrArg Loop.running (loop_dataMessage q now _)
        · rfl
      split
      · exact (congrArg Prod.fst (controlMessage_silence _ now _)).trans (hd p)
      · exact hd p
  · rfl

/-- `update()` raises only on a missing client. -/
theorem update_of_client {c : BlueSkyClient} (hc : p.client = some c) (round : PollRound) :
    ∃ r, p.update now round = .ok r := by
  simp only [update, hc]
  split <;> exact ⟨_, rfl⟩

theorem update_running {round : PollRound} {q : Proxy} {b : Bool}
    (h : p.update now round = .ok (q, b)) : q.running = p.running := by
  unfold update at h
  split at h
  · split at h <;> injection h with h
    · cases h; rfl
    · rw [← receive_running p now round, h]
  · cases h

theorem networkTick_of_polled {round : PollRound} {q : Proxy} {b : Bool}
    (hrun : p.running = true) (hallow : p.allowReconnection = true)
    (hpoll : p.update now round = .ok (q, b)) :
    p.networkTick now round = q.afterPoll now := by
  have hc : p.client.isSome = true := by
    unfold update at hpoll
    split at hpoll
    · rename_i c hc; simp [hc]
    · cases hpoll
  simp only [networkTick, hrun, hallow, hc, Bool.and_self, Bool.not_true, Bool.false_eq_true,
    ↓reduceIte, hpoll]

end Poll

/-- **Failures are never counted.** A tick that polls (running, reconnecting allowed, a
client) leaves `connection_failures` at zero whatever the poll's outcome, a failed poll
included: `update()` reports a transport failure and does not raise, so the branch that
counts failures and disconnects at `max_connection_failures` never runs. -/
theorem networkTick_resets_failures {p : Proxy} (hrun : p.running = true)
    (hallow : p.allowReconnection = true) (hc : p.client.isSome = true) (now : Int)
    (round : PollRound) : (p.networkTick now round).connectionFailures = 0 := by
  obtain ⟨c, hc'⟩ := Option.isSome_iff_exists.mp hc
  obtain ⟨⟨q, b⟩, hpoll⟩ := update_of_client p now hc' round
  rw [networkTick_of_polled p now hrun hallow hpoll, afterPoll_connectionFailures]

/-- The spec's scenario C: after a node is discovered and three polls fail in a row, a
fourth failed poll still leaves the count at zero. -/
theorem networkTick_resets_failures_on_fourth_failure :
    let p := (Proxy.fresh 0 true 1 "localhost").run
      [(0, .startClient (fun _ => 65) "" true),
       (20, .fire 0 ⟨none, some [1, 83, 65, 65, 65, 129], .completed⟩),
       (40, .fire 2 ⟨none, none, .failed⟩), (60, .fire 3 ⟨none, none, .failed⟩),
       (80, .fire 4 ⟨none, none, .failed⟩)]
    (p.networkTick 100 ⟨none, none, .failed⟩).connectionFailures = 0 :=
  networkTick_resets_failures (by decide) (by decide) (by decide) 100 _

/-- The grace check's race: the first tick discovers a node and the next loses it, which
starts the grace check while the following tick is pending; the grace check disconnects,
and `start_client` runs again. -/
def graceRestarted : Proxy :=
  (Proxy.fresh 0 true 0 "localhost").run
    [(0, .startClient (fun _ => 65) "" true),
     (20, .fire 0 ⟨none, some [1, 83, 65, 65, 65, 129], .completed⟩),
     (40, .fire 2 ⟨none, some [0, 83, 65, 65, 65, 129], .completed⟩),
     (1040, .fire 3 ⟨none, none, .completed⟩),
     (1100, .startClient (fun _ => 65) "" true)]

/-- Two poll-tick chains. `_handle_disconnection` leaves the pending tick 4, and
`start_client` finds the proxy stopped, skips `stop_client`, and starts tick 5. Both pass the
tick's guard, so both poll when they fire, and each schedules a successor. -/
theorem start_after_grace_disconnect_runs_two_ticks :
    graceRestarted.pendingTicks.map Timer.id = [4, 5] ∧
      (graceRestarted.running && graceRestarted.allowReconnection &&
        graceRestarted.client.isSome) = true ∧
      ((graceRestarted.step 1120 (.fire 4 ⟨none, none, .completed⟩)).step 1140
        (.fire 5 ⟨none, none, .completed⟩)).pendingTicks.map Timer.id = [7, 8] := by
  decide

end Proxy

end WebATM
