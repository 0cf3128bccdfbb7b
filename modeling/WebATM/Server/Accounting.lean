import WebATM.Server.App

/-!
# Session accounting

Two components count the consumers. The session manager tracks one session per consumer,
and the proxy counts `connected_clients`, which guards every push. `on_connect` raises
both, and `on_disconnect` lowers the count whether or not it found a session to remove.

This file shows what that gives over whole runs. Whatever the events:
- the application drives its proxy only through the proxy's own entry points, so every
  proxy it holds is a reachable proxy;
- the proxy stays attached to Socket.IO and never counts more consumers than there are
  sessions.

Two contracts strengthen this:
- Socket.IO's: a new connection has a new `sid`, and only a connected consumer
  disconnects;
- `uuid4`'s: a drawn id is new and nonempty.

When the events keep both, the tracked sessions are exactly the connected consumers'
sessions, the count is exact, and every connected consumer's heartbeat is acknowledged.
Along a run whose clock never goes back, every session's last heartbeat lies between its
start and the current time.
-/

namespace WebATM

section Assoc

variable {α β : Type} [DecidableEq α]

/-- In a table with distinct keys, an entry is what `assocGet` reads at its key. -/
theorem assocGet_of_mem {l : List (α × β)} (hl : (l.map Prod.fst).Nodup) {k : α} {v : β}
    (h : (k, v) ∈ l) : assocGet l k = some v := by
  induction l with
  | nil => cases h
  | cons e rest ih =>
    obtain ⟨k', v'⟩ := e
    simp only [List.map_cons, List.nodup_cons] at hl
    rcases List.mem_cons.mp h with h | h
    · cases h
      simp [assocGet]
    · have hk : k' ≠ k := fun e => hl.1 (e ▸ List.mem_map_of_mem Prod.fst h)
      simp [assocGet, hk, ih hl.2 h]

/-- Removing a key drops its value from the table's values. -/
theorem map_snd_remove {l : List (α × β)} {k : α} {v : β} (h : assocGet l k = some v) :
    (l.map Prod.snd).Perm (v :: (remove l k).map Prod.snd) := by
  induction l with
  | nil => cases h
  | cons e rest ih =>
    obtain ⟨k', v'⟩ := e
    by_cases hk : k' = k
    · simp only [assocGet, hk, if_true, Option.some.injEq] at h
      simp [remove, hk, h]
    · simp only [assocGet, hk, if_false] at h
      simp only [remove, hk, if_false, List.map_cons]
      exact ((ih h).cons v').trans (List.Perm.swap v v' _)

end Assoc

namespace Proxy

/-- The route's `send_command(command)` is the consumer request `command` with the data
`{"command": command}`. -/
theorem step_command_dict (p : Proxy) (now : Int) (c : Value) :
    p.step now (.request (.command (.dict [(.str "command", c)]))) = (p.sendCommand c now).1 := by
  simp [step, request, onCommand, Value.get?, dictGet]

end Proxy

/-- Whether an event is one of the session code's: a consumer connecting, disconnecting or
sending a heartbeat. -/
def ServerEvent.isSession : ServerEvent → Bool
  | .connect .. | .disconnect _ | .heartbeat _ => true
  | _ => false

namespace Server

section Handlers

variable (s : Server) (now : Int)

/-- `on_connect` drives the proxy as the request `connect`, admitted as the session
manager answered. -/
theorem proxy_onConnect (sid : Nat) (u : String) :
    (s.onConnect sid u now).1.proxy =
      (s.proxy.request now (.connect (s.sessions.addSession u now).2)).1 := by
  simp only [onConnect, Proxy.request, Proxy.onConnect]
  cases (s.sessions.addSession u now).2
  · rfl
  · simp only [Bool.not_true, Bool.false_eq_true, ↓reduceIte]
    split
    next d hd => simp only [hd]
    next hd => simp only [hd]

theorem onConnect_of_tracked {u : String} (h : u ∈ s.sessions.ids) (sid : Nat) :
    (s.onConnect sid u now).1 = s := by
  simp [onConnect, h]

theorem onConnect_of_new {u : String} (h : u ∉ s.sessions.ids) (sid : Nat) :
    (s.onConnect sid u now).1.sessions = (s.sessions.addSession u now).1 ∧
      (s.onConnect sid u now).1.sockets = upsert s.sockets sid u ∧
      (s.onConnect sid u now).1.proxy.audience = (s.proxy.socketio, s.proxy.connectedClients + 1) := by
  have hr : (s.sessions.addSession u now).2 = true := by simp [h]
  have ha : (s.onConnect sid u now).1.proxy.audience = (s.proxy.socketio, s.proxy.connectedClients + 1) := by
    rw [proxy_onConnect, hr]
    exact Proxy.audience_step s.proxy now (.request (.connect true))
  refine ⟨?_, ?_, ha⟩ <;>
    simp only [onConnect, hr, Bool.not_true, Bool.false_eq_true, ↓reduceIte] <;> split <;> rfl

theorem onDisconnect_sessions (sid : Nat) :
    (s.onDisconnect sid).sessions = match assocGet s.sockets sid with
      | some u => if u = "" then s.sessions else (s.sessions.removeSession u).1
      | none => s.sessions := rfl

/-- A heartbeat changes at most the last heartbeat of the consumer's session. -/
theorem onHeartbeat_eq (sid : Nat) :
    (s.onHeartbeat sid now).1 = s ∨ ∃ u, assocGet s.sockets sid = some u ∧
      (s.onHeartbeat sid now).1 = { s with sessions := (s.sessions.updateHeartbeat u now).1 } := by
  unfold onHeartbeat
  split
  · rename_i u hu
    dsimp only
    split_ifs
    · exact .inr ⟨u, hu, rfl⟩
    · exact .inl rfl
  · exact .inl rfl

theorem onHeartbeat_acks {sid : Nat} {u : String} (h : assocGet s.sockets sid = some u)
    (hu : u ≠ "") (ht : u ∈ s.sessions.ids) : (s.onHeartbeat sid now).2 = [heartbeatAck now] := by
  simp [onHeartbeat, h, hu, ht]

/-- An event outside the session code keeps the sessions, the connected consumers and the
proxy's audience. -/
theorem step_frame {e : ServerEvent} (he : e.isSession = false) :
    (s.step now e).sessions = s.sessions ∧ (s.step now e).sockets = s.sockets ∧
      (s.step now e).proxy.audience = s.proxy.audience := by
  cases e with
  | connect | disconnect | heartbeat => cases he
  | command data => exact ⟨rfl, rfl, Proxy.audience_step s.proxy now (.request (.command data))⟩
  | setActiveNode data =>
    exact ⟨rfl, rfl, Proxy.audience_step s.proxy now (.request (.setActiveNode data))⟩
  | getNodes => exact ⟨rfl, rfl, Proxy.audience_step s.proxy now (.request .getNodes)⟩
  | addNodes data => exact ⟨rfl, rfl, Proxy.audience_step s.proxy now (.request (.addNodes data))⟩
  | postCommand json =>
    simp only [step, postCommand]
    split
    · exact ⟨rfl, rfl, Proxy.audience_sendCommand _ now _⟩
    · exact ⟨rfl, rfl, rfl⟩
  | postServerConfig json rnd ok =>
    simp only [step, postServerConfig]
    split
    · exact ⟨rfl, rfl, rfl⟩
    · split
      · exact ⟨rfl, rfl, Proxy.audience_startClient _ now rnd _ ok⟩
      · exact ⟨rfl, rfl,
          (Proxy.audience_registerSubscribers _).trans (Proxy.audience_startClient _ now rnd _ ok)⟩
  | pollServerConfig i =>
    simp only [step, pollServerConfig]
    repeat' split
    all_goals refine ⟨?_, ?_, ?_⟩ <;> first | rfl | trivial | exact Proxy.audience_stopClient _ now
  | postDisconnect =>
    simp only [step, postDisconnect]
    split_ifs
    · exact ⟨trivial, trivial, Proxy.audience_stopClient _ now⟩
    · exact ⟨trivial, trivial, rfl⟩
  | fire id round => exact ⟨rfl, rfl, Proxy.audience_fire _ now id round⟩

/-- What one event can do to the sessions and the proxy's audience: keep the audience and at
most refresh one session's heartbeat; admit a new session and count one consumer more; or
remove at most one session and count one consumer fewer. -/
theorem step_sessions (e : ServerEvent) :
    ((s.step now e).proxy.audience = s.proxy.audience ∧ ((s.step now e).sessions = s.sessions ∨
        ∃ u, (s.step now e).sessions = (s.sessions.updateHeartbeat u now).1)) ∨
      (∃ u, u ∉ s.sessions.ids ∧ (s.step now e).sessions = (s.sessions.addSession u now).1 ∧
        (s.step now e).proxy.audience = (s.proxy.socketio, s.proxy.connectedClients + 1)) ∨
      (((s.step now e).sessions = s.sessions ∨
          ∃ u, (s.step now e).sessions = (s.sessions.removeSession u).1) ∧
        (s.step now e).proxy.audience = (s.proxy.socketio, s.proxy.connectedClients - 1)) := by
  cases hs : e.isSession
  · obtain ⟨h₁, -, h₃⟩ := step_frame s now hs
    exact .inl ⟨h₃, .inl h₁⟩
  · cases e with
    | connect sid u =>
      by_cases hu : u ∈ s.sessions.ids
      · rw [step, onConnect_of_tracked s now hu]
        exact .inl ⟨rfl, .inl rfl⟩
      · obtain ⟨h₁, -, h₃⟩ := onConnect_of_new s now hu sid
        exact .inr (.inl ⟨u, hu, h₁, h₃⟩)
    | disconnect sid =>
      refine .inr (.inr ⟨?_, rfl⟩)
      rw [step, onDisconnect_sessions]
      split
      · split_ifs
        · exact .inl rfl
        · exact .inr ⟨_, rfl⟩
      · exact .inl rfl
    | heartbeat sid =>
      rcases onHeartbeat_eq s now sid with hq | ⟨u, -, hq⟩ <;> rw [step, hq]
      · exact .inl ⟨rfl, .inl rfl⟩
      · exact .inl ⟨rfl, .inr ⟨u, rfl⟩⟩
    | _ => cases hs

end Handlers

/-- One event drives the proxy through its entry points, or replaces it by a fresh proxy
that is then started. -/
theorem reachable_step {s : Server} (h : Reachable s.proxy) (now : Int) (e : ServerEvent) :
    Reachable (s.step now e).proxy := by
  cases e with
  | connect sid u => rw [step, proxy_onConnect]; exact h.step now (.request _)
  | disconnect sid => exact h.step now (.request .disconnect)
  | heartbeat sid =>
    rcases onHeartbeat_eq s now sid with hq | ⟨u, -, hq⟩ <;> rw [step, hq] <;> exact h
  | command data => exact h.step now (.request (.command data))
  | setActiveNode data => exact h.step now (.request (.setActiveNode data))
  | getNodes => exact h.step now (.request .getNodes)
  | addNodes data => exact h.step now (.request (.addNodes data))
  | postCommand json =>
    simp only [step, postCommand]
    split
    · show Reachable (s.proxy.sendCommand _ now).1
      rw [← Proxy.step_command_dict]
      exact h.step now _
    · exact h
  | postServerConfig json rnd ok =>
    simp only [step, postServerConfig]
    split
    · exact h
    · split
      · exact (Reachable.fresh ..).step now (.startClient rnd _ ok)
      · exact ((Reachable.fresh ..).step now (.startClient rnd _ ok)).step now .registerSubscribers
  | pollServerConfig i =>
    simp only [step, pollServerConfig]
    repeat' split
    all_goals first | exact h | exact h.step now .stopClient
  | postDisconnect =>
    simp only [step, postDisconnect]
    split_ifs
    · exact h.step now .stopClient
    · exact h
  | fire id round => exact h.step now (.fire id round)

end Server

theorem Server.start_proxy {env : Option String} {t0 : Int} {host : String} {s : Server}
    (h : Server.start env t0 host = some s) :
    s.proxy = (Proxy.fresh t0 true 0 host).registerSubscribers ∧ s.sockets = [] ∧
      s.sessions.ids = [] := by
  simp only [Server.start, Option.map_eq_some'] at h
  obtain ⟨m, hm, rfl⟩ := h
  simp only [SessionManager.new, Option.map_eq_some'] at hm
  obtain ⟨_, -, rfl⟩ := hm
  exact ⟨rfl, rfl, rfl⟩

/-- **The application refines the proxy.** Whatever its events, every proxy the
application holds is a reachable proxy: the application calls nothing of the proxy but its
entry points, and each proxy `update_server_config` sets up is a freshly configured one.
Every law of reachable proxies therefore holds of the application's proxy. -/
theorem server_proxy_is_reachable {s : Server} (h : ServerReachable s) : Reachable s.proxy := by
  induction h with
  | start h =>
    rw [(Server.start_proxy h).1]
    exact (Reachable.fresh ..).step 0 .registerSubscribers
  | step now e _ ih => exact Server.reachable_step ih now e

theorem server_proxy_is_reachable_at_start :
    ∃ s, Server.start none 0 "localhost" = some s ∧ Reachable s.proxy :=
  ⟨_, rfl, server_proxy_is_reachable (.start (show Server.start none 0 "localhost" = some _ from rfl))⟩

/-- **The proxy never counts more consumers than there are sessions.** Whatever the events,
the proxy stays attached to Socket.IO, and its `connected_clients` is at most the number of
tracked sessions: `on_disconnect` may lower the count without finding a session, never the
other way round. So while no session is tracked, nothing is pushed. -/
theorem consumer_count_within_sessions {s : Server} (h : ServerReachable s) :
    s.proxy.socketio = true ∧ s.proxy.connectedClients ≤ s.sessions.getSessionCount := by
  simp only [SessionManager.getSessionCount_eq_length_ids]
  induction h with
  | start h =>
    obtain ⟨hp, -, hi⟩ := Server.start_proxy h
    rw [hp, hi]
    exact ⟨rfl, le_refl _⟩
  | @step s now e _ ih =>
    rcases Server.step_sessions s now e with
      ⟨ha, hs | ⟨u, hs⟩⟩ | ⟨u, hu, hs, ha⟩ | ⟨hs | ⟨u, hs⟩, ha⟩ <;>
      simp only [Proxy.audience, Prod.mk.injEq] at ha <;>
      simp only [ha, hs, SessionManager.ids_updateHeartbeat, SessionManager.ids_removeSession]
    · exact ih
    · exact ih
    · rw [SessionManager.ids_addSession, if_neg hu, List.length_append, List.length_singleton]
      exact ⟨ih.1, Nat.succ_le_succ ih.2⟩
    · exact ⟨ih.1, by omega⟩
    · rw [List.length_erase]
      split_ifs <;> exact ⟨ih.1, by omega⟩

theorem consumer_count_within_sessions_after_a_join :
    ∃ s, Server.start none 0 "localhost" = some s ∧
      (s.step 0 (.connect 1 "a")).proxy.socketio = true ∧
      (s.step 0 (.connect 1 "a")).proxy.connectedClients ≤
        (s.step 0 (.connect 1 "a")).sessions.getSessionCount :=
  ⟨_, rfl, consumer_count_within_sessions
    ((ServerReachable.start (show Server.start none 0 "localhost" = some _ from rfl)).step 0 _)⟩

section Contract

/-- What Socket.IO and `uuid4` guarantee of an event in the state `s`: a connection opens
under a `sid` not yet connected and draws a nonempty id that no session has; only a
connected consumer disconnects. -/
def ServerEvent.allowed (s : Server) : ServerEvent → Bool
  | .connect sid u => sid ∉ s.sockets.map Prod.fst && u ≠ "" && u ∉ s.sessions.ids
  | .disconnect sid => sid ∈ s.sockets.map Prod.fst
  | _ => true

/-- The states a run reaches when every event keeps the contract. -/
inductive Served : Server → Prop where
  | start {env : Option String} {t0 : Int} {host : String} {s : Server}
      (h : Server.start env t0 host = some s) : Served s
  | step {s : Server} (now : Int) (e : ServerEvent) :
      Served s → e.allowed s = true → Served (s.step now e)

/-- The accounting of a served application: the connected consumers have distinct `sid`s
and nonempty session ids, the tracked sessions are exactly theirs, and the proxy, attached
to Socket.IO, counts them. -/
structure Accounted (s : Server) : Prop where
  sids : (s.sockets.map Prod.fst).Nodup
  named : ∀ e ∈ s.sockets, e.2 ≠ ""
  tracked : (s.sockets.map Prod.snd).Perm s.sessions.ids
  counted : s.proxy.connectedClients = s.sockets.length
  socketio : s.proxy.socketio = true

namespace Accounted

variable {s : Server}

theorem of_frame {q : Server} (h : Accounted s) (hs : q.sessions.ids = s.sessions.ids)
    (hk : q.sockets = s.sockets) (ha : q.proxy.audience = s.proxy.audience) : Accounted q := by
  simp only [Proxy.audience, Prod.mk.injEq] at ha
  exact ⟨hk ▸ h.sids, hk ▸ h.named, hk ▸ hs ▸ h.tracked, hk ▸ ha.2 ▸ h.counted,
    ha.1 ▸ h.socketio⟩

theorem connect (h : Accounted s) {sid : Nat} {u : String} (hsid : sid ∉ s.sockets.map Prod.fst)
    (hu : u ≠ "") (hn : u ∉ s.sessions.ids) (now : Int) : Accounted (s.step now (.connect sid u)) := by
  obtain ⟨h₁, h₂, h₃⟩ := Server.onConnect_of_new s now hn sid
  simp only [Proxy.audience, Prod.mk.injEq] at h₃
  rw [upsert_of_not_mem _ hsid] at h₂
  have hids : (s.onConnect sid u now).1.sessions.ids = s.sessions.ids ++ [u] := by
    rw [h₁, SessionManager.ids_addSession, if_neg hn]
  refine ⟨?_, ?_, ?_, ?_, ?_⟩ <;> simp only [Server.step, hids, h₂, h₃]
  · exact SessionManager.nodup_snoc h.sids hsid u
  · intro e he
    rcases List.mem_append.mp he with he | he
    · exact h.named e he
    · rw [List.mem_singleton.mp he]; exact hu
  · rw [List.map_append]; exact h.tracked.append_right [u]
  · rw [h.counted, List.length_append, List.length_singleton]
  · exact h.socketio

theorem disconnect (h : Accounted s) {sid : Nat} (hsid : sid ∈ s.sockets.map Prod.fst) :
    Accounted (s.onDisconnect sid) := by
  obtain ⟨u, hu⟩ := Option.ne_none_iff_exists'.mp
    (mt (assocGet_eq_none_iff s.sockets sid).mp (not_not.mpr hsid))
  have hnamed := h.named _ (assocGet_mem hu)
  have hperm := map_snd_remove hu
  have hmem : u ∈ s.sessions.ids := h.tracked.subset (hperm.symm.subset (List.mem_cons_self u _))
  have hkeys := remove_keys s.sockets sid
  refine ⟨?_, ?_, ?_, ?_, h.socketio⟩
  · show (List.map Prod.fst (remove s.sockets sid)).Nodup
    rw [hkeys]; exact h.sids.erase sid
  · exact fun e he => h.named e ((remove_sublist _ _).subset he)
  · simp only [Server.onDisconnect, hu, hnamed, if_false, SessionManager.ids_removeSession]
    exact List.Perm.cons_inv ((hperm.symm.trans h.tracked).trans (List.perm_cons_erase hmem))
  · have hlen := congrArg List.length hkeys
    simp only [List.length_map, List.length_erase_of_mem hsid] at hlen
    simp only [Server.onDisconnect, Proxy.onDisconnect, hlen, h.counted]

theorem step (h : Accounted s) {e : ServerEvent} (he : e.allowed s = true) (now : Int) :
    Accounted (s.step now e) := by
  cases hs : e.isSession
  · obtain ⟨h₁, h₂, h₃⟩ := Server.step_frame s now hs
    exact h.of_frame (congrArg SessionManager.ids h₁) h₂ h₃
  · cases e with
    | connect sid u =>
      simp only [ServerEvent.allowed, Bool.and_eq_true, decide_eq_true_eq] at he
      exact h.connect he.1.1 he.1.2 he.2 now
    | disconnect sid =>
      simp only [ServerEvent.allowed, decide_eq_true_eq] at he
      exact h.disconnect he
    | heartbeat sid =>
      rcases Server.onHeartbeat_eq s now sid with hq | ⟨u, -, hq⟩ <;> rw [Server.step, hq]
      · exact h
      · exact h.of_frame (SessionManager.ids_updateHeartbeat _ _ _) rfl rfl
    | _ => cases hs

end Accounted

theorem Served.accounted {s : Server} (h : Served s) : Accounted s := by
  induction h with
  | start h =>
    obtain ⟨hp, hk, hi⟩ := Server.start_proxy h
    refine ⟨?_, ?_, ?_, ?_, ?_⟩ <;> simp only [hp, hk, hi] <;> first | rfl | simp
  | step now e _ he ih => exact ih.step he now

/-- **Sessions match the connected consumers.** When every event keeps the contract of
Socket.IO and `uuid4`, the proxy counts exactly the connected consumers and the session
manager tracks exactly one session for each; every connected consumer's heartbeat is
acknowledged; and a push reaches the consumers exactly when one is connected. -/
theorem sessions_match_connected_consumers {s : Server} (h : Served s) :
    s.proxy.connectedClients = s.sockets.length ∧
      s.sessions.getSessionCount = s.sockets.length ∧
      (∀ e ∈ s.sockets, ∀ now, (s.onHeartbeat e.1 now).2 = [Server.heartbeatAck now]) ∧
      ∀ event data, (s.proxy.broadcast event data).pushes =
        s.proxy.pushes ++ if s.sockets = [] then [] else [⟨event, data⟩] := by
  have ha := h.accounted
  refine ⟨ha.counted, ?_, ?_, ?_⟩
  · rw [SessionManager.getSessionCount_eq_length_ids, ← ha.tracked.length_eq, List.length_map]
  · intro e he now
    exact Server.onHeartbeat_acks s now (assocGet_of_mem ha.sids he) (ha.named e he)
      (ha.tracked.subset (List.mem_map_of_mem Prod.snd he))
  · intro event data
    by_cases hk : s.sockets = []
    · simp [Proxy.broadcast, ha.counted, hk]
    · simp [Proxy.broadcast, ha.counted, ha.socketio, hk, List.length_pos.mpr hk]

theorem sessions_match_connected_consumers_after_a_join :
    ∃ s : Server, Served s ∧ s.sockets = [(1, "a")] ∧ s.proxy.connectedClients = s.sockets.length :=
  let h : Served _ := .step 5 (.connect 1 "a")
    (.start (show Server.start none 0 "localhost" = some _ from rfl)) rfl
  ⟨_, h, rfl, (sessions_match_connected_consumers h).1⟩

end Contract

section Clock

/-- The states a run reaches by time `t`, its clock never going back. -/
inductive ServerRun : Server → Int → Prop where
  | start {env : Option String} {t0 : Int} {host : String} {s : Server}
      (h : Server.start env t0 host = some s) : ServerRun s t0
  | step {s : Server} {t : Int} (now : Int) (e : ServerEvent) :
      ServerRun s t → t ≤ now → ServerRun (s.step now e) now

/-- **Heartbeats are ordered.** Along every run whose clock never goes back, each tracked
session's last heartbeat is at or after its start and at or before the current time. -/
theorem session_heartbeats_are_ordered {s : Server} {t : Int} (h : ServerRun s t) :
    s.sessions.Clocked t := by
  induction h with
  | start h =>
    have hi := (Server.start_proxy h).2.2
    simp only [SessionManager.ids, List.map_eq_nil_iff] at hi
    intro e he
    rw [hi] at he
    cases he
  | @step s t now e _ ht ih =>
    rcases Server.step_sessions s now e with
      ⟨-, hs | ⟨u, hs⟩⟩ | ⟨u, -, hs, -⟩ | ⟨hs | ⟨u, hs⟩, -⟩ <;> rw [hs]
    · exact ih.mono ht
    · exact ih.updateHeartbeat u ht
    · exact ih.addSession u ht
    · exact ih.mono ht
    · exact (ih.removeSession u).mono ht

theorem session_heartbeats_are_ordered_after_a_heartbeat :
    ∃ s : Server, ServerRun s 9 ∧ s.sessions.activeSessions = [("a", ⟨5, 9⟩)] ∧ s.sessions.Clocked 9 :=
  let h : ServerRun _ 9 := .step 9 (.heartbeat 1) (.step 5 (.connect 1 "a")
    (.start (show Server.start none 0 "localhost" = some _ from rfl)) (by decide)) (by decide)
  ⟨_, h, rfl, session_heartbeats_are_ordered h⟩

end Clock

end WebATM
