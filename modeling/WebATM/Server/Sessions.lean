import WebATM.Proxy.State

/-!
# The session manager

`SessionManager` keeps `active_sessions`, a dictionary from a session id to the times the
session started and last sent a heartbeat, and the heartbeat interval it tells consumers.
Being a dictionary, it holds each id once, and the structure carries that as a field. Along
a run whose clock never goes back, each session's last heartbeat lies between its start and
the current time.
-/

namespace WebATM

/-- The two times `add_session` records for a session: `start_time` and `last_heartbeat`. -/
structure SessionTimes where
  startTime : Int
  lastHeartbeat : Int
  deriving DecidableEq, Repr

/-- `SessionManager`: `heartbeat_interval`, and `active_sessions` with distinct keys. -/
structure SessionManager where
  heartbeatInterval : Int
  activeSessions : List (String × SessionTimes)
  nodup : (activeSessions.map Prod.fst).Nodup

namespace SessionManager

/-- `SessionManager()` where the environment's `HEARTBEAT_INTERVAL` is `env`: `int()` of it
when set, 30 otherwise; `none` when `int()` raises. -/
def new (env : Option String) : Option SessionManager :=
  (match env with
    | some s => parseInt s.toList
    | none => some 30).map fun interval => ⟨interval, [], List.nodup_nil⟩

/-- The tracked session ids, in the order they were added. -/
def ids (m : SessionManager) : List String := m.activeSessions.map Prod.fst

section Keys

theorem nodup_snoc {α β : Type} {l : List (α × β)} (h : (l.map Prod.fst).Nodup) {k : α}
    (hk : k ∉ l.map Prod.fst) (t : β) : ((l ++ [(k, t)]).map Prod.fst).Nodup := by
  rw [List.map_append, List.nodup_append]
  exact ⟨h, List.nodup_singleton _, by simpa using hk⟩

variable {l : List (String × SessionTimes)}

/-- Rewriting the value of a present key keeps the keys. -/
theorem keys_upsert_of_assocGet {k : String} {t : SessionTimes} (h : assocGet l k = some t)
    (t' : SessionTimes) : (upsert l k t').map Prod.fst = l.map Prod.fst := by
  induction l with
  | nil => cases h
  | cons e rest ih =>
    obtain ⟨k', v⟩ := e
    by_cases he : k' = k
    · simp [upsert, he]
    · simp only [assocGet, he, if_false] at h
      simp [upsert, he, ih h]

end Keys

/-- `add_session(session_id)` at time `now`: a new id is added with both times `now`;
`False` for an id already tracked. -/
def addSession (m : SessionManager) (sessionId : String) (now : Int) : SessionManager × Bool :=
  if h : sessionId ∈ m.ids then (m, false)
  else ({ m with activeSessions := m.activeSessions ++ [(sessionId, ⟨now, now⟩)],
                 nodup := nodup_snoc m.nodup h _ }, true)

/-- `remove_session(session_id)`: `pop` a tracked id; `False` for an unknown one. -/
def removeSession (m : SessionManager) (sessionId : String) : SessionManager × Bool :=
  if sessionId ∈ m.ids then
    ({ m with activeSessions := remove m.activeSessions sessionId,
              nodup := by rw [remove_keys]; exact m.nodup.erase _ }, true)
  else (m, false)

/-- `update_heartbeat(session_id)` at time `now`: a tracked session's last heartbeat
becomes `now`; `False` for an unknown id. -/
def updateHeartbeat (m : SessionManager) (sessionId : String) (now : Int) :
    SessionManager × Bool :=
  match h : assocGet m.activeSessions sessionId with
  | some t =>
    ({ m with activeSessions := upsert m.activeSessions sessionId { t with lastHeartbeat := now },
              nodup := by rw [keys_upsert_of_assocGet h]; exact m.nodup }, true)
  | none => (m, false)

/-- `get_session_count()`. -/
def getSessionCount (m : SessionManager) : Nat := m.activeSessions.length

/-- `get_session_info()`. -/
def getSessionInfo (m : SessionManager) : Value :=
  .dict [(.str "active_sessions", .int m.getSessionCount)]

/-- `get_config_info()`. -/
def getConfigInfo (m : SessionManager) : Value :=
  .dict [(.str "heartbeat_interval", .int m.heartbeatInterval)]

section Laws

variable (m : SessionManager) (s : String) (now : Int)

theorem mem_ids_iff_assocGet : s ∈ m.ids ↔ (assocGet m.activeSessions s).isSome := by
  rw [← not_iff_not, Option.not_isSome_iff_eq_none, assocGet_eq_none_iff]
  rfl

@[simp] theorem ids_addSession :
    (m.addSession s now).1.ids = if s ∈ m.ids then m.ids else m.ids ++ [s] := by
  unfold addSession
  split_ifs <;> simp [ids]

@[simp] theorem addSession_snd : (m.addSession s now).2 = !decide (s ∈ m.ids) := by
  unfold addSession
  split_ifs with h <;> simp [h]

@[simp] theorem ids_removeSession :
    (m.removeSession s).1.ids = m.ids.erase s := by
  unfold removeSession
  split_ifs with h
  · exact remove_keys _ _
  · exact (List.erase_of_not_mem h).symm

@[simp] theorem removeSession_snd : (m.removeSession s).2 = decide (s ∈ m.ids) := by
  unfold removeSession
  split_ifs with h <;> simp [h]

@[simp] theorem ids_updateHeartbeat : (m.updateHeartbeat s now).1.ids = m.ids := by
  unfold updateHeartbeat
  split
  · rename_i t h
    exact keys_upsert_of_assocGet h _
  · rfl

@[simp] theorem updateHeartbeat_snd : (m.updateHeartbeat s now).2 = decide (s ∈ m.ids) := by
  unfold updateHeartbeat
  split <;> simp_all [mem_ids_iff_assocGet]

@[simp] theorem updateHeartbeat_interval :
    (m.updateHeartbeat s now).1.heartbeatInterval = m.heartbeatInterval := by
  unfold updateHeartbeat
  split <;> rfl

@[simp] theorem addSession_interval :
    (m.addSession s now).1.heartbeatInterval = m.heartbeatInterval := by
  unfold addSession
  split_ifs <;> rfl

@[simp] theorem removeSession_interval :
    (m.removeSession s).1.heartbeatInterval = m.heartbeatInterval := by
  unfold removeSession
  split_ifs <;> rfl

theorem getSessionCount_eq_length_ids : m.getSessionCount = m.ids.length :=
  (List.length_map _ _).symm

end Laws

section Clock

/-- Every tracked session started no later than its last heartbeat, and that heartbeat was
no later than `t`. -/
def Clocked (m : SessionManager) (t : Int) : Prop :=
  ∀ e ∈ m.activeSessions, e.2.startTime ≤ e.2.lastHeartbeat ∧ e.2.lastHeartbeat ≤ t

variable {m : SessionManager} {t : Int} (s : String)

theorem Clocked.mono (h : m.Clocked t) {t' : Int} (ht : t ≤ t') : m.Clocked t' :=
  fun e he => ⟨(h e he).1, (h e he).2.trans ht⟩

theorem Clocked.addSession (h : m.Clocked t) {now : Int} (ht : t ≤ now) :
    (m.addSession s now).1.Clocked now := by
  unfold SessionManager.addSession
  split_ifs
  · exact h.mono ht
  · intro e he
    rcases List.mem_append.mp he with he | he
    · exact h.mono ht e he
    · simp only [List.mem_singleton] at he
      subst he
      exact ⟨le_refl _, le_refl _⟩

theorem Clocked.removeSession (h : m.Clocked t) : (m.removeSession s).1.Clocked t := by
  unfold SessionManager.removeSession
  split_ifs
  · exact fun e he => h e ((remove_sublist _ _).subset he)
  · exact h

theorem Clocked.updateHeartbeat (h : m.Clocked t) {now : Int} (ht : t ≤ now) :
    (m.updateHeartbeat s now).1.Clocked now := by
  unfold SessionManager.updateHeartbeat
  split
  · rename_i old hold
    intro e he
    rcases mem_upsert he with he | rfl
    · exact (h.mono ht) e he
    · have := h _ (assocGet_mem hold)
      exact ⟨this.1.trans (this.2.trans ht), le_refl _⟩
  · exact h.mono ht

end Clock

end SessionManager

end WebATM
