import WebATM.Proxy.Frames

/-!
# The node registry mirrors discovery

`tracked_nodes` is keyed by the hex of a node's identity and filled by the slots of the
client's discovery signals. In every reachable state the client's nodes and servers are
well-formed peer identities, the tracked keys are exactly the hex of the client's nodes,
and each record holds the node's identity and sequence index. A control frame emits
`node_added` or `node_removed` exactly when it inserts or removes a node; `close()`
clears the nodes and emits nothing.
-/

namespace WebATM

/-- An identity discovery files as a node: `IDLEN` bytes from a peer group with a positive
sequence index. -/
def IsNodeId (n : Bytes) : Prop :=
  n.length = idlen ∧ isPeerGroup n = true ∧ 0 < seqid2idx (n.getLastD 0)

/-- An identity discovery files as a server: index zero. -/
def IsServerId (s : Bytes) : Prop :=
  s.length = idlen ∧ isPeerGroup s = true ∧ seqid2idx (s.getLastD 0) = 0

/-- The registry invariant. -/
structure Registry.WF (r : Registry) : Prop where
  /-- The client's nodes are peer nodes. -/
  nodes : ∀ c ∈ r.client, ∀ n ∈ c.nodes, IsNodeId n
  /-- The client's servers are peer servers. -/
  servers : ∀ c ∈ r.client, ∀ s ∈ c.servers, IsServerId s
  /-- The client's own identity is from the client group, so it is neither. -/
  own : ∀ c ∈ r.client, isPeerGroup c.nodeId = false
  /-- The tracked keys are the hex of the client's nodes. -/
  keys : ∀ key, key ∈ r.tracked.map Prod.fst ↔ ∃ c ∈ r.client, ∃ n ∈ c.nodes, hex n = key
  nodup : (r.tracked.map Prod.fst).Nodup
  /-- A record holds the identity its key is the hex of, and that identity's index. -/
  records : ∀ e ∈ r.tracked, hex e.2.1 = e.1 ∧ e.2.2 = seqid2idx (e.2.1.getLastD 0)
  /-- A client that does not run has no nodes and no servers. -/
  idle : ∀ c ∈ r.client, c.running = false → c.nodes = ∅ ∧ c.servers = ∅
  /-- A stopped proxy has no running client. -/
  stopped : r.running = false → ∀ c ∈ r.client, c.running = false

namespace Registry.WF

variable {r : Registry}

/-- No client, or a closed one, and nothing tracked. -/
theorem of_closed (ht : r.tracked = [])
    (hc : ∀ c ∈ r.client, c.nodes = ∅ ∧ c.servers = ∅ ∧ c.running = false ∧
      isPeerGroup c.nodeId = false) : r.WF where
  nodes c h n hn := by simp [(hc c h).1] at hn
  servers c h s hs := by simp [(hc c h).2.1] at hs
  own c h := (hc c h).2.2.2
  keys key := by simp only [ht, List.map_nil, List.not_mem_nil, false_iff]; aesop
  nodup := by simp [ht]
  records := by simp [ht]
  idle c h _ := ⟨(hc c h).1, (hc c h).2.1⟩
  stopped _ c h := (hc c h).2.2.1

/-- Nothing is tracked without a node. -/
theorem tracked_eq_nil (h : r.WF) (hn : ∀ c ∈ r.client, c.nodes = ∅) : r.tracked = [] := by
  apply List.eq_nil_of_map_eq_nil (f := Prod.fst)
  apply List.eq_nil_iff_forall_not_mem.mpr
  intro key hk
  obtain ⟨c, hc, n, hn', -⟩ := (h.keys key).mp hk
  simp [hn c hc] at hn'

theorem trackedNodes_eq_nil {p : Proxy} (h : p.registry.WF)
    (hn : ∀ c ∈ p.registry.client, c.nodes = ∅) : p.trackedNodes = [] := by
  simpa [Proxy.registry] using h.tracked_eq_nil hn

/-- A node the client inserts is tracked under its hex, after the others. -/
theorem addNode (h : r.WF) {ci : ClientIds} (hc : r.client = some ci) {id : Bytes}
    (hid : IsNodeId id) (hnew : id ∉ ci.nodes) (hrun : ci.running = true) :
    Registry.WF ⟨r.running, some { ci with nodes := insert id ci.nodes },
      r.tracked ++ [(hex id, id, seqid2idx (id.getLastD 0))]⟩ where
  nodes c hc' n hn := by
    obtain rfl := Option.mem_some_iff.mp hc'
    rcases Finset.mem_insert.mp hn with rfl | hn
    · exact hid
    · exact h.nodes ci (by simp [hc]) n hn
  servers c hc' := by obtain rfl := Option.mem_some_iff.mp hc'; exact h.servers ci (by simp [hc])
  own c hc' := by obtain rfl := Option.mem_some_iff.mp hc'; exact h.own ci (by simp [hc])
  keys key := by
    have hk := h.keys key
    simp only [hc, Option.mem_def, Option.some.injEq, exists_eq_left'] at hk
    simp only [List.map_append, List.map_cons, List.map_nil, List.mem_append, List.mem_singleton,
      hk, Option.mem_def, Option.some.injEq, exists_eq_left', Finset.mem_insert]
    constructor
    · rintro (⟨n, hn, rfl⟩ | rfl)
      · exact ⟨n, .inr hn, rfl⟩
      · exact ⟨id, .inl rfl, rfl⟩
    · rintro ⟨n, rfl | hn, rfl⟩
      · exact .inr rfl
      · exact .inl ⟨n, hn, rfl⟩
  nodup := by
    have hk := h.keys (hex id)
    simp only [hc, Option.mem_def, Option.some.injEq, exists_eq_left'] at hk
    rw [List.map_append, List.nodup_append]
    refine ⟨h.nodup, List.nodup_singleton _, ?_⟩
    intro key hk' hk''
    simp only [List.map_cons, List.map_nil, List.mem_singleton] at hk''
    subst hk''
    obtain ⟨n, hn, hnid⟩ := hk.mp hk'
    exact hnew (hex_injective hnid ▸ hn)
  records e he := by
    rcases List.mem_append.mp he with he | he
    · exact h.records e he
    · simp only [List.mem_singleton] at he; subst he; exact ⟨rfl, rfl⟩
  idle c hc' hr := by obtain rfl := Option.mem_some_iff.mp hc'; simp [hrun] at hr
  stopped hr c hc' := by
    obtain rfl := Option.mem_some_iff.mp hc'
    have := h.stopped hr ci (by simp [hc]); simp [hrun] at this

/-- A node the client removes is no longer tracked. -/
theorem removeNode (h : r.WF) {ci : ClientIds} (hc : r.client = some ci) (id : Bytes) :
    Registry.WF ⟨r.running, some { ci with nodes := ci.nodes.erase id }, remove r.tracked (hex id)⟩ where
  nodes c hc' n hn := by
    obtain rfl := Option.mem_some_iff.mp hc'
    exact h.nodes ci (by simp [hc]) n (Finset.mem_of_mem_erase hn)
  servers c hc' := by obtain rfl := Option.mem_some_iff.mp hc'; exact h.servers ci (by simp [hc])
  own c hc' := by obtain rfl := Option.mem_some_iff.mp hc'; exact h.own ci (by simp [hc])
  keys key := by
    have hk := h.keys key
    simp only [hc, Option.mem_def, Option.some.injEq, exists_eq_left'] at hk
    simp only [remove_keys, h.nodup.mem_erase_iff, hk, Option.mem_def, Option.some.injEq,
      exists_eq_left', Finset.mem_erase]
    constructor
    · rintro ⟨hne, n, hn, rfl⟩
      exact ⟨n, ⟨fun e => hne (e ▸ rfl), hn⟩, rfl⟩
    · rintro ⟨n, ⟨hne, hn⟩, rfl⟩
      exact ⟨fun e => hne (hex_injective e), n, hn, rfl⟩
  nodup := by rw [remove_keys]; exact h.nodup.erase _
  records e he := h.records e ((remove_sublist _ _).subset he)
  idle c hc' hr := by
    obtain rfl := Option.mem_some_iff.mp hc'
    obtain ⟨hn, hs⟩ := h.idle ci (by simp [hc]) hr
    simp [hn, hs]
  stopped hr c hc' := by
    obtain rfl := Option.mem_some_iff.mp hc'
    exact h.stopped hr ci (by simp [hc])

/-- A server the running client inserts. -/
theorem addServer (h : r.WF) {ci : ClientIds} (hc : r.client = some ci) {id : Bytes}
    (hid : IsServerId id) (hrun : ci.running = true) :
    Registry.WF ⟨r.running, some { ci with servers := insert id ci.servers }, r.tracked⟩ where
  nodes c hc' := by obtain rfl := Option.mem_some_iff.mp hc'; exact h.nodes ci (by simp [hc])
  servers c hc' s hs := by
    obtain rfl := Option.mem_some_iff.mp hc'
    rcases Finset.mem_insert.mp hs with rfl | hs
    · exact hid
    · exact h.servers ci (by simp [hc]) s hs
  own c hc' := by obtain rfl := Option.mem_some_iff.mp hc'; exact h.own ci (by simp [hc])
  keys key := by simpa [hc] using h.keys key
  nodup := h.nodup
  records := h.records
  idle c hc' hr := by obtain rfl := Option.mem_some_iff.mp hc'; simp [hrun] at hr
  stopped hr c hc' := by
    obtain rfl := Option.mem_some_iff.mp hc'
    have := h.stopped hr ci (by simp [hc]); simp [hrun] at this

/-- A server the client removes. -/
theorem removeServer (h : r.WF) {ci : ClientIds} (hc : r.client = some ci) (id : Bytes) :
    Registry.WF ⟨r.running, some { ci with servers := ci.servers.erase id }, r.tracked⟩ where
  nodes c hc' := by obtain rfl := Option.mem_some_iff.mp hc'; exact h.nodes ci (by simp [hc])
  servers c hc' s hs := by
    obtain rfl := Option.mem_some_iff.mp hc'
    exact h.servers ci (by simp [hc]) s (Finset.mem_of_mem_erase hs)
  own c hc' := by obtain rfl := Option.mem_some_iff.mp hc'; exact h.own ci (by simp [hc])
  keys key := by simpa [hc] using h.keys key
  nodup := h.nodup
  records := h.records
  idle c hc' hr := by
    obtain rfl := Option.mem_some_iff.mp hc'
    obtain ⟨hn, hs⟩ := h.idle ci (by simp [hc]) hr
    simp [hn, hs]
  stopped hr c hc' := by
    obtain rfl := Option.mem_some_iff.mp hc'
    exact h.stopped hr ci (by simp [hc])

end Registry.WF

/-- Removing a key commutes with a view that keeps keys. -/
theorem map_remove {α β γ : Type} [DecidableEq α] (f : α × β → α × γ) (hf : ∀ e, (f e).1 = e.1)
    (d : List (α × β)) (a : α) : (remove d a).map f = remove (d.map f) a := by
  induction d with
  | nil => rfl
  | cons e rest ih =>
    by_cases hk : e.1 = a
    · simp [remove, hk, hf]
    · simp only [List.map_cons, remove, hk, hf, if_false, ih]
      exact congrArg (· :: _) (Prod.ext (hf e) rfl)

namespace BlueSkyClient

theorem ids_onNodeAddedRequestData (c : BlueSkyClient) : c.onNodeAddedRequestData.ids = c.ids := by
  rw [onNodeAddedRequestData_eq]; rfl

/-- A new peer node is inserted, and `node_added` is emitted after any `actnode_changed` of
the auto-selection. -/
theorem announce_nodeUp_new {c : BlueSkyClient} {id : Bytes} (hin : id ∉ c.nodes)
    (hne : id ≠ c.nodeId) : ∃ l : List Signal,
      (c.announce (.nodeUp id)).1.ids = { c.ids with nodes := insert id c.nodes } ∧
      (c.announce (.nodeUp id)).2 = l ++ [.nodeAdded id] ∧ ∀ s ∈ l, ∃ a, s = .actnodeChanged a := by
  simp only [announce, hin, not_false_eq_true, if_true, ne_eq, hne, emitNodeAdded]
  split
  · exact ⟨_, by rw [ids_onNodeAddedRequestData, ids_actnode]; rfl, rfl, actnode_signals _ _⟩
  · exact ⟨[], by rw [ids_onNodeAddedRequestData]; rfl, rfl, by simp⟩

theorem announce_nodeDown (c : BlueSkyClient) (id : Bytes) :
    c.announce (.nodeDown id) =
      if id ∈ c.nodes then ({ c with nodes := c.nodes.erase id }, [.nodeRemoved id]) else (c, []) :=
  rfl

theorem announce_serverUp (c : BlueSkyClient) (id : Bytes) :
    c.announce (.serverUp id) =
      if id ∉ c.servers then ({ c with servers := insert id c.servers }, [.serverAdded id])
      else (c, []) :=
  rfl

theorem announce_serverDown (c : BlueSkyClient) (id : Bytes) :
    c.announce (.serverDown id) =
      if id ∈ c.servers then ({ c with servers := c.servers.erase id }, [.serverRemoved id])
      else (c, []) :=
  rfl

end BlueSkyClient

namespace Proxy

variable {p q : Proxy} {now : Int}

theorem runSlots_append (p : Proxy) (now : Int) (l₁ l₂ : List Signal) :
    p.runSlots now (l₁ ++ l₂) = (p.runSlots now l₁).runSlots now l₂ :=
  List.foldl_append ..

theorem runSlots_singleton (p : Proxy) (now : Int) (s : Signal) :
    p.runSlots now [s] = p.slot now s := rfl

theorem registry_onServerAdded (s : Bytes) : (p.onServerAdded s).registry = p.registry := by
  unfold onServerAdded
  dsimp only
  split_ifs <;> rfl

theorem registry_onServerRemoved (s : Bytes) : (p.onServerRemoved s).registry = p.registry := by
  unfold onServerRemoved
  split_ifs <;> rfl

/-- `_on_node_added` for an untracked node appends its record. -/
theorem registry_onNodeAdded {c : BlueSkyClient} {n : Bytes}
    (hk : hex n ∉ p.trackedNodes.map Prod.fst) (hc : p.client = some c) (hn : n ≠ []) :
    (p.onNodeAdded n now).registry =
      ⟨p.running, some c.ids, p.registry.tracked ++ [(hex n, n, seqid2idx (n.getLastD 0))]⟩ := by
  have hnone := (assocGet_eq_none_iff _ _).mpr hk
  obtain ⟨last, hl⟩ := Option.ne_none_iff_exists'.mp (mt List.getLast?_eq_none_iff.mp hn)
  have hlast : n.getLastD 0 = last := by rw [List.getLastD_eq_getLast?, hl]; rfl
  obtain ⟨ts, ps, hsa⟩ := p.onServerAdded_frame (ownerOf c.servers n)
  unfold onNodeAdded
  simp only [hnone, Option.isSome_none, Bool.false_eq_true, if_false, hc, hl, hlast, hsa]
  split_ifs <;>
    simp [registry, emitNodeInfo, emitConnectionStatus, broadcast, hc, upsert_of_not_mem _ hk,
      NodeRecord.view]

/-- `_on_node_removed` for a tracked node drops its record. -/
theorem registry_onNodeRemoved {n : Bytes} (hk : hex n ∈ p.trackedNodes.map Prod.fst) :
    (p.onNodeRemoved n).registry =
      ⟨p.running, p.client.map BlueSkyClient.ids, remove p.registry.tracked (hex n)⟩ := by
  have hsome : (assocGet p.trackedNodes (hex n)).isSome := by
    rw [Option.isSome_iff_ne_none]; exact mt (assocGet_eq_none_iff _ _).mp (not_not.mpr hk)
  unfold onNodeRemoved
  simp only [hsome, if_true]
  split_ifs <;>
    simp [registry, emitNodeInfo, broadcast, startTimer, map_remove NodeRecord.view (fun _ => rfl)]

theorem registry_keys (p : Proxy) : p.registry.tracked.map Prod.fst = p.trackedNodes.map Prod.fst := by
  simp only [registry, List.map_map]; rfl

end Proxy

open Proxy in
/-- A control frame read by a running client keeps the registry invariant: each slot
mirrors the change the frame made to the client. -/
theorem Registry.WF.controlMessage {p : Proxy} (h : p.registry.WF)
    (hrun : ∀ c ∈ p.registry.client, c.running = true) (now : Int) (f : Bytes) :
    (p.controlMessage now f).registry.WF := by
  unfold Proxy.controlMessage
  split
  · exact h
  rename_i c hc
  have hci : p.registry.client = some c.ids := by simp [registry, hc]
  have hrc : c.running = true := hrun c.ids (by simp [hci])
  have hsame : ({ p with client := some c }).registry = p.registry := by simp [registry, hc]
  rw [BlueSkyClient.processSubscriptionMessage_eq]
  dsimp only
  cases hA : announcement f with
  | nodeUp id =>
    by_cases hin : id ∈ c.nodes
    · simpa [BlueSkyClient.announce, hin, runSlots, hsame] using h
    have hid := announcement_nodeUp hA
    have hne : id ≠ c.nodeId := fun e => by
      have := h.own c.ids (by simp [hci]); simp [BlueSkyClient.ids, ← e, hid.2.1] at this
    have hk : hex id ∉ p.trackedNodes.map Prod.fst := fun hk => by
      rw [← registry_keys] at hk
      obtain ⟨c', hc', n, hn, he⟩ := (h.keys _).mp hk
      simp only [hci, Option.mem_def, Option.some.injEq] at hc'
      subst hc'
      exact hin (hex_injective he ▸ hn)
    obtain ⟨l, hids, hsig, hl⟩ := BlueSkyClient.announce_nodeUp_new hin hne
    have hpush := pushesOnly_runSlots ({ p with client := some (c.announce (.nodeUp id)).1 }) now hl
    have hk' : hex id ∉ (({ p with client := some (c.announce (.nodeUp id)).1 }).runSlots now
        l).trackedNodes.map Prod.fst := by rw [hpush.trackedNodes]; exact hk
    have hn : id ≠ [] := by rintro rfl; simp [idlen] at hid
    rw [hsig, runSlots_append, runSlots_singleton]
    simp only [slot]
    rw [registry_onNodeAdded hk' hpush.client hn, hpush.running, hpush.registry, hids]
    exact h.addNode hci hid hin hrc
  | nodeDown id =>
    rw [BlueSkyClient.announce_nodeDown]
    split_ifs with hin
    · rw [runSlots_singleton]
      simp only [slot]
      have hk : hex id ∈ ({ p with client := some { c with nodes := c.nodes.erase id } }).trackedNodes.map
          Prod.fst := by
        rw [← registry_keys]; exact (h.keys _).mpr ⟨c.ids, by simp [hci], id, hin, rfl⟩
      rw [registry_onNodeRemoved hk]
      exact h.removeNode hci id
    · simpa [runSlots, hsame] using h
  | serverUp id =>
    rw [BlueSkyClient.announce_serverUp]
    split_ifs
    · simpa [runSlots, hsame] using h
    · rw [runSlots_singleton]
      simp only [slot, registry_onServerAdded]
      exact h.addServer hci (announcement_serverUp hA) hrc
  | serverDown id =>
    rw [BlueSkyClient.announce_serverDown]
    split_ifs
    · rw [runSlots_singleton]
      simp only [slot, registry_onServerRemoved]
      exact h.removeServer hci id
    · simpa [runSlots, hsame] using h
  | ignored => simpa [BlueSkyClient.announce, runSlots, hsame] using h

namespace Registry.WF

open Proxy

variable {p : Proxy}

theorem of_registry {q : Proxy} (h : p.registry.WF) (he : q.registry = p.registry) :
    q.registry.WF :=
  he ▸ h

theorem fresh (t0 : Int) (socketio : Bool) (clients : Nat) (serverIp : String) :
    (Proxy.fresh t0 socketio clients serverIp).registry.WF :=
  of_closed rfl (by simp [Proxy.fresh, Proxy.init, registry])

/-- A connected client that has discovered nothing yet. -/
theorem connected {nid : Bytes} (hown : isPeerGroup nid = false) :
    Registry.WF ⟨true, some ⟨nid, ∅, ∅, true⟩, []⟩ where
  nodes c hc n hn := by obtain rfl := Option.mem_some_iff.mp hc; simp at hn
  servers c hc s hs := by obtain rfl := Option.mem_some_iff.mp hc; simp at hs
  own c hc := by obtain rfl := Option.mem_some_iff.mp hc; exact hown
  keys key := by simp
  nodup := List.nodup_nil
  records := by simp
  idle c hc hr := by obtain rfl := Option.mem_some_iff.mp hc; simp at hr
  stopped hr := by simp at hr

/-- A state whose client, if any, is a closed one of `p`'s, and which tracks nothing. -/
theorem of_closed_from {q : Proxy} (h : p.registry.WF) (ht : q.trackedNodes = [])
    (hq : ∀ c' ∈ q.client, ∃ c ∈ p.client, c'.nodeId = c.nodeId ∧ c'.nodes = ∅ ∧
      c'.servers = ∅ ∧ c'.running = false) : q.registry.WF := by
  refine of_closed (by simp [registry, ht]) fun ci hci => ?_
  obtain ⟨c', hc', rfl⟩ := Option.mem_map.mp hci
  obtain ⟨c, hc, h1, h2, h3, h4⟩ := hq c' hc'
  refine ⟨h2, h3, h4, ?_⟩
  show isPeerGroup c'.nodeId = false
  rw [h1]
  exact h.own c.ids (Option.mem_map_of_mem _ hc)

theorem close (h : p.registry.WF) (now : Int) : (p.close now).registry.WF :=
  of_closed_from h rfl fun c' hc' => by
    obtain ⟨c, hc, rfl⟩ := Option.mem_map.mp hc'
    exact ⟨c, hc, rfl, rfl, rfl, rfl⟩

theorem handleDisconnection (h : p.registry.WF) (now : Int) :
    (p.handleDisconnection now).registry.WF := by
  rw [handleDisconnection_eq]
  refine of_closed_from h rfl fun c' hc' => ?_
  obtain ⟨c₁, hc₁, rfl⟩ := Option.mem_map.mp hc'
  obtain ⟨c, hc, rfl⟩ := Option.mem_map.mp hc₁
  exact ⟨c, hc, rfl, rfl, rfl, rfl⟩

theorem stopClient (h : p.registry.WF) (now : Int) : (p.stopClient now).registry.WF := by
  obtain ⟨_, _, _, he⟩ := p.stopClient_eq now
  rw [he]
  exact of_closed_from h rfl fun c' hc' => by simp at hc'

/-- Before connecting, `start_client` holds a client that does not run, if any. -/
theorem prepareStart (h : p.registry.WF) (rnd : Nat → UInt8) (hostname : String) (now : Int) :
    (p.prepareStart rnd hostname now).registry.WF ∧
      ∀ c ∈ (p.prepareStart rnd hostname now).client, c.running = false := by
  unfold Proxy.prepareStart
  dsimp only
  generalize hq : (if p.client.isNone then { p with client := some (BlueSkyClient.new rnd) }
    else p) = q
  -- a client is created only when there is none, so it does not run
  have h₁ : q.registry.WF ∧ (q.running = false → ∀ c ∈ q.client, c.running = false) := by
    subst hq
    split_ifs with hn
    · have ht := h.tracked_eq_nil (by simp [registry, Option.isNone_iff_eq_none.mp hn])
      refine ⟨of_closed (by simpa [registry] using ht) fun ci hci => ?_, fun _ c hc => ?_⟩
      · simp only [registry, Option.map_some', Option.mem_def, Option.some.injEq] at hci
        subst hci
        exact ⟨rfl, rfl, rfl, isPeerGroup_clientNodeId rnd⟩
      · simp only [Option.mem_def, Option.some.injEq] at hc; subst hc; rfl
    · exact ⟨h, fun hr c hc => h.stopped hr c.ids (Option.mem_map_of_mem _ hc)⟩
  obtain ⟨hwf, hidle⟩ := h₁
  generalize hq' : (if q.running then q.stopClient now else q) = q'
  -- a running proxy is stopped, which drops its client
  have h₂ : q'.registry.WF ∧ ∀ c ∈ q'.client, c.running = false := by
    subst hq'
    split_ifs with hr
    · refine ⟨hwf.stopClient now, fun c hc => ?_⟩
      obtain ⟨_, _, _, he⟩ := q.stopClient_eq now
      rw [he] at hc; cases hc
    · exact ⟨hwf, hidle (by simpa using hr)⟩
  split_ifs <;> exact h₂

theorem connectStarted (h : p.registry.WF) (hidle : ∀ c ∈ p.client, c.running = false)
    (ok : Bool) (now : Int) : (p.connectStarted ok now).1.registry.WF := by
  unfold Proxy.connectStarted
  split
  · rename_i hc
    refine of_closed_from h (h.trackedNodes_eq_nil fun ci hci => ?_) fun c' hc' => ?_
    · simp [registry, hc] at hci
    · simp [startFailed, hc] at hc'
  rename_i c hc
  have hci : p.registry.client = some c.ids := by simp [registry, hc]
  obtain ⟨hn, hs⟩ := h.idle c.ids (by simp [hci]) (hidle c hc)
  have ht := h.trackedNodes_eq_nil fun ci hc' => by
    simp only [hci, Option.mem_def, Option.some.injEq] at hc'; subst hc'; exact hn
  cases ok with
  | false =>
    dsimp only
    rw [show c.connect false = (c.close, false) from rfl]
    refine of_closed_from h ht fun c' hc' => ?_
    obtain rfl := Option.mem_some_iff.mp hc'
    exact ⟨c, hc, rfl, rfl, rfl, rfl⟩
  | true =>
    obtain ⟨tt, F, hcon⟩ := c.connect_frame
    dsimp only
    rw [hcon, show (c.connect true).2 = true from rfl]
    simp only [Bool.not_true, Bool.false_eq_true, ↓reduceIte]
    rw [registry_startBackupTimer]
    have hids : ({ c with sockRecv := F, sockSend := true, poller := true, acttopics := tt,
                          connected := true, running := true } : BlueSkyClient).ids =
        ⟨c.nodeId, ∅, ∅, true⟩ := by
      rw [show c.nodes = ∅ from hn, show c.servers = ∅ from hs]; rfl
    simpa [startNetworkTimer, startTimer, registry, hids, ht] using
      connected (h.own c.ids (by simp [hci]))

theorem startClient (h : p.registry.WF) (rnd : Nat → UInt8) (hostname : String) (ok : Bool)
    (now : Int) : (p.startClient rnd hostname ok now).1.registry.WF :=
  let ⟨hwf, hidle⟩ := h.prepareStart rnd hostname now
  hwf.connectStarted hidle ok now

theorem reconnect (h : p.registry.WF) (rnd : Nat → UInt8) (hostname : String) (ok : Bool)
    (now : Int) : (p.reconnect rnd hostname ok now).1.registry.WF := by
  obtain ⟨_, _, _, he⟩ := p.stopClient_eq now
  refine Registry.WF.startClient (of_closed_from h rfl fun c' hc' => ?_) rnd hostname ok now
  rw [show ((p.stopClient now).clearState now).client = (p.stopClient now).client from rfl, he] at hc'
  cases hc'

theorem checkNodeShutdown (h : p.registry.WF) (now : Int) :
    (p.checkNodeShutdown now).registry.WF := by
  unfold Proxy.checkNodeShutdown
  split
  · exact h.handleDisconnection now
  · exact h

theorem timeoutCheck (h : p.registry.WF) (now : Int) : (p.timeoutCheck now).registry.WF := by
  unfold Proxy.timeoutCheck
  split
  · exact h.handleDisconnection now
  · exact h.of_registry (registry_reschedule p)

theorem afterPoll (h : p.registry.WF) (now : Int) : (p.afterPoll now).registry.WF := by
  unfold Proxy.afterPoll
  dsimp only
  split
  · refine Registry.WF.timeoutCheck ?_ now; exact h.of_registry rfl
  · split
    · refine Registry.WF.handleDisconnection ?_ now; exact h.of_registry rfl
    · refine Registry.WF.timeoutCheck ?_ now; exact h.of_registry rfl

/-- A poll: the data frame keeps the registries, and the control frame is read by a
running client. -/
theorem receive (h : p.registry.WF) (now : Int) (round : PollRound) :
    (p.receive now round).1.registry.WF := by
  unfold Proxy.receive
  split
  · rename_i c hc
    split
    · exact h
    rename_i hg
    have hrun : ∀ ci ∈ p.registry.client, ci.running = true := fun ci hci => by
      simp only [registry, hc, Option.map_some', Option.mem_def, Option.some.injEq] at hci
      subst hci
      exact (by simpa using hg : c.running = true ∧ c.poller = true).1
    obtain ⟨data, control, ending⟩ := round
    cases data with
    | none =>
      cases control with
      | none => exact h
      | some f => exact h.controlMessage hrun now f
    | some m =>
      have he := registry_dataMessage p now m
      cases control with
      | none => exact h.of_registry he
      | some f => exact (h.of_registry he).controlMessage (he ▸ hrun) now f
  · exact h

/-- The poll tick keeps the invariant on every path: a poll that raised is counted, a
silent connection is dropped, and the next tick is scheduled otherwise. -/
theorem networkTick (h : p.registry.WF) (now : Int) (round : PollRound) :
    (p.networkTick now round).registry.WF := by
  unfold Proxy.networkTick Proxy.update
  split
  · exact h
  split
  · rename_i r hr
    split at hr
    · split at hr <;> cases hr
      · exact h.afterPoll now
      · exact (h.receive now round).afterPoll now
    · cases hr
  · rename_i q hq
    split at hq
    · split at hq <;> cases hq
    · cases hq
      dsimp only
      split
      · refine Registry.WF.handleDisconnection ?_ now; exact h.of_registry rfl
      · exact h.of_registry (registry_reschedule _)

theorem fire (h : p.registry.WF) (id : Nat) (now : Int) (round : PollRound) :
    (p.fire id now round).registry.WF := by
  unfold Proxy.fire
  split
  · rename_i t _
    have hc : (p.cancelTimer id).registry.WF := h
    cases t.task with
    | networkTick => exact hc.networkTick now round
    | backupEmit => exact hc.of_registry (registry_backupDataEmit _)
    | shutdownCheck => exact hc.checkNodeShutdown now
  · exact h

/-- Every step keeps the registry invariant. -/
theorem step (h : p.registry.WF) (now : Int) (e : Event) : (p.step now e).registry.WF := by
  cases e with
  | startClient rnd hostname ok => exact h.startClient rnd hostname ok now
  | stopClient => exact h.stopClient now
  | reconnect rnd hostname ok => exact h.reconnect rnd hostname ok now
  | close => exact h.close now
  | registerSubscribers => exact h.of_registry (registry_registerSubscribers p)
  | fire id round => exact h.fire id now round
  | request r => exact h.of_registry (registry_request p now r)

end Registry.WF

/-- Every reachable state satisfies the registry invariant. -/
theorem Reachable.registry_wf {p : Proxy} (hp : Reachable p) : p.registry.WF := by
  induction hp with
  | fresh t0 socketio clients serverIp => exact Registry.WF.fresh t0 socketio clients serverIp
  | step now e _ ih => exact ih.step now e

/-- A control frame emits `node_added` exactly once for an identity it inserts into the
client's nodes and `node_removed` exactly once for one it removes, and neither otherwise. -/
theorem BlueSkyClient.processSubscriptionMessage_emissions (c : BlueSkyClient)
    (hown : isPeerGroup c.nodeId = false) (f n : Bytes) :
    (c.processSubscriptionMessage f).2.count (.nodeAdded n) =
        (if n ∉ c.nodes ∧ n ∈ (c.processSubscriptionMessage f).1.nodes then 1 else 0) ∧
      (c.processSubscriptionMessage f).2.count (.nodeRemoved n) =
        (if n ∈ c.nodes ∧ n ∉ (c.processSubscriptionMessage f).1.nodes then 1 else 0) := by
  rw [processSubscriptionMessage_eq]
  cases hA : announcement f with
  | nodeUp id =>
    by_cases hin : id ∈ c.nodes
    · simp [announce, hin]
    have hne : id ≠ c.nodeId := fun e => by simp [← e, (announcement_nodeUp hA).2.1] at hown
    obtain ⟨l, hids, hsig, hl⟩ := announce_nodeUp_new hin hne
    have hnodes : (c.announce (.nodeUp id)).1.nodes = insert id c.nodes := congrArg ClientIds.nodes hids
    have hcount : ∀ s : Signal, (∀ a, s ≠ .actnodeChanged a) → l.count s = 0 := fun s hs =>
      List.count_eq_zero.mpr fun hm => by obtain ⟨a, rfl⟩ := hl s hm; exact hs a rfl
    rw [hsig, hnodes, List.count_append, List.count_append, hcount _ (by simp),
      hcount _ (by simp)]
    by_cases hn : n = id
    · subst hn; simp [hin]
    · simp [hn, Ne.symm hn]
  | nodeDown id =>
    rw [announce_nodeDown]
    by_cases hin : id ∈ c.nodes
    · rw [if_pos hin]
      by_cases hn : n = id
      · subst hn; simp [hin]
      · simp [hn, Ne.symm hn]
    · rw [if_neg hin]; simp
  | serverUp id =>
    rw [announce_serverUp]
    by_cases hs : id ∈ c.servers
    · rw [if_neg (not_not.mpr hs)]; simp
    · rw [if_pos hs]; simp
  | serverDown id =>
    rw [announce_serverDown]
    by_cases hs : id ∈ c.servers
    · rw [if_pos hs]; simp
    · rw [if_neg hs]; simp
  | ignored => simp [announce]

theorem registry_mirrors_discovery {p : Proxy} (hp : Reachable p) :
    (∀ c ∈ p.client, (∀ n ∈ c.nodes, IsNodeId n) ∧ (∀ s ∈ c.servers, IsServerId s) ∧
      c.nodeId ∉ c.nodes ∧ c.nodeId ∉ c.servers) ∧
    (∀ key, key ∈ p.trackedNodes.map Prod.fst ↔ ∃ c ∈ p.client, ∃ n ∈ c.nodes, hex n = key) ∧
    (∀ c ∈ p.client, c.running = false → p.trackedNodes = []) ∧
    (∀ e ∈ p.trackedNodes, hex e.2.nodeId = e.1 ∧ e.2.nodeNum = seqid2idx (e.2.nodeId.getLastD 0)) ∧
    (∀ c ∈ p.client, ∀ f n : Bytes,
      (c.processSubscriptionMessage f).2.count (.nodeAdded n) =
          (if n ∉ c.nodes ∧ n ∈ (c.processSubscriptionMessage f).1.nodes then 1 else 0) ∧
        (c.processSubscriptionMessage f).2.count (.nodeRemoved n) =
          (if n ∈ c.nodes ∧ n ∉ (c.processSubscriptionMessage f).1.nodes then 1 else 0)) := by
  have h := hp.registry_wf
  have hmem : ∀ c ∈ p.client, c.ids ∈ p.registry.client := fun c hc => Option.mem_map_of_mem _ hc
  refine ⟨fun c hc => ?_, fun key => ?_, fun c hc hr => ?_, fun e he => ?_, fun c hc f n => ?_⟩
  · have hown : isPeerGroup c.nodeId = false := h.own c.ids (hmem c hc)
    refine ⟨h.nodes c.ids (hmem c hc), h.servers c.ids (hmem c hc), fun hn => ?_, fun hs => ?_⟩
    · exact absurd (h.nodes c.ids (hmem c hc) _ hn).2.1 (by rw [hown]; decide)
    · exact absurd (h.servers c.ids (hmem c hc) _ hs).2.1 (by rw [hown]; decide)
  · rw [← Proxy.registry_keys, h.keys]
    simp only [Proxy.registry, Option.mem_map]
    constructor
    · rintro ⟨_, ⟨c, hc, rfl⟩, n, hn, rfl⟩; exact ⟨c, hc, n, hn, rfl⟩
    · rintro ⟨c, hc, n, hn, rfl⟩; exact ⟨c.ids, ⟨c, hc, rfl⟩, n, hn, rfl⟩
  · exact h.trackedNodes_eq_nil fun ci hci => by
      obtain ⟨c', hc', rfl⟩ := Option.mem_map.mp hci
      obtain rfl := Option.mem_unique hc hc'
      exact (h.idle c.ids (hmem c hc) hr).1
  · exact h.records _ (List.mem_map_of_mem NodeRecord.view he)
  · exact c.processSubscriptionMessage_emissions (h.own c.ids (hmem c hc)) f n

/-- The registry laws in the state where a node has been discovered by the first poll
after start-up. -/
theorem registry_mirrors_discovery_after_discovery :
    let p := (Proxy.fresh 0 true 0 "localhost").run
      [(0, .startClient (fun _ => 65) "" true), (20, .fire 0 ⟨none, some [1, 83, 65, 65, 65, 129], .completed⟩)]
    (∀ c ∈ p.client, (∀ n ∈ c.nodes, IsNodeId n) ∧ (∀ s ∈ c.servers, IsServerId s) ∧
      c.nodeId ∉ c.nodes ∧ c.nodeId ∉ c.servers) ∧
    (∀ key, key ∈ p.trackedNodes.map Prod.fst ↔ ∃ c ∈ p.client, ∃ n ∈ c.nodes, hex n = key) ∧
    (∀ c ∈ p.client, c.running = false → p.trackedNodes = []) ∧
    (∀ e ∈ p.trackedNodes, hex e.2.nodeId = e.1 ∧ e.2.nodeNum = seqid2idx (e.2.nodeId.getLastD 0)) ∧
    (∀ c ∈ p.client, ∀ f n : Bytes,
      (c.processSubscriptionMessage f).2.count (.nodeAdded n) =
          (if n ∉ c.nodes ∧ n ∈ (c.processSubscriptionMessage f).1.nodes then 1 else 0) ∧
        (c.processSubscriptionMessage f).2.count (.nodeRemoved n) =
          (if n ∈ c.nodes ∧ n ∉ (c.processSubscriptionMessage f).1.nodes then 1 else 0)) :=
  registry_mirrors_discovery ((Reachable.fresh 0 true 0 "localhost").run _)

/-- The disconnect transition takes a discovered node out of the client's nodes through
`close()`, which emits no `node_removed`: the first poll after start-up discovers the node,
and a later `_handle_disconnection` leaves no node. -/
theorem disconnect_removes_nodes_without_node_removed :
    let p := (Proxy.fresh 0 true 0 "localhost").run
      [(0, .startClient (fun _ => 65) "" true), (20, .fire 0 ⟨none, some [1, 83, 65, 65, 65, 129], .completed⟩)]
    p.client.map (·.nodes) = some {[83, 65, 65, 65, 129]} ∧
      (p.handleDisconnection 40).client.map (·.nodes) = some ∅ := by
  decide

end WebATM
