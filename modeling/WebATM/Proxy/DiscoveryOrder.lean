import WebATM.Proxy.Registry

/-!
# Discovery depends on the order of arrival

`_on_node_added` files a new node under its own server `node_id[:-1] + seqidx2id(0)` only
when the client has already seen that server; otherwise under `b"0"`, which it then tracks
as a server. Delivering the subscribe frames of distinct peers to a freshly started proxy
therefore yields a registry that depends on their order: this file computes it exactly,
as a function of the order.
-/

namespace WebATM

open scoped List

instance : DecidablePred IsNodeId := fun n => inferInstanceAs (Decidable (_ ∧ _ ∧ _))

instance : DecidablePred IsServerId := fun s => inferInstanceAs (Decidable (_ ∧ _ ∧ _))

/-- The identity of a node's own server, `node_id[:-1] + seqidx2id(0)`. -/
def owningServer (n : Bytes) : Bytes := n.dropLast ++ [128]

theorem ownerOf_eq (servers : Finset Bytes) (n : Bytes) :
    Proxy.ownerOf servers n = if owningServer n ∈ servers then owningServer n else [48] := rfl

/-- The server a node of the arrival order `ids` is filed under: its own, when that
server arrived before it. -/
def filedServer (ids : List Bytes) (n : Bytes) : Bytes :=
  if [owningServer n, n] <+ ids then owningServer n else [48]

/-- The record `_on_node_added` makes for a node of the arrival order `ids`. -/
def announcedRecord (ids : List Bytes) (n : Bytes) : NodeRecord :=
  ⟨n, hex n, seqid2idx (n.getLastD 0), filedServer ids n, .str "init", "00:00:00"⟩

/-- An owning server is never a node. -/
theorem not_isNodeId_owningServer (n : Bytes) : ¬IsNodeId (owningServer n) := by
  simp [IsNodeId, owningServer, seqid2idx]

theorem IsServerId.not_isNodeId {s : Bytes} (h : IsServerId s) : ¬IsNodeId s := fun h' => by
  have := h'.2.2; rw [h.2.2] at this; exact lt_irrefl 0 this

/-- `insert` on a list of servers, as `_on_server_added` does it. -/
theorem mem_insertIfAbsent {l : List Bytes} {a s : Bytes} :
    s ∈ (if a ∈ l then l else l ++ [a]) ↔ s ∈ l ∨ s = a := by
  split_ifs with h
  · exact ⟨.inl, fun h' => h'.elim id fun he => he ▸ h⟩
  · simp

/-- The subscribe frame of a peer node announces it. -/
theorem announcement_subscribe_node {n : Bytes} (h : IsNodeId n) :
    announcement ((1 : UInt8) :: n) = .nodeUp n := by
  obtain ⟨hl, hg, hi⟩ := h
  rw [List.getLastD_eq_getLast?] at hi
  simp [announcement, hl, hg, hi, msgSubscribe]

theorem announcement_subscribe_server {s : Bytes} (h : IsServerId s) :
    announcement ((1 : UInt8) :: s) = .serverUp s := by
  obtain ⟨hl, hg, hi⟩ := h
  rw [List.getLastD_eq_getLast?] at hi
  simp [announcement, hl, hg, hi, msgSubscribe]

section Arrival

variable {pre : List Bytes} {o n x : Bytes}

/-- `o` arrived before `n` in `pre ++ [x]`: before it in `pre`, or `n` is the last arrival
and `o` is among the earlier ones. -/
theorem pair_sublist_append : [o, n] <+ pre ++ [x] ↔ [o, n] <+ pre ∨ (n = x ∧ o ∈ pre) := by
  constructor
  · intro h
    obtain ⟨l₁, l₂, he, h₁, h₂⟩ := List.sublist_append_iff.mp h
    match l₁, l₂, he with
    | [], _, rfl => exact absurd h₂.length_le (by simp)
    | [_], [_], rfl =>
      exact .inr ⟨List.mem_singleton.mp (List.singleton_sublist.mp h₂), List.singleton_sublist.mp h₁⟩
    | [_, _], [], rfl => exact .inl h₁
  · rintro (h | ⟨rfl, h⟩)
    · exact h.trans (List.sublist_append_left pre [x])
    · exact (List.singleton_sublist.mpr h).append (List.Sublist.refl [n])

theorem filedServer_append_of_mem (hx : x ∉ pre) (hn : n ∈ pre) :
    filedServer (pre ++ [x]) n = filedServer pre n := by
  have hne : n ≠ x := fun h => hx (h ▸ hn)
  simp only [filedServer, pair_sublist_append, hne, false_and, or_false]

theorem filedServer_append_self (hx : x ∉ pre) :
    filedServer (pre ++ [x]) x = if owningServer x ∈ pre then owningServer x else [48] := by
  have hnot : ¬[owningServer x, x] <+ pre := fun h => hx (h.subset (by simp))
  simp only [filedServer, pair_sublist_append, hnot, true_and, false_or]

/-- The servers the nodes of `pre ++ [x]` are filed under: those of `pre`'s nodes, and
`x`'s own if it is a node. -/
theorem exists_filed_append (hx : x ∉ pre) (s : Bytes) :
    (∃ n ∈ pre ++ [x], IsNodeId n ∧ filedServer (pre ++ [x]) n = s) ↔
      (∃ n ∈ pre, IsNodeId n ∧ filedServer pre n = s) ∨
        (IsNodeId x ∧ filedServer (pre ++ [x]) x = s) := by
  constructor
  · rintro ⟨n, hn, hnn, hf⟩
    rcases List.mem_append.mp hn with hn | hn
    · exact .inl ⟨n, hn, hnn, filedServer_append_of_mem hx hn ▸ hf⟩
    · obtain rfl := List.mem_singleton.mp hn
      exact .inr ⟨hnn, hf⟩
  · rintro (⟨n, hn, hnn, hf⟩ | ⟨hnn, hf⟩)
    · exact ⟨n, List.mem_append_left _ hn, hnn, (filedServer_append_of_mem hx hn).trans hf⟩
    · exact ⟨x, List.mem_append_right _ (List.mem_singleton_self x), hnn, hf⟩

/-- An arrival that is not a `P` adds no `P` to the arrivals. -/
theorem mem_append_and_of_not {P : Bytes → Prop} (hx : ¬P x) (n : Bytes) :
    (n ∈ pre ++ [x] ∧ P n) ↔ (n ∈ pre ∧ P n) := by
  simp only [List.mem_append, List.mem_singleton]
  constructor
  · rintro ⟨hn | rfl, h⟩
    · exact ⟨hn, h⟩
    · exact absurd h hx
  · rintro ⟨hn, h⟩
    exact ⟨.inl hn, h⟩

end Arrival

namespace Proxy

variable (p : Proxy) (now : Int)

/-- `_on_server_added` appends a server it does not track. -/
theorem onServerAdded_eq (s : Bytes) : ∃ pushes, p.onServerAdded s =
    if s ∈ p.trackedServers then p
    else { p with trackedServers := p.trackedServers ++ [s], pushes := pushes } := by
  unfold onServerAdded
  by_cases hs : s ∈ p.trackedServers
  · exact ⟨[], by simp [hs]⟩
  · simp only [hs, not_false_eq_true, if_true, if_false]
    split
    · exact ⟨_, rfl⟩
    · exact ⟨_, rfl⟩

/-- `_on_node_added` for an untracked node appends its record, filed under `ownerOf`, and
tracks that server if needed. -/
theorem onNodeAdded_new {c : BlueSkyClient} {n : Bytes}
    (hk : hex n ∉ p.trackedNodes.map Prod.fst) (hc : p.client = some c) (hn : n ≠ []) :
    (p.onNodeAdded n now).client = some c ∧
    (p.onNodeAdded n now).trackedNodes = p.trackedNodes ++
      [(hex n, ⟨n, hex n, seqid2idx (n.getLastD 0), ownerOf c.servers n, .str "init", "00:00:00"⟩)] ∧
    (p.onNodeAdded n now).trackedServers =
      if ownerOf c.servers n ∈ p.trackedServers then p.trackedServers
      else p.trackedServers ++ [ownerOf c.servers n] := by
  have hnone := (assocGet_eq_none_iff _ _).mpr hk
  obtain ⟨last, hl⟩ := Option.ne_none_iff_exists'.mp (mt List.getLast?_eq_none_iff.mp hn)
  have hlast : n.getLastD 0 = last := by rw [List.getLastD_eq_getLast?, hl]; rfl
  obtain ⟨pushes, hadd⟩ := p.onServerAdded_eq (ownerOf c.servers n)
  unfold onNodeAdded
  simp only [hnone, Option.isSome_none, Bool.false_eq_true, if_false, hc, hl, hlast]
  by_cases hs : ownerOf c.servers n ∈ p.trackedServers
  · simp only [hs, not_true_eq_false, if_false, if_true, upsert_of_not_mem _ hk]
    split_ifs <;> exact ⟨hc, rfl, rfl⟩
  · simp only [hs, not_false_eq_true, if_true, if_false, hadd, upsert_of_not_mem _ hk]
    split_ifs <;> exact ⟨hc, rfl, rfl⟩

/-- A successful connection of `start_client` keeps the registries. -/
theorem connectStarted_ok {q : Proxy} {c : BlueSkyClient} (hc : q.client = some c) :
    (q.connectStarted true now).1.client = some (c.connect true).1 ∧
      (q.connectStarted true now).1.trackedNodes = q.trackedNodes ∧
      (q.connectStarted true now).1.trackedServers = q.trackedServers := by
  simp only [connectStarted, hc, show (c.connect true).2 = true from rfl, Bool.not_true,
    Bool.false_eq_true, if_false]
  unfold startBackupTimer
  split <;> exact ⟨rfl, rfl, rfl⟩

theorem controlMessage_of_client {c : BlueSkyClient} (hc : p.client = some c) (f : Bytes) :
    p.controlMessage now f =
      { p with client := some (c.processSubscriptionMessage f).1 }.runSlots now
        (c.processSubscriptionMessage f).2 := by
  simp only [controlMessage, hc]

end Proxy

/-- What the subscribe frames of the distinct peers `ids`, in this order, leave in a
started proxy. -/
structure Discovered (ids : List Bytes) (p : Proxy) : Prop where
  /-- The client has seen exactly the announced nodes and servers. -/
  client : ∃ c ∈ p.client, isPeerGroup c.nodeId = false ∧
    (∀ n, n ∈ c.nodes ↔ n ∈ ids ∧ IsNodeId n) ∧ (∀ s, s ∈ c.servers ↔ s ∈ ids ∧ IsServerId s)
  /-- The nodes, in arrival order, each filed as its arrival allowed. -/
  trackedNodes :
    p.trackedNodes = (ids.filter fun n => decide (IsNodeId n)).map fun n => (hex n, announcedRecord ids n)
  trackedServers_nodup : p.trackedServers.Nodup
  /-- The announced servers, and the servers the nodes are filed under. -/
  trackedServers : ∀ s, s ∈ p.trackedServers ↔
    (s ∈ ids ∧ IsServerId s) ∨ ∃ n ∈ ids, IsNodeId n ∧ filedServer ids n = s

namespace Discovered

variable {ids : List Bytes} {p : Proxy} {x : Bytes} (now : Int)

/-- The key of a node that has not arrived is not tracked. -/
theorem hex_not_mem (h : Discovered ids p) (hx : x ∉ ids) :
    hex x ∉ p.trackedNodes.map Prod.fst := by
  rw [h.trackedNodes]
  simp only [List.map_map, List.mem_map, List.mem_filter, Function.comp, not_exists, not_and]
  intro n hn he
  exact hx (hex_injective he ▸ hn.1)

/-- The records of the earlier nodes do not change when `x` arrives. -/
theorem records_append (hx : x ∉ ids) :
    (ids.filter fun n => decide (IsNodeId n)).map (fun n => (hex n, announcedRecord (ids ++ [x]) n)) =
      (ids.filter fun n => decide (IsNodeId n)).map fun n => (hex n, announcedRecord ids n) := by
  refine List.map_congr_left fun n hn => ?_
  rw [announcedRecord, announcedRecord, filedServer_append_of_mem hx (List.mem_filter.mp hn).1]

/-- A server's subscribe frame tracks the server. -/
theorem server (h : Discovered ids p) (hx : x ∉ ids) (hs : IsServerId x) :
    Discovered (ids ++ [x]) (p.controlMessage now (1 :: x)) := by
  obtain ⟨c, hc, hown, hnodes, hservers⟩ := h.client
  have hc' : p.client = some c := hc
  have hin : x ∉ c.servers := fun h' => hx ((hservers x).mp h').1
  have hts : x ∉ p.trackedServers := fun h' => by
    rcases (h.trackedServers x).mp h' with ⟨h'', -⟩ | ⟨n, hn, -, hf⟩
    · exact hx h''
    · unfold filedServer at hf
      split_ifs at hf with hsub
      · exact hx (hf ▸ hsub.subset (List.mem_cons_self _ _))
      · exact absurd (hf ▸ hs.1) (by decide)
  rw [Proxy.controlMessage_of_client p now hc', BlueSkyClient.processSubscriptionMessage_eq,
    announcement_subscribe_server hs, BlueSkyClient.announce_serverUp, if_pos hin,
    Proxy.runSlots_singleton]
  obtain ⟨pushes, hadd⟩ := Proxy.onServerAdded_eq
    { p with client := some { c with servers := insert x c.servers } } x
  simp only [Proxy.slot, hadd]
  rw [if_neg hts]
  refine ⟨⟨_, rfl, hown, fun n => ?_, fun s => ?_⟩, ?_, ?_, fun s => ?_⟩
  · rw [hnodes, mem_append_and_of_not hs.not_isNodeId]
  · simp only [Finset.mem_insert, hservers, List.mem_append, List.mem_singleton]
    constructor
    · rintro (rfl | ⟨h₁, h₂⟩)
      · exact ⟨.inr rfl, hs⟩
      · exact ⟨.inl h₁, h₂⟩
    · rintro ⟨h₁ | rfl, h₂⟩
      · exact .inr ⟨h₁, h₂⟩
      · exact .inl rfl
  · show p.trackedNodes = _
    rw [h.trackedNodes, List.filter_append, List.map_append, records_append hx]
    simp [hs.not_isNodeId]
  · exact h.trackedServers_nodup.append (List.nodup_singleton x) (by simpa using hts)
  · show s ∈ p.trackedServers ++ [x] ↔ _
    rw [List.mem_append, h.trackedServers, List.mem_singleton, exists_filed_append hx]
    simp only [List.mem_append, List.mem_singleton, hs.not_isNodeId, false_and, or_false]
    constructor
    · rintro ((⟨h₁, h₂⟩ | h₁) | rfl)
      · exact .inl ⟨.inl h₁, h₂⟩
      · exact .inr h₁
      · exact .inl ⟨.inr rfl, hs⟩
    · rintro (⟨h₁ | rfl, h₂⟩ | h₁)
      · exact .inl (.inl ⟨h₁, h₂⟩)
      · exact .inr rfl
      · exact .inl (.inr h₁)

/-- A node's subscribe frame tracks the node, filed under its own server when that
arrived before it and under `b"0"` otherwise, and tracks that server. -/
theorem node (h : Discovered ids p) (hid : ∀ n ∈ ids, IsNodeId n ∨ IsServerId n) (hx : x ∉ ids)
    (hn : IsNodeId x) : Discovered (ids ++ [x]) (p.controlMessage now (1 :: x)) := by
  obtain ⟨c, hc, hown, hnodes, hservers⟩ := h.client
  have hc' : p.client = some c := hc
  have hin : x ∉ c.nodes := fun h' => hx ((hnodes x).mp h').1
  have hne : x ≠ c.nodeId := fun he => by have := hn.2.1; rw [he, hown] at this; cases this
  obtain ⟨l, hids, hsig, hl⟩ := BlueSkyClient.announce_nodeUp_new hin hne
  rw [Proxy.controlMessage_of_client p now hc', BlueSkyClient.processSubscriptionMessage_eq,
    announcement_subscribe_node hn, hsig, Proxy.runSlots_append, Proxy.runSlots_singleton]
  generalize hc₁ : (c.announce (.nodeUp x)).1 = c₁ at hids
  have hp := Proxy.pushesOnly_runSlots { p with client := some c₁ } now hl
  generalize hp₁ : Proxy.runSlots { p with client := some c₁ } now l = p₁ at hp
  have hservers₁ : c₁.servers = c.servers := congrArg ClientIds.servers hids
  have hnodes₁ : c₁.nodes = insert x c.nodes := congrArg ClientIds.nodes hids
  have hnid₁ : c₁.nodeId = c.nodeId := congrArg ClientIds.nodeId hids
  have hts₁ : p₁.trackedServers = p.trackedServers := by rw [hp]
  have hk : hex x ∉ p₁.trackedNodes.map Prod.fst := by rw [hp.trackedNodes]; exact h.hex_not_mem hx
  have howner : Proxy.ownerOf c₁.servers x = filedServer (ids ++ [x]) x := by
    rw [ownerOf_eq, hservers₁, filedServer_append_self hx]
    congr 1
    refine propext ⟨fun h' => ((hservers _).mp h').1, fun h' => (hservers _).mpr ⟨h', ?_⟩⟩
    exact (hid _ h').resolve_left (not_isNodeId_owningServer x)
  obtain ⟨hcl, htn, hts⟩ := p₁.onNodeAdded_new now hk hp.client
    (List.ne_nil_of_length_pos (by rw [hn.1]; decide))
  simp only [Proxy.slot]
  refine ⟨⟨c₁, hcl, hnid₁ ▸ hown, fun n => ?_, fun s => ?_⟩, ?_, ?_, fun s => ?_⟩
  · rw [hnodes₁, Finset.mem_insert, hnodes, List.mem_append, List.mem_singleton]
    constructor
    · rintro (rfl | ⟨h₁, h₂⟩)
      · exact ⟨.inr rfl, hn⟩
      · exact ⟨.inl h₁, h₂⟩
    · rintro ⟨h₁ | rfl, h₂⟩
      · exact .inr ⟨h₁, h₂⟩
      · exact .inl rfl
  · rw [hservers₁, hservers, mem_append_and_of_not (fun h' => h'.not_isNodeId hn)]
  · rw [htn, hp.trackedNodes, h.trackedNodes, List.filter_append, List.map_append,
      records_append hx, howner]
    simp [hn, announcedRecord]
  · rw [hts, howner, hts₁]
    split_ifs with hmem
    · exact h.trackedServers_nodup
    · exact h.trackedServers_nodup.append (List.nodup_singleton _) (by simpa using hmem)
  · rw [hts, howner, hts₁, mem_insertIfAbsent, h.trackedServers, exists_filed_append hx,
      mem_append_and_of_not (fun h' => h'.not_isNodeId hn)]
    simp only [hn, true_and, or_assoc]
    exact or_congr_right (or_congr_right eq_comm)

/-- `start_client` on a fresh proxy, with the sockets opening, has discovered nothing. -/
theorem started (t0 : Int) (socketio : Bool) (clients : Nat) (serverIp : String)
    (rnd : Nat → UInt8) (hostname : String) :
    Discovered [] ((Proxy.fresh t0 socketio clients serverIp).startClient rnd hostname true t0).1 := by
  have hpre : ((Proxy.fresh t0 socketio clients serverIp).prepareStart rnd hostname t0).client =
        some (BlueSkyClient.new rnd) ∧
      ((Proxy.fresh t0 socketio clients serverIp).prepareStart rnd hostname t0).trackedNodes = [] ∧
      ((Proxy.fresh t0 socketio clients serverIp).prepareStart rnd hostname t0).trackedServers = [] := by
    unfold Proxy.prepareStart
    dsimp only
    split_ifs <;> first | exact ⟨rfl, rfl, rfl⟩ | simp_all [Proxy.fresh, Proxy.init]
  obtain ⟨hc, htn, hts⟩ := hpre
  obtain ⟨hcl, htn', hts'⟩ := Proxy.connectStarted_ok t0 hc
  obtain ⟨tt, F, hcon⟩ := (BlueSkyClient.new rnd).connect_frame
  rw [hcon] at hcl
  refine ⟨⟨_, hcl, isPeerGroup_clientNodeId rnd, fun n => ?_, fun s => ?_⟩, ?_, ?_, fun s => ?_⟩
  · simp [BlueSkyClient.new]
  · simp [BlueSkyClient.new]
  · exact htn'.trans htn
  · rw [Proxy.startClient, hts', hts]; exact List.nodup_nil
  · rw [Proxy.startClient, hts', hts]; simp

/-- Delivering the subscribe frames of distinct peers one after another. -/
theorem deliver (h : Discovered [] p) (ids : List Bytes) (hnd : ids.Nodup)
    (hid : ∀ n ∈ ids, IsNodeId n ∨ IsServerId n) :
    Discovered ids (ids.foldl (fun p id => p.controlMessage now (1 :: id)) p) := by
  induction ids using List.reverseRecOn with
  | nil => exact h
  | append_singleton pre x ih =>
    have hx : x ∉ pre := fun h' => (List.nodup_append.mp hnd).2.2 h' (List.mem_singleton_self x)
    have hid' : ∀ n ∈ pre, IsNodeId n ∨ IsServerId n := fun n hn => hid n (List.mem_append_left _ hn)
    have hpre := ih (List.nodup_append.mp hnd).1 hid'
    rw [List.foldl_append, List.foldl_cons, List.foldl_nil]
    rcases hid x (List.mem_append_right _ (List.mem_singleton_self x)) with hn | hs
    · exact hpre.node now hid' hx hn
    · exact hpre.server now hx hs

end Discovered

/-- **Discovery files nodes by arrival order.** Delivering the subscribe frames of distinct
peers (group `S` or `N`) to a freshly started proxy, in the order `ids`, tracks exactly the
announced nodes, in arrival order, each filed under its own server when that server
arrived before it and under `b"0"` otherwise; and it tracks, once each, the announced
servers and the servers the nodes are filed under. -/
theorem discovery_files_by_arrival (t0 : Int) (socketio : Bool) (clients : Nat)
    (serverIp : String) (rnd : Nat → UInt8) (hostname : String) (now : Int) (ids : List Bytes)
    (hnd : ids.Nodup) (hid : ∀ n ∈ ids, IsNodeId n ∨ IsServerId n) :
    let q := ids.foldl (fun p id => p.controlMessage now (1 :: id))
      ((Proxy.fresh t0 socketio clients serverIp).startClient rnd hostname true t0).1
    q.trackedNodes =
        (ids.filter fun n => decide (IsNodeId n)).map (fun n => (hex n, announcedRecord ids n)) ∧
      q.trackedServers.Nodup ∧
      ∀ s, s ∈ q.trackedServers ↔
        (s ∈ ids ∧ IsServerId s) ∨ ∃ n ∈ ids, IsNodeId n ∧ filedServer ids n = s :=
  have h := (Discovered.started t0 socketio clients serverIp rnd hostname).deliver now ids hnd hid
  ⟨h.trackedNodes, h.trackedServers_nodup, h.trackedServers⟩

/-- A node and its own server, the node first. -/
theorem discovery_files_by_arrival_node_first :
    let q := [[83, 65, 65, 65, 129], [83, 65, 65, 65, 128]].foldl
      (fun p id => p.controlMessage 10 (1 :: id))
      ((Proxy.fresh 0 true 0 "localhost").startClient (fun _ => 65) "" true 0).1
    q.trackedNodes = ([[83, 65, 65, 65, 129], [83, 65, 65, 65, 128]].filter fun n =>
        decide (IsNodeId n)).map
        (fun n => (hex n, announcedRecord [[83, 65, 65, 65, 129], [83, 65, 65, 65, 128]] n)) ∧
      q.trackedServers.Nodup ∧
      ∀ s, s ∈ q.trackedServers ↔ (s ∈ [[83, 65, 65, 65, 129], [83, 65, 65, 65, 128]] ∧
          IsServerId s) ∨
        ∃ n ∈ [[83, 65, 65, 65, 129], [83, 65, 65, 65, 128]], IsNodeId n ∧
          filedServer [[83, 65, 65, 65, 129], [83, 65, 65, 65, 128]] n = s :=
  discovery_files_by_arrival 0 true 0 "localhost" (fun _ => 65) "" 10 _ (by decide) (by decide)

/-- The same node and server in the two orders: the server first files the node under it;
the node first files it under `b"0"` and tracks `b"0"` as a server. -/
theorem discovery_order_changes_registry :
    let start := ((Proxy.fresh 0 true 0 "localhost").startClient (fun _ => 65) "" true 0).1
    let serverFirst := [[83, 65, 65, 65, 128], [83, 65, 65, 65, 129]].foldl
      (fun p id => p.controlMessage 10 (1 :: id)) start
    let nodeFirst := [[83, 65, 65, 65, 129], [83, 65, 65, 65, 128]].foldl
      (fun p id => p.controlMessage 10 (1 :: id)) start
    serverFirst.trackedNodes.map (·.2.serverId) = [[83, 65, 65, 65, 128]] ∧
      serverFirst.trackedServers = [[83, 65, 65, 65, 128]] ∧
      nodeFirst.trackedNodes.map (·.2.serverId) = [[48]] ∧
      nodeFirst.trackedServers = [[48], [83, 65, 65, 65, 128]] := by
  decide

end WebATM
