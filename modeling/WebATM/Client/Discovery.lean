import WebATM.Client.Subscription

/-!
# Discovery and the client's lifecycle

The XPUB socket reports every subscription a peer makes as a control frame of
`IDLEN + 1` bytes: an action byte and the peer's identity. `_process_subscription_message`
classifies the identity as a node or a server and emits the discovery signals. This file
also models `send`, `connect` and `close`, and the client-level steps of a connected
client.
-/

namespace WebATM

/-- `to_group or ""`: a falsy destination is replaced by the empty string. -/
def Tag.orEmpty : Tag → Tag
  | .int 0 => .str ""
  | .str "" => .str ""
  | .bytes [] => .str ""
  | t => t

namespace BlueSkyClient

/-- `send(topic, data, to_group)`: the header `to_group.ljust(IDLEN, b"*") + topic +
node_id` and the packed payload, written to `sock_send`; `False` when the client is not
running or a conversion fails. -/
def send (c : BlueSkyClient) (topic : String) (data : Value) (toGroup : Tag) :
    BlueSkyClient × Bool :=
  if !c.running || !c.sockSend then (c, false)
  else
    match asbytestr (.str topic), asbytestr toGroup.orEmpty with
    | some btopic, some btoGroup =>
      ({ c with sent := c.sent ++ [⟨ljust btoGroup idlen wildcard ++ btopic ++ c.nodeId, data⟩] },
        true)
    | _, _ => (c, false)

/-- `on_node_added_request_data`: `send("REQUEST", ["POLY", "STACKCMDS"])`, twice. -/
def onNodeAddedRequestData (c : BlueSkyClient) : BlueSkyClient :=
  let topics := Value.list [.str "POLY", .str "STACKCMDS"]
  ((c.send "REQUEST" topics (.str "")).1.send "REQUEST" topics (.str "")).1

/-- `node_added.emit(id)` as far as the client's own slots go: `actnode` while it is still
connected, then `on_node_added_request_data`. The returned signals are listed in the
order in which the proxy's slots for them run: `actnode_changed` during `actnode`, then
`node_added` after the client's slots. -/
def emitNodeAdded (c : BlueSkyClient) (id : Bytes) : BlueSkyClient × List Signal :=
  let r := if c.autoSelect then c.actnode id else (c, [])
  (r.1.onNodeAddedRequestData, r.2 ++ [.nodeAdded id])

end BlueSkyClient

/-- Whether an identity's group byte is `GROUPID_SIM` or `GROUPID_NOGROUP`. -/
def isPeerGroup (id : Bytes) : Bool :=
  (id.headD 0).toNat == groupidSim || (id.headD 0).toNat == groupidNogroup

namespace BlueSkyClient

/-- `_process_subscription_message(msg)`: for a control frame of `IDLEN + 1` bytes from a
peer group, a subscription adds a node (index > 0) or a server (index 0) and an
unsubscription removes it; each change emits its signal. -/
def processSubscriptionMessage (c : BlueSkyClient) (msg : Bytes) : BlueSkyClient × List Signal :=
  match msg with
  | [] => (c, [])
  | action :: senderId =>
    if msg.length ≠ idlen + 1 ∨ !isPeerGroup senderId then (c, [])
    else
      let sequenceIdx := seqid2idx (senderId.getLastD 0)
      if action.toNat = msgSubscribe then
        if 0 < sequenceIdx then
          if senderId ∉ c.nodes then
            let c := { c with nodes := insert senderId c.nodes }
            if senderId ≠ c.nodeId then c.emitNodeAdded senderId else (c, [])
          else (c, [])
        else if sequenceIdx = 0 then
          if senderId ∉ c.servers then
            ({ c with servers := insert senderId c.servers }, [.serverAdded senderId])
          else (c, [])
        else (c, [])
      else if action.toNat = msgUnsubscribe then
        if 0 < sequenceIdx then
          if senderId ∈ c.nodes then
            ({ c with nodes := c.nodes.erase senderId }, [.nodeRemoved senderId])
          else (c, [])
        else if sequenceIdx = 0 then
          if senderId ∈ c.servers then
            ({ c with servers := c.servers.erase senderId }, [.serverRemoved senderId])
          else (c, [])
        else (c, [])
      else (c, [])

end BlueSkyClient

/-- The discovery event a control frame announces. -/
inductive Announcement where
  | nodeUp (id : Bytes)
  | nodeDown (id : Bytes)
  | serverUp (id : Bytes)
  | serverDown (id : Bytes)
  | ignored

/-- The classification `_process_subscription_message` applies to a control frame: its
length, the peer's group byte, the action byte and the sign of the sequence index. -/
def announcement : Bytes → Announcement
  | [] => .ignored
  | action :: senderId =>
    if senderId.length + 1 ≠ idlen + 1 ∨ !isPeerGroup senderId then .ignored
    else
      let sequenceIdx := seqid2idx (senderId.getLastD 0)
      if action.toNat = msgSubscribe then
        if 0 < sequenceIdx then .nodeUp senderId
        else if sequenceIdx = 0 then .serverUp senderId else .ignored
      else if action.toNat = msgUnsubscribe then
        if 0 < sequenceIdx then .nodeDown senderId
        else if sequenceIdx = 0 then .serverDown senderId else .ignored
      else .ignored

/-- What an announcement classified as a node or server change names: a peer's identity of
`IDLEN` bytes whose last byte gives a positive index for a node and index zero for a server. -/
theorem announcement_names (msg : Bytes) :
    match announcement msg with
    | .nodeUp id | .nodeDown id =>
      id.length = idlen ∧ isPeerGroup id = true ∧ 0 < seqid2idx (id.getLastD 0)
    | .serverUp id | .serverDown id =>
      id.length = idlen ∧ isPeerGroup id = true ∧ seqid2idx (id.getLastD 0) = 0
    | .ignored => True := by
  cases msg with
  | nil => trivial
  | cons action senderId =>
    simp only [announcement]
    split_ifs with hg <;> try trivial
    all_goals
      simp only [not_or, Bool.not_eq_true', Bool.not_eq_false] at hg
      exact ⟨by simpa using hg.1, hg.2, by assumption⟩

theorem announcement_nodeUp {msg id : Bytes} (h : announcement msg = .nodeUp id) :
    id.length = idlen ∧ isPeerGroup id = true ∧ 0 < seqid2idx (id.getLastD 0) := by
  have h' := announcement_names msg
  rwa [h] at h'

theorem announcement_nodeDown {msg id : Bytes} (h : announcement msg = .nodeDown id) :
    id.length = idlen ∧ isPeerGroup id = true ∧ 0 < seqid2idx (id.getLastD 0) := by
  have h' := announcement_names msg
  rwa [h] at h'

theorem announcement_serverUp {msg id : Bytes} (h : announcement msg = .serverUp id) :
    id.length = idlen ∧ isPeerGroup id = true ∧ seqid2idx (id.getLastD 0) = 0 := by
  have h' := announcement_names msg
  rwa [h] at h'

theorem announcement_serverDown {msg id : Bytes} (h : announcement msg = .serverDown id) :
    id.length = idlen ∧ isPeerGroup id = true ∧ seqid2idx (id.getLastD 0) = 0 := by
  have h' := announcement_names msg
  rwa [h] at h'

/-- The client's own identity is from the client group, never a peer's. -/
theorem isPeerGroup_clientNodeId (rnd : Nat → UInt8) : isPeerGroup (clientNodeId rnd) = false :=
  rfl

namespace BlueSkyClient

/-- The change and signals one announcement makes. -/
def announce (c : BlueSkyClient) : Announcement → BlueSkyClient × List Signal
  | .nodeUp id =>
    if id ∉ c.nodes then
      let c := { c with nodes := insert id c.nodes }
      if id ≠ c.nodeId then c.emitNodeAdded id else (c, [])
    else (c, [])
  | .serverUp id =>
    if id ∉ c.servers then ({ c with servers := insert id c.servers }, [.serverAdded id])
    else (c, [])
  | .nodeDown id =>
    if id ∈ c.nodes then ({ c with nodes := c.nodes.erase id }, [.nodeRemoved id]) else (c, [])
  | .serverDown id =>
    if id ∈ c.servers then ({ c with servers := c.servers.erase id }, [.serverRemoved id])
    else (c, [])
  | .ignored => (c, [])

/-- `_process_subscription_message` is the classification followed by its change. -/
theorem processSubscriptionMessage_eq (c : BlueSkyClient) (msg : Bytes) :
    c.processSubscriptionMessage msg = c.announce (announcement msg) := by
  cases msg with
  | nil => rfl
  | cons action senderId =>
    -- `announce` distributes over the classification's branches, each of which is its change
    simp only [processSubscriptionMessage, announcement, List.length_cons, apply_ite c.announce]
    rfl

/-- A send changes nothing but the frames written. -/
theorem send_fst (c : BlueSkyClient) (topic : String) (data : Value) (toGroup : Tag) :
    (c.send topic data toGroup).1 = { c with sent := (c.send topic data toGroup).1.sent } := by
  unfold send
  split_ifs
  · rfl
  · split <;> rfl

/-- The data request changes nothing but the frames written. -/
theorem onNodeAddedRequestData_eq (c : BlueSkyClient) :
    c.onNodeAddedRequestData = { c with sent := c.onNodeAddedRequestData.sent } := by
  unfold onNodeAddedRequestData
  rw [send_fst, send_fst c]

@[simp] theorem onNodeAddedRequestData_nodes (c : BlueSkyClient) :
    c.onNodeAddedRequestData.nodes = c.nodes := by rw [onNodeAddedRequestData_eq]

@[simp] theorem onNodeAddedRequestData_actId (c : BlueSkyClient) :
    c.onNodeAddedRequestData.actId = c.actId := by rw [onNodeAddedRequestData_eq]

@[simp] theorem onNodeAddedRequestData_autoSelect (c : BlueSkyClient) :
    c.onNodeAddedRequestData.autoSelect = c.autoSelect := by rw [onNodeAddedRequestData_eq]

@[simp] theorem onNodeAddedRequestData_nodeId (c : BlueSkyClient) :
    c.onNodeAddedRequestData.nodeId = c.nodeId := by rw [onNodeAddedRequestData_eq]

/-- `close()`: release the sockets and the poller, and clear the nodes, servers, bindings
and active node. The subscriber registry and the signal slots stay. -/
def close (c : BlueSkyClient) : BlueSkyClient :=
  { c with running := false, connected := false, sockRecv := none, sockSend := false,
           poller := false, nodes := ∅, servers := ∅, acttopics := [], actId := none }

/-- `connect()`: open both sockets and announce this client with
`_subscribe("", "", node_id)`. `ok = false` is a transport error while opening, after
which `close()` runs and `False` is returned. -/
def connect (c : BlueSkyClient) (ok : Bool) : BlueSkyClient × Bool :=
  if ok then
    let c := { c with sockRecv := some 0, sockSend := true, poller := true }
    ({ c.netSubscribe "" (.str "") (.bytes c.nodeId) false with connected := true, running := true },
      true)
  else (c.close, false)

/-- A successful `connect()` opens the sockets and changes, besides, only the registry and
the filters. -/
theorem connect_frame (c : BlueSkyClient) : ∃ tt F, (c.connect true).1 =
    { c with sockRecv := F, sockSend := true, poller := true, acttopics := tt, connected := true,
             running := true } := by
  obtain ⟨tt, F, h⟩ := netSubscribe_frame
    { c with sockRecv := some 0, sockSend := true, poller := true } "" (.str "") (.bytes c.nodeId) false
  exact ⟨tt, F, by simp only [connect, if_true]; rw [h]⟩

end BlueSkyClient

/-- A step on a connected client: `subscribe(topic, callback, actonly)`, a control frame
read from the XPUB socket, or a call `actnode(id)`. -/
inductive ClientOp where
  | subscribe (topic : String) (cb : Callback) (actonly : Bool)
  | control (frame : Bytes)
  | actnode (id : Bytes)

namespace BlueSkyClient

/-- The effect of one step, with the signals it emits. -/
def perform (c : BlueSkyClient) : ClientOp → BlueSkyClient × List Signal
  | .subscribe topic cb actonly => (c.subscribe topic cb actonly, [])
  | .control frame => c.processSubscriptionMessage frame
  | .actnode id => c.actnode id

/-- The client after a sequence of steps. -/
def run (c : BlueSkyClient) (ops : List ClientOp) : BlueSkyClient :=
  ops.foldl (fun c op => (c.perform op).1) c

/-- A fresh client connected to the cluster, as `start_client` makes it. -/
def opened (rnd : Nat → UInt8) : BlueSkyClient := ((new rnd).connect true).1

end BlueSkyClient

end WebATM
