import WebATM.Wire.Value
import Mathlib.Data.Finset.Basic

/-!
# The protocol client's state

`BlueSkyClient` owns the two sockets, the discovered nodes and servers, the active node
and the registry of active-only topic bindings. Signals are returned by the operations
that emit them: the client runs its own slots (`actnode`, the data request) itself, and
the proxy runs the slots it connected afterwards, in the order `BlueSkySignal.emit`
calls them.
-/

namespace WebATM

/-- A topic handler installed by `register_subscribers`, by its function name. -/
inductive Callback where
  | onSiminfoReceived
  | onAcdataReceived
  | onRoutedataReceived
  | echo
  | onStackcmdsReceived
  | onStackReceived
  | onPolyReceived
  | onResetReceived
  | onRequestReceived
  | onPlotReceived
  | onShowdialogReceived
  | onSimsettingsReceived
  | onTrailsReceived
  | onDefwptReceived
  deriving DecidableEq, Repr

/-- One emission of a `BlueSkySignal` of the client, with its argument. -/
inductive Signal where
  | nodeAdded (id : Bytes)
  | nodeRemoved (id : Bytes)
  | serverAdded (id : Bytes)
  | serverRemoved (id : Bytes)
  | actnodeChanged (id : Bytes)
  deriving DecidableEq, Repr

/-- `BlueSkyContext`: the ambient dispatch context that shared-state frames set and the
handlers read. `action` starts as `None`. -/
structure BlueSkyContext where
  action : Value
  senderId : Option Bytes

/-- A frame written to the XPUB socket: `[header, msgpack.packb(data)]`. -/
structure Frame where
  header : Bytes
  payload : Value

/-- `BlueSkyClient`, with the fields its methods read or write. -/
structure BlueSkyClient where
  /-- `node_id`, from `genid(GROUPID_CLIENT)`. -/
  nodeId : Bytes
  /-- `server_id = node_id[:-1] + seqidx2id(0)`. -/
  serverId : Bytes
  /-- `act_id`, the active node. -/
  actId : Option Bytes
  connected : Bool
  running : Bool
  /-- `sock_recv`: absent, or the SUB socket given by the multiset of its filters. -/
  sockRecv : Option (Multiset Bytes)
  /-- Whether `sock_send` is open. -/
  sockSend : Bool
  /-- Whether `poller` exists. -/
  poller : Bool
  nodes : Finset Bytes
  servers : Finset Bytes
  /-- `acttopics`: topic to the destination groups bound to the active node. -/
  acttopics : List (String × List Tag)
  /-- Whether `actnode` is still a slot of `node_added` (auto-selection). -/
  autoSelect : Bool
  /-- `subscriber.subscribers`, flattened: each `(topic, callback)` in registration order. -/
  subscribers : List (String × Callback)
  /-- `stack.cmdstack`: pending command lines with their sender. -/
  cmdstack : List (String × Option Bytes)
  context : BlueSkyContext
  /-- Frames written to `sock_send`, oldest first. -/
  sent : List Frame

/-- The identity `BlueSkyClient()` generates, for the bytes the random source yields. -/
def clientNodeId (rnd : Nat → UInt8) : Bytes := (genid rnd (.int groupidClient) 1).getD []

/-- `BlueSkyClient.__init__`: a closed client whose `node_added` signal has `actnode` as
its first slot. -/
def BlueSkyClient.new (rnd : Nat → UInt8) : BlueSkyClient where
  nodeId := clientNodeId rnd
  serverId := (clientNodeId rnd).dropLast ++ (seqidx2id 0).getD []
  actId := none
  connected := false
  running := false
  sockRecv := none
  sockSend := false
  poller := false
  nodes := ∅
  servers := ∅
  acttopics := []
  autoSelect := true
  subscribers := []
  cmdstack := []
  context := ⟨.none, none⟩
  sent := []

/-- The client's identity is the group byte `C`, three filler bytes and the sequence
byte of index 1. -/
theorem clientNodeId_eq (rnd : Nat → UInt8) :
    clientNodeId rnd = [67] ++ randomPadding rnd 3 ++ [129] := rfl

end WebATM
