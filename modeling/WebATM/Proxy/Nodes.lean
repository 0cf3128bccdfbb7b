import WebATM.Proxy.State

/-!
# The node manager

`NodeManager` turns the client's discovery signals into the proxy's registries: a node
record keyed by the hex of its identity, with the server it belongs to, and the servers
seen. It also decides the node whose data consumers see (`_get_safe_active_node`) and
pushes the node directory and the active node's shapes.
-/

namespace WebATM

/-- `len(x)`; `none` is the `TypeError` of a value without a length. -/
def pyLen : Value → Option Nat
  | .str s => some s.length
  | .bin b => some b.length
  | .list items => some items.length
  | .dict entries => some entries.length
  | _ => none

/-- `{"polys": {}}`. -/
def emptyShapes : Value := .dict [(.str "polys", .emptyDict)]

/-- A node's entry in the `node_info` push: the record with its identities decoded by
`safe_decode`, and the server identity also in hex and as `str(bytes)`. -/
def nodeInfoEntry (r : NodeRecord) : Value :=
  .dict [(.str "node_id", .str (safeDecode r.nodeId)), (.str "node_id_str", .str r.nodeIdStr),
    (.str "node_num", .int r.nodeNum), (.str "server_id", .str (safeDecode r.serverId)),
    (.str "status", r.status), (.str "time", .str r.time),
    (.str "server_id_hex", .str (hex r.serverId)), (.str "server_id_raw", .str (bytesRepr r.serverId))]

/-- The server directory keyed by `safe_decode` of each identity. -/
def serverDirectory (servers : List Bytes) (entry : Bytes → Value) : List (Key × Value) :=
  servers.foldl (fun d s => dictSet d (.str (safeDecode s)) (entry s)) []

namespace Proxy

/-- `_get_safe_active_node`: the hex of `act_id` when the proxy is running, connected and
tracking nodes, and `act_id` is set and tracked. -/
def getSafeActiveNode (p : Proxy) : Option String :=
  if !p.running || !p.wasConnected || p.trackedNodes.isEmpty then none
  else
    match p.client.bind (·.actId) with
    | some a => if a ≠ [] ∧ (assocGet p.trackedNodes (hex a)).isSome then some (hex a) else none
    | none => none

/-- The `node_info` payload in the current state. -/
def nodeInfo (p : Proxy) : Value :=
  .dict [(.str "nodes", .dict (p.trackedNodes.map fun e => (.str e.1, nodeInfoEntry e.2))),
    (.str "servers", .dict (serverDirectory p.trackedServers fun s =>
      .dict [(.str "server_id", .str (safeDecode s))])),
    (.str "active_node", (p.getSafeActiveNode.map Value.str).getD .none),
    (.str "total_nodes", .int p.trackedNodes.length)]

/-- `_emit_node_info`. -/
def emitNodeInfo (p : Proxy) : Proxy := p.broadcast "node_info" p.nodeInfo

/-- `_emit_connection_status(connected)` at time `now`. -/
def emitConnectionStatus (p : Proxy) (connected : Bool) (now : Int) : Proxy :=
  p.broadcast "connection_status"
    (.dict [(.str "connected", .bool connected), (.str "server_ip", .str p.serverIp),
      (.str "timestamp", .float (.finite ((now : ℚ) / 1000)))])

/-- One half of `_emit_active_node_poly_data`: the active node's stored shapes of one
kind, or `{}` to clear the map when it has none. `none` when reading the stored value
raises, which ends the whole method. -/
def emitActiveShapes (p : Proxy) (event : String) (store : List (String × Value)) :
    Option Proxy :=
  match p.getSafeActiveNode.bind (assocGet store) with
  | some d =>
    match d.get? "polys" with
    | some polys =>
      if (pyLen (polys.getD .emptyDict)).isSome then
        some (p.broadcast event d)
      else none
    | none => none
  | none => some (p.broadcast event .emptyDict)

/-- `_emit_active_node_poly_data`: the polygons, then the polylines. -/
def emitActiveNodePolyData (p : Proxy) : Proxy :=
  match p.emitActiveShapes "poly" p.polyDataByNode with
  | some p' => (p'.emitActiveShapes "polyline" p'.polylineDataByNode).getD p'
  | none => p

/-- `_on_actnode_changed`. -/
def onActnodeChanged (p : Proxy) : Proxy :=
  if p.running then p.emitNodeInfo.emitActiveNodePolyData else p

/-- `_on_server_added`. -/
def onServerAdded (p : Proxy) (serverId : Bytes) : Proxy :=
  if serverId ∉ p.trackedServers then
    let p := { p with trackedServers := p.trackedServers ++ [serverId] }
    if p.running then p.emitNodeInfo else p
  else p

/-- The server a new node is filed under: its own server `node_id[:-1] + seqidx2id(0)`
when the client knows that server, and `b"0"` otherwise. -/
def ownerOf (servers : Finset Bytes) (nodeId : Bytes) : Bytes :=
  if nodeId.dropLast ++ [128] ∈ servers then nodeId.dropLast ++ [128] else [48]

/-- `_on_node_added` at time `now`: file an untracked node under its server (tracking the
server first if needed), mark the proxy connected at its first node, and push the
directory. -/
def onNodeAdded (p : Proxy) (nodeId : Bytes) (now : Int) : Proxy :=
  let key := hex nodeId
  if (assocGet p.trackedNodes key).isSome then p
  else
    match p.client with
    | none => p
    | some c =>
      let serverId := ownerOf c.servers nodeId
      let p := if serverId ∉ p.trackedServers then p.onServerAdded serverId else p
      match nodeId.getLast? with
      | none => p
      | some last =>
        let record : NodeRecord := ⟨nodeId, key, seqid2idx last, serverId, .str "init", "00:00:00"⟩
        let p := { p with trackedNodes := upsert p.trackedNodes key record }
        let p := if !p.wasConnected && !p.trackedNodes.isEmpty then
            { p with wasConnected := true }.emitConnectionStatus true now
          else p
        if p.running then p.emitNodeInfo else p

/-- `_on_node_removed`: forget a tracked node; when none is left while connected and
running, start the one-second grace check. -/
def onNodeRemoved (p : Proxy) (nodeId : Bytes) : Proxy :=
  let key := hex nodeId
  let p := if (assocGet p.trackedNodes key).isSome then
      { p with trackedNodes := remove p.trackedNodes key }.emitNodeInfo
    else p
  if p.trackedNodes.isEmpty && p.wasConnected && p.running then (p.startTimer .shutdownCheck).1
  else p

/-- `_on_server_removed`. -/
def onServerRemoved (p : Proxy) (serverId : Bytes) : Proxy :=
  if serverId ∈ p.trackedServers then
    { p with trackedServers := p.trackedServers.erase serverId }.emitNodeInfo
  else p

end Proxy

end WebATM
