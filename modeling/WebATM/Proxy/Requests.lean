import WebATM.Proxy.Poll

/-!
# Consumer requests

The Socket.IO handlers of `register_socket_handlers` and the proxy methods they call:
joining and leaving, a command line (`send_command`, the user stack and
`_forward_command`), selecting a node, listing nodes and asking a server for nodes. A
handler that raises leaves the state as far as it got; a handler's `emit` goes to the
requesting consumer only and is returned, not pushed.
-/

namespace WebATM

/-- A Socket.IO request of a consumer, with the data it sends. -/
inductive Request where
  /-- `connect`, where `admitted` is whether the session manager had room. -/
  | connect (admitted : Bool)
  | disconnect
  | command (data : Value)
  | setActiveNode (data : Value)
  | getNodes
  | addNodes (data : Value)

/-- `s.encode()`. -/
def utf8Encode (s : String) : Bytes := s.toList.flatMap String.utf8EncodeChar

/-- The destination `asbytestr` makes of a value: an `int` (a `bool` is one), a `str` or
`bytes`; `none` for a value on which `send` raises. -/
def Value.asTag : Value → Option Tag
  | .int i => if 0 ≤ i then some (.int i.toNat) else Option.none
  | .bool b => some (.int (if b then 1 else 0))
  | .str s => some (.str s)
  | .bin b => some (.bytes b)
  | _ => Option.none

namespace BlueSkyClient

/-- `stack.stack(cmdline)`: each `;`-separated part of the stripped line, stripped, with
no sender. -/
def stack (c : BlueSkyClient) (cmdline : String) : BlueSkyClient :=
  let cmdline := pyStrip cmdline
  if cmdline = "" then c
  else { c with cmdstack := c.cmdstack ++ (pySplitOn ';' cmdline).map fun l => (pyStrip l, none) }

/-- The node a command goes to: `act_id or server_id`. -/
def target (c : BlueSkyClient) : Bytes :=
  match c.actId with
  | some a => if a = [] then c.serverId else a
  | none => c.serverId

/-- `addnodes(count, server_id)`: `send("ADDNODES", {"count": count}, target)` to the
given server, else to the active node's server, else to the client's own. -/
def addnodes (c : BlueSkyClient) (count serverId : Value) : BlueSkyClient × Bool :=
  let dest := if serverId.truthy then serverId.asTag
    else some (.bytes (match c.actId with
      | some a => if a = [] then c.serverId else a.dropLast ++ (seqidx2id 0).getD []
      | none => c.serverId))
  match dest with
  | some t => c.send "ADDNODES" (.dict [(.str "count", count)]) t
  | none => (c, false)

end BlueSkyClient

namespace Proxy

/-- `_forward_command(cmdline)`: send it as `STACK` to `act_id or server_id`. -/
def forwardCommand (p : Proxy) (cmdline : String) (now : Int) : Proxy :=
  match p.client with
  | some c => { p with client := some (c.send "STACK" (.str cmdline) (.bytes c.target)).1 }
  | none => p.echoResponse "Error sending command: 'NoneType' object has no attribute 'act_id'" 1 now

/-- One line of `_process_stack_commands`: `HELP` and `?` are answered locally, every
other command is forwarded. -/
def stackCommand (p : Proxy) (now : Int) (cmdline : String) : Proxy :=
  match pySplit (pyStrip cmdline) with
  | [] => p
  | first :: rest =>
    let cmd := pyUpper first
    let argstring := " ".intercalate rest
    if cmd = "HELP" ∨ cmd = "?" then
      let r := executeLocalCommand cmd argstring
      let reply : Nat × String :=
        if r.1 then (0, r.2)
        else if argstring = "" then (0, if r.2 = "" then cmd ++ ": Command help text" else r.2)
        else (2, "Syntax error: " ++ if r.2 = "" then "Usage: " ++ cmd else r.2)
      if reply.2 = "" then p else p.echoResponse reply.2 reply.1 now
    else p.forwardCommand cmdline now

/-- `_process_stack_commands`: drain the client's stack, line by line. -/
def processStackCommands (p : Proxy) (now : Int) : Proxy :=
  match p.client with
  | some c =>
    if !c.running then p
    else
      let lines := c.cmdstack.map Prod.fst
      lines.foldl (fun p l => p.stackCommand now l) { p with client := some { c with cmdstack := [] } }
  | none => p

/-- `send_command(command)`: stack and process it while the client runs; `False`
otherwise, or when the command is not a string (`strip()` raises). -/
def sendCommand (p : Proxy) (command : Value) (now : Int) : Proxy × Bool :=
  match p.client, command with
  | some c, .str s =>
    if c.running then ({ p with client := some (c.stack s) }.processStackCommands now, true)
    else (p, false)
  | _, _ => (p, false)

/-- `NodeManager.actnode(node_id)` with the proxy's slots: `RuntimeError` without a
client. -/
def actnode (p : Proxy) (nodeId : Bytes) (now : Int) : Proxy :=
  match p.client with
  | some c =>
    let r := c.actnode nodeId
    { p with client := some r.1 }.runSlots now r.2
  | none => p

/-- `on_connect` at time `now`: count the consumer, answer with the current data and
push the active node's shapes. -/
def onConnect (p : Proxy) (admitted : Bool) (now : Int) : Proxy × List Push :=
  if !admitted then (p, [])
  else
    let p := { p with connectedClients := p.connectedClients + 1 }
    match p.getCurrentData now with
    | some d => (p.emitActiveNodePolyData, [⟨"initial_data", d⟩])
    | none => (p, [])

/-- `on_disconnect`: `max(0, connected_clients - 1)`. -/
def onDisconnect (p : Proxy) : Proxy :=
  { p with connectedClients := p.connectedClients - 1 }

/-- `on_command(data)` at time `now`; `data.get` raises on data that is not a
dictionary. -/
def onCommand (p : Proxy) (data : Value) (now : Int) : Proxy × List Push :=
  match data.get? "command" with
  | some command =>
    let command := command.getD (.str "")
    let r := p.sendCommand command now
    (r.1, [⟨"command_result", .dict [(.str "success", .bool r.2), (.str "command", command)]⟩])
  | none => (p, [])

/-- `on_set_active_node(data)` at time `now`: select the tracked node whose hex is given. -/
def onSetActiveNode (p : Proxy) (data : Value) (now : Int) : Proxy :=
  match data.get? "node_id" with
  | some (some (.str key)) =>
    if key = "" then p
    else
      match assocGet p.trackedNodes key with
      | some r => p.actnode r.nodeId now
      | none => p
  | _ => p

/-- `on_add_nodes(data)`: a string server identity is UTF-8 encoded; every error is
caught. -/
def onAddNodes (p : Proxy) (data : Value) : Proxy :=
  match data.get? "count", data.get? "server_id", p.client with
  | some count, some serverId, some c =>
    let serverId := match serverId.getD .none with
      | .str s => if s = "" then .str s else .bin (utf8Encode s)
      | v => v
    { p with client := some (c.addnodes (count.getD (.int 1)) serverId).1 }
  | _, _, _ => p

/-- A request handled at time `now`: the new state and the replies to the requester. -/
def request (p : Proxy) (now : Int) : Request → Proxy × List Push
  | .connect admitted => p.onConnect admitted now
  | .disconnect => (p.onDisconnect, [])
  | .command data => p.onCommand data now
  | .setActiveNode data => (p.onSetActiveNode data now, [])
  | .getNodes => (p.emitNodeInfo, [])
  | .addNodes data => (p.onAddNodes data, [])

end Proxy

end WebATM
