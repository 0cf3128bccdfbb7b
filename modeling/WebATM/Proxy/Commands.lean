import WebATM.Proxy.Wiring
import WebATM.Proxy.Snapshot
import Mathlib.Data.List.DropRight

/-!
# Commands

A consumer's command line is stacked by `BlueSkyStack.stack`, cut at every `;` with each
piece stripped, and drained at once by `_process_stack_commands`: a piece without tokens is
skipped, `HELP` and `?` are answered by a local echo, and every other piece is forwarded
upstream as a `STACK` frame to `act_id or server_id` by `_forward_command`, which does not
look at what `send` returns. This file gives the drain a closed form over the pieces, and
derives from it what a consumer's command does in a reachable state, when the send socket
is unusable, and after the active node has left. It ends with the `STACK` frames the
cluster sends to the proxy.
-/

namespace WebATM

/-- The pieces of a command line: `s.strip().split(";")`, each stripped. -/
def commandSegments (s : String) : List String := (pySplitOn ';' (pyStrip s)).map pyStrip

/-- What becomes of one piece of a command line. -/
inductive Routing where
  /-- A piece without tokens has no effect. -/
  | skip
  /-- `HELP` and `?` are answered by an echo of this text with flags `0`. -/
  | help (text : String)
  /-- Any other piece is forwarded upstream as it is. -/
  | forward
  deriving DecidableEq

/-- The text of a help answer. -/
def Routing.text? : Routing → Option String
  | .help text => some text
  | _ => none

/-- The routing of a piece, by its first token upper-cased. -/
def routing (seg : String) : Routing :=
  match pySplit seg with
  | [] => .skip
  | first :: rest =>
    if pyUpper first = "HELP" ∨ pyUpper first = "?" then
      .help (executeLocalCommand (pyUpper first) (" ".intercalate rest)).2
    else .forward

/-- The pieces of a command line that are forwarded, in order. -/
def forwardedLines (s : String) : List String := (commandSegments s).filter (routing · = .forward)

/-- The texts of the echoes that answer a command line's help pieces, in order. -/
def helpTexts (s : String) : List String := (commandSegments s).filterMap fun seg => (routing seg).text?

/-- The echo `_echo_response(text, flags)` records and pushes at time `now`. -/
def echoValue (text : String) (flags : Int) (now : Int) : Value :=
  .dict [(.str "text", .str text), (.str "flags", .int flags), (.str "timestamp", timestamp now)]

/-- The `STACK` frame that forwards a line to `act_id or server_id`. -/
def BlueSkyClient.stackFrame (c : BlueSkyClient) (line : String) : Frame :=
  ⟨ljust c.target idlen wildcard ++ asciiBytes "STACK" ++ c.nodeId, .str line⟩

/-- The proxy once its client `c` has written `frames` and the help `texts` have been
echoed with flags `0`, in order; nothing else changes. -/
def Proxy.routed (p : Proxy) (c : BlueSkyClient) (frames : List Frame) (texts : List String)
    (now : Int) : Proxy :=
  { p with client := some { c with sent := c.sent ++ frames },
           echoData := (texts.getLast?.map fun t => echoValue t 0 now).getD p.echoData,
           pushes := p.pushes ++
             if p.socketio ∧ 0 < p.connectedClients then texts.map fun t => ⟨"echo", echoValue t 0 now⟩
             else [] }

/-- `strip()` leaves a stripped text as it is. -/
theorem pyStrip_pyStrip (s : String) : pyStrip (pyStrip s) = pyStrip s := by
  have hr : ∀ l : List Char, (l.reverse.dropWhile pyIsSpace).reverse = l.rdropWhile pyIsSpace :=
    fun _ => rfl
  show String.mk _ = String.mk _
  simp only [pyStrip, hr]
  congr 1
  generalize hA : s.toList.dropWhile pyIsSpace = A
  have hA' : A.dropWhile pyIsSpace = A := hA ▸ List.dropWhile_idempotent _ _
  -- the stripped text is a prefix of `A`, so it starts with `A`'s first, non-space, character
  have hB : (A.rdropWhile pyIsSpace).dropWhile pyIsSpace = A.rdropWhile pyIsSpace := by
    have hpre := List.rdropWhile_prefix pyIsSpace A
    refine List.dropWhile_eq_self_iff.mpr fun hl => ?_
    rw [List.get_eq_getElem, hpre.getElem hl]
    exact List.dropWhile_eq_self_iff.mp hA' (Nat.lt_of_lt_of_le hl hpre.length_le)
  change List.rdropWhile pyIsSpace (List.dropWhile pyIsSpace (List.rdropWhile pyIsSpace A)) = _
  rw [hB, List.rdropWhile_idempotent]

/-- The frames a client has written do not change where its commands go. -/
@[simp] theorem BlueSkyClient.stackFrame_sent (c : BlueSkyClient) (l : List Frame) :
    ({ c with sent := l } : BlueSkyClient).stackFrame = c.stackFrame := rfl

theorem asbytestr_orEmpty_bytes (b : Bytes) : asbytestr (Tag.bytes b).orEmpty = some b := by
  cases b <;> rfl

namespace Proxy

variable {p q : Proxy} {c : BlueSkyClient} (now : Int)

theorem echoResponse_eq (text : String) (flags : Int) :
    p.echoResponse text flags now =
      { p with echoData := echoValue text flags now }.broadcast "echo" (echoValue text flags now) :=
  rfl

theorem routed_nil (hc : p.client = some c) : p.routed c [] [] now = p := by
  cases p; simp only [Option.some.injEq] at hc; subst hc; simp [routed]

/-- Routing twice is routing the frames and texts of both, in order. -/
theorem routed_routed (frames₁ frames₂ : List Frame) (texts₁ texts₂ : List String) :
    (p.routed c frames₁ texts₁ now).routed { c with sent := c.sent ++ frames₁ } frames₂ texts₂ now =
      p.routed c (frames₁ ++ frames₂) (texts₁ ++ texts₂) now := by
  simp only [routed, List.append_assoc, List.getLast?_append, List.map_append]
  congr 1
  · cases texts₂.getLast? <;> rfl
  · split_ifs <;> simp

/-- An echo with flags `0` is a route without frames. -/
theorem echoResponse_eq_routed (hc : p.client = some c) (text : String) :
    p.echoResponse text ((0 : Nat) : Int) now = p.routed c [] [text] now := by
  cases p; simp only [Option.some.injEq] at hc; subst hc
  simp only [echoResponse, broadcast, routed, List.append_nil]
  split_ifs <;> simp [echoValue]

/-- One piece of a drained command line, for a running client. -/
theorem stackCommand_eq (hc : q.client = some c) (hrun : c.running = true) {seg : String}
    (hseg : pyStrip seg = seg) :
    q.stackCommand now seg =
      q.routed c (if c.sockSend ∧ routing seg = .forward then [c.stackFrame seg] else [])
        (routing seg).text?.toList now := by
  unfold stackCommand
  rw [hseg]
  cases hs : pySplit seg with
  | nil =>
    have hr : routing seg = .skip := by rw [routing, hs]
    simp [hr, Routing.text?, routed_nil now hc]
  | cons first rest =>
    dsimp only
    by_cases hh : pyUpper first = "HELP" ∨ pyUpper first = "?"
    · -- a help command is answered locally, with a text that is never empty
      have hr : routing seg = .help (executeLocalCommand (pyUpper first) (" ".intercalate rest)).2 := by
        simp only [routing, hs, if_pos hh]
      have hok : (executeLocalCommand (pyUpper first) (" ".intercalate rest)).1 = true := by
        unfold executeLocalCommand; rw [if_pos hh]; split_ifs <;> rfl
      have hne : (executeLocalCommand (pyUpper first) (" ".intercalate rest)).2 ≠ "" := by
        unfold executeLocalCommand; rw [if_pos hh]
        split_ifs
        · decide
        · intro h
          have hlen := congrArg String.length h
          have h9 : "Help for ".length = 9 := by decide
          have h0 : "".length = 0 := rfl
          simp only [String.length_append, h9, h0] at hlen
          omega
      simp only [if_pos hh, hok, if_true, if_neg hne, hr, Routing.text?, Option.toList_some,
        reduceCtorEq, and_false, if_false, echoResponse_eq_routed now hc]
    · have hr : routing seg = .forward := by simp only [routing, hs, if_neg hh]
      simp only [if_neg hh, hr, and_true, Routing.text?, Option.toList_none, forwardCommand, hc]
      cases hsock : c.sockSend
      · rw [show c.send "STACK" (.str seg) (.bytes c.target) = (c, false) by
          simp [BlueSkyClient.send, hsock]]
        simp only [Bool.false_eq_true, if_false, routed_nil now hc]
        rw [← hc]
      · rw [BlueSkyClient.send_of_open hrun hsock
          (show asbytestr (.str "STACK") = some (asciiBytes "STACK") from
            charmapEncode_of_ascii (by decide)) (asbytestr_orEmpty_bytes c.target)]
        simp [routed, BlueSkyClient.stackFrame]

/-- The drain of a stack of stripped pieces, for a running client: its frames and its help
echoes, each in the order of the pieces. -/
theorem foldl_stackCommand (segs : List String) (hsegs : ∀ seg ∈ segs, pyStrip seg = seg) :
    ∀ (q : Proxy) (c : BlueSkyClient), q.client = some c → c.running = true →
      segs.foldl (fun q l => q.stackCommand now l) q =
        q.routed c (if c.sockSend then (segs.filter (routing · = .forward)).map c.stackFrame else [])
          (segs.filterMap fun seg => (routing seg).text?) now := by
  induction segs with
  | nil => intro q c hc _; simp [routed_nil now hc]
  | cons seg rest ih =>
    intro q c hc hrun
    rw [List.foldl_cons, stackCommand_eq now hc hrun (hsegs seg (List.mem_cons_self _ _)),
      ih (fun s hs => hsegs s (List.mem_cons_of_mem _ hs)) _ { c with sent := c.sent ++ _ } rfl hrun,
      routed_routed]
    simp only [BlueSkyClient.stackFrame_sent]
    congr 1
    · by_cases hs : c.sockSend <;> by_cases hf : routing seg = .forward <;>
        simp [hs, hf, List.filter_cons]
    · cases h : routing seg <;> simp [h, Routing.text?, List.filterMap_cons]

/-- `_process_stack_commands` for a running client: its stack is emptied, then drained. -/
theorem processStackCommands_eq (hc : p.client = some c) (hrun : c.running = true) :
    p.processStackCommands now =
      (c.cmdstack.map Prod.fst).foldl (fun q l => q.stackCommand now l)
        { p with client := some { c with cmdstack := [] } } := by
  rw [processStackCommands, hc]
  simp only [hrun, Bool.not_true, Bool.false_eq_true, if_false]

/-- `send_command(s)` for a running client with an empty stack: `True`, and the pieces'
frames (when the send socket is open) and help echoes. -/
theorem sendCommand_eq (hc : p.client = some c) (hrun : c.running = true) (hq : c.cmdstack = [])
    (s : String) :
    p.sendCommand (.str s) now =
      (p.routed c (if c.sockSend then (forwardedLines s).map c.stackFrame else []) (helpTexts s) now,
        true) := by
  obtain ⟨l, hl⟩ := c.stack_eq s
  have hrun' : (c.stack s).running = true := by rw [hl]; exact hrun
  have hc' : { c.stack s with cmdstack := [] } = c := by rw [hl, ← hq]
  simp only [sendCommand, hc, hrun, if_true, Prod.mk.injEq, and_true]
  rw [processStackCommands_eq now
    (show ({ p with client := some (c.stack s) } : Proxy).client = some (c.stack s) from rfl) hrun']
  by_cases hblank : pyStrip s = ""
  · -- a blank line is not stacked, and its one piece is skipped
    have hnil : (c.stack s).cmdstack = [] := by simp [BlueSkyClient.stack, hblank, hq]
    have hseg : commandSegments s = [""] := by simp [commandSegments, hblank]; rfl
    have hskip : routing "" = .skip := rfl
    rw [hnil]
    refine (foldl_stackCommand now [] (by simp) _ c ?_ hrun).trans ?_
    · exact congrArg some hc'
    · simp [forwardedLines, helpTexts, hseg, hskip, Routing.text?]
      rfl
  · have hlines : (c.stack s).cmdstack.map Prod.fst = commandSegments s := by
      simp [BlueSkyClient.stack, hblank, hq, commandSegments]
    rw [hlines]
    refine (foldl_stackCommand now _ (by simp [commandSegments, pyStrip_pyStrip]) _ c ?_ hrun).trans rfl
    exact congrArg some hc'

end Proxy

/-- The unsubscribe frame of a node takes it out of the client's nodes and changes nothing
else of the client. -/
theorem BlueSkyClient.announce_nodeDown_fst (c : BlueSkyClient) (a : Bytes) :
    (c.announce (.nodeDown a)).1 = { c with nodes := c.nodes.erase a } := by
  simp only [BlueSkyClient.announce]
  split_ifs with h
  · rfl
  · rw [Finset.erase_eq_of_not_mem h]

/-- The table subscribes only `on_stack_received` to `STACK`. -/
theorem stack_subscriber {c : BlueSkyClient}
    (h : ∀ x ∈ c.subscribers, ∃ a, (x.1, x.2, a) ∈ subscriptions) {cb : Callback}
    (hm : cb ∈ c.subscribersOf "STACK") : cb = .onStackReceived := by
  obtain ⟨x, hx, rfl⟩ := List.mem_map.mp hm
  obtain ⟨hx, ht⟩ := List.mem_filter.mp hx
  obtain ⟨a, ha⟩ := h x hx
  have htable : ∀ s ∈ subscriptions, s.1 = "STACK" → s.2.1 = .onStackReceived := by decide
  exact htable _ ha (of_decide_eq_true ht)

/-- A delivery that binds to none of its subscribers changes nothing. -/
theorem Proxy.deliver_of_unbound (p : Proxy) (now : Int) (d : Delivery) (subs : List Callback)
    (h : ∀ cb ∈ subs, cb.signature.bind d.args = none) : p.deliver now d subs = p := by
  unfold Proxy.deliver
  induction subs with
  | nil => rfl
  | cons cb rest ih =>
    rw [List.foldl_cons, h cb (List.mem_cons_self _ _)]
    exact ih fun cb' hm => h cb' (List.mem_cons_of_mem _ hm)

section Laws

variable {p : Proxy} {c : BlueSkyClient}

/-- In a reachable state a running client has its send socket open and an empty stack. -/
theorem Reachable.ready (hp : Reachable p) (hc : p.client = some c) (hrun : c.running = true) :
    c.sockSend = true ∧ c.cmdstack = [] :=
  have h := hp.wired c.wiring (by simp [Proxy.wiring, hc])
  ⟨h.sockSend hrun, h.cmdstack⟩

/-- **Consumer commands are routed.** In every reachable state with a running client the
command stack is empty, and `send_command(s)` returns `True` having written one `STACK`
frame to `act_id or server_id` for each forwarded piece of `s` and echoed each help text with
flags `0`, both in the order of the pieces; blank pieces have no effect, and nothing else
changes. -/
theorem consumer_commands_are_routed (hp : Reachable p) (hc : p.client = some c)
    (hrun : c.running = true) (s : String) (now : Int) :
    c.cmdstack = [] ∧
      p.sendCommand (.str s) now =
        (p.routed c ((forwardedLines s).map c.stackFrame) (helpTexts s) now, true) := by
  obtain ⟨hsock, hq⟩ := hp.ready hc hrun
  exact ⟨hq, by rw [Proxy.sendCommand_eq now hc hrun hq, if_pos hsock]⟩

/-- The law in the started proxy that has discovered a server and its node. -/
theorem consumer_commands_are_routed_after_discovery :
    ∃ c, Proxy.serverAndNode.client = some c ∧ c.cmdstack = [] ∧
      Proxy.serverAndNode.sendCommand (.str " help ; cre kl1 ;; op ") 60 =
        (Proxy.serverAndNode.routed c ((forwardedLines " help ; cre kl1 ;; op ").map c.stackFrame)
          (helpTexts " help ; cre kl1 ;; op ") 60, true) := by
  obtain ⟨c, hc⟩ := Option.isSome_iff_exists.mp (by decide : Proxy.serverAndNode.client.isSome = true)
  have hrun : c.running = true := by
    simpa [hc] using (by decide : Proxy.serverAndNode.client.map (·.running) = some true)
  exact ⟨c, hc, consumer_commands_are_routed Proxy.serverAndNode_reachable hc hrun _ _⟩

example : forwardedLines " help ; cre kl1 ;; op " = ["cre kl1", "op"] ∧
    helpTexts " help ; cre kl1 ;; op " = ["BlueSky Web Client: Enter commands to control simulation"] := by
  decide

/-- **A command cannot be followed by a frame to the node that left.** The unsubscribe frame of
the active node takes it out of the client's nodes but leaves `act_id`, so in every reachable
state with a running client every command line forwarded after that frame goes to the node
that left. -/
theorem commands_follow_departed_node (hp : Reachable p) (hc : p.client = some c)
    (hrun : c.running = true) {a : Bytes} (ha : c.actId = some a) (hne : a ≠ []) {f : Bytes}
    (hf : announcement f = .nodeDown a) (now : Int) :
    ∃ c', (p.controlMessage now f).client = some c' ∧ a ∉ c'.nodes ∧ c'.target = a ∧
      ∀ s now', (p.controlMessage now f).sendCommand (.str s) now' =
        ((p.controlMessage now f).routed c' ((forwardedLines s).map c'.stackFrame) (helpTexts s) now',
          true) := by
  obtain ⟨hsock, hq⟩ := hp.ready hc hrun
  have hcl : (p.controlMessage now f).client = some { c with nodes := c.nodes.erase a } := by
    simp only [Proxy.controlMessage, hc, Proxy.client_runSlots,
      BlueSkyClient.processSubscriptionMessage_eq, hf, BlueSkyClient.announce_nodeDown_fst]
  refine ⟨_, hcl, Finset.not_mem_erase a c.nodes, by simp [BlueSkyClient.target, ha, hne],
    fun s now' => ?_⟩
  rw [Proxy.sendCommand_eq now' hcl hrun hq, if_pos hsock]

/-- The law in the started proxy whose active node is `SAAA\x81`, at its unsubscribe frame. -/
theorem commands_follow_departed_node_after_discovery :
    ∃ c, Proxy.serverAndNode.client = some c ∧ c.actId = some Proxy.nodeA ∧
      ∃ c', (Proxy.serverAndNode.controlMessage 60 (0 :: Proxy.nodeA)).client = some c' ∧
        Proxy.nodeA ∉ c'.nodes ∧ c'.target = Proxy.nodeA ∧
        ∀ s now', (Proxy.serverAndNode.controlMessage 60 (0 :: Proxy.nodeA)).sendCommand (.str s) now' =
          ((Proxy.serverAndNode.controlMessage 60 (0 :: Proxy.nodeA)).routed c'
            ((forwardedLines s).map c'.stackFrame) (helpTexts s) now', true) := by
  obtain ⟨c, hc⟩ := Option.isSome_iff_exists.mp (by decide : Proxy.serverAndNode.client.isSome = true)
  have hrun : c.running = true := by
    simpa [hc] using (by decide : Proxy.serverAndNode.client.map (·.running) = some true)
  have ha : c.actId = some Proxy.nodeA := by
    simpa [hc] using (by decide : Proxy.serverAndNode.client.map (·.actId) = some (some Proxy.nodeA))
  exact ⟨c, hc, ha, commands_follow_departed_node Proxy.serverAndNode_reachable hc hrun ha
    (by decide : Proxy.nodeA ≠ [])
    (show announcement (0 :: Proxy.nodeA) = .nodeDown Proxy.nodeA from rfl) 60⟩

/-- **A failed forward is not reported.** `_forward_command` ignores what `send` returns, and
`send` turns a failure into `False` rather than raising: when the send socket is unusable,
`send_command(s)` still returns `True`, the forwarded pieces leave neither a frame nor an
echo, and the only echoes are the help texts, with flags `0`. -/
theorem failed_forwards_are_not_echoed (hc : p.client = some c) (hrun : c.running = true)
    (hq : c.cmdstack = []) (hsock : c.sockSend = false) (s : String) (now : Int) :
    p.sendCommand (.str s) now = (p.routed c [] (helpTexts s) now, true) := by
  rw [Proxy.sendCommand_eq now hc hrun hq, hsock]
  rfl

/-- A running client whose send socket is unusable, and one command to forward. -/
theorem failed_forwards_are_not_echoed_on_closed_socket :
    let c := { BlueSkyClient.new (fun _ => 65) with running := true }
    let p := { Proxy.fresh 0 true 1 "localhost" with client := some c }
    forwardedLines "CRE KL1" = ["CRE KL1"] ∧ helpTexts "CRE KL1" = [] ∧
      p.sendCommand (.str "CRE KL1") 0 = (p.routed c [] (helpTexts "CRE KL1") 0, true) :=
  ⟨by decide, by decide, failed_forwards_are_not_echoed rfl rfl rfl rfl "CRE KL1" 0⟩

/-- **Cluster command lists are dropped.** `_process_data_message` passes a list payload as
positional arguments, and `on_stack_received(data)` takes one: a `STACK` frame carrying two or
more command lines raises `TypeError` before the handler runs, so in every reachable state
the frame changes nothing and none of its lines is echoed. -/
theorem cluster_command_lists_are_dropped (hp : Reachable p) {m : DataMsg} {items : List Value}
    (hm : m.topicAndData = some ("STACK", .list items)) (hlen : 2 ≤ items.length) (now : Int) :
    p.dataMessage now m = p := by
  cases hc : p.client with
  | none => simp only [Proxy.dataMessage, hc]
  | some c =>
    have hd : c.processDataMessage m = (c, some ⟨"STACK", ⟨items, []⟩⟩) := by
      rw [BlueSkyClient.processDataMessage_of_topicAndData hm]
      simp [siminfoCall, isSharedStateTopic, genericArgs]
    simp only [Proxy.dataMessage, hc, hd]
    rw [Proxy.deliver_of_unbound]
    · rw [← hc]
    · intro cb hcb
      rw [stack_subscriber (hp.wired.subscribedFromTable c hc) hcb]
      simp only [Signature.bind, Callback.signature, List.length_singleton]
      rw [if_pos ⟨by omega, rfl⟩]

/-- A `STACK` frame from the active node carrying two command lines. -/
theorem cluster_command_lists_are_dropped_after_discovery :
    let m : DataMsg := ⟨Proxy.frameHeader (asciiBytes "STACK") Proxy.nodeA, some (.list [.str "OP", .str "HOLD"])⟩
    m.topicAndData = some ("STACK", .list [.str "OP", .str "HOLD"]) ∧
      Proxy.serverAndNode.dataMessage 60 m = Proxy.serverAndNode := by
  intro m
  have hm : m.topicAndData = some ("STACK", .list [.str "OP", .str "HOLD"]) := rfl
  exact ⟨hm, cluster_command_lists_are_dropped Proxy.serverAndNode_reachable hm (by decide) 60⟩

/-- The same line alone is answered with an echo. -/
example : (Proxy.serverAndNode.dataMessage 60
    ⟨Proxy.frameHeader (asciiBytes "STACK") Proxy.nodeA, some (.str "OP")⟩).pushes.length =
      Proxy.serverAndNode.pushes.length + 1 := by
  decide

end Laws

end WebATM
