import WebATM.Client.Discovery

/-!
# The active node

What `act_id` is for: a consumer picks one of the discovered nodes to follow, and until it
does, the first node discovered is followed. `Selection` says this with no sockets and no
signal slots: the known nodes, the first node ever added and the latest accepted choice.
`Realises` ties a client to a selection, every client step moves the client as the
selection moves (`Realises.perform`), and so every run of a connected client follows the
run of the selection (`active_node_selection`). The once-only auto-selection of
`BlueSkyClient.__init__`, a `node_added` slot that `actnode` disconnects on its first run,
is the `first` field: set by the first addition and never reset.
-/

namespace WebATM

/-- The events that decide the active node. -/
inductive SelectionEvent where
  | added (id : Bytes)
  | removed (id : Bytes)
  | select (id : Bytes)
  | other

/-- The abstract selection. -/
structure Selection where
  nodes : Finset Bytes
  /-- The first node ever added. -/
  first : Option Bytes
  /-- The consumer's latest choice of a node that was known when it was made. -/
  chosen : Option Bytes

namespace Selection

def init : Selection := ⟨∅, none, none⟩

/-- The node followed: the latest choice, else the first node added. -/
def active (s : Selection) : Option Bytes := s.chosen.or s.first

/-- An addition of an unknown node records it, and records it as the first node if there
was none; a choice of a known node replaces the previous choice; a removal forgets the node
and nothing else. -/
def step (s : Selection) : SelectionEvent → Selection
  | .added id =>
    if id ∈ s.nodes then s else { s with nodes := insert id s.nodes, first := s.first.or (some id) }
  | .removed id => { s with nodes := s.nodes.erase id }
  | .select id => if id ∈ s.nodes then { s with chosen := some id } else s
  | .other => s

def run (s : Selection) (es : List SelectionEvent) : Selection := es.foldl step s

/-- Nothing is followed before a first node is added, since nothing can be chosen. -/
theorem active_of_first {s : Selection} (hs : s.first = none → s.nodes = ∅ ∧ s.chosen = none)
    (h : s.first = none) : s.active = none := by
  simp [active, h, (hs h).2]

end Selection

/-- The selection event of a client step: a control frame is an addition or a removal of
the node it announces, and `actnode(id)` is a choice. -/
def ClientOp.selectionEvent : ClientOp → SelectionEvent
  | .subscribe .. => .other
  | .control frame =>
    match announcement frame with
    | .nodeUp id => .added id
    | .nodeDown id => .removed id
    | _ => .other
  | .actnode id => .select id

/-- The identities carried by the `actnode_changed` emissions among some signals. -/
def actnodeChanges (sigs : List Signal) : List Bytes :=
  sigs.filterMap fun
    | .actnodeChanged id => some id
    | _ => none

/-- The emissions a change of `act_id` calls for: the new value once if it changed,
nothing otherwise. -/
def changeOf (before after : Option Bytes) : List Bytes :=
  if after = before then [] else after.toList

/-- A client realises a selection: the same nodes, `act_id` the node the selection
follows, auto-selection still connected exactly while no node was ever added. The last
three fields are what keeps this true: no node is known before the first addition, node
identities are non-empty, and the client's own identity is not a peer's. -/
structure Realises (c : BlueSkyClient) (s : Selection) : Prop where
  nodes_eq : c.nodes = s.nodes
  actId_eq : c.actId = s.active
  autoSelect_iff : c.autoSelect = true ↔ s.first = none
  first_none : s.first = none → s.nodes = ∅ ∧ s.chosen = none
  nil_not_mem : [] ∉ c.nodes
  own_group : isPeerGroup c.nodeId = false

namespace Realises

variable {c c' : BlueSkyClient} {s : Selection}

/-- A client with the same nodes, active node, slot and identity realises the same
selection. -/
theorem congr (h : Realises c s) (hn : c'.nodes = c.nodes) (ha : c'.actId = c.actId)
    (hs : c'.autoSelect = c.autoSelect) (hi : c'.nodeId = c.nodeId) : Realises c' s where
  nodes_eq := hn ▸ h.nodes_eq
  actId_eq := ha ▸ h.actId_eq
  autoSelect_iff := hs ▸ h.autoSelect_iff
  first_none := h.first_none
  nil_not_mem := hn ▸ h.nil_not_mem
  own_group := hi ▸ h.own_group

/-- The data request sent to a new node changes nothing selection reads. -/
theorem requestData (h : Realises c s) : Realises c.onNodeAddedRequestData s :=
  h.congr (by simp) (by simp) (by simp) (by simp)

/-- Once a node is known, a first node was added, auto-selection is gone and a node is
active. -/
theorem of_mem (h : Realises c s) {n : Bytes} (hn : n ∈ c.nodes) :
    s.first ≠ none ∧ c.autoSelect = false ∧ c.actId ≠ none := by
  have hf : s.first ≠ none := fun hf => by
    have h0 := (h.first_none hf).1
    rw [← h.nodes_eq] at h0
    simp [h0] at hn
  refine ⟨hf, by simpa [hf] using h.autoSelect_iff, ?_⟩
  obtain ⟨a, ha⟩ := Option.ne_none_iff_exists'.mp hf
  cases hc : s.chosen <;> simp [h.actId_eq, Selection.active, hc, ha]

end Realises

namespace BlueSkyClient

/-- A switch re-points the bindings of a client that has an active node and changes
nothing else but `act_id`. -/
theorem actnode_switch_frame {c : BlueSkyClient} {n : Bytes} (h1 : n ≠ []) (h2 : n ∈ c.nodes)
    (h3 : some n ≠ c.actId) (ha : c.actId ≠ none) :
    ∃ tt F, (c.actnode n).1 = { c with acttopics := tt, sockRecv := F, actId := some n } := by
  obtain ⟨a, ha⟩ := Option.ne_none_iff_exists'.mp ha
  obtain ⟨tt, F, hf⟩ := foldl_rebind_frame c.actId n (actPairs c.acttopics) c
  refine ⟨tt, F, ?_⟩
  rw [actnode_of_switch h1 h2 h3, firstSelection_of_some ha, hf]

/-- The first selection, made while no node is active: the auto-selection slot is
disconnected and the node becomes active. -/
theorem actnode_first_frame {c : BlueSkyClient} {n : Bytes} (h1 : n ≠ []) (h2 : n ∈ c.nodes)
    (ha : c.actId = none) : ∃ tt F, (c.actnode n).1 =
      { c with acttopics := tt, sockRecv := F, actId := some n, autoSelect := false } := by
  obtain ⟨tt, F, hf⟩ :=
    foldl_rebind_frame c.actId n (actPairs c.acttopics) { c with autoSelect := false }
  refine ⟨tt, F, ?_⟩
  rw [actnode_of_switch h1 h2 (by simp [ha]), firstSelection, if_pos ha]
  simp only [ha] at hf ⊢
  rw [hf]

/-- `actnode` emits `actnode_changed` exactly when it changes `act_id`, with the new
value. -/
theorem actnode_changes (c : BlueSkyClient) (n : Bytes) :
    actnodeChanges (c.actnode n).2 = changeOf c.actId (c.actnode n).1.actId := by
  by_cases hr : n = [] ∨ n ∉ c.nodes ∨ some n = c.actId
  · simp [actnode_of_reject hr, actnodeChanges, changeOf]
  · simp only [not_or, not_not] at hr
    rw [actnode_of_switch hr.1 hr.2.1 hr.2.2]
    simp [actnodeChanges, changeOf, hr.2.2]

/-- Every client step emits `actnode_changed` exactly when it changes `act_id`, with the
new value. -/
theorem perform_changes (c : BlueSkyClient) (op : ClientOp) :
    actnodeChanges (c.perform op).2 = changeOf c.actId (c.perform op).1.actId := by
  cases op with
  | subscribe topic cb actonly =>
    obtain ⟨tt, F, h⟩ := subscribe_frame c topic cb actonly
    simp [perform, h, actnodeChanges, changeOf]
  | actnode n => exact actnode_changes c n
  | control frame =>
    simp only [perform, processSubscriptionMessage_eq]
    cases announcement frame with
    | nodeUp id =>
      by_cases hin : id ∈ c.nodes
      · simp [announce, hin, actnodeChanges, changeOf]
      by_cases hown : id = c.nodeId
      · subst hown
        simp [announce, hin, actnodeChanges, changeOf]
      simp only [announce, hin, hown, not_false_eq_true, if_true, ne_eq, emitNodeAdded,
        onNodeAddedRequestData_actId]
      split_ifs
      · simpa [actnodeChanges] using actnode_changes { c with nodes := insert id c.nodes } id
      · simp [actnodeChanges, changeOf]
    | nodeDown id => simp only [announce]; split_ifs <;> simp [actnodeChanges, changeOf]
    | serverUp id => simp only [announce]; split_ifs <;> simp [actnodeChanges, changeOf]
    | serverDown id => simp only [announce]; split_ifs <;> simp [actnodeChanges, changeOf]
    | ignored => simp [announce, actnodeChanges, changeOf]

end BlueSkyClient

namespace Realises

variable {c : BlueSkyClient} {s : Selection}

/-- A choice: a known node becomes active and the choice is recorded; an unknown one
changes neither side. -/
theorem actnode (h : Realises c s) (n : Bytes) :
    Realises (c.actnode n).1 (s.step (.select n)) := by
  by_cases hn : n ∈ c.nodes
  · obtain ⟨hf, -, hact⟩ := h.of_mem hn
    have hs : (s.step (.select n)).active = some n := by
      simp [Selection.step, ← h.nodes_eq, hn, Selection.active]
    have hstep : s.step (.select n) = { s with chosen := some n } := by
      simp [Selection.step, ← h.nodes_eq, hn]
    have hview : ∀ c' : BlueSkyClient, c'.nodes = c.nodes → c'.actId = some n →
        c'.autoSelect = c.autoSelect → c'.nodeId = c.nodeId →
        Realises c' (s.step (.select n)) := fun c' hn' ha' hs' hi' =>
      { nodes_eq := by rw [hn', hstep]; exact h.nodes_eq
        actId_eq := by rw [ha', hs]
        autoSelect_iff := by rw [hs', hstep]; exact h.autoSelect_iff
        first_none := by rw [hstep]; exact fun h' => absurd h' hf
        nil_not_mem := hn' ▸ h.nil_not_mem
        own_group := hi' ▸ h.own_group }
    by_cases hsame : some n = c.actId
    · rw [BlueSkyClient.actnode_of_reject (.inr (.inr hsame))]
      exact hview c rfl hsame.symm rfl rfl
    · have hne : n ≠ [] := fun h0 => h.nil_not_mem (h0 ▸ hn)
      obtain ⟨tt, F, he⟩ := BlueSkyClient.actnode_switch_frame hne hn hsame hact
      rw [he]
      exact hview _ rfl rfl rfl rfl
  · have hs : s.step (.select n) = s := by simp [Selection.step, ← h.nodes_eq, hn]
    rw [BlueSkyClient.actnode_of_reject (.inr (.inl hn)), hs]
    exact h

/-- The announcement of a node: an unknown node is added, and the first one is
auto-selected. -/
theorem nodeUp (h : Realises c s) {frame id : Bytes} (hA : announcement frame = .nodeUp id) :
    Realises (c.announce (.nodeUp id)).1 (s.step (.added id)) := by
  obtain ⟨hlen, hpeer, -⟩ := announcement_nodeUp hA
  have hne : id ≠ [] := fun h0 => by simp [h0, idlen] at hlen
  have hown : id ≠ c.nodeId := fun h0 => by simp [h0, h.own_group] at hpeer
  by_cases hin : id ∈ c.nodes
  · have hs : s.step (.added id) = s := by simp [Selection.step, ← h.nodes_eq, hin]
    simp only [BlueSkyClient.announce, hin, not_true_eq_false, if_false, hs]
    exact h
  · have hstep : s.step (.added id) =
        { s with nodes := insert id s.nodes, first := s.first.or (some id) } := by
      simp [Selection.step, ← h.nodes_eq, hin]
    simp only [BlueSkyClient.announce, hin, not_false_eq_true, if_true, hown, ne_eq,
      BlueSkyClient.emitNodeAdded]
    apply Realises.requestData
    split_ifs with hauto
    · -- the first node: auto-selection
      have hf : s.first = none := h.autoSelect_iff.mp hauto
      obtain ⟨hnodes, hch⟩ := h.first_none hf
      have hact : c.actId = none := by rw [h.actId_eq]; exact Selection.active_of_first h.first_none hf
      obtain ⟨tt, F, he⟩ := BlueSkyClient.actnode_first_frame (c := { c with nodes := insert id c.nodes })
        hne (Finset.mem_insert_self _ _) hact
      rw [he, hstep]
      exact { nodes_eq := by simp [h.nodes_eq]
              actId_eq := by simp [Selection.active, hf, hch]
              autoSelect_iff := by simp [hf]
              first_none := by simp [hf]
              nil_not_mem := by simp [Ne.symm hne, h.nil_not_mem]
              own_group := h.own_group }
    · -- a later node: only recorded
      have hf : s.first ≠ none := fun hf => hauto (h.autoSelect_iff.mpr hf)
      obtain ⟨a, ha⟩ := Option.ne_none_iff_exists'.mp hf
      rw [hstep]
      exact { nodes_eq := by simp [h.nodes_eq]
              actId_eq := by simpa [Selection.active, ha] using h.actId_eq
              autoSelect_iff := by simpa [ha] using hauto
              first_none := by simp [ha]
              nil_not_mem := by simp [Ne.symm hne, h.nil_not_mem]
              own_group := h.own_group }

/-- The removal of a node forgets it and leaves the active node alone. -/
theorem nodeDown (h : Realises c s) (id : Bytes) :
    Realises (c.announce (.nodeDown id)).1 (s.step (.removed id)) := by
  have hc : (c.announce (.nodeDown id)).1 = { c with nodes := c.nodes.erase id } := by
    by_cases hin : id ∈ c.nodes
    · simp [BlueSkyClient.announce, hin]
    · simp [BlueSkyClient.announce, hin, Finset.erase_eq_of_not_mem hin]
  rw [hc]
  exact { nodes_eq := by simp [Selection.step, h.nodes_eq]
          actId_eq := h.actId_eq
          autoSelect_iff := h.autoSelect_iff
          first_none := fun hf => by simp [Selection.step, (h.first_none hf).1, (h.first_none hf).2]
          nil_not_mem := by simp [h.nil_not_mem]
          own_group := h.own_group }

/-- **Step lemma.** Every client step moves the client as its selection event moves the
selection. -/
theorem perform (h : Realises c s) (op : ClientOp) :
    Realises (c.perform op).1 (s.step op.selectionEvent) := by
  cases op with
  | subscribe topic cb actonly =>
    obtain ⟨tt, F, he⟩ := BlueSkyClient.subscribe_frame c topic cb actonly
    simp only [BlueSkyClient.perform, he, ClientOp.selectionEvent, Selection.step]
    exact h.congr rfl rfl rfl rfl
  | actnode n => exact h.actnode n
  | control frame =>
    simp only [BlueSkyClient.perform, BlueSkyClient.processSubscriptionMessage_eq,
      ClientOp.selectionEvent]
    cases hA : announcement frame with
    | nodeUp id => exact h.nodeUp hA
    | nodeDown id => exact h.nodeDown id
    | serverUp id =>
      simp only [BlueSkyClient.announce, Selection.step]
      split_ifs <;> exact h.congr rfl rfl rfl rfl
    | serverDown id =>
      simp only [BlueSkyClient.announce, Selection.step]
      split_ifs <;> exact h.congr rfl rfl rfl rfl
    | ignored => exact h

/-- **Run lemma.** -/
theorem run (h : Realises c s) (ops : List ClientOp) :
    Realises (c.run ops) (s.run (ops.map ClientOp.selectionEvent)) := by
  induction ops generalizing c s with
  | nil => exact h
  | cons op ops ih => exact ih (h.perform op)

end Realises

/-- A freshly connected client realises the empty selection. -/
theorem realises_opened (rnd : Nat → UInt8) :
    Realises (BlueSkyClient.opened rnd) Selection.init := by
  obtain ⟨tt, F, he⟩ := (BlueSkyClient.new rnd).connect_frame
  rw [BlueSkyClient.opened, he]
  exact { nodes_eq := rfl
          actId_eq := rfl
          autoSelect_iff := iff_of_true rfl rfl
          first_none := fun _ => ⟨rfl, rfl⟩
          nil_not_mem := Finset.not_mem_empty _
          own_group := isPeerGroup_clientNodeId rnd }

/-- **Active-node selection.** Along every sequence of steps of a connected client, the
client follows the abstract selection: the same nodes; `act_id` the latest choice of a
node that was known when it was made, else the first node added, and `None` before any
node was added; auto-selection still connected exactly until the first addition. A choice
of an unknown node changes nothing, and the next step emits `actnode_changed` once, with
the new value, exactly when it changes `act_id`. -/
theorem active_node_selection (rnd : Nat → UInt8) (ops : List ClientOp) (op : ClientOp) :
    let c := (BlueSkyClient.opened rnd).run ops
    let s := Selection.init.run (ops.map ClientOp.selectionEvent)
    c.nodes = s.nodes ∧ c.actId = s.active ∧ (c.autoSelect = true ↔ s.first = none) ∧
      (s.first = none → c.actId = none) ∧ (∀ n, n ∉ c.nodes → c.actnode n = (c, [])) ∧
      actnodeChanges (c.perform op).2 = changeOf c.actId (c.perform op).1.actId := by
  have h := (realises_opened rnd).run ops
  exact ⟨h.nodes_eq, h.actId_eq, h.autoSelect_iff,
    fun hf => h.actId_eq.trans (Selection.active_of_first h.first_none hf),
    fun n hn => BlueSkyClient.actnode_of_reject (.inr (.inl hn)),
    BlueSkyClient.perform_changes _ op⟩

end WebATM
