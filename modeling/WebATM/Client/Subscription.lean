import WebATM.Client.Basic

/-!
# Subscriptions and the active node

`_subscribe` and `_unsubscribe` install and remove filters on the SUB socket; a binding
made with `actonly` is recorded in `acttopics` and bound to the active node, and
`actnode` re-points every recorded binding when the active node changes.
-/

namespace WebATM

/-- `acttopics[topic].add(to_group)` on the `defaultdict(set)`. -/
def actAdd : List (String × List Tag) → String → Tag → List (String × List Tag)
  | [], topic, g => [(topic, [g])]
  | (t, gs) :: rest, topic, g =>
    if t = topic then (t, if g ∈ gs then gs else gs ++ [g]) :: rest
    else (t, gs) :: actAdd rest topic g

/-- `acttopics[topic].discard(to_group)`, for a topic that is present. -/
def actDiscard : List (String × List Tag) → String → Tag → List (String × List Tag)
  | [], _, _ => []
  | (t, gs) :: rest, topic, g =>
    if t = topic then (t, gs.erase g) :: rest else (t, gs) :: actDiscard rest topic g

/-- The `(topic, to_group)` pairs that `actnode` walks, in `acttopics` order. -/
def actPairs (tt : List (String × List Tag)) : List (String × Tag) :=
  tt.flatMap fun e => e.2.map fun g => (e.1, g)

namespace BlueSkyClient

/-- `sock_recv.setsockopt(zmq.SUBSCRIBE, key)`: one more instance of the filter. A key
that does not encode raised before the call, and nothing is installed. -/
def addFilter (c : BlueSkyClient) : Option Bytes → BlueSkyClient
  | some k => { c with sockRecv := c.sockRecv.map (k ::ₘ ·) }
  | none => c

/-- `sock_recv.setsockopt(zmq.UNSUBSCRIBE, key)`: one instance fewer, if there is one. -/
def removeFilter (c : BlueSkyClient) : Option Bytes → BlueSkyClient
  | some k => { c with sockRecv := c.sockRecv.map (·.erase k) }
  | none => c

/-- `_subscribe(topic, from_group, to_group, actonly)`. With the default source group an
active-only binding is recorded, and subscribed from the active node when there is one;
otherwise it is deferred. -/
def netSubscribe (c : BlueSkyClient) (topic : String) (fromGroup toGroup : Tag)
    (actonly : Bool) : BlueSkyClient :=
  if c.sockRecv.isNone then c
  else if fromGroup = .int groupidDefault then
    if actonly then
      let c := { c with acttopics := actAdd c.acttopics topic toGroup }
      match c.actId with
      | some a => c.addFilter (subscriptionKey topic (.bytes a) toGroup)
      | none => c
    else c.addFilter (subscriptionKey topic (.int groupidSim) toGroup)
  else c.addFilter (subscriptionKey topic fromGroup toGroup)

/-- `_unsubscribe(topic, from_group, to_group)`, the mirror of `netSubscribe`. -/
def netUnsubscribe (c : BlueSkyClient) (topic : String) (fromGroup toGroup : Tag) :
    BlueSkyClient :=
  if c.sockRecv.isNone then c
  else if fromGroup = .int groupidDefault then
    if c.acttopics.any (·.1 == topic) then
      let c := { c with acttopics := actDiscard c.acttopics topic toGroup }
      match c.actId with
      | some a => c.removeFilter (subscriptionKey topic (.bytes a) toGroup)
      | none => c
    else c.removeFilter (subscriptionKey topic (.int groupidSim) toGroup)
  else c.removeFilter (subscriptionKey topic fromGroup toGroup)

/-- `subscribe(topic, callback, actonly)`: register the callback, then
`_subscribe(topic, GROUPID_DEFAULT, "", actonly)`. -/
def subscribe (c : BlueSkyClient) (topic : String) (cb : Callback) (actonly : Bool) :
    BlueSkyClient :=
  { c with subscribers := c.subscribers ++ [(topic, cb)] }.netSubscribe topic
    (.int groupidDefault) (.str "") actonly

/-- One pass of `actnode`'s loop over a binding: unsubscribe it from the old active node
when `act_id` is truthy, then subscribe it from the new one. -/
def rebind (old : Option Bytes) (newact : Bytes) (c : BlueSkyClient) (p : String × Tag) :
    BlueSkyClient :=
  let c := match old with
    | some a => if a ≠ [] then c.netUnsubscribe p.1 (.bytes a) p.2 else c
    | none => c
  c.netSubscribe p.1 (.bytes newact) p.2 false

/-- `node_added.disconnect(self.actnode)` when no node was selected before. -/
def firstSelection (c : BlueSkyClient) : BlueSkyClient :=
  if c.actId = none then { c with autoSelect := false } else c

/-- `actnode(newact)`: reject an unknown node; the first selection disconnects the
auto-selection slot; a different node re-points every active-only binding, then becomes
`act_id` and `actnode_changed` is emitted. -/
def actnode (c : BlueSkyClient) (newact : Bytes) : BlueSkyClient × List Signal :=
  if newact = [] then (c, [])
  else if newact ∉ c.nodes then (c, [])
  else
    let c := c.firstSelection
    if some newact = c.actId then (c, [])
    else
      let c := (actPairs c.acttopics).foldl (rebind c.actId newact) c
      ({ c with actId := some newact }, [.actnodeChanged newact])

@[simp] theorem firstSelection_actId (c : BlueSkyClient) :
    c.firstSelection.actId = c.actId := by unfold firstSelection; split_ifs <;> rfl

@[simp] theorem firstSelection_acttopics (c : BlueSkyClient) :
    c.firstSelection.acttopics = c.acttopics := by unfold firstSelection; split_ifs <;> rfl

@[simp] theorem firstSelection_sockRecv (c : BlueSkyClient) :
    c.firstSelection.sockRecv = c.sockRecv := by unfold firstSelection; split_ifs <;> rfl

@[simp] theorem firstSelection_nodes (c : BlueSkyClient) :
    c.firstSelection.nodes = c.nodes := by unfold firstSelection; split_ifs <;> rfl

theorem firstSelection_of_some {c : BlueSkyClient} {a : Bytes} (h : c.actId = some a) :
    c.firstSelection = c := by simp [firstSelection, h]

@[simp] theorem addFilter_acttopics (c : BlueSkyClient) (k : Option Bytes) :
    (c.addFilter k).acttopics = c.acttopics := by cases k <;> rfl

@[simp] theorem addFilter_actId (c : BlueSkyClient) (k : Option Bytes) :
    (c.addFilter k).actId = c.actId := by cases k <;> rfl

@[simp] theorem addFilter_nodes (c : BlueSkyClient) (k : Option Bytes) :
    (c.addFilter k).nodes = c.nodes := by cases k <;> rfl

@[simp] theorem removeFilter_acttopics (c : BlueSkyClient) (k : Option Bytes) :
    (c.removeFilter k).acttopics = c.acttopics := by cases k <;> rfl

@[simp] theorem removeFilter_actId (c : BlueSkyClient) (k : Option Bytes) :
    (c.removeFilter k).actId = c.actId := by cases k <;> rfl

@[simp] theorem removeFilter_nodes (c : BlueSkyClient) (k : Option Bytes) :
    (c.removeFilter k).nodes = c.nodes := by cases k <;> rfl

theorem netSubscribe_bytes {c : BlueSkyClient} (h : c.sockRecv.isSome) (topic : String)
    (a : Bytes) (toGroup : Tag) (actonly : Bool) :
    c.netSubscribe topic (.bytes a) toGroup actonly =
      c.addFilter (subscriptionKey topic (.bytes a) toGroup) := by
  simp [netSubscribe, Option.isNone_iff_eq_none, Option.isSome_iff_ne_none.mp h]

theorem netUnsubscribe_bytes {c : BlueSkyClient} (h : c.sockRecv.isSome) (topic : String)
    (a : Bytes) (toGroup : Tag) :
    c.netUnsubscribe topic (.bytes a) toGroup =
      c.removeFilter (subscriptionKey topic (.bytes a) toGroup) := by
  simp [netUnsubscribe, Option.isNone_iff_eq_none, Option.isSome_iff_ne_none.mp h]

/-- `_subscribe` with the default source group on an open socket: an active-only binding
is recorded and installed from the active node, if any; a plain one is installed from
`GROUPID_SIM`. -/
theorem netSubscribe_default {c : BlueSkyClient} (h : c.sockRecv.isSome) (topic : String)
    (toGroup : Tag) (actonly : Bool) :
    c.netSubscribe topic (.int groupidDefault) toGroup actonly =
      if actonly then
        { c with acttopics := actAdd c.acttopics topic toGroup }.addFilter
          (c.actId.bind fun a => subscriptionKey topic (.bytes a) toGroup)
      else c.addFilter (subscriptionKey topic (.int groupidSim) toGroup) := by
  have hnone : c.sockRecv.isNone = false := by
    simpa [Option.isNone_iff_eq_none, Option.isSome_iff_ne_none] using h
  cases actonly <;> cases hid : c.actId <;> simp [netSubscribe, hnone, hid, addFilter]

theorem netSubscribe_actId (c : BlueSkyClient) (topic : String) (fromGroup toGroup : Tag)
    (actonly : Bool) : (c.netSubscribe topic fromGroup toGroup actonly).actId = c.actId := by
  unfold netSubscribe
  split_ifs
  · rfl
  · cases c.actId <;> simp
  all_goals simp

theorem netSubscribe_bytes_acttopics (c : BlueSkyClient) (topic : String) (a : Bytes)
    (toGroup : Tag) (actonly : Bool) :
    (c.netSubscribe topic (.bytes a) toGroup actonly).acttopics = c.acttopics := by
  unfold netSubscribe; split_ifs <;> simp_all

theorem netUnsubscribe_bytes_acttopics (c : BlueSkyClient) (topic : String) (a : Bytes)
    (toGroup : Tag) : (c.netUnsubscribe topic (.bytes a) toGroup).acttopics = c.acttopics := by
  unfold netUnsubscribe; split_ifs <;> simp_all

theorem netUnsubscribe_bytes_actId (c : BlueSkyClient) (topic : String) (a : Bytes)
    (toGroup : Tag) : (c.netUnsubscribe topic (.bytes a) toGroup).actId = c.actId := by
  unfold netUnsubscribe; split_ifs <;> simp_all

/-- `actnode`'s loop changes neither the registry nor the active node. -/
theorem foldl_rebind_registry (old : Option Bytes) (newact : Bytes) :
    ∀ (L : List (String × Tag)) (c : BlueSkyClient),
      (L.foldl (rebind old newact) c).acttopics = c.acttopics ∧
        (L.foldl (rebind old newact) c).actId = c.actId
  | [], _ => ⟨rfl, rfl⟩
  | p :: L, c => by
    obtain ⟨h1, h2⟩ := foldl_rebind_registry old newact L (rebind old newact c p)
    rw [List.foldl_cons, h1, h2]
    cases old with
    | none => exact ⟨netSubscribe_bytes_acttopics .., netSubscribe_actId ..⟩
    | some a =>
      by_cases ha : a = [] <;>
        simp [rebind, ha, netSubscribe_bytes_acttopics, netSubscribe_actId,
          netUnsubscribe_bytes_acttopics, netUnsubscribe_bytes_actId]

theorem addFilter_frame (c : BlueSkyClient) (k : Option Bytes) :
    c.addFilter k = { c with sockRecv := (c.addFilter k).sockRecv } := by cases k <;> rfl

theorem removeFilter_frame (c : BlueSkyClient) (k : Option Bytes) :
    c.removeFilter k = { c with sockRecv := (c.removeFilter k).sockRecv } := by cases k <;> rfl

/-- `_subscribe` changes only the registry and the socket's filters. -/
theorem netSubscribe_frame (c : BlueSkyClient) (topic : String) (fromGroup toGroup : Tag)
    (actonly : Bool) : ∃ tt F, c.netSubscribe topic fromGroup toGroup actonly =
      { c with acttopics := tt, sockRecv := F } := by
  unfold netSubscribe
  split_ifs
  · exact ⟨_, _, rfl⟩
  · dsimp only
    split
    · exact ⟨_, _, addFilter_frame _ _⟩
    · exact ⟨_, _, rfl⟩
  all_goals exact ⟨_, _, addFilter_frame _ _⟩

/-- `subscribe` changes only the subscriber list, the registry and the socket's filters. -/
theorem subscribe_frame (c : BlueSkyClient) (topic : String) (cb : Callback) (actonly : Bool) :
    ∃ tt F, c.subscribe topic cb actonly =
      { c with subscribers := c.subscribers ++ [(topic, cb)], acttopics := tt, sockRecv := F } :=
  netSubscribe_frame _ _ _ _ _

/-- `_unsubscribe` changes only the registry and the socket's filters. -/
theorem netUnsubscribe_frame (c : BlueSkyClient) (topic : String) (fromGroup toGroup : Tag) :
    ∃ tt F, c.netUnsubscribe topic fromGroup toGroup = { c with acttopics := tt, sockRecv := F } := by
  unfold netUnsubscribe
  split_ifs
  · exact ⟨_, _, rfl⟩
  · dsimp only
    split
    · exact ⟨_, _, removeFilter_frame _ _⟩
    · exact ⟨_, _, rfl⟩
  all_goals exact ⟨_, _, removeFilter_frame _ _⟩

/-- `actnode`'s loop changes only the registry and the socket's filters. -/
theorem foldl_rebind_frame (old : Option Bytes) (newact : Bytes) :
    ∀ (L : List (String × Tag)) (c : BlueSkyClient),
      ∃ tt F, L.foldl (rebind old newact) c = { c with acttopics := tt, sockRecv := F }
  | [], c => ⟨_, _, rfl⟩
  | p :: L, c => by
    have hstep : ∃ tt F, rebind old newact c p = { c with acttopics := tt, sockRecv := F } := by
      unfold rebind
      split
      · split_ifs
        · obtain ⟨tt, F, h⟩ := netUnsubscribe_frame c p.1 (.bytes _) p.2
          obtain ⟨tt', F', h'⟩ := netSubscribe_frame
            { c with acttopics := tt, sockRecv := F } p.1 (.bytes newact) p.2 false
          exact ⟨tt', F', by rw [h, h']⟩
        · exact netSubscribe_frame c _ _ _ _
      · exact netSubscribe_frame c _ _ _ _
    obtain ⟨tt, F, h⟩ := hstep
    obtain ⟨tt', F', h'⟩ := foldl_rebind_frame old newact L (rebind old newact c p)
    exact ⟨tt', F', by rw [List.foldl_cons, h', h]⟩

/-- `actnode` changes nothing when the identity is empty, unknown, or already active. -/
theorem actnode_of_reject {c : BlueSkyClient} {newact : Bytes}
    (h : newact = [] ∨ newact ∉ c.nodes ∨ some newact = c.actId) : c.actnode newact = (c, []) := by
  unfold actnode
  rcases h with h | h | h
  · simp [h]
  · simp [h]
  · simp [firstSelection_of_some h.symm, ← h]

/-- A switch to a known node: the auto-selection slot goes on the first selection, every
binding is re-pointed, the node becomes active and `actnode_changed` is emitted. -/
theorem actnode_of_switch {c : BlueSkyClient} {newact : Bytes} (h1 : newact ≠ [])
    (h2 : newact ∈ c.nodes) (h3 : some newact ≠ c.actId) :
    c.actnode newact =
      ({ (actPairs c.acttopics).foldl (rebind c.actId newact) c.firstSelection with
          actId := some newact }, [.actnodeChanged newact]) := by
  simp [actnode, h1, h2, h3]

theorem actnode_acttopics (c : BlueSkyClient) (newact : Bytes) :
    (c.actnode newact).1.acttopics = c.acttopics := by
  by_cases hr : newact = [] ∨ newact ∉ c.nodes ∨ some newact = c.actId
  · rw [actnode_of_reject hr]
  · simp only [not_or, not_not] at hr
    rw [actnode_of_switch hr.1 hr.2.1 hr.2.2]
    simpa using (foldl_rebind_registry c.actId newact _ c.firstSelection).1

end BlueSkyClient

end WebATM
