import WebATM.Client.Discovery

/-!
# Active-only bindings follow the active node

The SUB socket's filters form a multiset: `SUBSCRIBE` adds one instance, `UNSUBSCRIBE`
removes one. `Bindings base c` says that the filters of `c` are `base`, the filters of
the other bindings, plus exactly one instance of `ljust(G) + T + act_id` for every
recorded active-only pair `(T, G)` while a node is active, and none while none is. Every
client step keeps it, so a binding registered before any node was active is installed
at the first selection, and no filter naming an earlier active node survives a switch.
-/

namespace WebATM

/-- The filters the pairs `L` have installed while `act` is the active node: one
`ljust(G) + T + act` per pair whose key encodes, and none without an active node. -/
def pairFilters (L : List (String × Tag)) : Option Bytes → Multiset Bytes
  | none => 0
  | some a => ↑(L.filterMap fun p => subscriptionKey p.1 (.bytes a) p.2)

/-- The filters the active-only registry `acttopics` must have installed. -/
def activeFilters (tt : List (String × List Tag)) (act : Option Bytes) : Multiset Bytes :=
  pairFilters (actPairs tt) act

/-- The filter a key installs: one instance, or none when the key does not encode. -/
def keyFilters (k : Option Bytes) : Multiset Bytes := ↑k.toList

/-- The filter a plain `subscribe` installs: `ljust("") + T + b"S"`. -/
def plainFilter (topic : String) (actonly : Bool) : Multiset Bytes :=
  if actonly then 0 else keyFilters (subscriptionKey topic (.int groupidSim) (.str ""))

/-- The SUB socket holds `base` plus exactly the active-only filters; `act_id` is never
the empty identity. -/
def Bindings (base : Multiset Bytes) (c : BlueSkyClient) : Prop :=
  c.sockRecv = some (base + activeFilters c.acttopics c.actId) ∧ c.actId ≠ some []

/-- A subscription key from a node: the binding's prefix `ljust(G) + T`, then the node. -/
def bindingPrefix (topic : String) (toGroup : Tag) : Option Bytes := do
  let btopic ← asbytestr (.str topic)
  let btoGroup ← asbytestr toGroup
  return ljust btoGroup idlen wildcard ++ btopic

theorem subscriptionKey_bytes (topic : String) (a : Bytes) (toGroup : Tag) :
    subscriptionKey topic (.bytes a) toGroup = (bindingPrefix topic toGroup).map (· ++ a) := by
  unfold subscriptionKey bindingPrefix
  cases asbytestr (.str topic) <;> cases asbytestr toGroup <;> rfl

theorem pairFilters_cons_of_none {p : String × Tag} (hpre : bindingPrefix p.1 p.2 = none)
    (L : List (String × Tag)) (act : Option Bytes) :
    pairFilters (p :: L) act = pairFilters L act := by
  cases act <;> simp [pairFilters, subscriptionKey_bytes, hpre]

theorem pairFilters_cons_of_some {p : String × Tag} {pre : Bytes}
    (hpre : bindingPrefix p.1 p.2 = some pre) (L : List (String × Tag)) (a : Bytes) :
    pairFilters (p :: L) (some a) = (pre ++ a) ::ₘ pairFilters L (some a) := by
  simp [pairFilters, subscriptionKey_bytes, hpre]

theorem pairFilters_append (L L' : List (String × Tag)) (act : Option Bytes) :
    pairFilters (L ++ L') act = pairFilters L act + pairFilters L' act := by
  cases act <;> simp [pairFilters]

theorem actAdd_of_not_mem {tt : List (String × List Tag)} {topic : String}
    (h : topic ∉ tt.map Prod.fst) (g : Tag) : actAdd tt topic g = tt ++ [(topic, [g])] := by
  induction tt with
  | nil => rfl
  | cons e rest ih =>
    simp only [List.map_cons, List.mem_cons, not_or] at h
    simp [actAdd, Ne.symm h.1, ih h.2]

theorem mem_actAdd {tt : List (String × List Tag)} {topic t : String} {g : Tag}
    (h : t ∈ (actAdd tt topic g).map Prod.fst) : t ∈ tt.map Prod.fst ∨ t = topic := by
  induction tt with
  | nil => simpa [actAdd] using h
  | cons e rest ih =>
    obtain ⟨t', gs⟩ := e
    by_cases he : t' = topic
    · simp only [actAdd, he, if_true, List.map_cons, List.mem_cons] at h ⊢
      exact .inl h
    · simp only [actAdd, he, if_false, List.map_cons, List.mem_cons] at h ⊢
      rcases h with h | h
      · exact .inl (.inl h)
      · exact (ih h).imp_left .inr

namespace BlueSkyClient

theorem addFilter_sockRecv (c : BlueSkyClient) (k : Option Bytes) :
    (c.addFilter k).sockRecv = c.sockRecv.map (keyFilters k + ·) := by
  cases k <;> cases h : c.sockRecv <;> simp [addFilter, keyFilters, h]

/-- One pass of `actnode`'s loop on the socket: the binding's filter from the old active
node is removed and the one from the new node added, when the binding's key encodes. -/
theorem rebind_sockRecv {c : BlueSkyClient} {F : Multiset Bytes} (hc : c.sockRecv = some F)
    {old : Option Bytes} (hold : old ≠ some []) (newact : Bytes) (p : String × Tag) :
    (rebind old newact c p).sockRecv =
      (bindingPrefix p.1 p.2).elim (some F) fun pre =>
        some ((pre ++ newact) ::ₘ old.elim F fun a => F.erase (pre ++ a)) := by
  have hsome : c.sockRecv.isSome := by simp [hc]
  cases old with
  | none =>
    cases hpre : bindingPrefix p.1 p.2 <;>
      simp [rebind, netSubscribe_bytes hsome, subscriptionKey_bytes, hpre, addFilter, hc]
  | some a =>
    have ha : a ≠ [] := fun h => hold (by rw [h])
    have hsome' : (c.netUnsubscribe p.1 (.bytes a) p.2).sockRecv.isSome := by
      rw [netUnsubscribe_bytes hsome]
      cases subscriptionKey p.1 (.bytes a) p.2 <;> simp [removeFilter, hc]
    simp only [rebind, if_pos ha]
    rw [netSubscribe_bytes hsome', netUnsubscribe_bytes hsome]
    cases hpre : bindingPrefix p.1 p.2 <;>
      simp [subscriptionKey_bytes, hpre, addFilter, removeFilter, hc]

/-- `actnode`'s loop moves every pair's filter from the old active node to the new one,
whatever else the socket holds. -/
theorem foldl_rebind_sockRecv (newact : Bytes) {old : Option Bytes} (hold : old ≠ some []) :
    ∀ (L : List (String × Tag)) (M : Multiset Bytes) (c : BlueSkyClient),
      c.sockRecv = some (M + pairFilters L old) →
      (L.foldl (rebind old newact) c).sockRecv = some (M + pairFilters L (some newact))
  | [], M, c, hc => by cases old <;> simpa [pairFilters] using hc
  | p :: L, M, c, hc => by
    rw [List.foldl_cons]
    have hstep := rebind_sockRecv hc hold newact p
    cases hpre : bindingPrefix p.1 p.2 with
    | none =>
      rw [pairFilters_cons_of_none hpre]
      rw [hpre, pairFilters_cons_of_none hpre] at hstep
      exact foldl_rebind_sockRecv newact hold L M _ hstep
    | some pre =>
      rw [pairFilters_cons_of_some hpre, Multiset.add_cons, ← Multiset.cons_add]
      apply foldl_rebind_sockRecv newact hold L _ _
      rw [hstep, hpre]
      cases old with
      | none => simp [pairFilters]
      | some a =>
        simp only [Option.elim, pairFilters_cons_of_some hpre, Multiset.add_cons,
          Multiset.erase_cons_head, Multiset.cons_add]

/-- **`actnode` keeps the bindings invariant**: a rejected call changes nothing, and a
switch moves every active-only filter to the new node. -/
theorem actnode_bindings {base : Multiset Bytes} {c : BlueSkyClient} (h : Bindings base c)
    (newact : Bytes) : Bindings base (c.actnode newact).1 := by
  by_cases hr : newact = [] ∨ newact ∉ c.nodes ∨ some newact = c.actId
  · rw [actnode_of_reject hr]
    exact h
  · simp only [not_or, not_not] at hr
    obtain ⟨h1, h2, h3⟩ := hr
    rw [actnode_of_switch h1 h2 h3]
    obtain ⟨htopics, -⟩ := foldl_rebind_registry c.actId newact (actPairs c.acttopics)
      c.firstSelection
    have hsock := foldl_rebind_sockRecv newact h.2 (actPairs c.acttopics) base c.firstSelection
      (by simpa using h.1)
    exact ⟨by simpa [activeFilters, htopics] using hsock, by simpa using h1⟩

/-- **`subscribe` keeps the bindings invariant**: a plain subscription adds its own
filter, and an active-only one on a new topic records the pair and, when a node is
active, installs its filter from that node. -/
theorem subscribe_bindings {base : Multiset Bytes} {c : BlueSkyClient} (h : Bindings base c)
    (topic : String) (cb : Callback) (actonly : Bool)
    (hnew : actonly = true → topic ∉ c.acttopics.map Prod.fst) :
    Bindings (base + plainFilter topic actonly) (c.subscribe topic cb actonly) := by
  obtain ⟨hsock, hact⟩ := h
  have hopen : ({ c with subscribers := c.subscribers ++ [(topic, cb)] }).sockRecv.isSome := by
    simp [hsock]
  unfold subscribe
  rw [netSubscribe_default hopen]
  cases actonly with
  | false =>
    refine ⟨?_, by simpa using hact⟩
    simp only [Bool.false_eq_true, if_false, addFilter_sockRecv, hsock, Option.map_some',
      addFilter_acttopics, addFilter_actId, plainFilter]
    rw [add_left_comm, add_assoc]
  | true =>
    refine ⟨?_, by simpa using hact⟩
    simp only [if_true, addFilter_sockRecv, hsock, Option.map_some', addFilter_acttopics,
      addFilter_actId, actAdd_of_not_mem (hnew rfl), plainFilter, add_zero, activeFilters,
      actPairs, List.flatMap_append, pairFilters_append]
    cases hid : c.actId with
    | none => simp [keyFilters, pairFilters]
    | some a =>
      cases hk : subscriptionKey topic (.bytes a) (.str "") <;>
        simp [keyFilters, pairFilters, hk, add_comm, add_left_comm]

/-- **A control frame keeps the bindings invariant**: discovery changes only the node and
server sets, except that the first node is auto-selected through `actnode`. -/
theorem processSubscriptionMessage_bindings {base : Multiset Bytes} {c : BlueSkyClient}
    (h : Bindings base c) (msg : Bytes) : Bindings base (c.processSubscriptionMessage msg).1 := by
  rw [processSubscriptionMessage_eq]
  cases announcement msg with
  | nodeUp id =>
    simp only [announce]
    by_cases hnew : id ∈ c.nodes
    · simpa [hnew] using h
    · simp only [hnew, not_false_eq_true, if_true]
      split_ifs
      · simp only [emitNodeAdded]
        rw [onNodeAddedRequestData_eq]
        split_ifs
        · exact actnode_bindings (c := { c with nodes := insert id c.nodes }) h id
        · exact h
      · exact h
  | serverUp id | nodeDown id | serverDown id =>
    simp only [announce]; split_ifs <;> exact h
  | ignored => exact h

theorem processSubscriptionMessage_acttopics (c : BlueSkyClient) (msg : Bytes) :
    (c.processSubscriptionMessage msg).1.acttopics = c.acttopics := by
  rw [processSubscriptionMessage_eq]
  cases announcement msg with
  | nodeUp id =>
    simp only [announce]
    by_cases hnew : id ∈ c.nodes
    · simp [hnew]
    · simp only [hnew, not_false_eq_true, if_true]
      split_ifs
      · simp only [emitNodeAdded]
        rw [onNodeAddedRequestData_eq]
        split_ifs
        · exact actnode_acttopics { c with nodes := insert id c.nodes } id
        · rfl
      · rfl
  | serverUp id | nodeDown id | serverDown id => simp only [announce]; split_ifs <;> rfl
  | ignored => rfl

end BlueSkyClient

/-- The topics that `ops` subscribe with `actonly`. -/
def actonlyTopics : List ClientOp → List String
  | [] => []
  | .subscribe t _ true :: ops => t :: actonlyTopics ops
  | _ :: ops => actonlyTopics ops

/-- The filters that the plain subscriptions of `ops` install. -/
def plainFilters : List ClientOp → Multiset Bytes
  | [] => 0
  | .subscribe t _ actonly :: ops => plainFilter t actonly + plainFilters ops
  | _ :: ops => plainFilters ops

namespace BlueSkyClient

/-- A step records a new active-only topic only through `subscribe(..., actonly=True)`. -/
theorem perform_acttopics {c : BlueSkyClient} {op : ClientOp} {t : String}
    (h : t ∈ (c.perform op).1.acttopics.map Prod.fst) :
    t ∈ c.acttopics.map Prod.fst ∨ t ∈ actonlyTopics [op] := by
  cases op with
  | subscribe topic cb actonly =>
    simp only [perform, subscribe] at h
    cases hs : c.sockRecv with
    | none => exact .inl (by simpa [netSubscribe, hs] using h)
    | some F =>
      rw [netSubscribe_default (by simp [hs])] at h
      cases actonly
      · exact .inl (by simpa using h)
      · exact (mem_actAdd (by simpa using h)).imp_right (by simp [actonlyTopics])
  | control frame => exact .inl (by simpa [perform, processSubscriptionMessage_acttopics] using h)
  | actnode id => exact .inl (by simpa [perform, actnode_acttopics] using h)

/-- One step keeps the invariant, adding the step's plain filter to the other bindings. -/
theorem perform_bindings {base : Multiset Bytes} {c : BlueSkyClient} (h : Bindings base c)
    (op : ClientOp) (hnew : ∀ t ∈ actonlyTopics [op], t ∉ c.acttopics.map Prod.fst) :
    Bindings (base + plainFilters [op]) (c.perform op).1 := by
  cases op with
  | subscribe topic cb actonly =>
    simpa [plainFilters] using subscribe_bindings h topic cb actonly fun ha =>
      hnew topic (by simp [actonlyTopics, ha])
  | control frame => simpa [plainFilters] using processSubscriptionMessage_bindings h frame
  | actnode id => simpa [plainFilters] using actnode_bindings h id

/-- Every run keeps the invariant when each active-only topic is subscribed once. -/
theorem run_bindings : ∀ (ops : List ClientOp) {base : Multiset Bytes} {c : BlueSkyClient},
    Bindings base c → (actonlyTopics ops).Nodup →
      (∀ t ∈ actonlyTopics ops, t ∉ c.acttopics.map Prod.fst) →
      Bindings (base + plainFilters ops) (c.run ops)
  | [], _, _, h, _, _ => by simpa [plainFilters] using h
  | op :: ops, base, c, h, hnodup, hnew => by
    have hsplit : actonlyTopics (op :: ops) = actonlyTopics [op] ++ actonlyTopics ops := by
      cases op with
      | subscribe t cb actonly => cases actonly <;> rfl
      | _ => rfl
    have hplain : plainFilters (op :: ops) = plainFilters [op] + plainFilters ops := by
      cases op <;> simp [plainFilters]
    rw [hsplit, List.nodup_append] at hnodup
    have hstep := perform_bindings h op fun t ht =>
      hnew t (by rw [hsplit]; exact List.mem_append.mpr (.inl ht))
    have hrest := run_bindings ops hstep hnodup.2.1 fun t ht hmem =>
      (perform_acttopics hmem).elim (hnew t (by rw [hsplit]; exact List.mem_append.mpr (.inr ht)))
        fun hop => hnodup.2.2 hop ht
    simpa [run, hplain, add_assoc] using hrest

/-- The fresh connected client holds only its announcement and no binding. -/
theorem opened_bindings (rnd : Nat → UInt8) :
    Bindings (keyFilters (subscriptionKey "" (.str "") (.bytes (clientNodeId rnd))))
      (opened rnd) := by
  refine ⟨?_, by simp [opened, connect, new, netSubscribe_actId]⟩
  simp [opened, connect, new, netSubscribe, addFilter_sockRecv, activeFilters, pairFilters]

end BlueSkyClient

/-- **Active-only bindings always follow the active node.** On a freshly connected client,
after any sequence of subscriptions (each active-only topic subscribed once, as
`register_subscribers` does), control frames and `actnode` calls, the SUB socket holds the
client's announcement, one filter per plain subscription, and exactly one instance of
`ljust(G, IDLEN, '*') + T + act_id` for each recorded pair `(T, G)` while a node is active,
and none while `act_id` is `None`. -/
theorem activeOnly_filters_follow_active (rnd : Nat → UInt8) (ops : List ClientOp)
    (hops : (actonlyTopics ops).Nodup) :
    ((BlueSkyClient.opened rnd).run ops).sockRecv =
      some (keyFilters (subscriptionKey "" (.str "") (.bytes (clientNodeId rnd))) +
        plainFilters ops + activeFilters ((BlueSkyClient.opened rnd).run ops).acttopics
          ((BlueSkyClient.opened rnd).run ops).actId) :=
  (BlueSkyClient.run_bindings ops (BlueSkyClient.opened_bindings rnd) hops
    (fun _ _ h => by simp [BlueSkyClient.opened, BlueSkyClient.connect, BlueSkyClient.new,
      BlueSkyClient.netSubscribe] at h)).1

/-- The law on `register_subscribers`' two active-only topics, a discovered node and two
selections, one of them rejected. -/
theorem activeOnly_filters_follow_active_registered :
    let ops := [ClientOp.subscribe "ACDATA" .onAcdataReceived true,
      .subscribe "SIMINFO" .onSiminfoReceived false, .control [1, 83, 1, 1, 1, 129],
      .subscribe "ROUTEDATA" .onRoutedataReceived true, .actnode [78, 2, 2, 2, 130],
      .control [1, 83, 1, 1, 1, 130], .actnode [83, 1, 1, 1, 130]]
    (actonlyTopics ops).Nodup ∧
      ((BlueSkyClient.opened fun _ => 0).run ops).sockRecv =
        some (keyFilters (subscriptionKey "" (.str "") (.bytes (clientNodeId fun _ => 0))) +
          plainFilters ops + activeFilters ((BlueSkyClient.opened fun _ => 0).run ops).acttopics
            ((BlueSkyClient.opened fun _ => 0).run ops).actId) :=
  ⟨by decide, activeOnly_filters_follow_active _ _ (by decide)⟩

end WebATM
