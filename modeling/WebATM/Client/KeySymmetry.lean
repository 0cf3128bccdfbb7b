import WebATM.Client.ActiveBindings

/-!
# Subscribe and unsubscribe keys

`_subscribe` takes a filter's source group from its `actonly` argument, while `_unsubscribe`
takes it from whether the topic is a key of `acttopics`; and a key, once added, stays, since
`discard` empties the topic's set but keeps the topic. This file states that registry law over
every history of subscriptions, default-group unsubscriptions, control frames and `actnode`
calls, and the filters each round trip of `subscribe` and `_unsubscribe` leaves. An active-only
round trip, and a plain one on a topic never subscribed active-only, restore the filters. A
plain subscription of a topic that was once subscribed active-only is not removed: the
unsubscription removes the active node's filter instead, or nothing while no node is active.
-/

namespace WebATM

/-- A call of a history on the client: a `ClientOp`, or
`_unsubscribe(topic, GROUPID_DEFAULT, to_group)`. -/
inductive BindingOp where
  | client (op : ClientOp)
  | unsubscribe (topic : String) (toGroup : Tag)

theorem keys_actDiscard (tt : List (String × List Tag)) (topic : String) (g : Tag) :
    (actDiscard tt topic g).map Prod.fst = tt.map Prod.fst := by
  induction tt with
  | nil => rfl
  | cons e rest ih =>
    unfold actDiscard
    split_ifs <;> simp [ih]

theorem mem_actAdd_of_mem {tt : List (String × List Tag)} {t : String} (topic : String) (g : Tag)
    (h : t ∈ tt.map Prod.fst) : t ∈ (actAdd tt topic g).map Prod.fst := by
  induction tt with
  | nil => cases h
  | cons e rest ih =>
    obtain ⟨t', gs⟩ := e
    simp only [List.map_cons, List.mem_cons] at h
    by_cases he : t' = topic
    · simpa only [actAdd, he, if_true, List.map_cons, List.mem_cons] using h
    · simpa only [actAdd, he, if_false, List.map_cons, List.mem_cons] using h.imp_right ih

theorem topic_mem_actAdd (tt : List (String × List Tag)) (topic : String) (g : Tag) :
    topic ∈ (actAdd tt topic g).map Prod.fst := by
  induction tt with
  | nil => simp [actAdd]
  | cons e rest ih =>
    unfold actAdd
    split_ifs <;> simp_all

/-- `topic in self.acttopics`. -/
theorem any_acttopics_iff (tt : List (String × List Tag)) (topic : String) :
    tt.any (·.1 == topic) = true ↔ topic ∈ tt.map Prod.fst := by
  simp [List.any_eq_true]

/-- The key from `GROUPID_SIM`: the binding's prefix, then `b"S"`. -/
theorem subscriptionKey_sim (topic : String) (toGroup : Tag) :
    subscriptionKey topic (.int groupidSim) toGroup = (bindingPrefix topic toGroup).map (· ++ [83]) := by
  unfold subscriptionKey bindingPrefix
  cases asbytestr (.str topic) <;> cases asbytestr toGroup <;> rfl

namespace BlueSkyClient

/-- One call of a history. -/
def bindingStep (c : BlueSkyClient) : BindingOp → BlueSkyClient
  | .client op => (c.perform op).1
  | .unsubscribe topic toGroup => c.netUnsubscribe topic (.int groupidDefault) toGroup

/-- The client after a history. -/
def runBindings (c : BlueSkyClient) (ops : List BindingOp) : BlueSkyClient :=
  ops.foldl bindingStep c

theorem removeFilter_sockRecv (c : BlueSkyClient) (k : Option Bytes) :
    (c.removeFilter k).sockRecv = c.sockRecv.map fun F => k.elim F F.erase := by
  cases k <;> cases hs : c.sockRecv <;> simp [removeFilter, hs]

/-- `_unsubscribe` with the default source group on an open socket: a recorded topic is
discarded from and removed from the active node, if any; any other one is removed from
`GROUPID_SIM`. -/
theorem netUnsubscribe_default {c : BlueSkyClient} (h : c.sockRecv.isSome) (topic : String)
    (toGroup : Tag) :
    c.netUnsubscribe topic (.int groupidDefault) toGroup =
      if topic ∈ c.acttopics.map Prod.fst then
        { c with acttopics := actDiscard c.acttopics topic toGroup }.removeFilter
          (c.actId.bind fun a => subscriptionKey topic (.bytes a) toGroup)
      else c.removeFilter (subscriptionKey topic (.int groupidSim) toGroup) := by
  have hnone : c.sockRecv.isNone = false := by
    simpa [Option.isNone_iff_eq_none, Option.isSome_iff_ne_none] using h
  by_cases ht : topic ∈ c.acttopics.map Prod.fst
  · have hany := (any_acttopics_iff c.acttopics topic).mpr ht
    rw [if_pos ht]
    cases hid : c.actId <;> simp [netUnsubscribe, hnone, hany, hid, removeFilter]
  · have hany := Bool.eq_false_iff.mpr (mt (any_acttopics_iff c.acttopics topic).mp ht)
    rw [if_neg ht]
    simp [netUnsubscribe, hnone, hany]

theorem keys_netUnsubscribe (c : BlueSkyClient) (topic : String) (fromGroup toGroup : Tag) :
    (c.netUnsubscribe topic fromGroup toGroup).acttopics.map Prod.fst = c.acttopics.map Prod.fst := by
  unfold netUnsubscribe
  split_ifs
  · rfl
  · dsimp only
    split <;> simp [keys_actDiscard]
  all_goals simp

theorem mem_netSubscribe_keys {c : BlueSkyClient} {t : String} (h : t ∈ c.acttopics.map Prod.fst)
    (topic : String) (fromGroup toGroup : Tag) (actonly : Bool) :
    t ∈ (c.netSubscribe topic fromGroup toGroup actonly).acttopics.map Prod.fst := by
  unfold netSubscribe
  split_ifs
  · exact h
  · dsimp only
    split <;> simpa using mem_actAdd_of_mem topic toGroup h
  all_goals simpa using h

/-- No call of a history forgets a topic of `acttopics`. -/
theorem bindingStep_recorded {c : BlueSkyClient} {t : String} (h : t ∈ c.acttopics.map Prod.fst) :
    ∀ op : BindingOp, t ∈ (c.bindingStep op).acttopics.map Prod.fst
  | .client (.subscribe topic cb actonly) =>
    mem_netSubscribe_keys (c := { c with subscribers := c.subscribers ++ [(topic, cb)] }) h topic _ _
      actonly
  | .client (.control frame) => by
    simpa [bindingStep, perform, processSubscriptionMessage_acttopics] using h
  | .client (.actnode id) => by simpa [bindingStep, perform, actnode_acttopics] using h
  | .unsubscribe topic toGroup => by rwa [bindingStep, keys_netUnsubscribe]

theorem runBindings_recorded {t : String} :
    ∀ (ops : List BindingOp) (c : BlueSkyClient), t ∈ c.acttopics.map Prod.fst →
      t ∈ (c.runBindings ops).acttopics.map Prod.fst
  | [], _, h => h
  | op :: ops, c, h => runBindings_recorded ops (c.bindingStep op) (bindingStep_recorded h op)

section RoundTrips

variable {c : BlueSkyClient} {F : Multiset Bytes} (hc : c.sockRecv = some F) (topic : String)
  (cb : Callback)
include hc

/-- An active-only subscription and the matching unsubscription leave the filters as they
were. -/
theorem subscribe_actonly_unsubscribe :
    ((c.subscribe topic cb true).netUnsubscribe topic (.int groupidDefault) (.str "")).sockRecv =
      some F := by
  have hopen : ({ c with subscribers := c.subscribers ++ [(topic, cb)] }).sockRecv.isSome := by
    simp [hc]
  unfold subscribe
  rw [netSubscribe_default hopen, if_pos rfl, netUnsubscribe_default (by simp [addFilter_sockRecv, hc]),
    if_pos (by simpa using topic_mem_actAdd c.acttopics topic (.str ""))]
  cases hid : c.actId with
  | none => simp [removeFilter_sockRecv, addFilter_sockRecv, hc, keyFilters, hid]
  | some a =>
    cases hk : subscriptionKey topic (.bytes a) (.str "") <;>
      simp [removeFilter_sockRecv, addFilter_sockRecv, hc, keyFilters, hid, hk]

/-- A plain subscription and the matching unsubscription: the filters are restored when the
topic was never subscribed active-only; otherwise the plain filter stays, and the active
node's filter is removed in its place. -/
theorem subscribe_plain_unsubscribe {pre : Bytes} (hpre : bindingPrefix topic (.str "") = some pre) :
    ((c.subscribe topic cb false).netUnsubscribe topic (.int groupidDefault) (.str "")).sockRecv =
      if topic ∈ c.acttopics.map Prod.fst then
        some (c.actId.elim ((pre ++ [83]) ::ₘ F) fun a => ((pre ++ [83]) ::ₘ F).erase (pre ++ a))
      else some F := by
  have hopen : ({ c with subscribers := c.subscribers ++ [(topic, cb)] }).sockRecv.isSome := by
    simp [hc]
  unfold subscribe
  rw [netSubscribe_default hopen, if_neg Bool.false_ne_true,
    netUnsubscribe_default (by simp [addFilter_sockRecv, hc])]
  simp only [addFilter_acttopics, addFilter_actId]
  split_ifs <;> cases c.actId <;>
    simp [removeFilter_sockRecv, addFilter_sockRecv, hc, keyFilters, subscriptionKey_sim,
      subscriptionKey_bytes, hpre]

end RoundTrips

end BlueSkyClient

/-- **Unsubscribe keys follow the registry, not the binding.** Over any history, a topic once
recorded in `acttopics` stays recorded. An active-only `subscribe` and the matching
`_unsubscribe(T, GROUPID_DEFAULT, "")` restore the filters. A plain `subscribe` and the matching
unsubscription restore them only while `T` was never recorded; once it was, the plain filter
`ljust("") + T + b"S"` stays, and the unsubscription removes `ljust("") + T + act_id` in its
place, or nothing while no node is active. -/
theorem unsubscribe_keys_follow_the_registry :
    (∀ (ops : List BindingOp) (c : BlueSkyClient) (topic : String),
      topic ∈ c.acttopics.map Prod.fst → topic ∈ (c.runBindings ops).acttopics.map Prod.fst) ∧
    (∀ (c : BlueSkyClient) (F : Multiset Bytes) (topic : String) (cb : Callback),
      c.sockRecv = some F →
      ((c.subscribe topic cb true).netUnsubscribe topic (.int groupidDefault) (.str "")).sockRecv =
        some F) ∧
    ∀ (c : BlueSkyClient) (F : Multiset Bytes) (topic : String) (cb : Callback) (pre : Bytes),
      c.sockRecv = some F → bindingPrefix topic (.str "") = some pre →
      ((c.subscribe topic cb false).netUnsubscribe topic (.int groupidDefault) (.str "")).sockRecv =
        if topic ∈ c.acttopics.map Prod.fst then
          some (c.actId.elim ((pre ++ [83]) ::ₘ F) fun a => ((pre ++ [83]) ::ₘ F).erase (pre ++ a))
        else some F :=
  ⟨fun ops c _ h => BlueSkyClient.runBindings_recorded ops c h,
    fun _ _ topic cb hc => BlueSkyClient.subscribe_actonly_unsubscribe hc topic cb,
    fun _ _ topic cb _ hc hpre => BlueSkyClient.subscribe_plain_unsubscribe hc topic cb hpre⟩

/-- On a freshly connected client with no active node, `subscribe("ACDATA", cb, True)` records
the topic, so after `subscribe("ACDATA", cb', False)` the unsubscription leaves the plain filter
`*****ACDATAS` installed. -/
theorem unsubscribe_keys_follow_the_registry_on_acdata :
    ∃ F, ((BlueSkyClient.opened fun _ => 0).subscribe "ACDATA" .onAcdataReceived true).sockRecv = some F ∧
      ((((BlueSkyClient.opened fun _ => 0).subscribe "ACDATA" .onAcdataReceived true).subscribe "ACDATA"
        .onRoutedataReceived false).netUnsubscribe "ACDATA" (.int groupidDefault) (.str "")).sockRecv =
        some ([42, 42, 42, 42, 42, 65, 67, 68, 65, 84, 65, 83] ::ₘ F) := by
  refine ⟨_, rfl, ?_⟩
  rw [unsubscribe_keys_follow_the_registry.2.2 _ _ "ACDATA" .onRoutedataReceived
    [42, 42, 42, 42, 42, 65, 67, 68, 65, 84, 65] rfl rfl]
  rfl

/-- Distinct bindings can share a key: `subscribe("AB", cb, False)` installs `*****ABS`, and
`_unsubscribe("B", GROUPID_DEFAULT, "*****A")` on an unrecorded topic removes the same bytes. -/
example : subscriptionKey "AB" (.int groupidSim) (.str "") =
    subscriptionKey "B" (.int groupidSim) (.str "*****A") := by
  decide

end WebATM
