import WebATM.Client.Dispatch

/-!
# The dispatch context

`_process_data_message` reads a frame's topic, payload and sender from its header, and
only a shared-state frame whose payload is an `[action, body]` pair writes the client's
dispatch context. This file names these parts of a frame and states, once, what dispatch
does to the client: it changes at most the context, a pair sets it to the pair's action and
the frame's sender, and every other frame leaves it as an earlier frame set it.
-/

namespace WebATM

namespace DataMsg

/-- The sender `_process_data_message` reads: the last `IDLEN` bytes of the header. -/
def sender (m : DataMsg) : Bytes := m.header.drop (m.header.length - idlen)

/-- The topic and payload `_process_data_message` dispatches; `none` for a short header, a
topic that is not UTF-8 or is empty, and a payload that does not decode. -/
def topicAndData (m : DataMsg) : Option (String × Value) :=
  if m.header.length < idlen * 2 then none
  else
    match utf8Decode ((m.header.drop idlen).take (m.header.length - 2 * idlen)), m.payload with
    | some topic, some data => if topic = "" then none else some (topic, data)
    | _, _ => none

/-- A shared-state frame whose payload is an `[action, body]` pair: its topic, action and
body. -/
def sharedPair (m : DataMsg) : Option (String × Value × Value) :=
  match m.topicAndData with
  | some (topic, .list [action, body]) =>
    if isSharedStateTopic topic then some (topic, action, body) else none
  | _ => none

/-- Whether a frame is not a `POLY` frame, or is one whose payload is an `[action, body]`
pair. -/
def polyPaired (m : DataMsg) : Bool :=
  match m.topicAndData with
  | some (topic, data) => topic != "POLY" || (data matches .list [_, _])
  | none => true

/-- A frame that is dispatched has a sender. -/
theorem sender_ne_nil {m : DataMsg} {topic : String} {data : Value}
    (h : m.topicAndData = some (topic, data)) : m.sender ≠ [] := by
  unfold topicAndData at h
  split_ifs at h with hl
  intro hs
  have := congrArg List.length hs
  simp only [sender, List.length_drop, List.length_nil] at this
  simp only [idlen] at hl this
  omega

/-- A `POLY` frame of a run whose `POLY` frames are pairs is a shared-state pair. -/
theorem sharedPair_of_polyPaired {m : DataMsg} {data : Value} (hm : m.polyPaired = true)
    (h : m.topicAndData = some ("POLY", data)) : ∃ a b, m.sharedPair = some ("POLY", a, b) := by
  unfold polyPaired at hm
  rw [h] at hm
  simp only [bne_self_eq_false, Bool.false_or] at hm
  split at hm
  · rename_i a b
    exact ⟨a, b, by simp [sharedPair, h, isSharedStateTopic]⟩
  · cases hm

end DataMsg

namespace BlueSkyClient

/-- A frame that does not parse is dropped. -/
theorem processDataMessage_of_topicAndData_none {c : BlueSkyClient} {m : DataMsg}
    (h : m.topicAndData = none) : c.processDataMessage m = (c, none) := by
  unfold DataMsg.topicAndData at h
  unfold processDataMessage
  split_ifs at h ⊢ with hl
  · rfl
  · cases ht : utf8Decode ((m.header.drop idlen).take (m.header.length - 2 * idlen)) <;>
      cases hd : m.payload <;> simp_all

/-- A frame that parses is dispatched on its topic, payload and sender. -/
theorem processDataMessage_of_topicAndData {c : BlueSkyClient} {m : DataMsg} {topic : String}
    {data : Value} (h : m.topicAndData = some (topic, data)) :
    c.processDataMessage m =
      match siminfoCall topic m.sender data with
      | some d => (c, some d)
      | none =>
        if isSharedStateTopic topic then c.sharedState topic m.sender data
        else if topic = "ECHO" then (c, some (Delivery.mk topic (echoArgs m.sender data)))
        else (c, (Delivery.mk topic ·) <$> genericArgs data) := by
  unfold DataMsg.topicAndData at h
  unfold processDataMessage
  split_ifs at h with hl
  rw [if_neg hl]
  split at h
  · rename_i topic' data' ht hd
    split_ifs at h with he
    cases h
    simp only [ht, hd]
    rw [if_neg he]
    rfl
  · cases h

/-- A shared-state topic is never a `SIMINFO` call. -/
theorem siminfoCall_of_shared {topic : String} (hs : isSharedStateTopic topic = true)
    (sender : Bytes) (data : Value) : siminfoCall topic sender data = none := by
  unfold siminfoCall
  split
  · rw [if_neg]
    rintro ⟨rfl, -⟩
    exact absurd hs (by decide)
  · rfl

theorem siminfoCall_topic {topic : String} {sender : Bytes} {data : Value} {d : Delivery}
    (h : siminfoCall topic sender data = some d) : d.topic = topic := by
  unfold siminfoCall at h
  split at h
  · split_ifs at h with ht
    cases h
    rfl
  · cases h

/-- After a data frame the client differs at most in its dispatch context: a shared-state
pair sets it to the pair's action and the frame's sender, and any other frame leaves it. -/
theorem processDataMessage_fst (c : BlueSkyClient) (m : DataMsg) :
    (c.processDataMessage m).1 = match m.sharedPair with
      | some (_, action, _) => { c with context := ⟨action, some m.sender⟩ }
      | none => c := by
  cases h : m.topicAndData with
  | none =>
    have hp : m.sharedPair = none := by simp [DataMsg.sharedPair, h]
    simp [processDataMessage_of_topicAndData_none h, hp]
  | some td =>
    obtain ⟨topic, data⟩ := td
    rw [processDataMessage_of_topicAndData h]
    cases hs : isSharedStateTopic topic
    · have hp : m.sharedPair = none := by
        unfold DataMsg.sharedPair
        rw [h]
        split <;> simp_all
      rw [hp]
      split
      · rfl
      · simp only [hs, Bool.false_eq_true, if_false]
        split_ifs <;> rfl
    · rw [siminfoCall_of_shared hs]
      simp only [hs, if_true, sharedState]
      unfold DataMsg.sharedPair
      rw [h]
      split <;> simp_all

theorem processDataMessage_of_sharedPair {c : BlueSkyClient} {m : DataMsg} {topic : String}
    {action body : Value} (h : m.sharedPair = some (topic, action, body)) :
    c.processDataMessage m =
      ({ c with context := ⟨action, some m.sender⟩ }, some ⟨topic, ⟨[body], []⟩⟩) := by
  unfold DataMsg.sharedPair at h
  split at h
  · rename_i topic' a b ht
    split_ifs at h with hs
    cases h
    rw [processDataMessage_of_topicAndData ht, siminfoCall_of_shared hs]
    simp [hs, sharedState]
  · cases h

/-- A delivery carries the frame's topic. -/
theorem topicAndData_of_processDataMessage {c : BlueSkyClient} {m : DataMsg} {d : Delivery}
    (h : (c.processDataMessage m).2 = some d) : ∃ data, m.topicAndData = some (d.topic, data) := by
  cases ht : m.topicAndData with
  | none => simp [processDataMessage_of_topicAndData_none ht] at h
  | some td =>
    obtain ⟨topic, data⟩ := td
    refine ⟨data, ?_⟩
    rw [processDataMessage_of_topicAndData ht] at h
    split at h
    · cases h
      rename_i hd
      rw [siminfoCall_topic hd]
    · split_ifs at h
      · unfold sharedState at h
        split at h <;> (cases h; rfl)
      · cases h; rfl
      · obtain ⟨_, -, rfl⟩ := Option.map_eq_some'.mp h
        rfl

theorem subscribers_processDataMessage (c : BlueSkyClient) (m : DataMsg) :
    (c.processDataMessage m).1.subscribers = c.subscribers := by
  rw [processDataMessage_fst]
  split <;> rfl

theorem subscribers_actnode (c : BlueSkyClient) (n : Bytes) :
    (c.actnode n).1.subscribers = c.subscribers := by
  by_cases hr : n = [] ∨ n ∉ c.nodes ∨ some n = c.actId
  · rw [actnode_of_reject hr]
  · simp only [not_or, not_not] at hr
    rw [actnode_of_switch hr.1 hr.2.1 hr.2.2]
    obtain ⟨tt, F, h⟩ := foldl_rebind_frame c.actId n (actPairs c.acttopics) c.firstSelection
    rw [h]
    unfold firstSelection
    split_ifs <;> rfl

end BlueSkyClient

end WebATM
