import WebATM.Proxy.ShapeStores
import WebATM.Client.Context

/-!
# Shape stores and the dispatch context

`on_poly_received` files a `POLY` body under the sender of the client's dispatch context,
and `on_reset_received` drops the shapes of that sender and, by design, of the active node.
Both mean the frame's own sender. The context, though, is set only by a shared-state frame
whose payload is an `[action, body]` pair, and it stays until the next such frame, so a
frame of another form, every `RESET` frame among them, is handled with the sender of an
earlier frame. This file runs the proxy over data frames and consumers' choices of active
node. Where every `POLY` frame is a pair, a shape stored under a node's key, or pushed while
that node is active, arrived in a `POLY` frame from that node; but a `RESET` frame writes the
stores at the latest pair's sender, whoever sent it.
-/

namespace WebATM

namespace DataMsg

/-- The polygons (`.1`) and polylines (`.2`) a frame brings for the node with key `key`:
those of the body of a `POLY` pair from that node, as `on_poly_received` converts and
splits it. -/
def arrived (m : DataMsg) (key : String) : List (Key × Value) × List (Key × Value) :=
  match m.sharedPair with
  | some ("POLY", _, body) =>
    match makeJsonSerializable body with
    | some pd =>
      if hex m.sender = key then
        (shapesOf (separatePolyAndPolylineData pd).1, shapesOf (separatePolyAndPolylineData pd).2)
      else ([], [])
    | none => ([], [])
  | _ => ([], [])

/-- The shapes a frame brings lie within the bounds of the key they are brought for. -/
def Within (m : DataMsg) (B₁ B₂ : String → Key × Value → Prop) : Prop :=
  ∀ key, (∀ e ∈ (m.arrived key).1, B₁ key e) ∧ ∀ e ∈ (m.arrived key).2, B₂ key e

end DataMsg

/-- What one event does to the shape stores: it writes them only at `keys`, keeps them
bounded by `B₁` and `B₂`, and pushes only shapes within the bounds of the safe active node
it leaves. -/
structure EventStep (p q : Proxy) (keys : List String) (B₁ B₂ : String → Key × Value → Prop) :
    Prop where
  poly : OnlyAt p.polyDataByNode q.polyDataByNode keys
  polyline : OnlyAt p.polylineDataByNode q.polylineDataByNode keys
  bounded : StoresBounded p B₁ B₂ →
    StoresBounded q B₁ B₂ ∧ PushesWithin p q (q.activeBound B₁) (q.activeBound B₂)

namespace EventStep

variable {p p' q : Proxy} {keys : List String} {B₁ B₂ : String → Key × Value → Prop}

/-- A step that writes no store. -/
theorem of_stores (hs : q.stores = p.stores)
    (hp : StoresBounded p B₁ B₂ → PushesWithin p q (q.activeBound B₁) (q.activeBound B₂)) :
    EventStep p q keys B₁ B₂ := by
  have h₁ : q.polyDataByNode = p.polyDataByNode := congrArg Prod.fst hs
  have h₂ : q.polylineDataByNode = p.polylineDataByNode := congrArg Prod.snd hs
  exact ⟨fun k _ => by rw [h₁], fun k _ => by rw [h₂], fun hb => ⟨hb.of_stores hs, hp hb⟩⟩

/-- A step after which the handlers run on an unchanged safe active node. -/
theorem of_shapeStep (h : ShapeStep p q keys B₁ B₂) : EventStep p q keys B₁ B₂ :=
  ⟨h.poly, h.polyline, fun hb => by
    rw [Proxy.activeBound_of_core h.core, Proxy.activeBound_of_core h.core]
    exact h.bounded hb⟩

/-- A step that starts by changing neither the stores nor the pushes. -/
theorem congr_left (h : EventStep p' q keys B₁ B₂) (hs : p'.stores = p.stores)
    (hp : p'.pushes = p.pushes) : EventStep p q keys B₁ B₂ := by
  have h₁ : p'.polyDataByNode = p.polyDataByNode := congrArg Prod.fst hs
  have h₂ : p'.polylineDataByNode = p.polylineDataByNode := congrArg Prod.snd hs
  refine ⟨h₁ ▸ h.poly, h₂ ▸ h.polyline, fun hb => ?_⟩
  obtain ⟨hq, L, hL, hx⟩ := h.bounded ⟨h₁ ▸ hb.poly, h₂ ▸ hb.polyline⟩
  exact ⟨hq, L, hp ▸ hL, hx⟩

end EventStep

namespace Proxy

/-- Every handler of the client was installed by `register_subscribers`, under its topic. -/
def SubscribedFromTable (p : Proxy) : Prop :=
  ∀ c ∈ p.client, ∀ x ∈ c.subscribers, ∃ a, (x.1, x.2, a) ∈ subscriptions

/-- The table subscribes `on_poly_received` to `POLY` only. -/
theorem poly_topic_of_subscribed {c : BlueSkyClient}
    (h : ∀ x ∈ c.subscribers, ∃ a, (x.1, x.2, a) ∈ subscriptions) {topic : String}
    (hm : Callback.onPolyReceived ∈ c.subscribersOf topic) : topic = "POLY" := by
  obtain ⟨x, hx, hcb⟩ := List.mem_map.mp hm
  obtain ⟨hx, ht⟩ := List.mem_filter.mp hx
  obtain ⟨a, ha⟩ := h x hx
  have htable : ∀ s ∈ subscriptions, s.2.1 = .onPolyReceived → s.1 = "POLY" := by decide
  rw [← of_decide_eq_true ht]
  exact htable _ ha hcb

section Events

variable (p : Proxy) (now : Int) {B₁ B₂ : String → Key × Value → Prop}

/-- A data frame: the handlers run on the context the frame leaves, so they write the stores
only at that context's sender and the safe active node. -/
theorem eventStep_dataMessage (m : DataMsg)
    (hpoly : ∀ c ∈ p.client, ∀ d ∈ (c.processDataMessage m).2,
      Callback.onPolyReceived ∈ (c.processDataMessage m).1.subscribersOf d.topic → ∀ x,
        Callback.onPolyReceived.signature.bind d.args = some [x] →
          PolyWithin { p with client := some (c.processDataMessage m).1 }.contextSender x B₁ B₂) :
    EventStep p (p.dataMessage now m) (p.dataMessage now m).shapeKeys B₁ B₂ := by
  unfold dataMessage
  split
  · exact .of_shapeStep .refl
  rename_i c hc
  dsimp only
  split
  · rename_i d hd
    have hs := shapeStep_deliver { p with client := some (c.processDataMessage m).1 } now d
      ((c.processDataMessage m).1.subscribersOf d.topic)
      (hpoly c hc d hd)
    rw [← shapeKeys_of_core hs.core] at hs
    exact (EventStep.of_shapeStep hs).congr_left rfl rfl
  · exact (EventStep.of_shapeStep .refl).congr_left rfl rfl

/-- Where the frame's handlers are installed from the table and every `POLY` frame is an
`[action, body]` pair, the handlers keep the stores within any bounds the frame's shapes
are within. -/
theorem eventStep_dataMessage_within (m : DataMsg) (hsub : p.SubscribedFromTable)
    (hm : m.polyPaired = true) (hw : m.Within B₁ B₂) :
    EventStep p (p.dataMessage now m) (p.dataMessage now m).shapeKeys B₁ B₂ := by
  refine eventStep_dataMessage p now m fun c hc d hd hmem x hx => ?_
  have htopic := poly_topic_of_subscribed
    (BlueSkyClient.subscribers_processDataMessage c m ▸ hsub c hc) hmem
  obtain ⟨data, ht⟩ := BlueSkyClient.topicAndData_of_processDataMessage hd
  rw [htopic] at ht
  obtain ⟨a, b, hp⟩ := DataMsg.sharedPair_of_polyPaired hm ht
  rw [BlueSkyClient.processDataMessage_of_sharedPair hp] at hd ⊢
  cases Option.some.inj hd
  cases List.cons.inj (Option.some.inj hx) |>.1
  intro s hs pd hpd
  simp only [contextSender, Option.bind, ne_eq, DataMsg.sender_ne_nil ht, not_false_eq_true,
    if_true, Option.mem_def, Option.some.injEq] at hs
  subst hs
  simpa [DataMsg.arrived, hp, hpd] using hw (hex m.sender)

/-- One half of `_emit_active_node_poly_data` pushes the active node's stored value, whose
shapes lie within that node's bound. -/
theorem emitActiveShapes_spec {event : String} {store : List (String × Value)} {q : Proxy}
    {B : String → Key × Value → Prop} (hb : Bounded store B)
    (h : p.emitActiveShapes event store = some q) :
    ∃ d, q = p.broadcast event d ∧ ∀ e ∈ shapesOf d, p.activeBound B e := by
  unfold emitActiveShapes at h
  split at h
  · rename_i d hd
    obtain ⟨Y, hY, hg⟩ := Option.bind_eq_some.mp hd
    split at h
    · split_ifs at h
      cases h
      exact ⟨d, rfl, fun e he => ⟨Y, hY, hb.assocGet hg e he⟩⟩
    · cases h
  · cases h
    exact ⟨_, rfl, by simp⟩

theorem pushesWithin_emitActiveNodePolyData (hb : StoresBounded p B₁ B₂) :
    PushesWithin p p.emitActiveNodePolyData (p.activeBound B₁) (p.activeBound B₂) := by
  unfold emitActiveNodePolyData
  split
  · rename_i q hq
    obtain ⟨d, rfl, hd⟩ := emitActiveShapes_spec p hb.poly hq
    have h₁ : PushesWithin p (p.broadcast "poly" d) (p.activeBound B₁) (p.activeBound B₂) :=
      .broadcast _ _ (fun _ => hd) (fun h => absurd h (by decide))
    cases hl : (p.broadcast "poly" d).emitActiveShapes "polyline"
        (p.broadcast "poly" d).polylineDataByNode with
    | none => exact h₁
    | some r =>
      obtain ⟨d', rfl, hd'⟩ := emitActiveShapes_spec _ hb.polyline hl
      exact h₁.trans (.broadcast _ _ (fun h => absurd h (by decide)) fun _ => hd')
  · exact .of_pushes rfl

theorem pushesWithin_onActnodeChanged (hb : StoresBounded p B₁ B₂) :
    PushesWithin p p.onActnodeChanged (p.activeBound B₁) (p.activeBound B₂) := by
  unfold onActnodeChanged
  split
  · exact (PushesWithin.broadcast _ _ (fun h => absurd h (by decide))
      (fun h => absurd h (by decide))).trans
      (pushesWithin_emitActiveNodePolyData p.emitNodeInfo ⟨hb.poly, hb.polyline⟩)
  · exact .of_pushes rfl

theorem pushesWithin_runSlots {sigs : List Signal} (h : ∀ s ∈ sigs, ∃ a, s = .actnodeChanged a)
    (hb : StoresBounded p B₁ B₂) :
    PushesWithin p (p.runSlots now sigs) (p.activeBound B₁) (p.activeBound B₂) := by
  induction sigs generalizing p with
  | nil => exact .of_pushes rfl
  | cons s rest ih =>
    obtain ⟨a, rfl⟩ := h s (List.mem_cons_self _ _)
    have hq := pushesOnly_onActnodeChanged p
    have h₂ := ih p.onActnodeChanged (fun s hs => h s (List.mem_cons_of_mem _ hs))
      (hb.of_stores hq.stores)
    rw [activeBound_of_core hq.core, activeBound_of_core hq.core] at h₂
    exact (pushesWithin_onActnodeChanged p hb).trans h₂

/-- A choice of active node writes no store, and pushes only the stores of the node it
makes active. -/
theorem eventStep_actnode (n : Bytes) {keys : List String} :
    EventStep p (p.actnode n now) keys B₁ B₂ := by
  unfold actnode
  split
  · rename_i c hc
    dsimp only
    have hq := pushesOnly_runSlots { p with client := some (c.actnode n).1 } now
      (BlueSkyClient.actnode_signals c n)
    refine .of_stores hq.stores fun hb => ?_
    rw [activeBound_of_core hq.core, activeBound_of_core hq.core]
    exact pushesWithin_runSlots _ now (BlueSkyClient.actnode_signals c n) ⟨hb.poly, hb.polyline⟩
  · exact .of_stores rfl fun _ => .of_pushes rfl

theorem eventStep_onSetActiveNode (data : Value) {keys : List String} :
    EventStep p (p.onSetActiveNode data now) keys B₁ B₂ := by
  unfold onSetActiveNode
  repeat' split
  all_goals first
    | exact eventStep_actnode p now _
    | exact .of_stores rfl fun _ => .of_pushes rfl

/-- Any data frame writes the stores only at the sender of the context it leaves and at the
safe active node. -/
theorem dataMessage_onlyAt (m : DataMsg) :
    OnlyAt p.polyDataByNode (p.dataMessage now m).polyDataByNode (p.dataMessage now m).shapeKeys ∧
      OnlyAt p.polylineDataByNode (p.dataMessage now m).polylineDataByNode
        (p.dataMessage now m).shapeKeys :=
  have h : EventStep p (p.dataMessage now m) _ (fun _ _ => True) (fun _ _ => True) :=
    eventStep_dataMessage p now m fun _ _ _ _ _ _ _ _ _ _ _ => ⟨fun _ _ => trivial, fun _ _ => trivial⟩
  ⟨h.poly, h.polyline⟩

theorem client_dataMessage (m : DataMsg) :
    (p.dataMessage now m).client = p.client.map fun c => (c.processDataMessage m).1 := by
  unfold dataMessage
  split
  · rename_i hc
    rw [hc]
    rfl
  · rename_i c hc
    rw [hc]
    dsimp only
    split
    · exact congrArg Core.client (core_deliver ..)
    · rfl

/-- Any other frame leaves the context as it was. -/
theorem contextSender_dataMessage_of_not_sharedPair {m : DataMsg} (h : m.sharedPair = none) :
    (p.dataMessage now m).contextSender = p.contextSender := by
  unfold contextSender
  rw [client_dataMessage]
  cases p.client with
  | none => rfl
  | some c => rw [Option.map_some', BlueSkyClient.processDataMessage_fst, h]

theorem client_actnode (n : Bytes) :
    (p.actnode n now).client = p.client.map fun c => (c.actnode n).1 := by
  unfold actnode
  split
  · rename_i c hc
    rw [hc]
    exact (pushesOnly_runSlots _ now (BlueSkyClient.actnode_signals c n)).client
  · rename_i hc
    rw [hc]
    rfl

end Events

namespace SubscribedFromTable

variable {p : Proxy}

theorem dataMessage (h : p.SubscribedFromTable) (now : Int) (m : DataMsg) : (p.dataMessage now m).SubscribedFromTable := by
  intro c hc
  rw [client_dataMessage] at hc
  obtain ⟨c', hc', rfl⟩ := Option.map_eq_some'.mp hc
  rw [BlueSkyClient.subscribers_processDataMessage]
  exact h c' hc'

theorem actnode (h : p.SubscribedFromTable) (now : Int) (n : Bytes) :
    (p.actnode n now).SubscribedFromTable := by
  intro c hc
  rw [client_actnode] at hc
  obtain ⟨c', hc', rfl⟩ := Option.map_eq_some'.mp hc
  rw [BlueSkyClient.subscribers_actnode]
  exact h c' hc'

theorem onSetActiveNode (h : p.SubscribedFromTable) (now : Int) (data : Value) :
    (p.onSetActiveNode data now).SubscribedFromTable := by
  unfold Proxy.onSetActiveNode
  repeat' split
  all_goals first | exact h.actnode now _ | exact h

end SubscribedFromTable

end Proxy

/-- An event that reaches the shape stores: a data frame, or a consumer's choice of active
node (`set_active_node`), each at a time. -/
inductive ShapeEvent where
  | frame (now : Int) (m : DataMsg)
  | select (now : Int) (data : Value)

namespace ShapeEvent

/-- The polygons and polylines an event brings for a key. -/
def arrived : ShapeEvent → String → List (Key × Value) × List (Key × Value)
  | .frame _ m, key => m.arrived key
  | .select .., _ => ([], [])

/-- Whether an event is not a `POLY` frame, or is one whose payload is a pair. -/
def polyPaired : ShapeEvent → Bool
  | .frame _ m => m.polyPaired
  | .select .. => true

/-- The shapes an event brings lie within the bounds of the key they are brought for. -/
def Within (e : ShapeEvent) (B₁ B₂ : String → Key × Value → Prop) : Prop :=
  ∀ key, (∀ x ∈ (e.arrived key).1, B₁ key x) ∧ ∀ x ∈ (e.arrived key).2, B₂ key x

end ShapeEvent

/-- The polygons the events brought for `key`. -/
def arrivedPolys (evs : List ShapeEvent) (key : String) (x : Key × Value) : Prop :=
  x ∈ evs.flatMap fun e => (e.arrived key).1

/-- The polylines the events brought for `key`. -/
def arrivedLines (evs : List ShapeEvent) (key : String) (x : Key × Value) : Prop :=
  x ∈ evs.flatMap fun e => (e.arrived key).2

theorem ShapeEvent.within_arrived {evs : List ShapeEvent} {e : ShapeEvent} (he : e ∈ evs) :
    e.Within (arrivedPolys evs) (arrivedLines evs) :=
  fun _ => ⟨fun _ hx => List.mem_flatMap.mpr ⟨e, he, hx⟩, fun _ hx => List.mem_flatMap.mpr ⟨e, he, hx⟩⟩

namespace Proxy

/-- An event's effect on the proxy. -/
def feed (p : Proxy) : ShapeEvent → Proxy
  | .frame now m => p.dataMessage now m
  | .select now data => p.onSetActiveNode data now

/-- The events' effect, in order. -/
def feedAll (p : Proxy) (evs : List ShapeEvent) : Proxy := evs.foldl feed p

variable {B₁ B₂ : String → Key × Value → Prop}

theorem SubscribedFromTable.feed {p : Proxy} (h : p.SubscribedFromTable) :
    ∀ e, (p.feed e).SubscribedFromTable
  | .frame now m => h.dataMessage now m
  | .select now data => h.onSetActiveNode now data

/-- One event, where the handlers come from the table and a `POLY` frame is a pair within
the bounds. -/
theorem eventStep_feed (p : Proxy) (e : ShapeEvent) (hsub : p.SubscribedFromTable)
    (he : e.polyPaired = true ∧ e.Within B₁ B₂) : EventStep p (p.feed e) (p.feed e).shapeKeys B₁ B₂ := by
  cases e with
  | frame now m => exact eventStep_dataMessage_within p now m hsub he.1 he.2
  | select now data => exact eventStep_onSetActiveNode p now data

/-- A run keeps the handlers and keeps the stores bounded. -/
theorem feedAll_bounded (evs : List ShapeEvent) : ∀ p : Proxy, p.SubscribedFromTable →
    StoresBounded p B₁ B₂ → (∀ e ∈ evs, e.polyPaired = true ∧ e.Within B₁ B₂) →
    (p.feedAll evs).SubscribedFromTable ∧ StoresBounded (p.feedAll evs) B₁ B₂ := by
  induction evs with
  | nil => exact fun p hs hb _ => ⟨hs, hb⟩
  | cons e rest ih =>
    intro p hs hb hev
    exact ih (p.feed e) (hs.feed e)
      ((eventStep_feed p e hs (hev e (List.mem_cons_self _ _))).bounded hb).1
      fun x hx => hev x (List.mem_cons_of_mem _ hx)

/-! ### Two nodes, frames from each -/

/-- A data frame's header: a group, the topic and the sender. -/
def frameHeader (topic sender : Bytes) : Bytes := [42, 42, 42, 42, 42] ++ topic ++ sender

def nodeA : Bytes := [83, 65, 65, 65, 129]

def nodeB : Bytes := [83, 65, 65, 65, 130]

/-- A `POLY` body with one polygon `name`. -/
def polyBody (name : String) : Value :=
  .dict [(.str "polys", .dict [(.str name, .dict [(.str "shape", .str "POLY")])])]

/-- A `POLY` pair from `sender`, with polygon `Z`. -/
def polyFrame (sender : Bytes) : DataMsg :=
  ⟨frameHeader [80, 79, 76, 89] sender, some (.list [.str "UPDATE", polyBody "Z"])⟩

/-- A `POLY` frame from `sender` whose payload, polygon `W`, is not a pair. -/
def bareFrame (sender : Bytes) : DataMsg :=
  ⟨frameHeader [80, 79, 76, 89] sender, some (polyBody "W")⟩

/-- A `RESET` frame from `sender`. -/
def resetFrame (sender : Bytes) : DataMsg :=
  ⟨frameHeader [82, 69, 83, 69, 84] sender, some (.str "")⟩

/-- An `ACDATA` frame from `sender`. -/
def acdataFrame (sender : Bytes) (payload : Value) : DataMsg :=
  ⟨frameHeader [65, 67, 68, 65, 84, 65] sender, some payload⟩

def trafficTable : Value := .dict [(.str "id", .list [.str "KL1"])]

/-- A started proxy with its handlers registered that has discovered nodes A, then B; A is
the safe active node. -/
def twoNodes : Proxy := (Proxy.fresh 0 true 1 "localhost").run
  [(0, .startClient (fun _ => 65) "" true), (1, .registerSubscribers),
   (20, .fire 0 ⟨none, some (1 :: nodeA), .completed⟩),
   (40, .fire 2 ⟨none, some (1 :: nodeB), .completed⟩)]

example : twoNodes.getSafeActiveNode = some (hex nodeA) := by decide

theorem twoNodes_subscribedFromTable : twoNodes.SubscribedFromTable := by
  have h : twoNodes.client.map (·.subscribers) = some (subscriptions.map fun s => (s.1, s.2.1)) := by
    decide
  intro c hc x hx
  rw [Option.mem_def.mp hc, Option.map_some', Option.some.injEq] at h
  rw [h] at hx
  obtain ⟨s, hs, rfl⟩ := List.mem_map.mp hx
  exact ⟨s.2.2, hs⟩

/-- **Frames that are not pairs act for the latest pair's sender.** Where every `POLY` frame
is a pair and the stores start empty, shapes keep their provenance: after any events `pre`
and `e`, every shape stored under a node's key arrived in a `POLY` frame from that node, and
every shape `e` pushes arrived from the node that is then the safe active node. But when `e`
is a frame that is not a shared-state pair, a `RESET` frame from any sender included, it
leaves the dispatch context as the latest pair set it, and writes the stores only at that
pair's sender and at the safe active node, so the shapes of the frame's own sender stay
unless it is one of the two: `on_reset_received` does not "clear stored shapes for the node
that sent the reset". -/
theorem shapes_follow_the_dispatch_context (p : Proxy) (pre : List ShapeEvent) (e : ShapeEvent)
    (hsub : p.SubscribedFromTable) (hempty : p.polyDataByNode = [] ∧ p.polylineDataByNode = [])
    (hpaired : ∀ x ∈ pre ++ [e], x.polyPaired = true) :
    StoresBounded ((p.feedAll pre).feed e) (arrivedPolys (pre ++ [e])) (arrivedLines (pre ++ [e])) ∧
      PushesWithin (p.feedAll pre) ((p.feedAll pre).feed e)
        (((p.feedAll pre).feed e).activeBound (arrivedPolys (pre ++ [e])))
        (((p.feedAll pre).feed e).activeBound (arrivedLines (pre ++ [e]))) ∧
      ∀ now m, e = .frame now m → m.sharedPair = none →
        ((p.feedAll pre).feed e).contextSender = (p.feedAll pre).contextSender ∧
        OnlyAt (p.feedAll pre).polyDataByNode ((p.feedAll pre).feed e).polyDataByNode
          ((p.feedAll pre).contextSender.toList ++ ((p.feedAll pre).feed e).getSafeActiveNode.toList) ∧
        OnlyAt (p.feedAll pre).polylineDataByNode ((p.feedAll pre).feed e).polylineDataByNode
          ((p.feedAll pre).contextSender.toList ++ ((p.feedAll pre).feed e).getSafeActiveNode.toList) := by
  have hw : ∀ x ∈ pre ++ [e], x.polyPaired = true ∧
      x.Within (arrivedPolys (pre ++ [e])) (arrivedLines (pre ++ [e])) :=
    fun x hx => ⟨hpaired x hx, ShapeEvent.within_arrived hx⟩
  have h₀ : StoresBounded p (arrivedPolys (pre ++ [e])) (arrivedLines (pre ++ [e])) :=
    ⟨hempty.1 ▸ .nil, hempty.2 ▸ .nil⟩
  obtain ⟨hsub', hb⟩ := feedAll_bounded pre p hsub h₀ fun x hx => hw x (List.mem_append_left _ hx)
  have hstep := eventStep_feed _ e hsub' (hw e (List.mem_append_right _ (List.mem_singleton_self e)))
  refine ⟨(hstep.bounded hb).1, (hstep.bounded hb).2, fun now m he hm => ?_⟩
  subst he
  -- the frame leaves the context as it was, and writes only at the keys it leaves
  have hc := contextSender_dataMessage_of_not_sharedPair (p.feedAll pre) now hm
  have hk : ((p.feedAll pre).dataMessage now m).shapeKeys = (p.feedAll pre).contextSender.toList ++
      ((p.feedAll pre).dataMessage now m).getSafeActiveNode.toList := by
    rw [shapeKeys, hc]
  obtain ⟨h₁, h₂⟩ := dataMessage_onlyAt (p.feedAll pre) now m
  exact ⟨hc, hk ▸ h₁, hk ▸ h₂⟩

/-- With A active, pairs from B and then A, and a `RESET` frame from B: the reset is handled
with A as the context's sender, and B's shapes stay. -/
theorem shapes_follow_the_dispatch_context_on_reset :
    let pre := [ShapeEvent.frame 60 (polyFrame nodeB), .frame 80 (polyFrame nodeA)]
    let e := ShapeEvent.frame 100 (resetFrame nodeB)
    (twoNodes.feedAll pre).contextSender = some (hex nodeA) ∧
      (assocGet ((twoNodes.feedAll pre).feed e).polyDataByNode (hex nodeB)).isSome = true ∧
      OnlyAt (twoNodes.feedAll pre).polyDataByNode ((twoNodes.feedAll pre).feed e).polyDataByNode
        ((twoNodes.feedAll pre).contextSender.toList ++
          ((twoNodes.feedAll pre).feed e).getSafeActiveNode.toList) := by
  intro pre e
  exact ⟨by decide, by decide, ((shapes_follow_the_dispatch_context twoNodes pre e
    twoNodes_subscribedFromTable ⟨rfl, rfl⟩ (by decide)).2.2 100 _ rfl rfl).2.1⟩

/-- The dispatch context outlives its frame. The same `RESET` frame from B, after pairs from
B and then A, is handled with A as the context's sender and keeps B's shapes, where after
the pairs in the other order it drops them; and an `ACDATA` table that is not a pair is
taken as a reset after a `RESET` pair, and stored after an `UPDATE` pair. -/
theorem dispatch_context_outlives_its_frame :
    (twoNodes.feedAll [.frame 60 (polyFrame nodeB), .frame 80 (polyFrame nodeA),
      .frame 100 (resetFrame nodeB)]).contextSender = some (hex nodeA) ∧
    (twoNodes.feedAll [.frame 60 (polyFrame nodeB), .frame 80 (polyFrame nodeA),
      .frame 100 (resetFrame nodeB)]).polyDataByNode.map Prod.fst = [hex nodeB] ∧
    (twoNodes.feedAll [.frame 60 (polyFrame nodeA), .frame 80 (polyFrame nodeB),
      .frame 100 (resetFrame nodeB)]).polyDataByNode.map Prod.fst = [] ∧
    (twoNodes.feedAll [.frame 60 (acdataFrame nodeA (.list [.str "RESET", .emptyDict])),
      .frame 80 (acdataFrame nodeA trafficTable)]).trafficData = resetTraffic ∧
    (twoNodes.feedAll [.frame 60 (acdataFrame nodeA (.list [.str "UPDATE", .emptyDict])),
      .frame 80 (acdataFrame nodeA trafficTable)]).trafficData = trafficTable :=
  ⟨by decide, by decide, by decide, rfl, rfl⟩

end Proxy

end WebATM
