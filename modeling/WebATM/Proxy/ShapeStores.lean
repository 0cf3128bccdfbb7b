import WebATM.Proxy.Frames

/-!
# What the topic handlers do to the shape stores

The shape stores `poly_data_by_node` and `polyline_data_by_node` map a node's key to its
shapes. This file states, for each topic handler, where it may write them and what it may
push: `on_poly_received` writes at the sender of the dispatch context only, with the shapes
of the body, and pushes that sender's stores while it is the safe active node;
`on_reset_received` deletes at that sender and at the safe active node and pushes no shape;
every other handler leaves the stores and pushes no shape. A bound `B` on the shapes each
key may hold is kept by every handler whose `POLY` body is within it (`ShapeStep`).
-/

namespace WebATM

/-- The shapes of a stored or pushed value: the entries of its `polys` dictionary. -/
def shapesOf : Value → List (Key × Value)
  | .dict d =>
    match dictGet d (.str "polys") with
    | some (.dict shapes) => shapes
    | _ => []
  | _ => []

@[simp] theorem shapesOf_emptyShapes : shapesOf emptyShapes = [] := rfl

@[simp] theorem shapesOf_emptyDict : shapesOf .emptyDict = [] := rfl

theorem shapesOf_dictSet (s shapes : List (Key × Value)) :
    shapesOf (.dict (dictSet s (.str "polys") (.dict shapes))) = shapes := by
  simp [shapesOf, dictGet_dictSet_self]

/-- Every shape a store holds under a key satisfies the bound for that key. -/
def Bounded (store : List (String × Value)) (bound : String → Key × Value → Prop) : Prop :=
  ∀ kv ∈ store, ∀ e ∈ shapesOf kv.2, bound kv.1 e

namespace Bounded

variable {store store' : List (String × Value)} {bound : String → Key × Value → Prop}
  {key : String}

theorem mono {bound' : String → Key × Value → Prop} (h : Bounded store bound)
    (hb : ∀ k e, bound k e → bound' k e) : Bounded store bound' :=
  fun kv hkv e he => hb _ _ (h kv hkv e he)

theorem nil : Bounded [] bound := fun _ h => by cases h

theorem upsert (h : Bounded store bound) {v : Value} (hv : ∀ e ∈ shapesOf v, bound key e) :
    Bounded (upsert store key v) bound := by
  intro kv hkv
  rcases mem_upsert hkv with hkv | rfl
  · exact h kv hkv
  · exact hv

theorem remove (h : Bounded store bound) : Bounded (remove store key) bound :=
  fun kv hkv => h kv ((remove_sublist store key).subset hkv)

/-- The shapes stored under `key`. -/
theorem assocGet (h : Bounded store bound) {v : Value} (hv : WebATM.assocGet store key = some v) :
    ∀ e ∈ shapesOf v, bound key e :=
  h _ (assocGet_mem hv)

end Bounded

/-- `store'` differs from `store` at most at the keys `keys`. -/
def OnlyAt (store store' : List (String × Value)) (keys : List String) : Prop :=
  ∀ k ∉ keys, assocGet store' k = assocGet store k

namespace OnlyAt

variable {store store' store'' : List (String × Value)} {keys : List String} {key : String}

theorem refl : OnlyAt store store keys := fun _ _ => rfl

theorem trans (h₁ : OnlyAt store store' keys) (h₂ : OnlyAt store' store'' keys) :
    OnlyAt store store'' keys :=
  fun k hk => (h₂ k hk).trans (h₁ k hk)

theorem mono {keys' : List String} (h : OnlyAt store store' keys) (hk : ∀ k ∈ keys, k ∈ keys') :
    OnlyAt store store' keys' :=
  fun k hk' => h k fun hk'' => hk' (hk k hk'')

theorem upsert (hk : key ∈ keys) (v : Value) : OnlyAt store (upsert store key v) keys :=
  fun _ hk' => assocGet_upsert_ne _ _ fun he => hk' (he ▸ hk)

theorem remove (hk : key ∈ keys) : OnlyAt store (remove store key) keys :=
  fun _ hk' => assocGet_remove_ne _ fun he => hk' (he ▸ hk)

end OnlyAt

/-- A write of one store at `key` that keeps the store within every bound the written
shapes `sep` are within at `key`. -/
structure KeyWrite (store store' : List (String × Value)) (key : String) (sep : Value) : Prop where
  onlyAt : OnlyAt store store' [key]
  bounded : ∀ {bound : String → Key × Value → Prop}, (∀ e ∈ shapesOf sep, bound key e) →
    Bounded store bound → Bounded store' bound

namespace KeyWrite

variable {store store' store'' : List (String × Value)} {key : String} {sep : Value}

theorem refl : KeyWrite store store key sep := ⟨.refl, fun _ h => h⟩

theorem trans (h₁ : KeyWrite store store' key sep) (h₂ : KeyWrite store' store'' key sep) :
    KeyWrite store store'' key sep :=
  ⟨h₁.onlyAt.trans h₂.onlyAt, fun hs h => h₂.bounded hs (h₁.bounded hs h)⟩

/-- Setting a value under `key` whose shapes are the stored or the written ones. -/
theorem upsert {v : Value} (hv : ∀ {bound : String → Key × Value → Prop},
      (∀ e ∈ shapesOf sep, bound key e) → Bounded store bound → ∀ e ∈ shapesOf v, bound key e) :
    KeyWrite store (upsert store key v) key sep :=
  ⟨.upsert (List.mem_singleton_self key) v, fun hs h => h.upsert (hv hs h)⟩

theorem initStore : KeyWrite store (Proxy.initStore store key) key sep := by
  unfold Proxy.initStore
  split_ifs
  · exact .refl
  · exact .upsert fun _ _ => by simp

theorem replaceShapes (h : Proxy.replaceShapes store key sep = some store') :
    KeyWrite store store' key sep := by
  unfold Proxy.replaceShapes at h
  cases hs : Proxy.hasShapes sep with
  | none => simp [hs] at h
  | some has =>
    simp only [hs, Option.map_eq_map, Option.map_some', Option.some.injEq] at h
    subst h
    refine .upsert fun hsep _ => ?_
    split_ifs
    · exact hsep
    · simp

/-- The merge keeps the stored shapes and adds the written ones. -/
theorem mergeShapes (h : Proxy.mergeShapes store key sep = some store') :
    KeyWrite store store' key sep := by
  unfold Proxy.mergeShapes at h
  simp only [Option.bind_eq_bind] at h
  cases hs : Proxy.hasShapes sep with
  | none => simp [hs] at h
  | some has =>
    simp only [hs, Option.some_bind] at h
    split_ifs at h
    · cases h; exact .refl
    · cases hg : assocGet store key with
      | none => simp [hg] at h
      | some stored =>
        simp only [hg, Option.some_bind] at h
        split at h
        · split at h
          · rename_i old new hold hnew
            cases h
            refine .upsert fun hsep hb e he => ?_
            rw [shapesOf_dictSet] at he
            rcases mem_dictUpdate he with he | he
            · exact hb.assocGet hg e (by simp [shapesOf, hold, he])
            · exact hsep e (by simp [shapesOf, hnew, he])
          · cases h
        · cases h

/-- The replace or the merge branch, whichever the action selects. -/
theorem update {c : Prop} [Decidable c]
    (h : (if c then Proxy.replaceShapes else Proxy.mergeShapes) store key sep = some store') :
    KeyWrite store store' key sep := by
  split_ifs at h
  · exact .replaceShapes h
  · exact .mergeShapes h

/-- The five-shape limit keeps a suffix of the stored shapes. -/
theorem limitShapes (h : Proxy.limitShapes store key = some store') :
    KeyWrite store store' key sep := by
  unfold Proxy.limitShapes at h
  simp only [Option.bind_eq_bind] at h
  cases hg : assocGet store key with
  | none => simp [hg] at h
  | some stored =>
    simp only [hg, Option.some_bind] at h
    split at h
    · split at h
      · rename_i shapes hshapes
        split_ifs at h
        · cases h
          refine .upsert fun _ hb e he => ?_
          rw [shapesOf_dictSet] at he
          exact hb.assocGet hg e (by simp [shapesOf, hshapes, (List.drop_sublist _ _).subset he])
        · cases h; exact .refl
      · split_ifs at h
        cases h; exact .refl
      · cases h
    · cases h

end KeyWrite

/-- Both shape stores are bounded, the polygons by `B₁` and the polylines by `B₂`. -/
structure StoresBounded (p : Proxy) (B₁ B₂ : String → Key × Value → Prop) : Prop where
  poly : Bounded p.polyDataByNode B₁
  polyline : Bounded p.polylineDataByNode B₂

theorem StoresBounded.of_stores {p q : Proxy} {B₁ B₂ : String → Key × Value → Prop}
    (h : q.stores = p.stores) (hb : StoresBounded p B₁ B₂) : StoresBounded q B₁ B₂ := by
  have h₁ : q.polyDataByNode = p.polyDataByNode := congrArg Prod.fst h
  have h₂ : q.polylineDataByNode = p.polylineDataByNode := congrArg Prod.snd h
  exact ⟨h₁ ▸ hb.poly, h₂ ▸ hb.polyline⟩

/-- Every `poly` (`polyline`) push `q` adds to `p`'s carries only shapes satisfying `P₁`
(`P₂`). -/
def PushesWithin (p q : Proxy) (P₁ P₂ : Key × Value → Prop) : Prop :=
  ∃ L, q.pushes = p.pushes ++ L ∧ ∀ x ∈ L,
    (x.event = "poly" → ∀ e ∈ shapesOf x.data, P₁ e) ∧
      (x.event = "polyline" → ∀ e ∈ shapesOf x.data, P₂ e)

namespace PushesWithin

variable {p q r : Proxy} {P₁ P₂ : Key × Value → Prop}

theorem of_pushes (h : q.pushes = p.pushes) : PushesWithin p q P₁ P₂ :=
  ⟨[], by simp [h], by simp⟩

theorem trans (h₁ : PushesWithin p q P₁ P₂) (h₂ : PushesWithin q r P₁ P₂) :
    PushesWithin p r P₁ P₂ := by
  obtain ⟨L₁, e₁, h₁⟩ := h₁
  obtain ⟨L₂, e₂, h₂⟩ := h₂
  exact ⟨L₁ ++ L₂, by rw [e₂, e₁, List.append_assoc],
    fun x hx => (List.mem_append.mp hx).elim (h₁ x) (h₂ x)⟩

theorem mono {Q₁ Q₂ : Key × Value → Prop} (h : PushesWithin p q P₁ P₂) (h₁ : ∀ e, P₁ e → Q₁ e)
    (h₂ : ∀ e, P₂ e → Q₂ e) : PushesWithin p q Q₁ Q₂ := by
  obtain ⟨L, e, h⟩ := h
  exact ⟨L, e, fun x hx => ⟨fun hp e he => h₁ _ ((h x hx).1 hp e he),
    fun hp e he => h₂ _ ((h x hx).2 hp e he)⟩⟩

theorem broadcast (event : String) (data : Value)
    (h₁ : event = "poly" → ∀ e ∈ shapesOf data, P₁ e)
    (h₂ : event = "polyline" → ∀ e ∈ shapesOf data, P₂ e) :
    PushesWithin p (p.broadcast event data) P₁ P₂ := by
  unfold Proxy.broadcast
  split_ifs
  · refine ⟨[⟨event, data⟩], rfl, fun x hx => ?_⟩
    rw [List.mem_singleton.mp hx]
    exact ⟨h₁, h₂⟩
  · exact of_pushes rfl

end PushesWithin

namespace Proxy

/-- The bound of the safe active node: nothing satisfies it without one. -/
def activeBound (p : Proxy) (B : String → Key × Value → Prop) (e : Key × Value) : Prop :=
  ∃ Y, p.getSafeActiveNode = some Y ∧ B Y e

/-- The safe active node is read from the fields no handler writes. -/
theorem getSafeActiveNode_of_core {p q : Proxy} (h : q.core = p.core) :
    q.getSafeActiveNode = p.getSafeActiveNode := by
  have hr : q.running = p.running := congrArg Core.running h
  have hw : q.wasConnected = p.wasConnected := congrArg Core.wasConnected h
  have hc : q.client = p.client := congrArg Core.client h
  have hkeys : q.trackedNodes.map Prod.fst = p.trackedNodes.map Prod.fst := by
    have := congrArg (fun k : Core => k.tracked.map Prod.fst) h
    simpa only [core, List.map_map] using this
  have he : q.trackedNodes.isEmpty = p.trackedNodes.isEmpty := by
    cases hq : q.trackedNodes <;> cases hp : p.trackedNodes <;> simp_all
  have hs : ∀ k, (assocGet q.trackedNodes k).isSome = (assocGet p.trackedNodes k).isSome := by
    intro k
    rw [Bool.eq_iff_iff, Option.isSome_iff_ne_none, Option.isSome_iff_ne_none, Ne, Ne,
      assocGet_eq_none_iff, assocGet_eq_none_iff, hkeys]
  unfold getSafeActiveNode
  rw [hr, hw, he, hc]
  simp only [hs]

theorem contextSender_of_core {p q : Proxy} (h : q.core = p.core) :
    q.contextSender = p.contextSender := by
  unfold contextSender
  rw [show q.client = p.client from congrArg Core.client h]

theorem activeBound_of_core {p q : Proxy} (h : q.core = p.core) (B : String → Key × Value → Prop) :
    q.activeBound B = p.activeBound B := by
  unfold activeBound
  rw [getSafeActiveNode_of_core h]

end Proxy

/-- What a step does to the shape stores: it writes no field a handler never writes, changes
the stores only at `keys`, and keeps them bounded by `B₁` and `B₂`, pushing only shapes
within the bounds of the safe active node. -/
structure ShapeStep (p q : Proxy) (keys : List String) (B₁ B₂ : String → Key × Value → Prop) :
    Prop where
  core : q.core = p.core
  poly : OnlyAt p.polyDataByNode q.polyDataByNode keys
  polyline : OnlyAt p.polylineDataByNode q.polylineDataByNode keys
  bounded : StoresBounded p B₁ B₂ →
    StoresBounded q B₁ B₂ ∧ PushesWithin p q (p.activeBound B₁) (p.activeBound B₂)

namespace ShapeStep

variable {p q r : Proxy} {keys : List String} {B₁ B₂ : String → Key × Value → Prop}

theorem refl : ShapeStep p p keys B₁ B₂ :=
  ⟨rfl, .refl, .refl, fun h => ⟨h, .of_pushes rfl⟩⟩

theorem trans (h₁ : ShapeStep p q keys B₁ B₂) (h₂ : ShapeStep q r keys B₁ B₂) :
    ShapeStep p r keys B₁ B₂ := by
  refine ⟨h₂.core.trans h₁.core, h₁.poly.trans h₂.poly, h₁.polyline.trans h₂.polyline, fun hb => ?_⟩
  obtain ⟨hb₁, hp₁⟩ := h₁.bounded hb
  obtain ⟨hb₂, hp₂⟩ := h₂.bounded hb₁
  rw [Proxy.activeBound_of_core h₁.core, Proxy.activeBound_of_core h₁.core] at hp₂
  exact ⟨hb₂, hp₁.trans hp₂⟩

end ShapeStep

/-- A step that writes no shape store and pushes no shapes. -/
def Quiet (p q : Proxy) : Prop :=
  q.stores = p.stores ∧ PushesWithin p q (fun _ => False) (fun _ => False)

namespace Quiet

variable {p q r : Proxy}

theorem of_eq (hs : q.stores = p.stores) (hp : q.pushes = p.pushes) : Quiet p q :=
  ⟨hs, .of_pushes hp⟩

theorem refl : Quiet p p := of_eq rfl rfl

theorem trans (h₁ : Quiet p q) (h₂ : Quiet q r) : Quiet p r :=
  ⟨h₂.1.trans h₁.1, h₁.2.trans h₂.2⟩

theorem broadcast (event : String) (data : Value) (h₁ : event ≠ "poly") (h₂ : event ≠ "polyline") :
    Quiet p (p.broadcast event data) :=
  ⟨rfl, .broadcast event data (fun h => absurd h h₁) (fun h => absurd h h₂)⟩

/-- A quiet step keeps the stores bounded and pushes within any bounds. -/
theorem shapeStep (h : Quiet p q) (hc : q.core = p.core) {keys : List String}
    {B₁ B₂ : String → Key × Value → Prop} : ShapeStep p q keys B₁ B₂ := by
  have hp : q.polyDataByNode = p.polyDataByNode := congrArg Prod.fst h.1
  have hl : q.polylineDataByNode = p.polylineDataByNode := congrArg Prod.snd h.1
  refine ⟨hc, fun k _ => by rw [hp], fun k _ => by rw [hl], fun hb => ⟨?_, h.2.mono (by simp) (by simp)⟩⟩
  exact ⟨hp ▸ hb.poly, hl ▸ hb.polyline⟩

end Quiet

namespace Proxy

section Quiet

variable (p : Proxy) (now : Int)

theorem quiet_throttledPush (event : String) (data : Value) (last interval : Int)
    (record : Proxy → Int → Proxy) (h₁ : event ≠ "poly") (h₂ : event ≠ "polyline")
    (hr : ∀ q t, Quiet q (record q t)) :
    Quiet p (p.throttledPush event data last interval now record) := by
  unfold throttledPush
  split_ifs
  · exact (Quiet.broadcast event data h₁ h₂).trans (hr _ _)
  · exact .refl

theorem quiet_of_updateNodeStatus {p q : Proxy} {s : String} {simt scen : Value}
    (h : p.updateNodeStatus s simt scen = .ok q ∨ p.updateNodeStatus s simt scen = .error q) :
    Quiet p q := by
  unfold updateNodeStatus at h
  dsimp only at h
  repeat' split at h
  all_goals rcases h with h | h <;> cases h
  all_goals first
    | (refine Quiet.of_eq ?_ ?_ <;> rfl)
    | exact (Quiet.of_eq rfl rfl).trans (.broadcast _ _ (by decide) (by decide))

theorem quiet_onSiminfoReceived (a b c d e f g h : Value) :
    Quiet p (p.onSiminfoReceived now a b c d e f g h) := by
  unfold onSiminfoReceived
  dsimp only
  split
  · exact .refl
  split
  · exact .refl
  split
  · exact .of_eq rfl rfl
  split
  · rename_i hu
    exact (Quiet.of_eq rfl rfl).trans (quiet_of_updateNodeStatus (.inr hu) :)
  · rename_i hu
    exact ((Quiet.of_eq rfl rfl).trans (quiet_of_updateNodeStatus (.inl hu) :)).trans
      (quiet_throttledPush _ now _ _ _ _ _ (by decide) (by decide) fun _ _ => .of_eq rfl rfl)

theorem quiet_onAcdataReceived (d : Value) : Quiet p (p.onAcdataReceived now d) := by
  unfold onAcdataReceived
  dsimp only
  split_ifs
  · exact .refl
  · exact (Quiet.of_eq rfl rfl).trans (.broadcast _ _ (by decide) (by decide))
  · split
    · exact .of_eq rfl rfl
    · exact (Quiet.of_eq rfl rfl).trans
        (quiet_throttledPush _ now _ _ _ _ _ (by decide) (by decide) fun _ _ => .of_eq rfl rfl)

theorem quiet_onRoutedataReceived (d : Value) : Quiet p (p.onRoutedataReceived now d) := by
  unfold onRoutedataReceived
  dsimp only
  repeat' split
  all_goals first
    | (refine Quiet.of_eq ?_ ?_ <;> rfl)
    | exact (Quiet.of_eq rfl rfl).trans (.broadcast _ _ (by decide) (by decide))

theorem quiet_echo (t f s : Value) : Quiet p (p.echo now t f s) := by
  unfold echo
  dsimp only
  repeat' split
  all_goals first
    | (refine Quiet.of_eq ?_ ?_ <;> rfl)
    | exact (Quiet.of_eq rfl rfl).trans (.broadcast _ _ (by decide) (by decide))

theorem quiet_onStackcmdsReceived (d : Value) : Quiet p (p.onStackcmdsReceived now d) := by
  unfold onStackcmdsReceived
  repeat' split
  all_goals first
    | (refine Quiet.of_eq ?_ ?_ <;> rfl)
    | exact (Quiet.of_eq rfl rfl).trans (.broadcast _ _ (by decide) (by decide))

theorem quiet_echoResponse (text : String) (flags : Int) :
    Quiet p (p.echoResponse text flags now) :=
  (Quiet.of_eq rfl rfl).trans (.broadcast _ _ (by decide) (by decide))

theorem quiet_processServerCommand (cmdline : String) :
    Quiet p (p.processServerCommand cmdline now) := by
  unfold processServerCommand
  dsimp only
  repeat' split
  all_goals first | exact .refl | exact quiet_echoResponse ..

theorem quiet_serverCommands : ∀ (p : Proxy) (cmds : List Value), Quiet p (serverCommands now p cmds)
  | p, [] => .refl
  | p, .str s :: rest => by
    unfold serverCommands
    split_ifs
    · exact quiet_serverCommands p rest
    · exact (quiet_processServerCommand p now s).trans (quiet_serverCommands _ rest)
  | p, .none :: rest | p, .bool _ :: rest | p, .int _ :: rest | p, .float _ :: rest
  | p, .bin _ :: rest | p, .list _ :: rest | p, .dict _ :: rest => by
    unfold serverCommands
    split_ifs
    · exact .refl
    · exact quiet_serverCommands p rest

theorem quiet_onStackReceived (d : Value) : Quiet p (p.onStackReceived now d) := by
  unfold onStackReceived
  split
  all_goals first
    | (refine Quiet.of_eq ?_ ?_ <;> rfl)
    | exact (Quiet.of_eq rfl rfl).trans (quiet_serverCommands now _ _)

theorem quiet_onDataNoted : Quiet p (p.onDataNoted now) := by
  unfold onDataNoted
  split
  · exact .refl
  · exact .of_eq rfl rfl

end Quiet

/-- The keys a frame's handlers may write: the context's sender and the safe active node. -/
def shapeKeys (p : Proxy) : List String := p.contextSender.toList ++ p.getSafeActiveNode.toList

theorem shapeKeys_of_core {p q : Proxy} (h : q.core = p.core) : q.shapeKeys = p.shapeKeys := by
  unfold shapeKeys
  rw [contextSender_of_core h, getSafeActiveNode_of_core h]

theorem mem_shapeKeys_of_active {p : Proxy} {a : String} (h : p.getSafeActiveNode = some a) :
    a ∈ p.shapeKeys := by
  simp [shapeKeys, h]

theorem mem_shapeKeys_of_orElse {p : Proxy} {r : String}
    (h : (p.contextSender.orElse fun _ => p.getSafeActiveNode) = some r) : r ∈ p.shapeKeys := by
  cases hc : p.contextSender with
  | none => rw [hc] at h; exact mem_shapeKeys_of_active h
  | some s =>
    rw [hc] at h
    obtain rfl : s = r := Option.some.inj h
    simp [shapeKeys, hc]

end Proxy

/-- The shapes a `POLY` body brings, as `on_poly_received` converts and splits it, lie
within the bounds of the context's sender. -/
def PolyWithin (sender : Option String) (d : Value) (B₁ B₂ : String → Key × Value → Prop) :
    Prop :=
  ∀ s ∈ sender, ∀ pd, makeJsonSerializable d = some pd →
    (∀ e ∈ shapesOf (separatePolyAndPolylineData pd).1, B₁ s e) ∧
      ∀ e ∈ shapesOf (separatePolyAndPolylineData pd).2, B₂ s e

theorem Bounded.getD {store : List (String × Value)} {bound : String → Key × Value → Prop}
    (h : Bounded store bound) (key : String) :
    ∀ e ∈ shapesOf ((WebATM.assocGet store key).getD emptyShapes), bound key e := by
  cases hg : WebATM.assocGet store key with
  | none => simp
  | some v => exact h.assocGet hg

theorem Quiet.broadcast_emptyShapes {p : Proxy} (event : String) :
    Quiet p (p.broadcast event emptyShapes) :=
  ⟨rfl, .broadcast event _ (fun _ e he => by simp at he) (fun _ e he => by simp at he)⟩

namespace ShapeStep

variable {p : Proxy} {keys : List String} {B₁ B₂ : String → Key × Value → Prop}

theorem of_eq {q : Proxy} (hc : q.core = p.core) (hs : q.stores = p.stores)
    (hp : q.pushes = p.pushes) : ShapeStep p q keys B₁ B₂ :=
  (Quiet.of_eq hs hp).shapeStep hc

theorem remove {r : String} (hr : r ∈ keys) :
    ShapeStep p { p with polyDataByNode := remove p.polyDataByNode r,
                         polylineDataByNode := remove p.polylineDataByNode r } keys B₁ B₂ :=
  ⟨rfl, .remove hr, .remove hr, fun hb => ⟨⟨hb.poly.remove, hb.polyline.remove⟩, .of_pushes rfl⟩⟩

/-- Pushing the complete stores of the safe active node. -/
theorem pushActive {s : String} (ha : p.getSafeActiveNode = some s) :
    ShapeStep p { p with pushes := p.pushes ++
      [⟨"poly", (assocGet p.polyDataByNode s).getD emptyShapes⟩,
       ⟨"polyline", (assocGet p.polylineDataByNode s).getD emptyShapes⟩] } keys B₁ B₂ := by
  refine ⟨rfl, .refl, .refl, fun hb => ⟨⟨hb.poly, hb.polyline⟩, _, rfl, fun x hx => ?_⟩⟩
  rcases List.mem_pair.mp hx with rfl | rfl
  · exact ⟨fun _ e he => ⟨s, ha, hb.poly.getD s e he⟩, by simp⟩
  · exact ⟨by simp, fun _ e he => ⟨s, ha, hb.polyline.getD s e he⟩⟩

end ShapeStep

namespace Proxy

section Handlers

variable (p : Proxy) (now : Int) {B₁ B₂ : String → Key × Value → Prop}

/-- The store updates of `on_poly_received` for `s`, whether they finish or raise part way,
push nothing and write each store at `s` only, with the shapes of its half of `sep`. -/
theorem keyWrite_storeShapes {p q : Proxy} {s : String} {d : Value} {sep : Value × Value}
    (h : p.storeShapes s d sep = .ok q ∨ p.storeShapes s d sep = .error q) :
    q.pushes = p.pushes ∧ KeyWrite p.polyDataByNode q.polyDataByNode s sep.1 ∧
      KeyWrite p.polylineDataByNode q.polylineDataByNode s sep.2 := by
  unfold storeShapes at h
  dsimp only at h
  repeat' split at h
  all_goals rcases h with h | h <;> cases h
  all_goals refine ⟨rfl, ?_, ?_⟩
  all_goals first
    | exact .initStore
    | exact KeyWrite.initStore.trans (.update ‹_›)
    | exact (KeyWrite.initStore.trans (.update ‹_›)).trans (.limitShapes ‹_›)

theorem shapeStep_of_storeShapes {p q : Proxy} {s : String} {d : Value} {sep : Value × Value}
    {keys : List String} (h : p.storeShapes s d sep = .ok q ∨ p.storeShapes s d sep = .error q)
    (hs : s ∈ keys) (hsep₁ : ∀ e ∈ shapesOf sep.1, B₁ s e) (hsep₂ : ∀ e ∈ shapesOf sep.2, B₂ s e) :
    ShapeStep p q keys B₁ B₂ := by
  obtain ⟨hp, h₁, h₂⟩ := keyWrite_storeShapes h
  have hk : ∀ k ∈ [s], k ∈ keys := by simpa using hs
  exact ⟨core_of_storeShapes h, h₁.onlyAt.mono hk, h₂.onlyAt.mono hk,
    fun hb => ⟨⟨h₁.bounded hsep₁ hb.poly, h₂.bounded hsep₂ hb.polyline⟩, .of_pushes hp⟩⟩

/-- `on_poly_received` writes the stores only at the context's sender, with the shapes of
the body, and pushes that sender's stores only while it is the safe active node. -/
theorem shapeStep_onPolyReceived (d : Value) (hd : PolyWithin p.contextSender d B₁ B₂) :
    ShapeStep p (p.onPolyReceived now d) p.shapeKeys B₁ B₂ := by
  unfold onPolyReceived
  dsimp only
  split
  · exact .refl
  have h₀ : ShapeStep p { p with lastSuccessfulUpdate := now } p.shapeKeys B₁ B₂ :=
    .of_eq rfl rfl rfl
  split
  · rename_i pd s hpd hs
    have hs : p.contextSender = some s := hs
    have hk : s ∈ p.shapeKeys := by simp [shapeKeys, hs]
    obtain ⟨hsep₁, hsep₂⟩ := hd s hs pd hpd
    split
    · rename_i q hq
      exact h₀.trans (shapeStep_of_storeShapes (.inr hq) hk hsep₁ hsep₂)
    · rename_i q hq
      have h₁ := h₀.trans (shapeStep_of_storeShapes (.inl hq) hk hsep₁ hsep₂)
      split_ifs with ha
      · exact h₁.trans (.pushActive ha.1)
      · exact h₁
  · exact h₀

/-- `on_reset_received` deletes the shapes of the context's sender, or of the safe active
node without one, and of the safe active node, and pushes no shape. -/
theorem shapeStep_onResetReceived : ShapeStep p (p.onResetReceived now) p.shapeKeys B₁ B₂ := by
  unfold onResetReceived
  dsimp only
  split
  · exact .refl
  have h₀ : ShapeStep p { p with lastSuccessfulUpdate := now } p.shapeKeys B₁ B₂ :=
    .of_eq rfl rfl rfl
  split
  · exact h₀
  rename_i r hr
  have h₁ := h₀.trans (.remove (mem_shapeKeys_of_orElse hr))
  refine ShapeStep.trans ?_ (Quiet.shapeStep (((Quiet.broadcast_emptyShapes _).trans
    (.broadcast_emptyShapes _)).trans (.broadcast _ _ (by decide) (by decide))) rfl)
  refine h₁.trans ?_
  split
  · rename_i a ha
    split_ifs
    · exact .remove (mem_shapeKeys_of_active ha)
    · exact .refl
  · exact .refl

/-- A handler writes the stores only at the context's sender and the safe active node, and
keeps them bounded when a `POLY` body it is given is. -/
theorem shapeStep_runHandler (cb : Callback) (vals : List Value)
    (hpoly : ∀ d, cb = .onPolyReceived → vals = [d] → PolyWithin p.contextSender d B₁ B₂) :
    ShapeStep p (p.runHandler now cb vals) p.shapeKeys B₁ B₂ := by
  unfold runHandler
  split
  · exact (quiet_onSiminfoReceived ..).shapeStep (core_onSiminfoReceived ..)
  · exact (quiet_onAcdataReceived ..).shapeStep (core_onAcdataReceived ..)
  · exact (quiet_onRoutedataReceived ..).shapeStep (core_onRoutedataReceived ..)
  · exact (quiet_echo ..).shapeStep (core_echo ..)
  · exact (quiet_onStackcmdsReceived ..).shapeStep (core_onStackcmdsReceived ..)
  · exact (quiet_onStackReceived ..).shapeStep (core_onStackReceived ..)
  · exact shapeStep_onPolyReceived p now _ (hpoly _ rfl rfl)
  · exact shapeStep_onResetReceived p now
  all_goals first
    | exact (quiet_onDataNoted ..).shapeStep (core_onDataNoted ..)
    | exact .refl

/-- Every handler of a delivery writes the stores only at the context's sender and the safe
active node, and keeps them bounded when the `POLY` body it brings is. -/
theorem shapeStep_deliver (d : Delivery) (subscribers : List Callback)
    (hpoly : Callback.onPolyReceived ∈ subscribers → ∀ x,
      Callback.onPolyReceived.signature.bind d.args = some [x] → PolyWithin p.contextSender x B₁ B₂) :
    ShapeStep p (p.deliver now d subscribers) p.shapeKeys B₁ B₂ := by
  unfold deliver
  induction subscribers generalizing p with
  | nil => exact .refl
  | cons cb rest ih =>
    rw [List.foldl_cons]
    have h₁ : ShapeStep p (match cb.signature.bind d.args with
        | some vals => p.runHandler now cb vals
        | none => p) p.shapeKeys B₁ B₂ := by
      split
      · rename_i vals hb
        refine shapeStep_runHandler p now cb vals fun x hcb hv => ?_
        subst hcb hv
        exact hpoly (List.mem_cons_self _ _) x hb
      · exact .refl
    have hc := h₁.core
    refine h₁.trans ?_
    rw [← shapeKeys_of_core hc]
    refine ih _ fun hm x hb => ?_
    rw [contextSender_of_core hc]
    exact hpoly (List.mem_cons_of_mem _ hm) x hb

end Handlers

end Proxy

end WebATM
