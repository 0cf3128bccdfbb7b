import WebATM.Proxy.ShapeEvents

/-!
# How many shapes a node keeps

`on_poly_received` merges a `POLY` body into its sender's stores with `dict.update` and then
keeps the five most recent names, unless the body's action asks for a replace. This file
states the retention rule as a reference model, an ordered map of names that each frame
upserts into and cuts to its last five, and proves that the stores follow it over any run of
`POLY` pairs, interleaved with other nodes' pairs. The handler is given the pair's body, not
the pair, so the action it tests is read from the body: a replace, reset or change code never
reaches it, and those frames merge like any other.
-/

namespace WebATM

/-! ## The reference model -/

namespace Retained

/-- Upsert one named shape: an existing name is updated in place, a new one is appended. -/
def upsert (m : List (Key × Value)) (e : Key × Value) : List (Key × Value) :=
  if e.1 ∈ m.map Prod.fst then m.map fun x => if x.1 = e.1 then e else x else m ++ [e]

/-- All but the last five names are dropped. -/
def keepLast (m : List (Key × Value)) : List (Key × Value) := m.drop (m.length - 5)

/-- One of the node's frames: its shapes upserted in body order, then the last five kept. -/
def step (m : List (Key × Value)) (shapes : List (Key × Value)) : List (Key × Value) :=
  keepLast (shapes.foldl upsert m)

/-- The node's frames in order, from the empty map. -/
def run (frames : List (List (Key × Value))) : List (Key × Value) := frames.foldl step []

/-- The value the latest of `shapes` to carry the name `k` gave it. -/
def lastValue (shapes : List (Key × Value)) (k : Key) : Option Value :=
  (shapes.reverse.find? (·.1 = k)).map Prod.snd

/-- Distinct names. -/
def Distinct (m : List (Key × Value)) : Prop := (m.map Prod.fst).Nodup

theorem mem_upsert {m : List (Key × Value)} {x e : Key × Value} (h : e ∈ upsert m x) :
    e = x ∨ (e ∈ m ∧ e.1 ≠ x.1) := by
  unfold upsert at h
  split_ifs at h with hx
  · obtain ⟨y, hy, rfl⟩ := List.mem_map.mp h
    by_cases hyx : y.1 = x.1
    · exact .inl (if_pos hyx)
    · exact .inr ⟨by rw [if_neg hyx]; exact hy, by rw [if_neg hyx]; exact hyx⟩
  · rcases List.mem_append.mp h with h | h
    · exact .inr ⟨h, fun he => hx (he ▸ List.mem_map_of_mem Prod.fst h)⟩
    · exact .inl (List.mem_singleton.mp h)

theorem keys_upsert (m : List (Key × Value)) (x : Key × Value) :
    (upsert m x).map Prod.fst =
      if x.1 ∈ m.map Prod.fst then m.map Prod.fst else m.map Prod.fst ++ [x.1] := by
  unfold upsert
  split_ifs
  · rw [List.map_map]
    exact List.map_congr_left fun y _ => by by_cases h : y.1 = x.1 <;> simp [h]
  · simp

theorem Distinct.upsert {m : List (Key × Value)} (h : Distinct m) (x : Key × Value) :
    Distinct (upsert m x) := by
  unfold Distinct
  rw [keys_upsert]
  split_ifs with hx
  · exact h
  · exact List.nodup_append.mpr ⟨h, List.nodup_singleton _, by simpa using hx⟩

theorem Distinct.keepLast {m : List (Key × Value)} (h : Distinct m) : Distinct (keepLast m) := by
  unfold Distinct Retained.keepLast
  rw [List.map_drop]
  exact h.sublist (List.drop_sublist _ _)

theorem Distinct.foldl {m : List (Key × Value)} (h : Distinct m) (shapes : List (Key × Value)) :
    Distinct (shapes.foldl Retained.upsert m) := by
  induction shapes generalizing m with
  | nil => exact h
  | cons x rest ih => exact ih (h.upsert x)

theorem Distinct.step {m : List (Key × Value)} (h : Distinct m) (shapes : List (Key × Value)) :
    Distinct (step m shapes) :=
  (h.foldl shapes).keepLast

theorem length_keepLast_le (m : List (Key × Value)) : (keepLast m).length ≤ 5 := by
  simp only [keepLast, List.length_drop]
  omega

/-- The map never holds more than five names. -/
theorem length_run_le (frames : List (List (Key × Value))) : (run frames).length ≤ 5 := by
  suffices h : ∀ m : List (Key × Value), m.length ≤ 5 → (frames.foldl step m).length ≤ 5 from
    h [] (by simp)
  induction frames with
  | nil => exact fun _ h => h
  | cons shapes rest ih => exact fun m _ => ih _ (length_keepLast_le _)

/-- Every name of `m` holds the value the latest of `xs` to carry it gave it. -/
def Latest (xs m : List (Key × Value)) : Prop := ∀ e ∈ m, lastValue xs e.1 = some e.2

theorem lastValue_append_singleton (xs : List (Key × Value)) (x : Key × Value) (k : Key) :
    lastValue (xs ++ [x]) k = if x.1 = k then some x.2 else lastValue xs k := by
  unfold lastValue
  by_cases h : x.1 = k <;> simp [h]

theorem Latest.upsert {xs m : List (Key × Value)} (h : Latest xs m) (x : Key × Value) :
    Latest (xs ++ [x]) (upsert m x) := by
  intro e he
  rw [lastValue_append_singleton]
  rcases mem_upsert he with rfl | ⟨hm, hne⟩
  · simp
  · rw [if_neg (Ne.symm hne)]
    exact h e hm

theorem Latest.keepLast {xs m : List (Key × Value)} (h : Latest xs m) : Latest xs (keepLast m) :=
  fun e he => h e (List.mem_of_mem_drop he)

theorem Latest.foldl {xs m : List (Key × Value)} (h : Latest xs m) (shapes : List (Key × Value)) :
    Latest (xs ++ shapes) (shapes.foldl Retained.upsert m) := by
  induction shapes generalizing xs m with
  | nil => simpa using h
  | cons x rest ih =>
    rw [List.foldl_cons, ← List.singleton_append, ← List.append_assoc]
    exact ih (h.upsert x)

/-- Every surviving name holds the value of the latest frame that carried it. -/
theorem latest_run (frames : List (List (Key × Value))) : Latest frames.flatten (run frames) := by
  suffices h : ∀ xs m, Latest xs m → Latest (xs ++ frames.flatten) (frames.foldl step m) by
    simpa using h [] [] fun _ he => absurd he (List.not_mem_nil _)
  induction frames with
  | nil => exact fun xs m h => by simpa using h
  | cons shapes rest ih =>
    intro xs m h
    rw [List.flatten_cons, ← List.append_assoc]
    exact ih _ _ (h.foldl shapes).keepLast

/-! ### The code's dictionary operations refine the model -/

/-- On distinct names, `d[k] = v` is the model's upsert. -/
theorem dictSet_eq_upsert {m : List (Key × Value)} (h : Distinct m) (k : Key) (v : Value) :
    dictSet m k v = upsert m (k, v) := by
  induction m with
  | nil => rfl
  | cons y rest ih =>
    obtain ⟨hy, hrest⟩ := List.nodup_cons.mp h
    by_cases hk : y.1 = k
    · -- the head holds the name; no other entry does
      have hkeep : ∀ x ∈ rest, (if x.1 = k then (k, v) else x) = x := fun x hx =>
        if_neg fun he => hy (by rw [hk, ← he]; exact List.mem_map_of_mem Prod.fst hx)
      simp [dictSet, upsert, hk, List.map_congr_left hkeep]
    · have hup : upsert (y :: rest) (k, v) = y :: upsert rest (k, v) := by
        unfold upsert
        by_cases hm : k ∈ rest.map Prod.fst <;> simp [hk, hm, Ne.symm hk]
      rw [hup, ← ih hrest]
      simp [dictSet, hk]

/-- On distinct names, `dict.update` is the model's upserts in order. -/
theorem dictUpdate_eq_foldl_upsert {m : List (Key × Value)} (h : Distinct m)
    (shapes : List (Key × Value)) : dictUpdate m shapes = shapes.foldl upsert m := by
  induction shapes generalizing m with
  | nil => rfl
  | cons x rest ih =>
    simp only [dictUpdate, List.foldl_cons] at ih ⊢
    rw [dictSet_eq_upsert h, ih (h.upsert _)]

end Retained

/-! ## One store at one key -/

/-- The shapes filed under `key`: a stored dictionary whose `polys` are `m`. -/
def Filed (store : List (String × Value)) (key : String) (m : List (Key × Value)) : Prop :=
  ∃ s, assocGet store key = some (.dict s) ∧ dictGet s (.str "polys") = some (.dict m)

/-- What a store holds for `key`: nothing yet, the empty map, or the filed shapes. -/
def HoldsShapes (store : List (String × Value)) (key : String) (m : List (Key × Value)) : Prop :=
  (assocGet store key = none ∧ m = []) ∨ Filed store key m

theorem Filed.holds {store : List (String × Value)} {key : String} {m : List (Key × Value)}
    (h : Filed store key m) : HoldsShapes store key m :=
  .inr h

theorem HoldsShapes.of_assocGet {store store' : List (String × Value)} {key : String}
    {m : List (Key × Value)} (h : HoldsShapes store key m)
    (he : assocGet store' key = assocGet store key) : HoldsShapes store' key m := by
  rcases h with ⟨hn, hm⟩ | ⟨s, hs, hp⟩
  · exact .inl ⟨he.trans hn, hm⟩
  · exact .inr ⟨s, he.trans hs, hp⟩

/-- `setdefault(key, {"polys": {}})` files what the store holds. -/
theorem HoldsShapes.initStore {store : List (String × Value)} {key : String}
    {m : List (Key × Value)} (h : HoldsShapes store key m) : Filed (Proxy.initStore store key) key m := by
  unfold Proxy.initStore
  rcases h with ⟨hn, rfl⟩ | ⟨s, hs, hp⟩
  · simp only [hn, Option.isSome_none, Bool.false_eq_true, if_false]
    exact ⟨_, assocGet_upsert_self _ _ _, rfl⟩
  · simp only [hs, Option.isSome_some, if_true]
    exact ⟨s, hs, hp⟩

/-- The merge branch updates the filed shapes with the written ones. -/
theorem Filed.mergeShapes {store : List (String × Value)} {key : String} {m : List (Key × Value)}
    (h : Filed store key m) (shapes : List (Key × Value)) :
    ∃ store', Proxy.mergeShapes store key (shapesOrEmpty shapes) = some store' ∧
      Filed store' key (dictUpdate m shapes) := by
  obtain ⟨s, hs, hp⟩ := h
  cases shapes with
  | nil => exact ⟨store, rfl, s, hs, hp⟩
  | cons e rest =>
    refine ⟨upsert store key (.dict (dictSet s (.str "polys") (.dict (dictUpdate m (e :: rest))))),
      ?_, _, assocGet_upsert_self _ _ _, dictGet_dictSet_self _ _ _⟩
    simp [Proxy.mergeShapes, Proxy.hasShapes, shapesOrEmpty, Value.truthy, Value.get?, dictGet, hs, hp]

/-- The five-shape limit keeps the last five filed names. -/
theorem Filed.limitShapes {store : List (String × Value)} {key : String} {m : List (Key × Value)}
    (h : Filed store key m) :
    ∃ store', Proxy.limitShapes store key = some store' ∧ Filed store' key (Retained.keepLast m) := by
  obtain ⟨s, hs, hp⟩ := h
  by_cases hl : 5 < m.length
  · refine ⟨upsert store key (.dict (dictSet s (.str "polys") (.dict (Retained.keepLast m)))),
      ?_, _, assocGet_upsert_self _ _ _, dictGet_dictSet_self _ _ _⟩
    simp [Proxy.limitShapes, hs, hp, hl, Retained.keepLast]
  · refine ⟨store, ?_, s, hs, ?_⟩
    · simp [Proxy.limitShapes, hs, hp, hl]
    · rw [Retained.keepLast, Nat.sub_eq_zero_of_le (by omega), List.drop_zero, hp]

@[simp] theorem shapesOf_shapesOrEmpty (shapes : List (Key × Value)) :
    shapesOf (shapesOrEmpty shapes) = shapes := by
  cases shapes <;> rfl

/-- A converted body with a `polys` dictionary is split into its polygons and polylines. -/
theorem separatePolyAndPolylineData_of_polys {entries items : List (Key × Value)}
    (h : dictGet entries (.str "polys") = some (.dict items)) :
    separatePolyAndPolylineData (.dict entries) =
      (shapesOrEmpty (splitShapes items).1, shapesOrEmpty (splitShapes items).2) := by
  simp [separatePolyAndPolylineData, h]

/-- A body that converts to a dictionary is not a list, so `on_poly_received` reads no action
from it. -/
theorem polyAction_of_serializable_dict {body : Value} {entries : List (Key × Value)}
    (h : makeJsonSerializable body = some (.dict entries)) : Proxy.polyAction body = .ok none := by
  cases body with
  | list items =>
    simp only [makeJsonSerializable] at h
    cases serializeList items <;> simp at h
  | _ => rfl

/-- A frame that is a shared-state pair has a sender. -/
theorem DataMsg.sender_ne_nil_of_sharedPair {m : DataMsg} {topic : String} {a body : Value}
    (h : m.sharedPair = some (topic, a, body)) : m.sender ≠ [] := by
  unfold DataMsg.sharedPair at h
  split at h
  · exact DataMsg.sender_ne_nil ‹_›
  · cases h

namespace Proxy

/-- The store updates for a body that is not a list: both stores merged with the written
shapes and cut to five names. -/
theorem storeShapes_merge (p : Proxy) {s : String} {data : Value} (hd : polyAction data = .ok none)
    {m₁ m₂ : List (Key × Value)} (h₁ : HoldsShapes p.polyDataByNode s m₁)
    (h₂ : HoldsShapes p.polylineDataByNode s m₂) (N₁ N₂ : List (Key × Value)) :
    ∃ P L, p.storeShapes s data (shapesOrEmpty N₁, shapesOrEmpty N₂) =
        .ok { p with polyDataByNode := P, polylineDataByNode := L } ∧
      Filed P s (Retained.keepLast (dictUpdate m₁ N₁)) ∧
      Filed L s (Retained.keepLast (dictUpdate m₂ N₂)) := by
  obtain ⟨P₁, hP₁, fP₁⟩ := h₁.initStore.mergeShapes N₁
  obtain ⟨L₁, hL₁, fL₁⟩ := h₂.initStore.mergeShapes N₂
  obtain ⟨P₂, hP₂, fP₂⟩ := fP₁.limitShapes
  obtain ⟨L₂, hL₂, fL₂⟩ := fL₁.limitShapes
  refine ⟨P₂, L₂, ?_, fP₂, fL₂⟩
  unfold storeShapes
  simp only [hd, reduceCtorEq, or_self, if_false, hP₁, hL₁, hP₂, hL₂]

/-- `on_poly_received` writes the stores only at the context's sender. -/
theorem onPolyReceived_onlyAt (q : Proxy) (now : Int) (d : Value) :
    OnlyAt q.polyDataByNode (q.onPolyReceived now d).polyDataByNode q.contextSender.toList ∧
      OnlyAt q.polylineDataByNode (q.onPolyReceived now d).polylineDataByNode
        q.contextSender.toList := by
  unfold onPolyReceived
  dsimp only
  split
  · exact ⟨.refl, .refl⟩
  split
  · rename_i pd s _ hs
    have hs : q.contextSender = some s := hs
    rw [hs]
    split
    · rename_i r hr
      obtain ⟨-, h₁, h₂⟩ := keyWrite_storeShapes (.inr hr)
      exact ⟨h₁.onlyAt, h₂.onlyAt⟩
    · rename_i r hr
      obtain ⟨-, h₁, h₂⟩ := keyWrite_storeShapes (.inl hr)
      split_ifs <;> exact ⟨h₁.onlyAt, h₂.onlyAt⟩
  · exact ⟨.refl, .refl⟩

/-- `on_poly_received` for a sender in the context and a body with a `polys` dictionary:
each of the sender's stores is merged with its half of the body and cut to five names. -/
theorem onPolyReceived_filed (q : Proxy) (now : Int) (hallow : q.allowReconnection = true)
    {s : String} (hs : q.contextSender = some s) {body : Value} {entries items : List (Key × Value)}
    (hbody : makeJsonSerializable body = some (.dict entries))
    (hpolys : dictGet entries (.str "polys") = some (.dict items)) {m₁ m₂ : List (Key × Value)}
    (h₁ : HoldsShapes q.polyDataByNode s m₁) (h₂ : HoldsShapes q.polylineDataByNode s m₂) :
    Filed (q.onPolyReceived now body).polyDataByNode s
        (Retained.keepLast (dictUpdate m₁ (splitShapes items).1)) ∧
      Filed (q.onPolyReceived now body).polylineDataByNode s
        (Retained.keepLast (dictUpdate m₂ (splitShapes items).2)) := by
  obtain ⟨P, L, hst, hP, hL⟩ := storeShapes_merge { q with lastSuccessfulUpdate := now }
    (polyAction_of_serializable_dict hbody) h₁ h₂ (splitShapes items).1 (splitShapes items).2
  unfold onPolyReceived
  rw [if_neg (by simp [hallow])]
  dsimp only
  rw [hbody, show ({ q with lastSuccessfulUpdate := now } : Proxy).contextSender = some s from hs]
  simp only [separatePolyAndPolylineData_of_polys hpolys, hst]
  split_ifs <;> exact ⟨hP, hL⟩

/-- A `POLY` pair delivered to the one `on_poly_received`: the context takes the pair's
action and sender, and the handler runs on the body alone. -/
theorem dataMessage_polyPair {p : Proxy} {c : BlueSkyClient} (hc : p.client = some c)
    (hsubs : c.subscribersOf "POLY" = [.onPolyReceived]) {m : DataMsg} {a body : Value}
    (hm : m.sharedPair = some ("POLY", a, body)) (now : Int) :
    p.dataMessage now m =
      { p with client := some { c with context := ⟨a, some m.sender⟩ } }.onPolyReceived now body := by
  unfold dataMessage
  rw [hc]
  simp only [BlueSkyClient.processDataMessage_of_sharedPair hm]
  show deliver _ now _ (c.subscribersOf "POLY") = _
  rw [hsubs]
  rfl

end Proxy

/-- A `POLY` pair whose body converts to a dictionary with a `polys` dictionary. -/
def DataMsg.PolyPair (m : DataMsg) : Prop :=
  ∃ a body entries items, m.sharedPair = some ("POLY", a, body) ∧
    makeJsonSerializable body = some (.dict entries) ∧ dictGet entries (.str "polys") = some (.dict items)

/-- The polygons (`.1`) and polylines (`.2`) that each frame from the node with key `key`
brings, in order. -/
def shapesFrom (frames : List (Int × DataMsg)) (key : String) :
    List (List (Key × Value)) × List (List (Key × Value)) :=
  ((frames.filter fun f => hex f.2.sender = key).map fun f => (f.2.arrived key).1,
    (frames.filter fun f => hex f.2.sender = key).map fun f => (f.2.arrived key).2)

theorem DataMsg.arrived_of_polyPair {m : DataMsg} {a body : Value} {entries items : List (Key × Value)}
    (hm : m.sharedPair = some ("POLY", a, body)) (hbody : makeJsonSerializable body = some (.dict entries))
    (hpolys : dictGet entries (.str "polys") = some (.dict items)) :
    m.arrived (hex m.sender) = ((splitShapes items).1, (splitShapes items).2) := by
  simp [DataMsg.arrived, hm, hbody, separatePolyAndPolylineData_of_polys hpolys]

namespace Proxy

section Frames

variable {p : Proxy} {c : BlueSkyClient} {m : DataMsg} {a body : Value}

theorem contextSender_polyPair (hm : m.sharedPair = some ("POLY", a, body)) :
    ({ p with client := some { c with context := ⟨a, some m.sender⟩ } } : Proxy).contextSender =
      some (hex m.sender) := by
  simp [contextSender, DataMsg.sender_ne_nil_of_sharedPair hm]

/-- After a `POLY` pair the client keeps its subscribers, and the proxy still accepts data. -/
theorem dataMessage_polyPair_wiring (hc : p.client = some c)
    (hsubs : c.subscribersOf "POLY" = [.onPolyReceived]) (hm : m.sharedPair = some ("POLY", a, body))
    (now : Int) :
    (p.dataMessage now m).client = some { c with context := ⟨a, some m.sender⟩ } ∧
      (p.dataMessage now m).allowReconnection = p.allowReconnection := by
  rw [dataMessage_polyPair hc hsubs hm]
  have h := core_onPolyReceived { p with client := some { c with context := ⟨a, some m.sender⟩ } } now body
  exact ⟨congrArg Core.client h, congrArg Core.allowReconnection h⟩

/-- A `POLY` pair merges each half of its body into what its sender's stores hold, and keeps
the last five names. -/
theorem dataMessage_polyPair_filed (hc : p.client = some c)
    (hsubs : c.subscribersOf "POLY" = [.onPolyReceived]) (hallow : p.allowReconnection = true)
    (hm : m.sharedPair = some ("POLY", a, body)) {entries items : List (Key × Value)}
    (hbody : makeJsonSerializable body = some (.dict entries))
    (hpolys : dictGet entries (.str "polys") = some (.dict items)) {m₁ m₂ : List (Key × Value)}
    (h₁ : HoldsShapes p.polyDataByNode (hex m.sender) m₁)
    (h₂ : HoldsShapes p.polylineDataByNode (hex m.sender) m₂) (now : Int) :
    Filed (p.dataMessage now m).polyDataByNode (hex m.sender)
        (Retained.keepLast (dictUpdate m₁ (splitShapes items).1)) ∧
      Filed (p.dataMessage now m).polylineDataByNode (hex m.sender)
        (Retained.keepLast (dictUpdate m₂ (splitShapes items).2)) := by
  rw [dataMessage_polyPair hc hsubs hm]
  exact onPolyReceived_filed { p with client := some { c with context := ⟨a, some m.sender⟩ } } now
    hallow (contextSender_polyPair hm) hbody hpolys h₁ h₂

/-- A `POLY` pair from another node leaves what the stores hold for `key`. -/
theorem dataMessage_polyPair_other (hc : p.client = some c)
    (hsubs : c.subscribersOf "POLY" = [.onPolyReceived]) (hm : m.sharedPair = some ("POLY", a, body))
    {key : String} (hk : hex m.sender ≠ key) (now : Int) :
    assocGet (p.dataMessage now m).polyDataByNode key = assocGet p.polyDataByNode key ∧
      assocGet (p.dataMessage now m).polylineDataByNode key = assocGet p.polylineDataByNode key := by
  rw [dataMessage_polyPair hc hsubs hm]
  obtain ⟨h₁, h₂⟩ := onPolyReceived_onlyAt { p with client := some { c with context := ⟨a, some m.sender⟩ } } now body
  rw [contextSender_polyPair hm] at h₁ h₂
  have hk' : key ∉ [hex m.sender] := by simpa using Ne.symm hk
  exact ⟨h₁ key hk', h₂ key hk'⟩

end Frames

/-- Over a run of `POLY` pairs, what the stores hold for `key` follows the reference model
over the frames from that node, and the other nodes' frames leave it. -/
theorem foldl_dataMessage_retained (key : String) (frames : List (Int × DataMsg))
    (hframes : ∀ f ∈ frames, f.2.PolyPair) :
    ∀ (p : Proxy) (c : BlueSkyClient), p.client = some c →
      c.subscribersOf "POLY" = [.onPolyReceived] → p.allowReconnection = true →
      ∀ (m₁ m₂ : List (Key × Value)), Retained.Distinct m₁ → Retained.Distinct m₂ →
      HoldsShapes p.polyDataByNode key m₁ → HoldsShapes p.polylineDataByNode key m₂ →
      HoldsShapes (frames.foldl (fun p f => p.dataMessage f.1 f.2) p).polyDataByNode key
          ((shapesFrom frames key).1.foldl Retained.step m₁) ∧
        HoldsShapes (frames.foldl (fun p f => p.dataMessage f.1 f.2) p).polylineDataByNode key
          ((shapesFrom frames key).2.foldl Retained.step m₂) := by
  induction frames with
  | nil => exact fun _ _ _ _ _ _ _ _ _ h₁ h₂ => ⟨h₁, h₂⟩
  | cons f rest ih =>
    intro p c hc hsubs hallow m₁ m₂ hd₁ hd₂ h₁ h₂
    obtain ⟨a, body, entries, items, hm, hbody, hpolys⟩ := hframes f (List.mem_cons_self _ _)
    obtain ⟨hc', hallow'⟩ := dataMessage_polyPair_wiring hc hsubs hm f.1
    have ih' := ih (fun g hg => hframes g (List.mem_cons_of_mem _ hg)) _ _ hc' hsubs
      (hallow'.trans hallow)
    rw [List.foldl_cons]
    by_cases hk : hex f.2.sender = key
    · -- a frame from the node: one step of the model
      subst hk
      obtain ⟨f₁, f₂⟩ := dataMessage_polyPair_filed hc hsubs hallow hm hbody hpolys h₁ h₂ f.1
      rw [Retained.dictUpdate_eq_foldl_upsert hd₁] at f₁
      rw [Retained.dictUpdate_eq_foldl_upsert hd₂] at f₂
      have hs : shapesFrom (f :: rest) (hex f.2.sender) =
          ((splitShapes items).1 :: (shapesFrom rest (hex f.2.sender)).1,
            (splitShapes items).2 :: (shapesFrom rest (hex f.2.sender)).2) := by
        simp [shapesFrom, DataMsg.arrived_of_polyPair hm hbody hpolys]
      rw [hs]
      exact ih' _ _ (hd₁.step _) (hd₂.step _) f₁.holds f₂.holds
    · -- a frame from another node
      obtain ⟨e₁, e₂⟩ := dataMessage_polyPair_other hc hsubs hm hk f.1
      have hs : shapesFrom (f :: rest) key = shapesFrom rest key := by simp [shapesFrom, hk]
      rw [hs]
      exact ih' _ _ hd₁ hd₂ (h₁.of_assocGet e₁) (h₂.of_assocGet e₂)

end Proxy

/-- **A replace code merges.** `_process_data_message` gives `on_poly_received` the pair's body,
not the pair, so the action the handler tests is never the pair's: whatever the action `a`, a
replace, reset and change code included, a `POLY` pair merges each half of its body into what
its sender's stores held, as one step of the retention model, and names stored before that
the body does not carry stay. -/
theorem replace_codes_merge_into_the_store {p : Proxy} {c : BlueSkyClient} (hc : p.client = some c)
    (hsubs : c.subscribersOf "POLY" = [.onPolyReceived]) (hallow : p.allowReconnection = true)
    {m : DataMsg} {a body : Value} (hm : m.sharedPair = some ("POLY", a, body))
    {entries items : List (Key × Value)} (hbody : makeJsonSerializable body = some (.dict entries))
    (hpolys : dictGet entries (.str "polys") = some (.dict items)) {m₁ m₂ : List (Key × Value)}
    (hd₁ : Retained.Distinct m₁) (hd₂ : Retained.Distinct m₂)
    (h₁ : HoldsShapes p.polyDataByNode (hex m.sender) m₁)
    (h₂ : HoldsShapes p.polylineDataByNode (hex m.sender) m₂) (now : Int) :
    Filed (p.dataMessage now m).polyDataByNode (hex m.sender) (Retained.step m₁ (splitShapes items).1) ∧
      Filed (p.dataMessage now m).polylineDataByNode (hex m.sender)
        (Retained.step m₂ (splitShapes items).2) := by
  obtain ⟨f₁, f₂⟩ := Proxy.dataMessage_polyPair_filed hc hsubs hallow hm hbody hpolys h₁ h₂ now
  rw [Retained.dictUpdate_eq_foldl_upsert hd₁] at f₁
  rw [Retained.dictUpdate_eq_foldl_upsert hd₂] at f₂
  exact ⟨f₁, f₂⟩

/-- Node A's polygon `Z` is stored; a replace pair `["R", {"polys": {"Y": ...}}]` from A then
leaves `Z` and `Y` both filed. -/
theorem replace_codes_merge_into_the_store_on_replace_pair :
    let z : Key × Value := (.str "Z", .dict [(.str "shape", .str "POLY")])
    let y : Key × Value := (.str "Y", .dict [(.str "shape", .str "POLY")])
    Filed ((Proxy.twoNodes.dataMessage 60 (Proxy.polyFrame Proxy.nodeA)).dataMessage 80
        ⟨Proxy.frameHeader [80, 79, 76, 89] Proxy.nodeA, some (.list [.str "R", Proxy.polyBody "Y"])⟩).polyDataByNode
      (hex Proxy.nodeA) (Retained.step [z] [y]) := by
  obtain ⟨c, hc⟩ := Option.isSome_iff_exists.mp
    (show (Proxy.twoNodes.dataMessage 60 (Proxy.polyFrame Proxy.nodeA)).client.isSome = true by decide)
  have hsubs : c.subscribersOf "POLY" = [.onPolyReceived] := by
    have h := congrArg (Option.map (BlueSkyClient.subscribersOf · "POLY")) hc
    exact Option.some.inj (h.symm.trans (by decide))
  intro z _
  have hz : Retained.Distinct [z] := List.nodup_singleton _
  have hnil : Retained.Distinct [] := List.nodup_nil
  exact (replace_codes_merge_into_the_store hc hsubs (by decide)
    (m := ⟨Proxy.frameHeader [80, 79, 76, 89] Proxy.nodeA, some (.list [.str "R", Proxy.polyBody "Y"])⟩)
    rfl rfl rfl hz hnil (.inr ⟨_, rfl, rfl⟩) (.inr ⟨_, rfl, rfl⟩) 80).1

/-- The replace pair's step keeps both names. -/
example : (Retained.step [(.str "Z", .dict [(.str "shape", .str "POLY")])]
    [(.str "Y", .dict [(.str "shape", .str "POLY")])]).map Prod.fst = [.str "Z", .str "Y"] := by
  decide

/-- **Shape stores follow the retention model.** Over any run of `POLY` pairs whose bodies
carry a `polys` dictionary, from stores holding nothing for `key`, each store holds for `key`
the reference model run over the halves of the frames from that node, the other nodes' frames
leaving it; so it holds at most five names, each with the value of the latest frame that
carried it. -/
theorem shape_stores_follow_the_retention_model {p : Proxy} {c : BlueSkyClient}
    (hc : p.client = some c) (hsubs : c.subscribersOf "POLY" = [.onPolyReceived])
    (hallow : p.allowReconnection = true) (key : String)
    (h₁ : HoldsShapes p.polyDataByNode key []) (h₂ : HoldsShapes p.polylineDataByNode key [])
    (frames : List (Int × DataMsg)) (hframes : ∀ f ∈ frames, f.2.PolyPair) :
    HoldsShapes (frames.foldl (fun p f => p.dataMessage f.1 f.2) p).polyDataByNode key
        (Retained.run (shapesFrom frames key).1) ∧
      HoldsShapes (frames.foldl (fun p f => p.dataMessage f.1 f.2) p).polylineDataByNode key
        (Retained.run (shapesFrom frames key).2) ∧
      (Retained.run (shapesFrom frames key).1).length ≤ 5 ∧
      (Retained.run (shapesFrom frames key).2).length ≤ 5 ∧
      Retained.Latest (shapesFrom frames key).1.flatten (Retained.run (shapesFrom frames key).1) ∧
      Retained.Latest (shapesFrom frames key).2.flatten (Retained.run (shapesFrom frames key).2) :=
  have h := Proxy.foldl_dataMessage_retained key frames hframes p c hc hsubs hallow [] []
    List.nodup_nil List.nodup_nil h₁ h₂
  ⟨h.1, h.2, Retained.length_run_le _, Retained.length_run_le _, Retained.latest_run _,
    Retained.latest_run _⟩

/-- Pairs from A, then B, each with polygon `Z`: A's stores follow the model over A's one
frame, B's leaving them. -/
theorem shape_stores_follow_the_retention_model_on_two_nodes :
    let frames : List (Int × DataMsg) := [(60, Proxy.polyFrame Proxy.nodeA), (80, Proxy.polyFrame Proxy.nodeB)]
    HoldsShapes (frames.foldl (fun p f => p.dataMessage f.1 f.2) Proxy.twoNodes).polyDataByNode
        (hex Proxy.nodeA) (Retained.run (shapesFrom frames (hex Proxy.nodeA)).1) ∧
      (Retained.run (shapesFrom frames (hex Proxy.nodeA)).1).length ≤ 5 := by
  intro frames
  obtain ⟨c, hc⟩ := Option.isSome_iff_exists.mp (show Proxy.twoNodes.client.isSome = true by decide)
  have hsubs : c.subscribersOf "POLY" = [.onPolyReceived] := by
    have h := congrArg (Option.map (BlueSkyClient.subscribersOf · "POLY")) hc
    exact Option.some.inj (h.symm.trans (by decide))
  have hframes : ∀ f ∈ frames, f.2.PolyPair := by
    intro f hf
    rcases List.mem_pair.mp hf with rfl | rfl <;> exact ⟨_, _, _, _, rfl, rfl, rfl⟩
  have h := shape_stores_follow_the_retention_model hc hsubs (by decide) (hex Proxy.nodeA)
    (.inl ⟨rfl, rfl⟩) (.inl ⟨rfl, rfl⟩) frames hframes
  exact ⟨h.1, h.2.2.1⟩

end WebATM
