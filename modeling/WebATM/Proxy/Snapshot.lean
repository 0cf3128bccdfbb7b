import WebATM.Proxy.System
import WebATM.Client.Header

/-!
# What consumers are told about nodes and servers

A consumer learns the node directory twice: in the snapshot `get_current_data()` sends when
it joins, and in every `node_info` push. The push renders identities as text with
`safe_decode` and adds the server identity in hex and as `str(bytes)`; the snapshot copies
the registry as stored, raw identity bytes included. A consumer that names a server back
in `add_nodes` sends one of these strings, which `on_add_nodes` encodes as UTF-8. This file
compares the two directories, and follows a published server identity through `add_nodes`
to the header of the `ADDNODES` frame.
-/

namespace WebATM

/-- The `node_info` part of the join snapshot: the records as `tracked_nodes` stores them,
and each server keyed by `safe_decode` with its identity as raw bytes. -/
def Proxy.snapshotNodeInfo (p : Proxy) : Value :=
  .dict [(.str "nodes", .dict (p.trackedNodes.map fun e => (.str e.1, e.2.toValue))),
    (.str "servers", .dict (serverDirectory p.trackedServers fun s =>
      .dict [(.str "server_id", .bin s)])),
    (.str "active_node", (p.getSafeActiveNode.map Value.str).getD .none),
    (.str "total_nodes", .int p.trackedNodes.length)]

/-- Whatever else the snapshot holds, its `node_info` entry is `snapshotNodeInfo`. -/
theorem Proxy.getCurrentData_nodeInfo {p : Proxy} {now : Int} {d : Value}
    (h : p.getCurrentData now = some d) : d.get? "node_info" = some (some p.snapshotNodeInfo) := by
  dsimp only [Proxy.getCurrentData] at h
  split_ifs at h
  cases h
  rfl

section Directory

variable {ss : List Bytes} {entry : Bytes → Value}

theorem dictSet_ne_nil (d : List (Key × Value)) (k : Key) (v : Value) : dictSet d k v ≠ [] := by
  cases d with
  | nil => simp [dictSet]
  | cons e rest => unfold dictSet; split_ifs <;> simp

/-- Every value of the server directory is the entry of a tracked server. -/
theorem mem_serverDirectory {k : Key} {v : Value} (h : (k, v) ∈ serverDirectory ss entry) :
    ∃ s ∈ ss, v = entry s := by
  suffices hd : ∀ d : List (Key × Value), (k, v) ∈ ss.foldl (fun d s =>
      dictSet d (.str (safeDecode s)) (entry s)) d → (k, v) ∈ d ∨ ∃ s ∈ ss, v = entry s from
    (hd [] h).resolve_left (List.not_mem_nil _)
  clear h
  induction ss with
  | nil => exact fun d h => .inl h
  | cons s rest ih =>
    intro d hm
    rcases ih _ hm with hm | ⟨s', hs', rfl⟩
    · rcases mem_dictSet hm with hm | he
      · exact .inl hm
      · exact .inr ⟨s, List.mem_cons_self _ _, (Prod.mk.inj he).2⟩
    · exact .inr ⟨s', List.mem_cons_of_mem _ hs', rfl⟩

/-- A tracked server gives the directory an entry. -/
theorem serverDirectory_ne_nil (h : ss ≠ []) : serverDirectory ss entry ≠ [] := by
  obtain ⟨s, rest, rfl⟩ := List.exists_cons_of_ne_nil h
  suffices hd : ∀ (l : List Bytes) (d : List (Key × Value)), d ≠ [] →
      l.foldl (fun d s => dictSet d (.str (safeDecode s)) (entry s)) d ≠ [] from
    hd rest _ (dictSet_ne_nil _ _ _)
  intro l
  induction l with
  | nil => exact fun d hd => hd
  | cons s' l ih => exact fun d _ => ih _ (dictSet_ne_nil _ _ _)

end Directory

/-- A started proxy with its handlers registered, whose first poll tick discovers the
server `SAAA\x80` and whose next discovers its node `SAAA\x81`. -/
def Proxy.serverAndNode : Proxy :=
  (Proxy.fresh 0 true 1 "localhost").run
    [(0, .startClient (fun _ => 65) "" true), (10, .registerSubscribers),
     (20, .fire 0 ⟨none, some [1, 83, 65, 65, 65, 128], .completed⟩),
     (40, .fire 2 ⟨none, some [1, 83, 65, 65, 65, 129], .completed⟩)]

theorem Proxy.serverAndNode_reachable : Reachable Proxy.serverAndNode :=
  (Reachable.fresh 0 true 1 "localhost").run _

/-- Two renderings of a list that differ at every element agree only on the empty list. -/
theorem eq_nil_of_map_eq_map {α β : Type} {l : List α} {f g : α → β} (h : l.map f = l.map g)
    (hne : ∀ a, f a ≠ g a) : l = [] := by
  cases l with
  | nil => rfl
  | cons a rest => exact absurd (List.cons.inj h).1 (hne a)

/-- **Late joiners see another node directory.** Whenever `get_current_data()` returns a
snapshot, its `node_info` equals the payload `_emit_node_info` pushes in the same state
exactly when no node and no server is tracked: the snapshot carries each node's `node_id`
and `server_id`, and each server's `server_id`, as raw bytes where the push has
`safe_decode` text, and it lacks the push's `server_id_hex` and `server_id_raw`. -/
theorem join_snapshot_node_info_differs (p : Proxy) (now : Int) {d : Value}
    (h : p.getCurrentData now = some d) :
    d.get? "node_info" = some (some p.nodeInfo) ↔ p.trackedNodes = [] ∧ p.trackedServers = [] := by
  rw [Proxy.getCurrentData_nodeInfo h, Option.some.injEq, Option.some.injEq]
  constructor
  · intro he
    simp only [Proxy.snapshotNodeInfo, Proxy.nodeInfo, Value.dict.injEq, List.cons.injEq,
      Prod.mk.injEq, true_and, and_true] at he
    refine ⟨eq_nil_of_map_eq_map he.1 fun e => by simp [NodeRecord.toValue, nodeInfoEntry], ?_⟩
    by_contra hs
    obtain ⟨⟨k, v⟩, hkv⟩ := List.exists_mem_of_ne_nil _
      (@serverDirectory_ne_nil _ (fun s => Value.dict [(.str "server_id", .bin s)]) hs)
    obtain ⟨s, -, rfl⟩ := mem_serverDirectory hkv
    obtain ⟨s', -, hs'⟩ := mem_serverDirectory (he.2 ▸ hkv)
    simp at hs'
  · rintro ⟨hn, hs⟩
    simp [Proxy.snapshotNodeInfo, Proxy.nodeInfo, hn, hs, serverDirectory]

/-- The law in the state that tracks the server `SAAA\x80` and its node. -/
theorem join_snapshot_node_info_differs_after_discovery :
    ∃ d, Proxy.serverAndNode.getCurrentData 60 = some d ∧
      (d.get? "node_info" = some (some Proxy.serverAndNode.nodeInfo) ↔
        Proxy.serverAndNode.trackedNodes = [] ∧ Proxy.serverAndNode.trackedServers = []) := by
  obtain ⟨d, hd⟩ := Option.isSome_iff_exists.mp
    (by decide : (Proxy.serverAndNode.getCurrentData 60).isSome = true)
  exact ⟨d, hd, join_snapshot_node_info_differs _ _ hd⟩

example : Proxy.serverAndNode.trackedServers = [[83, 65, 65, 65, 128]] ∧
    Proxy.serverAndNode.trackedNodes.map (·.1) = ["5341414181"] := by
  decide

/-! ## The text forms of an identity -/

section Ascii

theorem toNat_ofNat_of_lt {n : Nat} (h : n < 128) : (Char.ofNat n).toNat = n := by
  rw [Char.ofNat, dif_pos (Or.inl (by omega))]
  rfl

theorem utf8EncodeChar_of_lt {c : Char} (h : c.toNat < 128) :
    String.utf8EncodeChar c = [c.toNat.toUInt8] := by
  rw [String.utf8EncodeChar, if_pos]
  · rfl
  · show c.val.toNat ≤ 127
    exact Nat.le_of_lt_succ h

/-- The UTF-8 bytes of an ASCII text are its character codes. -/
theorem utf8Encode_of_ascii {s : String} (h : IsAscii s) : utf8Encode s = asciiBytes s := by
  unfold utf8Encode asciiBytes
  rw [List.flatMap_eq_foldl]
  suffices hl : ∀ (l : List Char) (acc : Bytes), (∀ c ∈ l, c.toNat < 128) →
      l.foldl (fun acc c => acc ++ String.utf8EncodeChar c) acc = acc ++ l.map fun c => c.toNat.toUInt8 by
    simpa using hl s.toList [] h
  intro l
  induction l with
  | nil => simp
  | cons c cs ih =>
    intro acc hl
    rw [List.foldl_cons, utf8EncodeChar_of_lt (hl c (List.mem_cons_self _ _)),
      ih _ fun x hx => hl x (List.mem_cons_of_mem _ hx)]
    simp

theorem lt_of_mem_asciiBytes {s : String} (h : IsAscii s) {y : UInt8} (hy : y ∈ asciiBytes s) :
    y.toNat < 128 := by
  obtain ⟨c, hc, rfl⟩ := List.mem_map.mp hy
  show c.toNat % 256 < 128
  have := h c hc
  omega

theorem hexDigit_toNat_lt : ∀ n < 16, (hexDigit n).toNat < 128 := by decide

/-- `bytes.hex()` is ASCII. -/
theorem isAscii_hex (b : Bytes) : IsAscii (hex b) := by
  show ∀ c ∈ hexChars b, c.toNat < 128
  induction b with
  | nil => simp [hexChars]
  | cons x xs ih =>
    have hx := UInt8.toNat_lt_size x
    have hsize : UInt8.size = 256 := rfl
    simp only [hexChars, List.mem_cons]
    rintro c (rfl | rfl | hc)
    · exact hexDigit_toNat_lt _ (by omega)
    · exact hexDigit_toNat_lt _ (by omega)
    · exact ih c hc

/-- Upper-casing keeps a text ASCII. -/
theorem isAscii_pyUpper {s : String} (h : IsAscii s) : IsAscii (pyUpper s) := by
  show ∀ c ∈ s.toList.map Char.toUpper, c.toNat < 128
  simp only [List.mem_map]
  rintro _ ⟨c, hc, rfl⟩
  have := h c hc
  dsimp only [Char.toUpper]
  split_ifs
  · rw [toNat_ofNat_of_lt (by omega)]; omega
  · exact this

/-- Both strings the proxy publishes for an identity with a byte above `0x7F` are the
non-empty hex, in upper case for `safe_decode`. -/
theorem published_forms {s : Bytes} (hs : ∃ x ∈ s, 128 ≤ x.toNat) {f : String}
    (hf : f = safeDecode s ∨ f = hex s) : IsAscii f ∧ f ≠ "" := by
  obtain ⟨x, hx, hbig⟩ := hs
  have hne : hex s ≠ "" := by
    obtain ⟨y, ys, rfl⟩ := List.exists_cons_of_ne_nil (List.ne_nil_of_mem hx)
    intro h
    simpa [hex, hexChars] using congrArg String.data h
  have hsafe : safeDecode s = pyUpper (hex s) := by
    have hp : s.all isPrintable = false :=
      List.all_eq_false.mpr ⟨x, hx, by simp [isPrintable]; omega⟩
    simp [safeDecode, hp]
  rcases hf with rfl | rfl
  · refine ⟨hsafe ▸ isAscii_pyUpper (isAscii_hex s), fun h => hne ?_⟩
    rw [hsafe] at h
    have := congrArg (·.length) h
    simp only [pyUpper, String.length, List.length_map] at this
    exact String.ext (List.eq_nil_of_length_eq_zero this)
  · exact ⟨isAscii_hex s, hne⟩

end Ascii

/-- The first `IDLEN` bytes of a header whose destination is ASCII are ASCII. -/
theorem lt_of_mem_take_header {bd header : Bytes} (hbd : ∀ y ∈ bd, y.toNat < 128)
    (hpre : ljust bd idlen wildcard <+: header) {y : UInt8} (hy : y ∈ header.take idlen) :
    y.toNat < 128 := by
  obtain ⟨rest, rfl⟩ := hpre
  rw [List.take_append_of_le_length (by simp)] at hy
  rcases List.mem_append.mp (List.mem_of_mem_take hy) with hy | hy
  · exact hbd y hy
  · rw [List.eq_of_mem_replicate hy]; decide

/-- **A published server identity does not address its server.** Take an identity `s`
with a byte above `0x7F` (every server identity `genid` makes ends in `0x80`) and a string
the proxy publishes for it: `safe_decode(s)`, as the `servers` key and `server_id` of
`node_info`, or `s.hex()`, as `server_id_hex`. An `add_nodes` request carrying it as
`server_id` sends at most one frame, and that frame's header does not start with `s`:
`on_add_nodes` sends the UTF-8 bytes of the hex text, whose first `IDLEN` bytes are hex
digits. -/
theorem published_server_id_misaddresses_addnodes (p : Proxy) {s : Bytes}
    (hs : ∃ x ∈ s, 128 ≤ x.toNat) {f : String} (hf : f = safeDecode s ∨ f = hex s) (count : Value) :
    ∀ c ∈ p.client, ∀ c' ∈ (p.onAddNodes (.dict [(.str "count", count), (.str "server_id", .str f)])).client,
      c'.sent = c.sent ∨ ∃ fr, c'.sent = c.sent ++ [fr] ∧ fr.header.take idlen ≠ s := by
  intro c hc c' hc'
  have hpc : p.client = some c := hc
  obtain ⟨hascii, hfne⟩ := published_forms hs hf
  have hb : utf8Encode f ≠ [] := by
    rw [utf8Encode_of_ascii hascii]
    intro h
    have := congrArg List.length h
    simp only [asciiBytes, List.length_map, List.length_nil] at this
    exact hfne (String.ext (List.eq_nil_of_length_eq_zero this))
  have hsend : c' = (c.send "ADDNODES" (.dict [(.str "count", count)]) (.bytes (utf8Encode f))).1 := by
    simp [Proxy.onAddNodes, Value.get?, dictGet, hpc, hfne] at hc'
    subst hc'
    simp [BlueSkyClient.addnodes, Value.truthy, Value.asTag, hb]
  subst hsend
  rcases BlueSkyClient.send_sent c "ADDNODES" (.dict [(.str "count", count)]) (.bytes (utf8Encode f))
    with h | ⟨btopic, bd, -, hbd, h⟩
  · exact .inl h
  refine .inr ⟨_, h, fun heq => ?_⟩
  rw [asbytestr_orEmpty (by simp), asbytestr_bytes, Option.some.injEq] at hbd
  subst hbd
  obtain ⟨x, hx, hbig⟩ := hs
  have hx' : x ∈ (ljust (utf8Encode f) idlen wildcard ++ btopic ++ c.nodeId).take idlen := heq ▸ hx
  have := lt_of_mem_take_header (fun y hy => lt_of_mem_asciiBytes hascii
    (utf8Encode_of_ascii hascii ▸ hy)) ⟨_, (List.append_assoc _ _ _).symm⟩ hx'
  omega

/-- The law for the server `SAAA\x80` of a reachable state, named by its `node_info` key. -/
theorem published_server_id_misaddresses_addnodes_after_discovery :
    (∃ x ∈ ([83, 65, 65, 65, 128] : Bytes), 128 ≤ x.toNat) ∧
      ∀ c ∈ Proxy.serverAndNode.client, ∀ c' ∈ (Proxy.serverAndNode.onAddNodes
        (.dict [(.str "count", .int 1), (.str "server_id", .str (safeDecode [83, 65, 65, 65, 128]))])).client,
        c'.sent = c.sent ∨ ∃ fr, c'.sent = c.sent ++ [fr] ∧ fr.header.take idlen ≠ [83, 65, 65, 65, 128] :=
  ⟨by decide, published_server_id_misaddresses_addnodes _ (by decide) (.inl rfl) _⟩

/-- The frame goes to the group `b"53414"`, the first bytes of the text `5341414180`. -/
example : (Proxy.serverAndNode.onAddNodes (.dict [(.str "count", .int 1),
    (.str "server_id", .str (safeDecode [83, 65, 65, 65, 128]))])).client.map
      (fun c => c.sent.getLast?.map (·.header.take idlen)) = some (some [53, 51, 52, 49, 52]) := by
  decide

/-! ## Server keys

`_emit_node_info` and `get_current_data` key each tracked server by `safe_decode`. The
registry holds server identities of `IDLEN` bytes and the sentinel `b"0"` that a node is
filed under when its server is unknown. `safe_decode` renders printable bytes one character
per byte and anything else as two hex digits per byte, so the two kinds of rendering have
lengths of different parity on these identities, and each kind determines its bytes.
-/

section ServerKeys

theorem safeDecode_of_printable {b : Bytes} (h : b.all isPrintable = true) :
    safeDecode b = String.mk (b.map fun x => Char.ofNat x.toNat) := by
  simp [safeDecode, h]

theorem safeDecode_of_not_printable {b : Bytes} (h : b.all isPrintable = false) :
    safeDecode b = pyUpper (hex b) := by
  simp [safeDecode, h]

theorem length_hexChars (b : Bytes) : (hexChars b).length = 2 * b.length := by
  induction b with
  | nil => rfl
  | cons x xs ih => simp only [hexChars, List.length_cons, ih]; omega

/-- A printable rendering has one character per byte, a hex one two. -/
theorem length_safeDecode (b : Bytes) :
    (safeDecode b).length = if b.all isPrintable then b.length else 2 * b.length := by
  unfold safeDecode
  split_ifs <;> simp [pyUpper, hex, length_hexChars]

theorem hexDigit_toUpper_toLower : ∀ n < 16, (hexDigit n).toUpper.toLower = hexDigit n := by
  decide

/-- Lower-casing undoes the upper-casing of `bytes.hex()`. -/
theorem map_toLower_upper_hexChars (b : Bytes) :
    ((hexChars b).map Char.toUpper).map Char.toLower = hexChars b := by
  induction b with
  | nil => rfl
  | cons x xs ih =>
    have hx := UInt8.toNat_lt_size x
    have hsize : UInt8.size = 256 := rfl
    simp only [hexChars, List.map_cons, ih, hexDigit_toUpper_toLower _ (by omega : x.toNat / 16 < 16),
      hexDigit_toUpper_toLower _ (by omega : x.toNat % 16 < 16)]

/-- The upper-case hex rendering determines the bytes. -/
theorem pyUpper_hex_injective {a b : Bytes} (h : pyUpper (hex a) = pyUpper (hex b)) : a = b := by
  have hd := congrArg (fun s : String => s.data.map Char.toLower) h
  simp only [pyUpper, hex, String.toList, map_toLower_upper_hexChars] at hd
  exact hexChars_injective hd

/-- The printable rendering determines the bytes: each character's code is its byte. -/
theorem printable_rendering_injective {a b : Bytes} (ha : a.all isPrintable = true)
    (hb : b.all isPrintable = true)
    (h : a.map (fun x => Char.ofNat x.toNat) = b.map fun x => Char.ofNat x.toNat) : a = b := by
  have hcode : ∀ l : Bytes, l.all isPrintable = true →
      (l.map fun x => Char.ofNat x.toNat).map Char.toNat = l.map UInt8.toNat := fun l hl => by
    rw [List.map_map]
    refine List.map_congr_left fun x hx => toNat_ofNat_of_lt ?_
    have := List.all_eq_true.mp hl x hx
    simp only [isPrintable, Bool.and_eq_true, decide_eq_true_eq] at this
    omega
  have hmap := congrArg (List.map Char.toNat) h
  rw [hcode a ha, hcode b hb] at hmap
  exact List.map_injective_iff.mpr (fun x y hxy => UInt8.toNat.inj hxy) hmap

/-- `safe_decode` is injective on the identities the registry holds as servers. -/
theorem safeDecode_inj {a b : Bytes} (ha : a.length = idlen ∨ a = [48])
    (hb : b.length = idlen ∨ b = [48]) (h : safeDecode a = safeDecode b) : a = b := by
  have hlen := congrArg String.length h
  rw [length_safeDecode, length_safeDecode] at hlen
  have hla : a.length = 5 ∨ a.length = 1 := ha.imp id fun h => by rw [h]; rfl
  have hlb : b.length = 5 ∨ b.length = 1 := hb.imp id fun h => by rw [h]; rfl
  cases hpa : a.all isPrintable <;> cases hpb : b.all isPrintable <;>
    simp only [hpa, hpb, if_true, if_false, Bool.false_eq_true] at hlen
  · rw [safeDecode_of_not_printable hpa, safeDecode_of_not_printable hpb] at h
    exact pyUpper_hex_injective h
  · omega
  · omega
  · rw [safeDecode_of_printable hpa, safeDecode_of_printable hpb] at h
    exact printable_rendering_injective hpa hpb (congrArg String.data h)

/-- Setting distinct keys that are new to the dictionary appends one entry per key, in
order. -/
theorem foldl_dictSet_of_nodup {α : Type} (key : α → Key) (entry : α → Value) :
    ∀ (xs : List α) (acc : List (Key × Value)), (xs.map key).Nodup →
      (∀ x ∈ xs, key x ∉ acc.map Prod.fst) →
      xs.foldl (fun d x => dictSet d (key x) (entry x)) acc = acc ++ xs.map fun x => (key x, entry x)
  | [], acc, _, _ => by simp
  | x :: xs, acc, hnd, hfresh => by
    obtain ⟨hx, hxs⟩ := List.nodup_cons.mp hnd
    rw [List.foldl_cons, dictSet_of_not_mem (hfresh x (List.mem_cons_self _ _)),
      foldl_dictSet_of_nodup key entry xs _ hxs, List.map_cons, List.append_assoc, List.singleton_append]
    intro y hy
    simp only [List.map_append, List.map_singleton, List.mem_append, List.mem_singleton, not_or]
    exact ⟨hfresh y (List.mem_cons_of_mem _ hy), fun he => hx (he ▸ List.mem_map_of_mem key hy)⟩

end ServerKeys

/-- **Server keys identify servers.** Distinct identities of `IDLEN` bytes, or the sentinel
`b"0"`, have distinct `safe_decode` renderings, so a directory built over distinct such
servers, as `_emit_node_info` and `get_current_data` build theirs, holds one entry per
server, in order, under its own key. -/
theorem server_keys_identify_servers :
    (∀ a b : Bytes, (a.length = idlen ∨ a = [48]) → (b.length = idlen ∨ b = [48]) → a ≠ b →
      safeDecode a ≠ safeDecode b) ∧
    ∀ (ss : List Bytes) (entry : Bytes → Value), ss.Nodup → (∀ s ∈ ss, s.length = idlen ∨ s = [48]) →
      serverDirectory ss entry = ss.map fun s => (.str (safeDecode s), entry s) := by
  refine ⟨fun a b ha hb hne h => hne (safeDecode_inj ha hb h), fun ss entry hnd hss => ?_⟩
  -- distinct servers have distinct keys, so each is filed under a new one
  have hkeys : (ss.map fun s => Key.str (safeDecode s)).Nodup :=
    hnd.map_on fun a ha b hb h => safeDecode_inj (hss a ha) (hss b hb) (Key.str.inj h)
  exact (foldl_dictSet_of_nodup _ entry ss [] hkeys (by simp)).trans (List.nil_append _)

/-- A server identity, whose last byte is the sequence byte of index 0, and the sentinel
`b"0"`: distinct keys, and a directory entry each. -/
theorem server_keys_identify_servers_with_sentinel :
    safeDecode [83, 65, 65, 65, 128] ≠ safeDecode [48] ∧
      serverDirectory [[83, 65, 65, 65, 128], [48]] (fun _ => .none) =
        [(.str (safeDecode [83, 65, 65, 65, 128]), .none), (.str (safeDecode [48]), .none)] :=
  ⟨server_keys_identify_servers.1 _ _ (.inl rfl) (.inr rfl) (by decide),
    server_keys_identify_servers.2 _ _ (by decide) (by decide)⟩

end WebATM
