import WebATM.Client.Context

/-!
# The identity and header codecs

`genid` builds every identity of the protocol: the group's bytes, random filler in which
`urandom(...).replace(b"*", b"_")` leaves no wildcard, and the sequence byte that
`seqid2idx` reads back. `send` writes a header of the destination padded with `*` to
`IDLEN` bytes, the topic and the client's identity, and `_process_data_message` cuts a
header `IDLEN` bytes from either end. This file proves that the two sides agree, and
that the destination a header starts with is `to_group or ""`, so the int group `0` is
written as `*****`.
-/

namespace WebATM

/-- An ASCII text: every character is below `0x80`. -/
def IsAscii (s : String) : Prop := ∀ c ∈ s.toList, c.toNat < 128

instance (s : String) : Decidable (IsAscii s) :=
  inferInstanceAs (Decidable (∀ c ∈ s.toList, c.toNat < 128))

/-- Every index from `-1` to `127` has a sequence byte, and `seqid2idx` reads it back. -/
theorem seqidx2id_of_range {s : Int} (h1 : -1 ≤ s) (h2 : s ≤ 127) :
    ∃ b, seqidx2id s = some [b] ∧ seqid2idx b = s := by
  refine ⟨(128 + s).toNat.toUInt8, by simp [seqidx2id]; omega, ?_⟩
  have hb : ((128 + s).toNat.toUInt8.toNat : Int) = 128 + s := by
    show (((128 + s).toNat % 256 : Nat) : Int) = 128 + s
    omega
  simp only [seqid2idx, hb]
  omega

@[simp] theorem randomPadding_length (rnd : Nat → UInt8) (n : Nat) :
    (randomPadding rnd n).length = n := by
  simp [randomPadding]

/-- The filler never holds the wildcard byte. -/
theorem wildcard_not_mem_randomPadding (rnd : Nat → UInt8) (n : Nat) :
    wildcard ∉ randomPadding rnd n := by
  simp only [randomPadding, List.mem_map, List.mem_range, not_exists, not_and]
  intro i _ h
  split_ifs at h with hw
  · exact absurd h (by decide)
  · exact hw h

/-- `genid` on a group that converts, at an index in range: an identity of `IDLEN` bytes,
and for a group shorter than `IDLEN`, the group, filler without wildcard, and the sequence
byte of the index. -/
theorem genid_spec (rnd : Nat → UInt8) {g : Tag} {gb : Bytes} (hg : asbytestr g = some gb)
    {s : Int} (h1 : -1 ≤ s) (h2 : s ≤ 127) :
    ∃ id, genid rnd g s = some id ∧ id.length = idlen ∧
      (gb.length < idlen → ∃ filler b, id = gb ++ filler ++ [b] ∧ wildcard ∉ filler ∧
        seqid2idx b = s) := by
  obtain ⟨b, hb, hidx⟩ := seqidx2id_of_range h1 h2
  by_cases hlong : idlen ≤ gb.length
  · refine ⟨gb.take idlen, by simp [genid, hg, hlong], by simp [hlong], fun h => absurd hlong (by omega)⟩
  · let filler := if gb.length < idlen - 1 then randomPadding rnd (idlen - 1 - gb.length) else []
    have hid : genid rnd g s = some (gb ++ filler ++ [b]) := by
      simp only [genid, hg, hb, filler, Option.pure_def, Option.bind_eq_bind, Option.some_bind,
        if_neg hlong]
      split_ifs <;> simp
    have hfill : wildcard ∉ filler := by
      simp only [filler]
      split_ifs
      · exact wildcard_not_mem_randomPadding rnd _
      · simp
    refine ⟨_, hid, ?_, fun _ => ⟨filler, b, rfl, hfill, hidx⟩⟩
    simp only [filler, List.length_append, List.length_singleton]
    split_ifs <;> simp <;> omega

/-- The charmap bytes of an ASCII text are its character codes. -/
theorem charmapEncode_of_ascii {s : String} (h : IsAscii s) :
    charmapEncode s = some (asciiBytes s) := by
  suffices hl : ∀ l : List Char, (∀ c ∈ l, c.toNat < 128) →
      l.mapM (fun c => if c.toNat < 256 then some c.toNat.toUInt8 else none) =
        some (l.map fun c => c.toNat.toUInt8) from hl s.toList h
  intro l hl
  induction l with
  | nil => rfl
  | cons c cs ih =>
    have hc := hl c (List.mem_cons_self _ _)
    rw [List.mapM_cons, ih fun x hx => hl x (List.mem_cons_of_mem _ hx)]
    simp [show c.toNat < 256 by omega]

/-- An ASCII byte decodes to its character. (The nested patterns of the later branches
are matched on the bytes that follow, hence the split three bytes deep.) -/
theorem utf8Chars_cons_ascii {b : UInt8} (bs : Bytes) (h : b.toNat < 0x80) :
    utf8Chars (b :: bs) = (Char.ofNat b.toNat :: ·) <$> utf8Chars bs := by
  rcases bs with _ | ⟨c1, _ | ⟨c2, _ | ⟨c3, rest⟩⟩⟩ <;> exact if_pos h

/-- Decoding the bytes of an ASCII text gives the text back. -/
theorem utf8Decode_asciiBytes {s : String} (h : IsAscii s) : utf8Decode (asciiBytes s) = some s := by
  suffices hl : ∀ l : List Char, (∀ c ∈ l, c.toNat < 128) →
      utf8Chars (l.map fun c => c.toNat.toUInt8) = some l by
    rw [utf8Decode, asciiBytes, hl s.toList h]
    rfl
  intro l hl
  induction l with
  | nil => rfl
  | cons c cs ih =>
    have hc := hl c (List.mem_cons_self _ _)
    have hb : c.toNat.toUInt8.toNat = c.toNat := Nat.mod_eq_of_lt (by omega)
    rw [List.map_cons, utf8Chars_cons_ascii _ (hb.symm ▸ hc), ih fun x hx => hl x (List.mem_cons_of_mem _ hx),
      hb]
    simp

/-- `to_group or ""` converts as the destination itself, unless it is the int `0`. -/
theorem asbytestr_orEmpty {d : Tag} (h : d ≠ .int 0) : asbytestr d.orEmpty = asbytestr d := by
  unfold Tag.orEmpty
  split
  · exact absurd rfl h
  · rfl
  · rfl
  · rfl

namespace BlueSkyClient

/-- What `send` writes when the client runs with its socket open and both conversions
succeed: the header `to_group.ljust(IDLEN, b"*") + topic + node_id`. -/
theorem send_of_open {c : BlueSkyClient} (hrun : c.running = true) (hsock : c.sockSend = true)
    {topic : String} {btopic : Bytes} (ht : asbytestr (.str topic) = some btopic) {d : Tag}
    {bd : Bytes} (hd : asbytestr d.orEmpty = some bd) (data : Value) :
    c.send topic data d =
      ({ c with sent := c.sent ++ [⟨ljust bd idlen wildcard ++ btopic ++ c.nodeId, data⟩] }, true) := by
  simp [send, hrun, hsock, ht, hd]

/-- A send writes nothing, or one frame with the header of the converted topic and
destination. -/
theorem send_sent (c : BlueSkyClient) (topic : String) (data : Value) (d : Tag) :
    (c.send topic data d).1.sent = c.sent ∨ ∃ btopic bd, asbytestr (.str topic) = some btopic ∧
      asbytestr d.orEmpty = some bd ∧
      (c.send topic data d).1.sent = c.sent ++ [⟨ljust bd idlen wildcard ++ btopic ++ c.nodeId, data⟩] := by
  unfold send
  split_ifs
  · exact .inl rfl
  · split
    · exact .inr ⟨_, _, ‹_›, ‹_›, rfl⟩
    · exact .inl rfl

end BlueSkyClient

/-- The slicing of `_process_data_message` on a header `to_group + topic + sender` whose
destination part is `IDLEN` bytes long and whose sender is `IDLEN` bytes long. -/
theorem header_slices {dest topic sender : Bytes} (hd : dest.length = idlen)
    (hs : sender.length = idlen) :
    let header := dest ++ topic ++ sender
    (header.drop idlen).take (header.length - 2 * idlen) = topic ∧
      (DataMsg.mk header none).sender = sender := by
  simp only [DataMsg.sender, List.length_append, hd, hs, List.append_assoc]
  constructor
  · rw [List.drop_left' hd]
    simp [show idlen + (topic.length + idlen) - 2 * idlen = topic.length by omega]
  · rw [show idlen + (topic.length + idlen) - idlen = (dest ++ topic).length by simp [hd]; omega,
      ← List.append_assoc, List.drop_left]

/-- **The identity and header codecs agree.** For every group that converts and every
index in `[-1, 127]`, `genid` gives `IDLEN` bytes, and a group shorter than `IDLEN` is
followed by wildcard-free filler and the byte whose `seqid2idx` is the index. For every
running client with an `IDLEN`-byte identity, every ASCII topic and every destination
other than the int `0` whose bytes fit in `IDLEN`, `send` writes one frame whose header
starts with the destination padded with `*`, and which the slicing of
`_process_data_message` reads back as the topic and the client's identity. -/
theorem identity_and_header_codecs_agree (rnd : Nat → UInt8) :
    (∀ (g : Tag) (gb : Bytes) (s : Int), asbytestr g = some gb → -1 ≤ s → s ≤ 127 →
      ∃ id, genid rnd g s = some id ∧ id.length = idlen ∧
        (gb.length < idlen → ∃ filler b, id = gb ++ filler ++ [b] ∧ wildcard ∉ filler ∧
          seqid2idx b = s)) ∧
    (∀ (c : BlueSkyClient) (t : String) (d : Tag) (bd : Bytes) (data : Value),
      c.running = true → c.sockSend = true → c.nodeId.length = idlen → IsAscii t →
      d ≠ .int 0 → asbytestr d = some bd → bd.length ≤ idlen →
      ∃ header, c.send t data d = ({ c with sent := c.sent ++ [⟨header, data⟩] }, true) ∧
        ljust bd idlen wildcard <+: header ∧
        utf8Decode ((header.drop idlen).take (header.length - 2 * idlen)) = some t ∧
        (DataMsg.mk header (some data)).sender = c.nodeId) := by
  refine ⟨fun g gb s hg h1 h2 => genid_spec rnd hg h1 h2, ?_⟩
  intro c t d bd data hrun hsock hid ht hd0 hd hle
  have hpad : (ljust bd idlen wildcard).length = idlen := by simp [hle]
  obtain ⟨htopic, hsender⟩ := @header_slices _ (asciiBytes t) _ hpad hid
  refine ⟨_, BlueSkyClient.send_of_open hrun hsock (charmapEncode_of_ascii ht)
    ((asbytestr_orEmpty hd0).trans hd) data, ⟨_, (List.append_assoc _ _ _).symm⟩, ?_, hsender⟩
  rw [htopic, utf8Decode_asciiBytes ht]

/-- The two laws at the client's own identity and at a `STACK` frame of a connected
client to the node `SAAA\x81`. -/
theorem identity_and_header_codecs_agree_on_stack_frame :
    let c := ((BlueSkyClient.new fun _ => 65).connect true).1
    (∃ id, genid (fun _ => 65) (.int groupidClient) 1 = some id ∧ id.length = idlen ∧
      ([67].length < idlen → ∃ filler b, id = [67] ++ filler ++ [b] ∧ wildcard ∉ filler ∧
        seqid2idx b = 1)) ∧
    (∃ header, c.send "STACK" (.str "CRE KL1") (.bytes [83, 65, 65, 65, 129]) =
        ({ c with sent := c.sent ++ [⟨header, .str "CRE KL1"⟩] }, true) ∧
      ljust [83, 65, 65, 65, 129] idlen wildcard <+: header ∧
      utf8Decode ((header.drop idlen).take (header.length - 2 * idlen)) = some "STACK" ∧
      (DataMsg.mk header (some (.str "CRE KL1"))).sender = c.nodeId) :=
  ⟨(identity_and_header_codecs_agree fun _ => 65).1 (.int groupidClient) [67] 1 rfl (by decide)
      (by decide),
    (identity_and_header_codecs_agree fun _ => 65).2 _ "STACK" (.bytes [83, 65, 65, 65, 129])
      [83, 65, 65, 65, 129] (.str "CRE KL1") rfl rfl (by decide) (by decide) (by decide) rfl
      (by decide)⟩

/-- The int group `0` is falsy, so `to_group or ""` makes the header start with `*****`,
not with `asbytestr(0) = b"\x00"` padded with `*`. -/
theorem default_group_header_is_all_wildcards :
    let c := ((BlueSkyClient.new fun _ => 65).connect true).1
    asbytestr (.int 0) = some [0] ∧ ljust [0] idlen wildcard = [0, 42, 42, 42, 42] ∧
      (c.send "STACK" (.str "CRE KL1") (.int 0)).1.sent.map (fun f => f.header.take idlen) =
        [[42, 42, 42, 42, 42]] := by
  decide

end WebATM
