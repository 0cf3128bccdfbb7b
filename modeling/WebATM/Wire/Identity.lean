import Mathlib.Data.List.Basic
import Mathlib.Tactic.Ring

/-!
# Node identities and subscription keys

Every frame of the BlueSky protocol is addressed by fixed-length byte identities: a
group tag, random filler and a sequence byte. This file models the constants of
`bluesky_client.py`, the generator `genid`, the sequence-byte codec, the conversion
`asbytestr`, and the subscription key that `_subscribe` and `_unsubscribe` build.
-/

namespace WebATM

/-- A Python `bytes` value. -/
abbrev Bytes := List UInt8

/-- `IDLEN`: the length of every identity. -/
def idlen : Nat := 5

/-- `GROUPID_CLIENT = ord("C")`. -/
def groupidClient : Nat := 67

/-- `GROUPID_SIM = ord("S")`. -/
def groupidSim : Nat := 83

/-- `GROUPID_NOGROUP = ord("N")`. -/
def groupidNogroup : Nat := 78

/-- `GROUPID_DEFAULT = 0`. -/
def groupidDefault : Nat := 0

/-- `MSG_SUBSCRIBE = 1`. -/
def msgSubscribe : Nat := 1

/-- `MSG_UNSUBSCRIBE = 0`. -/
def msgUnsubscribe : Nat := 0

/-- The wildcard byte `b"*"` used to pad group prefixes. -/
def wildcard : UInt8 := 42

/-- The values `asbytestr` and `genid` accept: an `int`, a `str` or `bytes`. Python's
`==` between them is this type's equality (an `int` never equals a `str`). -/
inductive Tag where
  | int (n : Nat)
  | str (s : String)
  | bytes (b : Bytes)
  deriving DecidableEq, Repr

/-- `s.encode("charmap")`: every code point below 256 becomes one byte; any other
raises `UnicodeEncodeError`, modelled by `none`. -/
def charmapEncode (s : String) : Option Bytes :=
  s.toList.mapM fun c => if c.toNat < 256 then some c.toNat.toUInt8 else none

/-- `asbytestr`: an `int` through `chr(data).encode("charmap")`, a `str` through
`encode("charmap")`, and `bytes` unchanged. -/
def asbytestr : Tag → Option Bytes
  | .int n => if n < 256 then some [n.toUInt8] else none
  | .str s => charmapEncode s
  | .bytes b => some b

/-- `seqid2idx`: the signed sequence index of a sequence byte, never below `-1`. -/
def seqid2idx (b : UInt8) : Int := max (-1) ((b.toNat : Int) - 128)

/-- `seqidx2id`: `chr(128 + seqidx).encode("charmap")`, defined for indices in
`[-128, 127]`. -/
def seqidx2id (i : Int) : Option Bytes :=
  if 0 ≤ 128 + i ∧ 128 + i < 256 then some [(128 + i).toNat.toUInt8] else none

/-- `bytes.ljust(n, fill)`. -/
def ljust (b : Bytes) (n : Nat) (fill : UInt8) : Bytes :=
  b ++ List.replicate (n - b.length) fill

/-- `urandom(n).replace(b"*", b"_")` for the byte stream `rnd` the random source
delivers. -/
def randomPadding (rnd : Nat → UInt8) (n : Nat) : Bytes :=
  (List.range n).map fun i => if rnd i = wildcard then 95 else rnd i

/-- `genid(group_id, seqidx)`: the group bytes, cut to `IDLEN`, or padded with random
filler up to `IDLEN - 1` and followed by the sequence byte. A conversion error is
`none`. -/
def genid (rnd : Nat → UInt8) (groupId : Tag) (seqidx : Int) : Option Bytes := do
  let groupBytes ← asbytestr groupId
  if idlen ≤ groupBytes.length then
    return groupBytes.take idlen
  let groupBytes :=
    if groupBytes.length < idlen - 1 then
      groupBytes ++ randomPadding rnd (idlen - 1 - groupBytes.length)
    else groupBytes
  return groupBytes ++ (← seqidx2id seqidx)

/-- The filter `_subscribe` and `_unsubscribe` install or remove:
`bto_group.ljust(IDLEN, b"*") + btopic + bfrom_group`. Any conversion error raises
inside their `try`, modelled by `none`. -/
def subscriptionKey (topic : String) (fromGroup toGroup : Tag) : Option Bytes := do
  let btopic ← asbytestr (.str topic)
  let bfromGroup ← asbytestr fromGroup
  let btoGroup ← asbytestr toGroup
  return ljust btoGroup idlen wildcard ++ btopic ++ bfromGroup

/-- A lowercase hexadecimal digit. -/
def hexDigit (n : Nat) : Char := if n < 10 then Char.ofNat (48 + n) else Char.ofNat (87 + n)

/-- The characters of `bytes.hex()`. -/
def hexChars : Bytes → List Char
  | [] => []
  | b :: bs => hexDigit (b.toNat / 16) :: hexDigit (b.toNat % 16) :: hexChars bs

/-- `bytes.hex()`: the key under which the proxy tracks a node. -/
def hex (b : Bytes) : String := ⟨hexChars b⟩

@[simp] theorem asbytestr_bytes (b : Bytes) : asbytestr (.bytes b) = some b := rfl

@[simp] theorem ljust_length (b : Bytes) (n : Nat) (fill : UInt8) :
    (ljust b n fill).length = max b.length n := by
  simp only [ljust, List.length_append, List.length_replicate]
  omega

theorem hexDigit_injective : ∀ m < 16, ∀ n < 16, hexDigit m = hexDigit n → m = n := by
  decide

theorem hexChars_injective : ∀ {a b : Bytes}, hexChars a = hexChars b → a = b
  | [], [], _ => rfl
  | [], _ :: _, h | _ :: _, [], h => by simp [hexChars] at h
  | x :: xs, y :: ys, h => by
    simp only [hexChars, List.cons.injEq] at h
    obtain ⟨hhi, hlo, hrest⟩ := h
    have hsize : UInt8.size = 256 := rfl
    have hx := UInt8.toNat_lt_size x
    have hy := UInt8.toNat_lt_size y
    have h1 := hexDigit_injective _ (by omega) _ (by omega) hhi
    have h2 := hexDigit_injective _ (by omega) _ (by omega) hlo
    rw [UInt8.toNat.inj (by omega : x.toNat = y.toNat), hexChars_injective hrest]

/-- Distinct identities are tracked under distinct keys. -/
theorem hex_injective {a b : Bytes} (h : hex a = hex b) : a = b :=
  hexChars_injective (congrArg String.data h)

end WebATM
