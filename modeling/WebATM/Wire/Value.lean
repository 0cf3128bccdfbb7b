import WebATM.Wire.Identity
import Mathlib.Data.Rat.Defs

/-!
# Decoded payloads

`msgpack.unpackb(raw=False)` turns a frame's payload into a Python object; the topic
handlers then read and rebuild such objects. This file models those objects and the
dictionary operations the handlers use on them. Dictionaries keep insertion order, as
Python's do; an update of an existing key keeps its position.
-/

namespace WebATM

/-- A Python `float`: its exact value, an infinity or a NaN. -/
inductive PyFloat where
  | finite (q : ℚ)
  | inf (negative : Bool)
  | nan
  deriving DecidableEq, Repr

/-- A dictionary key. `msgpack.unpackb` accepts only `str` and `bytes` map keys, and
every dictionary the proxy builds is keyed by strings. -/
inductive Key where
  | str (s : String)
  | bin (b : Bytes)
  deriving DecidableEq, Repr

/-- A decoded Python object: `None`, a `bool`, an `int`, a `float`, a `str`, `bytes`,
a `list` (msgpack arrays decode to lists) or a `dict`. -/
inductive Value where
  | none
  | bool (b : Bool)
  | int (i : Int)
  | float (x : PyFloat)
  | str (s : String)
  | bin (b : Bytes)
  | list (items : List Value)
  | dict (entries : List (Key × Value))
  deriving Repr, Inhabited

/-- The empty dictionary `{}`. -/
def Value.emptyDict : Value := .dict []

/-- Python truthiness: `None`, `False`, zero and empty containers are false. -/
def Value.truthy : Value → Bool
  | .none => false
  | .bool b => b
  | .int i => i != 0
  | .float x => x != .finite 0
  | .str s => s != ""
  | .bin b => !b.isEmpty
  | .list items => !items.isEmpty
  | .dict entries => !entries.isEmpty

/-- `d.get(key)` on an insertion-ordered dictionary. -/
def dictGet : List (Key × Value) → Key → Option Value
  | [], _ => none
  | (k, v) :: rest, key => if k = key then some v else dictGet rest key

/-- `d[key] = value`: an existing key keeps its position, a new one is appended. -/
def dictSet : List (Key × Value) → Key → Value → List (Key × Value)
  | [], key, value => [(key, value)]
  | (k, v) :: rest, key, value =>
    if k = key then (k, value) :: rest else (k, v) :: dictSet rest key value

/-- `d.update(other)` with a dictionary `other`: its entries in order. -/
def dictUpdate (d other : List (Key × Value)) : List (Key × Value) :=
  other.foldl (fun d e => dictSet d e.1 e.2) d

theorem mem_dictSet {d : List (Key × Value)} {key : Key} {value : Value} {e : Key × Value}
    (h : e ∈ dictSet d key value) : e ∈ d ∨ e = (key, value) := by
  induction d with
  | nil => simp_all [dictSet]
  | cons hd rest ih =>
    obtain ⟨k, v⟩ := hd
    unfold dictSet at h
    split_ifs at h with hk
    · rcases List.mem_cons.mp h with rfl | h
      · exact .inr (by rw [hk])
      · exact .inl (List.mem_cons_of_mem _ h)
    · rcases List.mem_cons.mp h with rfl | h
      · exact .inl (List.mem_cons_self _ _)
      · exact (ih h).imp_left (List.mem_cons_of_mem _)

theorem dictGet_dictSet_self (d : List (Key × Value)) (k : Key) (v : Value) :
    dictGet (dictSet d k v) k = some v := by
  induction d with
  | nil => simp [dictSet, dictGet]
  | cons e rest ih =>
    obtain ⟨k', v'⟩ := e
    by_cases h : k' = k <;> simp [dictSet, dictGet, h, ih]

/-- `d[key] = value` for a key `d` does not hold appends the entry. -/
theorem dictSet_of_not_mem {d : List (Key × Value)} {k : Key} (h : k ∉ d.map Prod.fst) (v : Value) :
    dictSet d k v = d ++ [(k, v)] := by
  induction d with
  | nil => rfl
  | cons e rest ih =>
    simp only [List.map_cons, List.mem_cons, not_or] at h
    simp [dictSet, Ne.symm h.1, ih h.2]

theorem mem_dictUpdate {d other : List (Key × Value)} {e : Key × Value}
    (h : e ∈ dictUpdate d other) : e ∈ d ∨ e ∈ other := by
  induction other generalizing d with
  | nil => exact .inl h
  | cons o rest ih =>
    rcases ih h with h | h
    · rcases mem_dictSet h with h | rfl
      · exact .inl h
      · exact .inr (List.mem_cons_self _ _)
    · exact .inr (List.mem_cons_of_mem _ h)

end WebATM
