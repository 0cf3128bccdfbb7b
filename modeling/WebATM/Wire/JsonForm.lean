import WebATM.Wire.Convert

/-!
# The JSON form of a converted value

`make_json_serializable` turns a decoded msgpack object into what the proxy pushes to its
consumers. A serialised array becomes the list of its numbers, or the hex of its raw data,
and every dictionary key becomes a string: a `bytes` key is decoded from UTF-8, and a key
that decodes to an earlier one takes its place. The values the conversion returns are
exactly those in JSON form, every dictionary in them keyed by distinct strings. Every result
has that form, and on a value of that form the conversion is the identity, so converting a
converted value gives it back.
-/

namespace WebATM

/-- Whether a dictionary key is a string. -/
def Key.isStr : Key → Bool
  | .str _ => true
  | .bin _ => false

mutual
/-- Whether a value is in JSON form: every dictionary in it keyed by distinct strings. -/
def jsonForm : Value → Bool
  | .dict entries => entriesForm entries
  | .list items => listForm items
  | _ => true

/-- Whether every item of a list is in JSON form. -/
def listForm : List Value → Bool
  | [] => true
  | v :: vs => jsonForm v && listForm vs

/-- Whether a dictionary's keys are distinct strings and its values are in JSON form. -/
def entriesForm : List (Key × Value) → Bool
  | [] => true
  | (k, v) :: rest => k.isStr && rest.all (fun e => e.1 != k) && jsonForm v && entriesForm rest
end

section Arrays

theorem jsonForm_unpackItem (fmt : Char) (bs : Bytes) : jsonForm (unpackItem fmt bs) = true := by
  unfold unpackItem
  split <;> rfl

theorem listForm_structUnpack {fmt : Char} {size : Nat} :
    ∀ {n : Nat} {bs : Bytes} {items : List Value}, structUnpack fmt size n bs = some items →
      listForm items = true
  | 0, [], items, h => by cases h; rfl
  | 0, _ :: _, _, h => by cases h
  | n + 1, bs, items, h => by
    unfold structUnpack at h
    split_ifs at h
    obtain ⟨rest, hr, rfl⟩ := Option.map_eq_some'.mp h
    simp [listForm, jsonForm_unpackItem, listForm_structUnpack hr]

/-- An unpacked array is a list of numbers, or the hex text of its data. -/
theorem jsonForm_numpyArray {entries : List (Key × Value)} {w : Value}
    (h : numpyArray entries = some w) : jsonForm w = true := by
  -- walk the `do` block: every bind that succeeded, every branch taken
  unfold numpyArray at h
  repeat' (first
    | (simp only [Option.bind_eq_bind, Option.bind_eq_some, Option.some_bind, Option.none_bind,
        reduceCtorEq] at h; try obtain ⟨_, _, h⟩ := h)
    | split at h)
  all_goals first
    | (cases h; rfl)
    | (obtain ⟨_, hi, rfl⟩ := Option.map_eq_some'.mp h; exact listForm_structUnpack hi)

end Arrays

section Entries

/-- Setting a string key keeps a dictionary in JSON form. -/
theorem entriesForm_dictSet {acc : List (Key × Value)} (hacc : entriesForm acc = true) (k : String)
    {v : Value} (hv : jsonForm v = true) : entriesForm (dictSet acc (.str k) v) = true := by
  induction acc with
  | nil => simp [dictSet, entriesForm, Key.isStr, hv]
  | cons e rest ih =>
    obtain ⟨k', v'⟩ := e
    simp only [entriesForm, Bool.and_eq_true] at hacc
    obtain ⟨⟨⟨hk', hfresh⟩, hv'⟩, hrest⟩ := hacc
    by_cases hk : k' = .str k
    · subst hk
      simp only [dictSet, if_true, entriesForm, Bool.and_eq_true]
      exact ⟨⟨⟨hk', hfresh⟩, hv⟩, hrest⟩
    · have hfresh' : (dictSet rest (.str k) v).all (fun e => e.1 != k') = true := by
        rw [List.all_eq_true] at hfresh ⊢
        intro e he
        rcases mem_dictSet he with he | rfl
        · exact hfresh e he
        · simpa using Ne.symm hk
      simp [dictSet, hk, entriesForm, hk', hfresh', hv', ih hrest]

/-- A JSON-form dictionary has no `bytes` key. -/
theorem dictGet_bin_of_entriesForm {es : List (Key × Value)} (h : entriesForm es = true) (b : Bytes) :
    dictGet es (.bin b) = none := by
  induction es with
  | nil => rfl
  | cons e rest ih =>
    obtain ⟨k, v⟩ := e
    simp only [entriesForm, Bool.and_eq_true] at h
    have hk : k ≠ .bin b := by rintro rfl; simp [Key.isStr] at h
    simp [dictGet, hk, ih h.2]

theorem isNumpyArray_of_entriesForm {es : List (Key × Value)} (h : entriesForm es = true) :
    isNumpyArray es = false := by
  simp [isNumpyArray, dictGet_bin_of_entriesForm h]

end Entries

mutual
/-- Every converted value is in JSON form. -/
theorem jsonForm_of_makeJsonSerializable : ∀ {v w : Value}, makeJsonSerializable v = some w →
    jsonForm w = true
  | .dict entries, w, h => by
    simp only [makeJsonSerializable] at h
    -- an unpacked array, or the converted entries
    split_ifs at h <;> try split at h
    · cases h; exact jsonForm_numpyArray ‹_›
    all_goals
      obtain ⟨out, ho, rfl⟩ := Option.map_eq_some'.mp h
      exact entriesForm_of_serializeEntries (show entriesForm [] = true from rfl) ho
  | .list items, w, h => by
    simp only [makeJsonSerializable] at h
    obtain ⟨out, ho, rfl⟩ := Option.map_eq_some'.mp h
    exact listForm_of_serializeList ho
  | .none, _, h | .bool _, _, h | .int _, _, h | .float _, _, h | .str _, _, h | .bin _, _, h => by
    cases h; rfl

theorem listForm_of_serializeList : ∀ {vs ws : List Value}, serializeList vs = some ws →
    listForm ws = true
  | [], ws, h => by cases h; rfl
  | v :: vs, ws, h => by
    simp only [serializeList, Option.bind_eq_bind, Option.bind_eq_some] at h
    obtain ⟨v', hv, vs', hvs, h⟩ := h
    cases h
    simp [listForm, jsonForm_of_makeJsonSerializable hv, listForm_of_serializeList hvs]

theorem entriesForm_of_serializeEntries : ∀ {es acc out : List (Key × Value)},
    entriesForm acc = true → serializeEntries es acc = some out → entriesForm out = true
  | [], acc, out, hacc, h => by cases h; exact hacc
  | (k, v) :: rest, acc, out, hacc, h => by
    simp only [serializeEntries, Option.bind_eq_bind, Option.bind_eq_some] at h
    obtain ⟨k', -, v', hv, h⟩ := h
    exact entriesForm_of_serializeEntries
      (entriesForm_dictSet hacc k' (jsonForm_of_makeJsonSerializable hv)) h
end

mutual
/-- On a value in JSON form the conversion is the identity. -/
theorem makeJsonSerializable_of_jsonForm : ∀ {v : Value}, jsonForm v = true →
    makeJsonSerializable v = some v
  | .dict entries, h => by
    simp only [jsonForm] at h
    have hs : serializeEntries entries [] = some ([] ++ entries) :=
      serializeEntries_of_entriesForm h (fun _ he => absurd he (List.not_mem_nil _))
    simp only [makeJsonSerializable, isNumpyArray_of_entriesForm h, Bool.false_eq_true, if_false,
      hs, List.nil_append, Option.map_eq_map, Option.map_some']
  | .list items, h => by
    simp only [jsonForm] at h
    simp only [makeJsonSerializable, serializeList_of_listForm h, Option.map_eq_map, Option.map_some']
  | .none, _ | .bool _, _ | .int _, _ | .float _, _ | .str _, _ | .bin _, _ => rfl

theorem serializeList_of_listForm : ∀ {vs : List Value}, listForm vs = true →
    serializeList vs = some vs
  | [], _ => rfl
  | v :: vs, h => by
    simp only [listForm, Bool.and_eq_true] at h
    simp only [serializeList, makeJsonSerializable_of_jsonForm h.1, serializeList_of_listForm h.2,
      Option.bind_eq_bind, Option.some_bind, Option.pure_def]

theorem serializeEntries_of_entriesForm : ∀ {es acc : List (Key × Value)}, entriesForm es = true →
    (∀ e ∈ acc, e.1 ∉ es.map Prod.fst) → serializeEntries es acc = some (acc ++ es)
  | [], acc, _, _ => by simp [serializeEntries]
  | (k, v) :: rest, acc, h, hacc => by
    simp only [entriesForm, Bool.and_eq_true, List.all_eq_true, bne_iff_ne, ne_eq] at h
    obtain ⟨⟨⟨hk, hfresh⟩, hv⟩, hrest⟩ := h
    cases k with
    | bin b => simp [Key.isStr] at hk
    | str s =>
      have hnew : Key.str s ∉ acc.map Prod.fst := fun hm => by
        obtain ⟨e, he, hes⟩ := List.mem_map.mp hm
        exact hacc e he (by simp [hes])
      have hacc' : ∀ e ∈ acc ++ [(Key.str s, v)], e.1 ∉ rest.map Prod.fst := by
        intro e he hm
        obtain ⟨e', he', hes⟩ := List.mem_map.mp hm
        rcases List.mem_append.mp he with he | he
        · exact hacc e he (List.mem_map.mpr ⟨e', List.mem_cons_of_mem _ he', hes⟩)
        · rw [List.mem_singleton.mp he] at hes
          exact hfresh e' he' hes
      simp only [serializeEntries, keyText, makeJsonSerializable_of_jsonForm hv,
        dictSet_of_not_mem hnew, Option.bind_eq_bind, Option.some_bind,
        serializeEntries_of_entriesForm hrest hacc', List.append_assoc, List.singleton_append]
end

/-- **Converting is a projection onto JSON form.** The values `make_json_serializable`
returns are exactly those in which every dictionary is keyed by distinct strings, and
converting a converted value gives it back. -/
theorem makeJsonSerializable_is_a_projection (w : Value) :
    ((∃ v, makeJsonSerializable v = some w) ↔ jsonForm w = true) ∧
      ∀ v, makeJsonSerializable v = some w → makeJsonSerializable w = some w :=
  ⟨⟨fun ⟨_, h⟩ => jsonForm_of_makeJsonSerializable h,
    fun h => ⟨w, makeJsonSerializable_of_jsonForm h⟩⟩,
   fun _ h => makeJsonSerializable_of_jsonForm (jsonForm_of_makeJsonSerializable h)⟩

/-- A `bytes` key and a string key that decode alike merge into one string key, the later
value kept. -/
example : makeJsonSerializable (.dict [(.bin [97], .int 1), (.str "a", .int 2)]) =
    some (.dict [(.str "a", .int 2)]) := rfl

end WebATM
