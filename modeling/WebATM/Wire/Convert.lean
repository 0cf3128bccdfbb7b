import WebATM.Wire.Text

/-!
# Python conversions the handlers apply

The builtins the topic handlers call on decoded payloads: `float()`, `int()` and `str()`,
Python equality and `in`, `tim2txt`, and `make_json_serializable` of `utils.py` with its
branch for arrays that BlueSky serialises as `{b"numpy", b"type", b"shape", b"data"}`.
A conversion that raises returns `none`.

Floats are exact rationals here: `float()` of an `int` or of a decimal literal keeps the
exact value instead of rounding it to the nearest double, and `str()` of a float writes the
exact decimal expansion, not Python's shortest round-trip form.
-/

namespace WebATM

/-- Whether a run of digits and underscores has its underscores only between digits, as
Python's number syntax requires. -/
def underscoresBetweenDigits : List Char → Bool
  | [] => true
  | ['_'] => false
  | '_' :: '_' :: _ => false
  | _ :: cs => underscoresBetweenDigits cs

/-- The decimal digits at the head of a character list and the characters after them;
`none` when an underscore among them is misplaced. -/
def readDigits (cs : List Char) : Option (List Nat × List Char) :=
  let run := cs.takeWhile fun c => c.isDigit || c == '_'
  if run.head? = some '_' || !underscoresBetweenDigits run then none
  else some ((run.filter Char.isDigit).map fun c => c.toNat - 48,
    cs.dropWhile fun c => c.isDigit || c == '_')

/-- The number a list of decimal digits spells. -/
def digitsValue (ds : List Nat) : Nat := ds.foldl (fun a d => 10 * a + d) 0

/-- An optional sign: whether it is `-`, and the rest. -/
def readSign : List Char → Bool × List Char
  | '-' :: cs => (true, cs)
  | '+' :: cs => (false, cs)
  | cs => (false, cs)

/-- The characters of `s.strip()`. -/
def stripChars (cs : List Char) : List Char :=
  ((cs.dropWhile pyIsSpace).reverse.dropWhile pyIsSpace).reverse

/-- `int(s)` for a string: an optionally signed run of decimal digits, with surrounding
white space. -/
def parseInt (cs : List Char) : Option Int :=
  let (neg, s) := readSign (stripChars cs)
  match readDigits s with
  | some (ds@(_ :: _), []) => some (if neg then -(digitsValue ds : Int) else digitsValue ds)
  | _ => none

/-- The decimal exponent of a float literal: empty, or `e`/`E`, a sign and digits. -/
def readExponent : List Char → Option Int
  | [] => some 0
  | c :: cs =>
    if c = 'e' ∨ c = 'E' then
      let (neg, s) := readSign cs
      match readDigits s with
      | some (ds@(_ :: _), []) => some (if neg then -(digitsValue ds : Int) else digitsValue ds)
      | _ => none
    else none

/-- `float(s)` for a string: `inf`, `infinity` or `nan` in any case, or a decimal literal
with an optional fraction and exponent, signed, with surrounding white space. -/
def parseFloat (cs : List Char) : Option PyFloat :=
  let (neg, s) := readSign (stripChars cs)
  let word := s.map Char.toLower
  if word = "inf".toList ∨ word = "infinity".toList then some (.inf neg)
  else if word = "nan".toList then some .nan
  else do
    let (ip, r1) ← readDigits s
    let (fp, r2) ← match r1 with
      | '.' :: r => readDigits r
      | _ => some ([], r1)
    if ip = [] ∧ fp = [] then none
    else
      let e ← readExponent r2
      let mant : ℚ := (digitsValue (ip ++ fp) : ℚ) / 10 ^ fp.length
      let mag : ℚ := if 0 ≤ e then mant * 10 ^ e.toNat else mant / 10 ^ (-e).toNat
      pure (.finite (if neg then -mag else mag))

/-- The characters of a `bytes` value read one byte per character, as `float()` and
`int()` read a bytes argument. -/
def byteChars (b : Bytes) : List Char := b.map fun x => Char.ofNat x.toNat

/-- `float(x)`. -/
def pyFloat : Value → Option PyFloat
  | .bool b => some (.finite (if b then 1 else 0))
  | .int i => some (.finite i)
  | .float x => some x
  | .str s => parseFloat s.toList
  | .bin b => parseFloat (byteChars b)
  | _ => none

/-- `int(x)`: a float is truncated toward zero; infinities and NaN raise. -/
def pyInt : Value → Option Int
  | .bool b => some (if b then 1 else 0)
  | .int i => some i
  | .float (.finite q) => some (q.num.tdiv q.den)
  | .str s => parseInt s.toList
  | .bin b => parseInt (byteChars b)
  | _ => none

/-- The decimal digits of a natural number. -/
def natText (n : Nat) : String := String.mk (Nat.toDigits 10 n)

/-- `str(i)` for an `int`. -/
def intText (i : Int) : String := if i < 0 then "-" ++ natText i.natAbs else natText i.natAbs

/-- The exact decimal expansion of a rational whose denominator divides a power of ten
(every double is such a number), with `.0` for an integer, as Python writes floats of
moderate size. -/
def decimalText (q : ℚ) : String :=
  let k := (List.range (q.den + 1)).find? (fun k => 10 ^ k % q.den = 0) |>.getD 0
  let scaled := q.num.natAbs * (10 ^ k / q.den)
  let sign := if q.num < 0 then "-" else ""
  if k = 0 then sign ++ natText scaled ++ ".0"
  else
    let digits := Nat.toDigits 10 scaled
    let padded := List.replicate (k + 1 - digits.length) '0' ++ digits
    sign ++ String.mk (padded.take (padded.length - k)) ++ "." ++
      String.mk (padded.drop (padded.length - k))

/-- `str(x)` for a float. -/
def floatText : PyFloat → String
  | .finite q => decimalText q
  | .inf neg => if neg then "-inf" else "inf"
  | .nan => "nan"

/-- `repr(s)` for a string, in single quotes. -/
def strRepr (s : String) : String := "'" ++ s ++ "'"

/-- `repr(k)` for a dictionary key. -/
def keyRepr : Key → String
  | .str s => strRepr s
  | .bin b => bytesRepr b

mutual
/-- `str(x)`. The text of a list or dictionary joins the `repr` of its items, which is
`str` except that strings are quoted. -/
def pyStr : Value → String
  | .none => "None"
  | .bool b => if b then "True" else "False"
  | .int i => intText i
  | .float x => floatText x
  | .str s => s
  | .bin b => bytesRepr b
  | .list items => "[" ++ reprList items ++ "]"
  | .dict entries => "\x7b" ++ reprEntries entries ++ "\x7d"

def reprList : List Value → String
  | [] => ""
  | [.str s] => strRepr s
  | [v] => pyStr v
  | .str s :: vs => strRepr s ++ ", " ++ reprList vs
  | v :: vs => pyStr v ++ ", " ++ reprList vs

def reprEntries : List (Key × Value) → String
  | [] => ""
  | [(k, .str s)] => keyRepr k ++ ": " ++ strRepr s
  | [(k, v)] => keyRepr k ++ ": " ++ pyStr v
  | (k, .str s) :: es => keyRepr k ++ ": " ++ strRepr s ++ ", " ++ reprEntries es
  | (k, v) :: es => keyRepr k ++ ": " ++ pyStr v ++ ", " ++ reprEntries es
end

/-- The exact value of a number, as Python compares numbers across `bool`, `int` and
`float`. -/
def Value.number : Value → Option PyFloat
  | .bool b => some (.finite (if b then 1 else 0))
  | .int i => some (.finite i)
  | .float x => some x
  | _ => Option.none

/-- `==` between two floats: NaN equals nothing. -/
def PyFloat.eq : PyFloat → PyFloat → Bool
  | .finite p, .finite q => p == q
  | .inf a, .inf b => a == b
  | _, _ => false

mutual
/-- Python's `==` on decoded objects: numbers by value, strings and bytes by content,
lists item by item, dictionaries as mappings. -/
def pyEq : Value → Value → Bool
  | .list xs, .list ys => listEq xs ys
  | .dict xs, .dict ys => xs.length == ys.length && entriesIn xs ys
  | .none, .none => true
  | .str s, .str t => s == t
  | .bin s, .bin t => s == t
  | a, b =>
    match a.number, b.number with
    | some x, some y => x.eq y
    | _, _ => false

def listEq : List Value → List Value → Bool
  | [], [] => true
  | x :: xs, y :: ys => pyEq x y && listEq xs ys
  | _, _ => false

/-- Every entry of the first dictionary is in the second with an equal value. -/
def entriesIn : List (Key × Value) → List (Key × Value) → Bool
  | [], _ => true
  | (k, v) :: rest, ys =>
    (match dictGet ys k with
      | some w => pyEq v w
      | none => false) && entriesIn rest ys
end

/-- Whether a list occurs contiguously in another. -/
def isInfix [BEq α] (xs ys : List α) : Bool := ys.tails.any (xs.isPrefixOf ·)

/-- The key a value is under in a dictionary, when it is hashable: only strings and
bytes can equal a decoded key. `none` is `TypeError` for a list or a dictionary. -/
def Value.asKey? : Value → Option (Option Key)
  | .str s => some (some (.str s))
  | .bin b => some (some (.bin b))
  | .list _ | .dict _ => Option.none
  | _ => some Option.none

/-- `x in container`; `none` is the `TypeError` of a container that is not iterable or
of an item it cannot hold. -/
def pyIn (x : Value) : Value → Option Bool
  | .list items => some (items.any (pyEq x))
  | .dict entries => (fun k => k.any fun k => (dictGet entries k).isSome) <$> x.asKey?
  | .str s =>
    match x with
    | .str t => some (isInfix t.toList s.toList)
    | _ => none
  | .bin b =>
    match x with
    | .bin t => some (isInfix t b)
    | .int i => if 0 ≤ i ∧ i < 256 then some (b.any (·.toNat == i.toNat)) else none
    | .bool v => some (b.any (·.toNat == if v then 1 else 0))
    | _ => none
  | _ => none

/-- `d.get(key)` with a string key: `none` is the `AttributeError` of a value that is not a
dictionary. -/
def Value.get? (v : Value) (key : String) : Option (Option Value) :=
  match v with
  | .dict entries => some (dictGet entries (.str key))
  | _ => Option.none

/-- `f"{i:0{n}d}"`: zero-padded to width `n`, the sign included in the width. -/
def i2txt (i : Int) (n : Nat) : String :=
  let ds := Nat.toDigits 10 i.natAbs
  if i < 0 then String.mk ('-' :: List.replicate (n - 1 - ds.length) '0' ++ ds)
  else String.mk (List.replicate (n - ds.length) '0' ++ ds)

/-- The exact value `time.gmtime` reads from a number; a string or a container raises. -/
def timeValue : Value → Option ℚ
  | .bool b => some (if b then 1 else 0)
  | .int i => some i
  | .float (.finite q) => some q
  | _ => none

/-- The first second `time.gmtime` converts: glibc keeps the year less 1900 in the `int`
field `tm_year`, so the year can be no earlier than `-2147481748`. -/
def gmtimeMin : Int := -67768040609740800

/-- The last second `time.gmtime` converts, the end of the year `2147485547`; a later one
raises `OSError` (`EOVERFLOW`). -/
def gmtimeMax : Int := 67768036191676799

/-- `tim2txt(t)`: `HH:MM:SS.` of the UTC time of day of `floor(t)`, then the hundredths
`int((t - int(t)) * 100.0)` padded to two characters. `gmtime` raises outside its range. -/
def tim2txt (t : Value) : Option String := do
  let q ← timeValue t
  if q.floor < gmtimeMin ∨ gmtimeMax < q.floor then none
  else
    let secs := q.floor % 86400
    let trunc := q.num.tdiv q.den
    let hundredths := ((q - trunc) * 100).num.tdiv ((q - trunc) * 100).den
    pure (i2txt (secs / 3600) 2 ++ ":" ++ i2txt (secs % 3600 / 60) 2 ++ ":" ++
      i2txt (secs % 60) 2 ++ "." ++ i2txt hundredths 2)

/-- The unsigned integer of little-endian bytes. -/
def leNat : Bytes → Nat
  | [] => 0
  | b :: bs => b.toNat + 256 * leNat bs

/-- The IEEE 754 binary number with `e` exponent bits and `m` fraction bits whose bit
pattern is `bits`. -/
def ieeeDecode (e m bits : Nat) : PyFloat :=
  let frac := bits % 2 ^ m
  let ex := bits / 2 ^ m % 2 ^ e
  let neg := bits / 2 ^ (m + e) % 2 == 1
  let bias := 2 ^ (e - 1) - 1
  if ex = 2 ^ e - 1 then (if frac = 0 then .inf neg else .nan)
  else
    let mag : ℚ :=
      if ex = 0 then (frac : ℚ) / 2 ^ (bias - 1 + m)
      else ((2 ^ m + frac : ℕ) : ℚ) * 2 ^ ex / 2 ^ (bias + m)
    .finite (if neg then -mag else mag)

/-- The two's-complement value of `8 * n` little-endian bits. -/
def signedOf (n : Nat) (bits : Nat) : Int :=
  if bits < 2 ^ (8 * n - 1) then bits else (bits : Int) - 2 ^ (8 * n)

/-- One item of `struct.unpack` in the given format character. -/
def unpackItem (fmt : Char) (bs : Bytes) : Value :=
  match fmt with
  | 'd' => .float (ieeeDecode 11 52 (leNat bs))
  | 'f' => .float (ieeeDecode 8 23 (leNat bs))
  | 'q' => .int (signedOf 8 (leNat bs))
  | 'i' => .int (signedOf 4 (leNat bs))
  | _ => .bool (leNat bs != 0)

/-- `struct.unpack(f"<{n}{fmt}", data)`: exactly `n` items of `size` bytes each. -/
def structUnpack (fmt : Char) (size : Nat) : Nat → Bytes → Option (List Value)
  | 0, [] => some []
  | 0, _ :: _ => none
  | n + 1, bs =>
    if bs.length < size then none
    else (unpackItem fmt (bs.take size) :: ·) <$> structUnpack fmt size n (bs.drop size)

/-- `dtype_map`: the numpy type strings the array branch reads, with their `struct`
format and item size. -/
def dtypeFormat : String → Option (Char × Nat)
  | "<f8" => some ('d', 8)
  | "<f4" => some ('f', 4)
  | "<i8" => some ('q', 8)
  | "<i4" => some ('i', 4)
  | "|b1" => some ('?', 1)
  | _ => none

/-- `num_elements` of the array branch, the product of the shape's dimensions: the items of a
list (integers or booleans), or the bytes of a `bytes` shape, which iterate as integers. -/
def elementCount : Value → Option Int
  | .list dims => dims.foldlM (fun n d => match d with
      | .int i => some (n * i)
      | .bool b => some (if b then n else 0)
      | _ => none) 1
  | .bin dims => some (dims.foldl (fun n d => n * (d.toNat : Int)) 1)
  | _ => none

/-- Whether a dictionary has the four keys of a serialised array. -/
def isNumpyArray (entries : List (Key × Value)) : Bool :=
  [Key.bin (asciiBytes "numpy"), .bin (asciiBytes "data"), .bin (asciiBytes "type"),
    .bin (asciiBytes "shape")].all fun k => (dictGet entries k).isSome

/-- The `try` block of the array branch: the unpacked items for a known type string, the
hex of the raw data for an unknown one; `none` when it raises. -/
def numpyArray (entries : List (Key × Value)) : Option Value := do
  let dtype ← match dictGet entries (.bin (asciiBytes "type")) with
    | some (.bin b) => Value.str <$> utf8Decode b
    | some v => some v
    | none => none
  let raw := dictGet entries (.bin (asciiBytes "data"))
  let known ← match dtype with
    | .str t => some (dtypeFormat t)
    | .list _ | .dict _ => none
    | _ => some none
  match known with
  | some (fmt, size) =>
    let n ← elementCount ((dictGet entries (.bin (asciiBytes "shape"))).getD .none)
    if n < 0 then none
    else match raw with
      | some (.bin b) => Value.list <$> structUnpack fmt size n.toNat b
      | _ => none
  | none =>
    match raw with
    | some (.bin b) => some (.str (hex b))
    | _ => none

/-- The text of a dictionary key after `key.decode() if isinstance(key, bytes)`. -/
def keyText : Key → Option String
  | .str s => some s
  | .bin b => utf8Decode b

mutual
/-- `make_json_serializable(obj)` on a decoded object. A dictionary that looks like a
serialised array is unpacked, or falls back to the plain conversion when unpacking raises;
a plain dictionary gets its `bytes` keys decoded, which raises on invalid UTF-8. -/
def makeJsonSerializable : Value → Option Value
  | .dict entries =>
    if isNumpyArray entries then
      match numpyArray entries with
      | some v => some v
      | none => Value.dict <$> serializeEntries entries []
    else Value.dict <$> serializeEntries entries []
  | .list items => Value.list <$> serializeList items
  | v => some v

def serializeList : List Value → Option (List Value)
  | [] => some []
  | v :: vs => do
    let v' ← makeJsonSerializable v
    let vs' ← serializeList vs
    pure (v' :: vs')

/-- The dictionary comprehension, entry by entry: a key decoding to one already seen
keeps its place and takes the later value. -/
def serializeEntries : List (Key × Value) → List (Key × Value) → Option (List (Key × Value))
  | [], acc => some acc
  | (k, v) :: rest, acc => do
    let k' ← keyText k
    let v' ← makeJsonSerializable v
    serializeEntries rest (dictSet acc (.str k') v')
end

end WebATM
