import WebATM.Wire.Value

/-!
# Text as the proxy handles it

The conversions between bytes and text that the client and the proxy apply: strict
UTF-8 decoding (`bytes.decode()`), `safe_decode`, the `bytes` representation `str(b)`,
and the whitespace rules of `str.strip()` and `str.split()`. Every function works on
lists of characters by structural recursion, so that it evaluates.
-/

namespace WebATM

/-- Whether a byte is a UTF-8 continuation byte `10xxxxxx`. -/
def isCont (b : UInt8) : Bool := 0x80 ≤ b.toNat && b.toNat < 0xC0

/-- The payload bits of a continuation byte. -/
def contBits (b : UInt8) : Nat := b.toNat % 64

/-- `bytes.decode("utf-8")` in strict mode: `none` is `UnicodeDecodeError`. Overlong
forms, surrogates and code points above `U+10FFFF` are errors, as in Python. -/
def utf8Chars : Bytes → Option (List Char)
  | [] => some []
  | b :: bs =>
    if b.toNat < 0x80 then (Char.ofNat b.toNat :: ·) <$> utf8Chars bs
    else if b.toNat < 0xC0 then none
    else if b.toNat < 0xE0 then
      match bs with
      | c1 :: rest =>
        let cp := (b.toNat % 32) * 64 + contBits c1
        if isCont c1 && 0x80 ≤ cp then (Char.ofNat cp :: ·) <$> utf8Chars rest else none
      | [] => none
    else if b.toNat < 0xF0 then
      match bs with
      | c1 :: c2 :: rest =>
        let cp := (b.toNat % 16) * 4096 + contBits c1 * 64 + contBits c2
        if isCont c1 && isCont c2 && 0x800 ≤ cp && !(0xD800 ≤ cp && cp < 0xE000) then
          (Char.ofNat cp :: ·) <$> utf8Chars rest
        else none
      | _ => none
    else if b.toNat < 0xF8 then
      match bs with
      | c1 :: c2 :: c3 :: rest =>
        let cp := (b.toNat % 8) * 262144 + contBits c1 * 4096 + contBits c2 * 64 + contBits c3
        if isCont c1 && isCont c2 && isCont c3 && 0x10000 ≤ cp && cp ≤ 0x10FFFF then
          (Char.ofNat cp :: ·) <$> utf8Chars rest
        else none
      | _ => none
    else none

/-- The bytes of a text literal written in ASCII, such as `b"numpy"`. -/
def asciiBytes (s : String) : Bytes := s.toList.map fun c => c.toNat.toUInt8

/-- `bytes.decode("utf-8")`. -/
def utf8Decode (b : Bytes) : Option String := String.mk <$> utf8Chars b

/-- `s.upper()`, for the ASCII letters. -/
def pyUpper (s : String) : String := String.mk (s.toList.map Char.toUpper)

/-- Whether a byte is printable ASCII, `32 <= b <= 126`. -/
def isPrintable (b : UInt8) : Bool := 32 ≤ b.toNat && b.toNat ≤ 126

/-- `safe_decode` on `bytes`: the text when every byte is printable ASCII, and the
upper-case hex otherwise. Decoding as UTF-8 and then as ASCII fails, or gives a
non-printable character, exactly when some byte is not printable ASCII. -/
def safeDecode (b : Bytes) : String :=
  if b.all isPrintable then String.mk (b.map fun x => Char.ofNat x.toNat) else pyUpper (hex b)

/-- The characters for which Python's `str.isspace()` holds; `strip()` and `split()`
with no argument remove exactly these. -/
def pyIsSpace (c : Char) : Bool :=
  let n := c.toNat
  (9 ≤ n && n ≤ 13) || (28 ≤ n && n ≤ 32) || n == 0x85 || n == 0xA0 || n == 0x1680 ||
    (0x2000 ≤ n && n ≤ 0x200A) || n == 0x2028 || n == 0x2029 || n == 0x202F ||
    n == 0x205F || n == 0x3000

/-- `s.strip()`. -/
def pyStrip (s : String) : String :=
  String.mk ((s.toList.dropWhile pyIsSpace).reverse.dropWhile pyIsSpace).reverse

/-- The pieces of a character list cut at every character satisfying `p`. -/
def splitChars (p : Char → Bool) : List Char → List (List Char)
  | [] => [[]]
  | c :: cs =>
    if p c then [] :: splitChars p cs
    else match splitChars p cs with
      | w :: ws => (c :: w) :: ws
      | [] => [[c]]

/-- `s.split()`: the maximal runs of non-space characters. -/
def pySplit (s : String) : List String :=
  ((splitChars pyIsSpace s.toList).filter (· ≠ [])).map String.mk

/-- `s.split(sep)` for a one-character separator: every piece, empty ones included. -/
def pySplitOn (sep : Char) (s : String) : List String :=
  (splitChars (· == sep) s.toList).map String.mk

/-- One byte inside the quotes of `repr(b)`. -/
def byteReprChars (quote : UInt8) (x : UInt8) : List Char :=
  if x = quote || x = 92 then ['\\', Char.ofNat x.toNat]
  else if x = 9 then ['\\', 't']
  else if x = 10 then ['\\', 'n']
  else if x = 13 then ['\\', 'r']
  else if isPrintable x then [Char.ofNat x.toNat]
  else '\\' :: 'x' :: (hexChars [x])

/-- `str(b)` for `bytes`: `b'...'`, in double quotes when the bytes hold a single quote
and no double quote. -/
def bytesRepr (b : Bytes) : String :=
  let quote : UInt8 := if 39 ∈ b ∧ 34 ∉ b then 34 else 39
  String.mk ('b' :: Char.ofNat quote.toNat :: b.flatMap (byteReprChars quote) ++
    [Char.ofNat quote.toNat])

end WebATM
