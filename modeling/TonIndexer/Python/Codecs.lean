import TonIndexer.Python.Basic

/-!
# `str.encode`, `bytes.decode` and `base64.b64encode`

The serializer turns text into bytes once (`key.encode()` before hashing) and bytes into
text three times: the base64 text of the action id, the base64 text of an encrypted jetton
comment, and the plain jetton comment. The first two decode bytes that `b64encode` made,
which are ASCII and so always decode; the third decodes whatever bytes the comment holds,
with the strict error handler, and raises on bytes that are not UTF-8.

* `encodeUtf8` is `str.encode("utf-8")`, byte for byte the encoder of Lean's `String.toUTF8`;
* `decodeUtf8` is `bytes.decode("utf-8")`: the well-formed sequences are those of Table 3-7 of
  the Unicode standard (no overlong forms, no surrogates, nothing past `U+10FFFF`), and the
  error names the position of the first byte that does not start one;
* `b64encode` is `base64.b64encode`, standard alphabet with `=` padding.
-/

namespace TonIndexer

/-! ## UTF-8 -/

/-- `s.encode("utf-8")`. -/
def encodeUtf8 (s : String) : Bytes := s.data.flatMap String.utf8EncodeChar

/-- What a leading byte announces: its sequence length and, for three and four bytes, the
range the second byte must fall in (Unicode Table 3-7). -/
inductive Lead where
  | ascii
  | two
  | three (lo hi : UInt8)
  | four (lo hi : UInt8)
  | invalid
  deriving DecidableEq, Repr

/-- Classify a leading byte. -/
def lead (b : UInt8) : Lead :=
  if b < 0x80 then .ascii
  else if b < 0xC2 then .invalid
  else if b < 0xE0 then .two
  else if b = 0xE0 then .three 0xA0 0xBF
  else if b = 0xED then .three 0x80 0x9F
  else if b < 0xF0 then .three 0x80 0xBF
  else if b = 0xF0 then .four 0x90 0xBF
  else if b < 0xF4 then .four 0x80 0xBF
  else if b = 0xF4 then .four 0x80 0x8F
  else .invalid

/-- `lo ≤ b ≤ hi`. -/
def inRange (lo hi b : UInt8) : Bool := lo ≤ b && b ≤ hi

/-- The low `k` bits of a byte. -/
def low (b : UInt8) (k : Nat) : Nat := b.toNat % 2 ^ k

/-- The decoder between two bytes: `need` continuation bytes are still owed by the sequence
that began at byte `start`, whose code point so far is `acc`, and the next one must lie in
`lo .. hi`. With `need = 0` the next byte starts a sequence. -/
structure Utf8State where
  need : Nat
  acc : Nat
  lo : UInt8
  hi : UInt8
  start : Nat
  deriving DecidableEq, Repr

/-- Between two sequences. -/
def Utf8State.idle : Utf8State := ⟨0, 0, 0x80, 0xBF, 0⟩

@[simp] theorem Utf8State.idle_need : Utf8State.idle.need = 0 := rfl

/-- Decode the bytes from position `pos` on, in state `st`: the characters, or the error at
the first byte of the first sequence that is not well formed. -/
def decodeUtf8Loop (pos : Nat) (st : Utf8State) : Bytes → Except PyError (List Char)
  | [] => if st.need = 0 then pure [] else throw (.unicodeDecodeError st.start)
  | b :: rest =>
    if st.need = 0 then
      match lead b with
      | .ascii => (Char.ofNat b.toNat :: ·) <$> decodeUtf8Loop (pos + 1) st rest
      | .two => decodeUtf8Loop (pos + 1) ⟨1, low b 5, 0x80, 0xBF, pos⟩ rest
      | .three lo hi => decodeUtf8Loop (pos + 1) ⟨2, low b 4, lo, hi, pos⟩ rest
      | .four lo hi => decodeUtf8Loop (pos + 1) ⟨3, low b 3, lo, hi, pos⟩ rest
      | .invalid => throw (.unicodeDecodeError pos)
    else if inRange st.lo st.hi b then
      if st.need = 1 then
        (Char.ofNat (st.acc * 2 ^ 6 + low b 6) :: ·) <$>
          decodeUtf8Loop (pos + 1) Utf8State.idle rest
      else decodeUtf8Loop (pos + 1) ⟨st.need - 1, st.acc * 2 ^ 6 + low b 6, 0x80, 0xBF, st.start⟩ rest
    else throw (.unicodeDecodeError st.start)

/-- `b.decode("utf-8")`. -/
def decodeUtf8 (b : Bytes) : Except PyError String :=
  String.mk <$> decodeUtf8Loop 0 Utf8State.idle b

/-- Between sequences, ASCII bytes decode one character each. -/
theorem decodeUtf8Loop_ascii (pos : Nat) (b : Bytes) (h : ∀ x ∈ b, x < 0x80) :
    decodeUtf8Loop pos Utf8State.idle b = .ok (b.map fun x => Char.ofNat x.toNat) := by
  induction b generalizing pos with
  | nil => rfl
  | cons x b ih =>
    have hx : lead x = .ascii := if_pos (h x (List.mem_cons_self x b))
    simp only [decodeUtf8Loop, Utf8State.idle_need, hx, if_true,
      ih (pos + 1) fun y hy => h y (List.mem_cons_of_mem x hy)]
    rfl

/-- Bytes below `0x80` always decode. -/
theorem decodeUtf8_ascii (b : Bytes) (h : ∀ x ∈ b, x < 0x80) :
    decodeUtf8 b = .ok ⟨b.map fun x => Char.ofNat x.toNat⟩ := by
  rw [decodeUtf8, decodeUtf8Loop_ascii 0 b h]
  rfl

/-! ## Base64 -/

/-- The ASCII code of base64 digit `n < 64` (`A-Z`, `a-z`, `0-9`, `+`, `/`). -/
def b64Digit (n : Nat) : UInt8 :=
  if n < 26 then UInt8.ofNat (65 + n)
  else if n < 52 then UInt8.ofNat (71 + n)
  else if n < 62 then UInt8.ofNat (n - 4)
  else if n = 62 then 43
  else 47

/-- The padding byte `=`. -/
def b64Pad : UInt8 := 61

/-- The base64 digit of bits `k .. k + 5` of a 24-bit group. -/
def sextet (n k : Nat) : UInt8 := b64Digit (n / 2 ^ k % 64)

/-- `base64.b64encode(b)`: each 3-byte group as 4 digits, a short tail padded with `=`. -/
def b64encode : Bytes → Bytes
  | a :: b :: c :: rest =>
    let n := a.toNat * 2 ^ 16 + b.toNat * 2 ^ 8 + c.toNat
    [sextet n 18, sextet n 12, sextet n 6, sextet n 0] ++ b64encode rest
  | [a, b] =>
    let n := a.toNat * 2 ^ 16 + b.toNat * 2 ^ 8
    [sextet n 18, sextet n 12, sextet n 6, b64Pad]
  | [a] =>
    let n := a.toNat * 2 ^ 16
    [sextet n 18, sextet n 12, b64Pad, b64Pad]
  | [] => []

theorem b64Digit_lt (n : Nat) : b64Digit n < 0x80 := by
  unfold b64Digit
  split_ifs <;> simp only [u8_lt_iff, u8_toNat_ofNat, u8_toNat_lit] <;> omega

/-- Base64 output is ASCII. -/
theorem b64encode_ascii (b : Bytes) : ∀ x ∈ b64encode b, x < 0x80 := by
  induction b using b64encode.induct <;> simp_all [b64encode, sextet, b64Digit_lt, b64Pad]

/-- The base64 text of any bytes decodes: `b64encode(b).decode("utf-8")` never raises. -/
theorem decodeUtf8_b64encode (b : Bytes) :
    decodeUtf8 (b64encode b) = .ok ⟨(b64encode b).map fun x => Char.ofNat x.toNat⟩ :=
  decodeUtf8_ascii _ (b64encode_ascii b)

end TonIndexer
