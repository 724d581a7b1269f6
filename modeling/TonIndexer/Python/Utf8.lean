import TonIndexer.Python.Codecs

/-!
# UTF-8 decoding inverts `str.encode`

`bytes.decode("utf-8")` returns exactly on the byte strings that are `str.encode` of some
string, and then it returns that string. This is what the plain jetton comment relies on: its
bytes decode exactly when they are the UTF-8 form of a text.

* `utf8EncodeChar_toNat`: Lean's encoder, which `encodeUtf8` maps over the characters, writes
  the bytes of Unicode Table 3-6 (`utf8Bytes`);
* `lead_spec`: what each class of leading byte says of the byte, one row of Table 3-7 each;
* `decodeUtf8Loop_idle_ok` and `decodeUtf8Loop_utf8EncodeChar`: from between sequences, the
  decoder reads one character's UTF-8 form at a time, in both directions;
* `decodeUtf8_eq_ok_iff`: the round trip.

The byte arithmetic is done once per sequence length, on numbers (`utf8Bytes_two_spells` and
`utf8Bytes_spelled_two` for two bytes, and so on), so that the decoder's proofs only read
bytes off those lemmas.
-/

namespace TonIndexer

/-! ## The encoder's bytes as numbers -/

theorem u8_eq_iff {a b : UInt8} : a = b ↔ a.toNat = b.toNat := ⟨congrArg _, UInt8.toNat.inj⟩

theorem u32_le_iff {a b : UInt32} : a ≤ b ↔ a.toNat ≤ b.toNat := Iff.rfl

@[simp] theorem u32_toNat_lit (m : Nat) :
    (no_index (OfNat.ofNat m) : UInt32).toNat = m % 2 ^ 32 := rfl

theorem u32_toNat_toUInt8 (y : UInt32) : y.toUInt8.toNat = y.toNat % 256 := rfl

theorem u32_toNat_shiftRight (x k : UInt32) (hk : k.toNat < 32) :
    (x >>> k).toNat = x.toNat / 2 ^ k.toNat := by
  show (x.toBitVec >>> (UInt32.mod k 32).toBitVec.toNat).toNat = _
  rw [BitVec.toNat_ushiftRight, Nat.shiftRight_eq_div_pow]
  congr 2
  show k.toNat % 32 = k.toNat
  omega

/-- A byte the encoder builds: the low `j` bits of `y` under a tag whose low `j` bits are
clear. -/
theorem toNat_encodedByte (y : UInt32) (m t : UInt8) (j : Nat) (hm : m.toNat = 2 ^ j - 1)
    (ht : t.toNat % 2 ^ j = 0) (hj : j ≤ 8) :
    (y.toUInt8 &&& m ||| t).toNat = t.toNat + y.toNat % 2 ^ j := by
  have hlow : y.toNat % 256 % 2 ^ j = y.toNat % 2 ^ j :=
    Nat.mod_mod_of_dvd _ (by simpa using Nat.pow_dvd_pow 2 hj)
  have hr : y.toNat % 2 ^ j < 2 ^ j := Nat.mod_lt _ (Nat.two_pow_pos j)
  show (y.toUInt8.toBitVec &&& m.toBitVec ||| t.toBitVec).toNat = _
  rw [BitVec.toNat_or, BitVec.toNat_and]
  change (y.toNat % 256 &&& m.toNat ||| t.toNat) = _
  rw [hm, Nat.and_pow_two_sub_one_eq_mod, hlow, Nat.or_comm,
    ← Nat.div_add_mod t.toNat (2 ^ j), ht, Nat.add_zero, ← Nat.mul_add_lt_is_or hr]

/-- The encoder's bytes under each of its four masks. -/
theorem toNat_encodedByte_mask (y : UInt32) (t : UInt8) :
    (t.toNat % 2 ^ 3 = 0 → (y.toUInt8 &&& 0x07 ||| t).toNat = t.toNat + y.toNat % 2 ^ 3) ∧
    (t.toNat % 2 ^ 4 = 0 → (y.toUInt8 &&& 0x0f ||| t).toNat = t.toNat + y.toNat % 2 ^ 4) ∧
    (t.toNat % 2 ^ 5 = 0 → (y.toUInt8 &&& 0x1f ||| t).toNat = t.toNat + y.toNat % 2 ^ 5) ∧
    (t.toNat % 2 ^ 6 = 0 → (y.toUInt8 &&& 0x3f ||| t).toNat = t.toNat + y.toNat % 2 ^ 6) :=
  ⟨fun ht => toNat_encodedByte y _ t 3 rfl ht (by decide),
    fun ht => toNat_encodedByte y _ t 4 rfl ht (by decide),
    fun ht => toNat_encodedByte y _ t 5 rfl ht (by decide),
    fun ht => toNat_encodedByte y _ t 6 rfl ht (by decide)⟩

/-- The UTF-8 form of code point `n`, as numbers (Unicode Table 3-6). -/
def utf8Bytes (n : Nat) : List Nat :=
  if n < 0x80 then [n]
  else if n < 0x800 then [0xC0 + n / 2 ^ 6, 0x80 + n % 2 ^ 6]
  else if n < 0x10000 then [0xE0 + n / 2 ^ 12, 0x80 + n / 2 ^ 6 % 2 ^ 6, 0x80 + n % 2 ^ 6]
  else [0xF0 + n / 2 ^ 18, 0x80 + n / 2 ^ 12 % 2 ^ 6, 0x80 + n / 2 ^ 6 % 2 ^ 6, 0x80 + n % 2 ^ 6]

theorem utf8Bytes_two {n : Nat} (h1 : 0x80 ≤ n) (h2 : n < 0x800) :
    utf8Bytes n = [0xC0 + n / 2 ^ 6, 0x80 + n % 2 ^ 6] := by
  rw [utf8Bytes, if_neg (by omega), if_pos h2]

theorem utf8Bytes_three {n : Nat} (h1 : 0x800 ≤ n) (h2 : n < 0x10000) :
    utf8Bytes n = [0xE0 + n / 2 ^ 12, 0x80 + n / 2 ^ 6 % 2 ^ 6, 0x80 + n % 2 ^ 6] := by
  rw [utf8Bytes, if_neg (by omega), if_neg (by omega), if_pos h2]

theorem utf8Bytes_four {n : Nat} (h1 : 0x10000 ≤ n) :
    utf8Bytes n =
      [0xF0 + n / 2 ^ 18, 0x80 + n / 2 ^ 12 % 2 ^ 6, 0x80 + n / 2 ^ 6 % 2 ^ 6, 0x80 + n % 2 ^ 6] := by
  rw [utf8Bytes, if_neg (by omega), if_neg (by omega), if_neg (by omega)]

/-- `str.encode` writes the bytes of Table 3-6. -/
theorem utf8EncodeChar_toNat (c : Char) :
    (String.utf8EncodeChar c).map UInt8.toNat = utf8Bytes c.toNat := by
  have hc : c.val.toNat < 0x110000 := by
    have := c.valid
    simp only [UInt32.isValidChar, Nat.isValidChar] at this
    omega
  unfold String.utf8EncodeChar utf8Bytes
  simp only [u32_le_iff, u32_toNat_lit, Char.toNat]
  split_ifs <;>
    simp only [List.map_cons, List.map_nil, List.cons.injEq, and_true, toNat_encodedByte_mask,
      u32_toNat_shiftRight _ 6 (by decide), u32_toNat_shiftRight _ 12 (by decide),
      u32_toNat_shiftRight _ 18 (by decide), u32_toNat_toUInt8, u8_toNat_lit, u32_toNat_lit,
      Nat.reducePow, Nat.reduceMod] <;>
    omega

theorem toNat_charOfNat {n : Nat} (h : n.isValidChar) : (Char.ofNat n).toNat = n := by
  simp [Char.ofNat, h, Char.ofNatAux, Char.toNat, UInt32.toNat]

/-- Bytes whose values are the UTF-8 form of a valid code point are its `str.encode`. -/
theorem utf8EncodeChar_charOfNat {n : Nat} {bs : Bytes} (hn : n.isValidChar)
    (h : bs.map UInt8.toNat = utf8Bytes n) : String.utf8EncodeChar (Char.ofNat n) = bs :=
  List.map_injective_iff.mpr (fun _ _ => UInt8.toNat.inj)
    (by rw [utf8EncodeChar_toNat, toNat_charOfNat hn, h])

/-! ## Table 3-6 against Table 3-7, on numbers -/

/-- The two bytes of Table 3-6 for a code point lie in the ranges of Table 3-7 and spell it. -/
theorem utf8Bytes_two_spells {n : Nat} (h1 : 0x80 ≤ n) (h2 : n < 0x800) :
    (0xC2 ≤ 0xC0 + n / 2 ^ 6 ∧ 0xC0 + n / 2 ^ 6 < 0xE0) ∧
      (0x80 ≤ 0x80 + n % 2 ^ 6 ∧ 0x80 + n % 2 ^ 6 ≤ 0xBF) ∧
      (0xC0 + n / 2 ^ 6) % 2 ^ 5 * 2 ^ 6 + (0x80 + n % 2 ^ 6) % 2 ^ 6 = n := by
  omega

/-- The three bytes of Table 3-6 for a code point that is not a surrogate lie in the ranges
of Table 3-7 and spell it. -/
theorem utf8Bytes_three_spells {n : Nat} (h1 : 0x800 ≤ n) (h2 : n < 0x10000)
    (hs : n < 0xD800 ∨ 0xDFFF < n) :
    (0xE0 ≤ 0xE0 + n / 2 ^ 12 ∧ 0xE0 + n / 2 ^ 12 < 0xF0) ∧
      ((0xE0 + n / 2 ^ 12 ≠ 0xE0 ∨ 0xA0 ≤ 0x80 + n / 2 ^ 6 % 2 ^ 6) ∧
        (0xE0 + n / 2 ^ 12 ≠ 0xED ∨ 0x80 + n / 2 ^ 6 % 2 ^ 6 ≤ 0x9F) ∧
        0x80 ≤ 0x80 + n / 2 ^ 6 % 2 ^ 6 ∧ 0x80 + n / 2 ^ 6 % 2 ^ 6 ≤ 0xBF) ∧
      (0x80 ≤ 0x80 + n % 2 ^ 6 ∧ 0x80 + n % 2 ^ 6 ≤ 0xBF) ∧
      ((0xE0 + n / 2 ^ 12) % 2 ^ 4 * 2 ^ 6 + (0x80 + n / 2 ^ 6 % 2 ^ 6) % 2 ^ 6) * 2 ^ 6 +
        (0x80 + n % 2 ^ 6) % 2 ^ 6 = n := by
  omega

/-- The four bytes of Table 3-6 for a code point past the BMP lie in the ranges of Table 3-7
and spell it. -/
theorem utf8Bytes_four_spells {n : Nat} (h1 : 0x10000 ≤ n) (h2 : n < 0x110000) :
    (0xF0 ≤ 0xF0 + n / 2 ^ 18 ∧ 0xF0 + n / 2 ^ 18 < 0xF5) ∧
      ((0xF0 + n / 2 ^ 18 ≠ 0xF0 ∨ 0x90 ≤ 0x80 + n / 2 ^ 12 % 2 ^ 6) ∧
        (0xF0 + n / 2 ^ 18 ≠ 0xF4 ∨ 0x80 + n / 2 ^ 12 % 2 ^ 6 ≤ 0x8F) ∧
        0x80 ≤ 0x80 + n / 2 ^ 12 % 2 ^ 6 ∧ 0x80 + n / 2 ^ 12 % 2 ^ 6 ≤ 0xBF) ∧
      (0x80 ≤ 0x80 + n / 2 ^ 6 % 2 ^ 6 ∧ 0x80 + n / 2 ^ 6 % 2 ^ 6 ≤ 0xBF) ∧
      (0x80 ≤ 0x80 + n % 2 ^ 6 ∧ 0x80 + n % 2 ^ 6 ≤ 0xBF) ∧
      (((0xF0 + n / 2 ^ 18) % 2 ^ 3 * 2 ^ 6 + (0x80 + n / 2 ^ 12 % 2 ^ 6) % 2 ^ 6) * 2 ^ 6 +
        (0x80 + n / 2 ^ 6 % 2 ^ 6) % 2 ^ 6) * 2 ^ 6 + (0x80 + n % 2 ^ 6) % 2 ^ 6 = n := by
  omega

/-- Two bytes in the ranges of Table 3-7 spell a code point whose UTF-8 form they are. -/
theorem utf8Bytes_spelled_two {x y : Nat} (hx : 0xC2 ≤ x ∧ x < 0xE0)
    (hy : 0x80 ≤ y ∧ y ≤ 0xBF) :
    (x % 2 ^ 5 * 2 ^ 6 + y % 2 ^ 6).isValidChar ∧
      utf8Bytes (x % 2 ^ 5 * 2 ^ 6 + y % 2 ^ 6) = [x, y] := by
  refine ⟨by simp only [Nat.isValidChar]; omega, ?_⟩
  rw [utf8Bytes_two (by omega) (by omega)]
  simp only [List.cons.injEq, and_true]
  omega

/-- Three bytes in the ranges of Table 3-7 spell a code point whose UTF-8 form they are. -/
theorem utf8Bytes_spelled_three {x y z : Nat} (hx : 0xE0 ≤ x ∧ x < 0xF0)
    (hy : (x ≠ 0xE0 ∨ 0xA0 ≤ y) ∧ (x ≠ 0xED ∨ y ≤ 0x9F) ∧ 0x80 ≤ y ∧ y ≤ 0xBF)
    (hz : 0x80 ≤ z ∧ z ≤ 0xBF) :
    ((x % 2 ^ 4 * 2 ^ 6 + y % 2 ^ 6) * 2 ^ 6 + z % 2 ^ 6).isValidChar ∧
      utf8Bytes ((x % 2 ^ 4 * 2 ^ 6 + y % 2 ^ 6) * 2 ^ 6 + z % 2 ^ 6) = [x, y, z] := by
  refine ⟨by simp only [Nat.isValidChar]; omega, ?_⟩
  rw [utf8Bytes_three (by omega) (by omega)]
  simp only [List.cons.injEq, and_true]
  omega

/-- Four bytes in the ranges of Table 3-7 spell a code point whose UTF-8 form they are. -/
theorem utf8Bytes_spelled_four {x y z w : Nat} (hx : 0xF0 ≤ x ∧ x < 0xF5)
    (hy : (x ≠ 0xF0 ∨ 0x90 ≤ y) ∧ (x ≠ 0xF4 ∨ y ≤ 0x8F) ∧ 0x80 ≤ y ∧ y ≤ 0xBF)
    (hz : 0x80 ≤ z ∧ z ≤ 0xBF) (hw : 0x80 ≤ w ∧ w ≤ 0xBF) :
    (((x % 2 ^ 3 * 2 ^ 6 + y % 2 ^ 6) * 2 ^ 6 + z % 2 ^ 6) * 2 ^ 6 + w % 2 ^ 6).isValidChar ∧
      utf8Bytes (((x % 2 ^ 3 * 2 ^ 6 + y % 2 ^ 6) * 2 ^ 6 + z % 2 ^ 6) * 2 ^ 6 + w % 2 ^ 6) =
        [x, y, z, w] := by
  refine ⟨by simp only [Nat.isValidChar]; omega, ?_⟩
  rw [utf8Bytes_four (by omega)]
  simp only [List.cons.injEq, and_true]
  omega

/-! ## The decoder, one sequence at a time -/

/-- What each class of leading byte says of the byte, one row of Unicode Table 3-7 each. -/
theorem lead_spec (b : UInt8) :
    match lead b with
    | .ascii => b.toNat < 0x80
    | .two => 0xC2 ≤ b.toNat ∧ b.toNat < 0xE0
    | .three lo hi => 0xE0 ≤ b.toNat ∧ b.toNat < 0xF0 ∧
        (b.toNat = 0xE0 ∧ lo.toNat = 0xA0 ∨ b.toNat ≠ 0xE0 ∧ lo.toNat = 0x80) ∧
        (b.toNat = 0xED ∧ hi.toNat = 0x9F ∨ b.toNat ≠ 0xED ∧ hi.toNat = 0xBF)
    | .four lo hi => 0xF0 ≤ b.toNat ∧ b.toNat < 0xF5 ∧
        (b.toNat = 0xF0 ∧ lo.toNat = 0x90 ∨ b.toNat ≠ 0xF0 ∧ lo.toNat = 0x80) ∧
        (b.toNat = 0xF4 ∧ hi.toNat = 0x8F ∨ b.toNat ≠ 0xF4 ∧ hi.toNat = 0xBF)
    | .invalid => (0x80 ≤ b.toNat ∧ b.toNat < 0xC2) ∨ 0xF5 ≤ b.toNat := by
  have hb : b.toNat < 256 := b.toNat_lt_size
  simp only [lead, u8_lt_iff, u8_eq_iff, u8_toNat_lit, Nat.reduceMod]
  by_cases h1 : b.toNat < 0x80
  · rw [if_pos h1]; exact h1
  rw [if_neg h1]
  by_cases h2 : b.toNat < 0xC2
  · rw [if_pos h2]; omega
  rw [if_neg h2]
  by_cases h3 : b.toNat < 0xE0
  · rw [if_pos h3]; omega
  rw [if_neg h3]
  by_cases h4 : b.toNat = 0xE0
  · rw [if_pos h4]; simp only [u8_toNat_lit, Nat.reduceMod, and_true, and_false, or_false]; omega
  rw [if_neg h4]
  by_cases h5 : b.toNat = 0xED
  · rw [if_pos h5]; simp only [u8_toNat_lit, Nat.reduceMod, and_true, and_false, or_false]; omega
  rw [if_neg h5]
  by_cases h6 : b.toNat < 0xF0
  · rw [if_pos h6]; simp only [u8_toNat_lit, Nat.reduceMod, and_true, and_false, or_false]; omega
  rw [if_neg h6]
  by_cases h7 : b.toNat = 0xF0
  · rw [if_pos h7]; simp only [u8_toNat_lit, Nat.reduceMod, and_true, and_false, or_false]; omega
  rw [if_neg h7]
  by_cases h8 : b.toNat < 0xF4
  · rw [if_pos h8]; simp only [u8_toNat_lit, Nat.reduceMod, and_true, and_false, or_false]; omega
  rw [if_neg h8]
  by_cases h9 : b.toNat = 0xF4
  · rw [if_pos h9]; simp only [u8_toNat_lit, Nat.reduceMod, and_true, and_false, or_false]; omega
  rw [if_neg h9]
  omega

theorem inRange_iff {lo hi b : UInt8} :
    inRange lo hi b = true ↔ lo.toNat ≤ b.toNat ∧ b.toNat ≤ hi.toNat := by
  simp [inRange, u8_le_iff]

/-- A returning run that owes continuation bytes reads the next one in range and goes on. -/
theorem decodeUtf8Loop_owed_ok {pos : Nat} {st : Utf8State} {bs : Bytes} {cs : List Char}
    (hneed : st.need ≠ 0) (h : decodeUtf8Loop pos st bs = .ok cs) :
    ∃ b rest, bs = b :: rest ∧ st.lo.toNat ≤ b.toNat ∧ b.toNat ≤ st.hi.toNat ∧
      (if st.need = 1 then
        (Char.ofNat (st.acc * 2 ^ 6 + low b 6) :: ·) <$> decodeUtf8Loop (pos + 1) .idle rest
      else decodeUtf8Loop (pos + 1)
        ⟨st.need - 1, st.acc * 2 ^ 6 + low b 6, 0x80, 0xBF, st.start⟩ rest) = .ok cs := by
  cases bs with
  | nil => simp [decodeUtf8Loop, hneed] at h
  | cons b rest =>
    simp only [decodeUtf8Loop, hneed, if_false] at h
    by_cases hin : inRange st.lo st.hi b = true
    · rw [if_pos hin] at h
      exact ⟨b, rest, rfl, (inRange_iff.mp hin).1, (inRange_iff.mp hin).2, h⟩
    · rw [if_neg hin] at h
      cases h

/-- From between sequences, a run that returns starts with the UTF-8 form of one character. -/
theorem decodeUtf8Loop_idle_ok {pos : Nat} {b : UInt8} {rest : Bytes} {cs : List Char}
    (h : decodeUtf8Loop pos .idle (b :: rest) = .ok cs) :
    ∃ c rest' cs', b :: rest = String.utf8EncodeChar c ++ rest' ∧ cs = c :: cs' ∧
      decodeUtf8Loop (pos + c.utf8Size) .idle rest' = .ok cs' := by
  have hl := lead_spec b
  simp only [decodeUtf8Loop, Utf8State.idle_need, if_true] at h
  rcases hlb : lead b with _ | _ | ⟨lo, hi⟩ | ⟨lo, hi⟩ | _ <;> rw [hlb] at h hl <;>
    simp only at h hl
  case ascii =>
    obtain ⟨cs', hcs', rfl⟩ := except_map_eq_ok.mp h
    have henc : String.utf8EncodeChar (Char.ofNat b.toNat) = [b] :=
      utf8EncodeChar_charOfNat (by simp only [Nat.isValidChar]; omega) (by simp [utf8Bytes, hl])
    refine ⟨_, rest, cs', by rw [henc]; rfl, rfl, ?_⟩
    rwa [← String.length_utf8EncodeChar, henc]
  case two =>
    obtain ⟨b2, rest, rfl, h2lo, h2hi, h⟩ := decodeUtf8Loop_owed_ok (Nat.succ_ne_zero _) h
    obtain ⟨cs', hcs', rfl⟩ := except_map_eq_ok.mp h
    simp only [u8_toNat_lit] at h2lo h2hi
    obtain ⟨hvalid, hbytes⟩ := utf8Bytes_spelled_two hl ⟨h2lo, h2hi⟩
    have henc : String.utf8EncodeChar (Char.ofNat (low b 5 * 2 ^ 6 + low b2 6)) = [b, b2] :=
      utf8EncodeChar_charOfNat hvalid hbytes.symm
    refine ⟨_, rest, cs', by rw [henc]; rfl, rfl, ?_⟩
    rwa [← String.length_utf8EncodeChar, henc]
  case three =>
    obtain ⟨b2, rest, rfl, h2lo, h2hi, h⟩ := decodeUtf8Loop_owed_ok (Nat.succ_ne_zero _) h
    obtain ⟨b3, rest, rfl, h3lo, h3hi, h⟩ := decodeUtf8Loop_owed_ok (Nat.succ_ne_zero _) h
    obtain ⟨cs', hcs', rfl⟩ := except_map_eq_ok.mp h
    simp only [u8_toNat_lit] at h2lo h2hi h3lo h3hi
    obtain ⟨hvalid, hbytes⟩ :=
      utf8Bytes_spelled_three (y := b2.toNat) ⟨hl.1, hl.2.1⟩ (by omega) ⟨h3lo, h3hi⟩
    have henc : String.utf8EncodeChar
        (Char.ofNat ((low b 4 * 2 ^ 6 + low b2 6) * 2 ^ 6 + low b3 6)) = [b, b2, b3] :=
      utf8EncodeChar_charOfNat hvalid hbytes.symm
    refine ⟨_, rest, cs', by rw [henc]; rfl, rfl, ?_⟩
    rwa [← String.length_utf8EncodeChar, henc]
  case four =>
    obtain ⟨b2, rest, rfl, h2lo, h2hi, h⟩ := decodeUtf8Loop_owed_ok (Nat.succ_ne_zero _) h
    obtain ⟨b3, rest, rfl, h3lo, h3hi, h⟩ := decodeUtf8Loop_owed_ok (Nat.succ_ne_zero _) h
    obtain ⟨b4, rest, rfl, h4lo, h4hi, h⟩ := decodeUtf8Loop_owed_ok (Nat.succ_ne_zero _) h
    obtain ⟨cs', hcs', rfl⟩ := except_map_eq_ok.mp h
    simp only [u8_toNat_lit] at h2lo h2hi h3lo h3hi h4lo h4hi
    obtain ⟨hvalid, hbytes⟩ :=
      utf8Bytes_spelled_four (y := b2.toNat) ⟨hl.1, hl.2.1⟩ (by omega) ⟨h3lo, h3hi⟩ ⟨h4lo, h4hi⟩
    have henc : String.utf8EncodeChar (Char.ofNat
        (((low b 3 * 2 ^ 6 + low b2 6) * 2 ^ 6 + low b3 6) * 2 ^ 6 + low b4 6)) =
          [b, b2, b3, b4] :=
      utf8EncodeChar_charOfNat hvalid hbytes.symm
    refine ⟨_, rest, cs', by rw [henc]; rfl, rfl, ?_⟩
    rwa [← String.length_utf8EncodeChar, henc]
  case invalid => cases h

/-- Two bytes in the ranges of Table 3-7 decode to the code point they spell. -/
theorem decodeUtf8Loop_two (pos : Nat) {b1 b2 : UInt8} (rest : Bytes)
    (h1 : 0xC2 ≤ b1.toNat ∧ b1.toNat < 0xE0) (h2 : 0x80 ≤ b2.toNat ∧ b2.toNat ≤ 0xBF) :
    decodeUtf8Loop pos .idle (b1 :: b2 :: rest) =
      (Char.ofNat (low b1 5 * 2 ^ 6 + low b2 6) :: ·) <$> decodeUtf8Loop (pos + 2) .idle rest := by
  have hl := lead_spec b1
  rcases hlb : lead b1 with _ | _ | ⟨lo, hi⟩ | ⟨lo, hi⟩ | _ <;> rw [hlb] at hl <;>
    simp only at hl <;> try omega
  have hin : inRange 0x80 0xBF b2 = true := inRange_iff.mpr (by simpa using h2)
  simp only [decodeUtf8Loop, Utf8State.idle_need, if_true, hlb, hin, Nat.add_assoc,
    Nat.reduceAdd, Nat.reduceSub, Nat.reduceEqDiff, reduceIte]

/-- Three bytes in the ranges of Table 3-7 decode to the code point they spell. -/
theorem decodeUtf8Loop_three (pos : Nat) {b1 b2 b3 : UInt8} (rest : Bytes)
    (h1 : 0xE0 ≤ b1.toNat ∧ b1.toNat < 0xF0)
    (h2 : (b1.toNat ≠ 0xE0 ∨ 0xA0 ≤ b2.toNat) ∧ (b1.toNat ≠ 0xED ∨ b2.toNat ≤ 0x9F) ∧
      0x80 ≤ b2.toNat ∧ b2.toNat ≤ 0xBF)
    (h3 : 0x80 ≤ b3.toNat ∧ b3.toNat ≤ 0xBF) :
    decodeUtf8Loop pos .idle (b1 :: b2 :: b3 :: rest) =
      (Char.ofNat ((low b1 4 * 2 ^ 6 + low b2 6) * 2 ^ 6 + low b3 6) :: ·) <$>
        decodeUtf8Loop (pos + 3) .idle rest := by
  have hl := lead_spec b1
  rcases hlb : lead b1 with _ | _ | ⟨lo, hi⟩ | ⟨lo, hi⟩ | _ <;> rw [hlb] at hl <;>
    simp only at hl <;> try omega
  have hin2 : inRange lo hi b2 = true := inRange_iff.mpr (by omega)
  have hin3 : inRange 0x80 0xBF b3 = true := inRange_iff.mpr (by simpa using h3)
  simp only [decodeUtf8Loop, Utf8State.idle_need, if_true, hlb, hin2, hin3, Nat.add_assoc,
    Nat.reduceAdd, Nat.reduceSub, Nat.reduceEqDiff, reduceIte]

/-- Four bytes in the ranges of Table 3-7 decode to the code point they spell. -/
theorem decodeUtf8Loop_four (pos : Nat) {b1 b2 b3 b4 : UInt8} (rest : Bytes)
    (h1 : 0xF0 ≤ b1.toNat ∧ b1.toNat < 0xF5)
    (h2 : (b1.toNat ≠ 0xF0 ∨ 0x90 ≤ b2.toNat) ∧ (b1.toNat ≠ 0xF4 ∨ b2.toNat ≤ 0x8F) ∧
      0x80 ≤ b2.toNat ∧ b2.toNat ≤ 0xBF)
    (h3 : 0x80 ≤ b3.toNat ∧ b3.toNat ≤ 0xBF) (h4 : 0x80 ≤ b4.toNat ∧ b4.toNat ≤ 0xBF) :
    decodeUtf8Loop pos .idle (b1 :: b2 :: b3 :: b4 :: rest) =
      (Char.ofNat (((low b1 3 * 2 ^ 6 + low b2 6) * 2 ^ 6 + low b3 6) * 2 ^ 6 + low b4 6) :: ·) <$>
        decodeUtf8Loop (pos + 4) .idle rest := by
  have hl := lead_spec b1
  rcases hlb : lead b1 with _ | _ | ⟨lo, hi⟩ | ⟨lo, hi⟩ | _ <;> rw [hlb] at hl <;>
    simp only at hl <;> try omega
  have hin2 : inRange lo hi b2 = true := inRange_iff.mpr (by omega)
  have hin3 : inRange 0x80 0xBF b3 = true := inRange_iff.mpr (by simpa using h3)
  have hin4 : inRange 0x80 0xBF b4 = true := inRange_iff.mpr (by simpa using h4)
  simp only [decodeUtf8Loop, Utf8State.idle_need, if_true, hlb, hin2, hin3, hin4, Nat.add_assoc,
    Nat.reduceAdd, Nat.reduceSub, Nat.reduceEqDiff, reduceIte]

/-- From between sequences, the UTF-8 form of a character decodes to it. -/
theorem decodeUtf8Loop_utf8EncodeChar (pos : Nat) (c : Char) (rest : Bytes) :
    decodeUtf8Loop pos .idle (String.utf8EncodeChar c ++ rest) =
      (c :: ·) <$> decodeUtf8Loop (pos + c.utf8Size) .idle rest := by
  have hv := utf8EncodeChar_toNat c
  have hsize := String.length_utf8EncodeChar c
  have hc : c.toNat.isValidChar := c.valid
  have hn : Char.ofNat c.toNat = c := Char.ofNat_toNat c
  simp only [Nat.isValidChar] at hc
  by_cases h1 : c.toNat < 0x80
  · rw [utf8Bytes, if_pos h1] at hv
    simp only [List.map_eq_cons_iff, List.map_eq_nil_iff] at hv
    obtain ⟨b1, _, henc, hb1, rfl⟩ := hv
    rw [henc] at hsize ⊢
    have hlb : lead b1 = .ascii := if_pos (show b1.toNat < 128 by omega)
    rw [List.singleton_append, decodeUtf8Loop, if_pos Utf8State.idle_need, hlb, ← hsize]
    simp only [hb1, hn, List.length_singleton]
  by_cases h2 : c.toNat < 0x800
  · rw [utf8Bytes_two (by omega) h2] at hv
    simp only [List.map_eq_cons_iff, List.map_eq_nil_iff] at hv
    obtain ⟨b1, _, henc, hb1, b2, _, rfl, hb2, rfl⟩ := hv
    rw [henc] at hsize ⊢
    obtain ⟨hx, hy, hcode⟩ := utf8Bytes_two_spells (by omega) h2
    rw [← hb1] at hx hcode
    rw [← hb2] at hy hcode
    rw [List.cons_append, List.cons_append, List.nil_append, decodeUtf8Loop_two pos rest hx hy,
      show low b1 5 * 2 ^ 6 + low b2 6 = c.toNat from hcode, hn, ← hsize]
    rfl
  by_cases h3 : c.toNat < 0x10000
  · rw [utf8Bytes_three (by omega) h3] at hv
    simp only [List.map_eq_cons_iff, List.map_eq_nil_iff] at hv
    obtain ⟨b1, _, henc, hb1, b2, _, rfl, hb2, b3, _, rfl, hb3, rfl⟩ := hv
    rw [henc] at hsize ⊢
    obtain ⟨hx, hy, hz, hcode⟩ := utf8Bytes_three_spells (by omega) h3 (by omega)
    rw [← hb1] at hx hy hcode
    rw [← hb2] at hy hcode
    rw [← hb3] at hz hcode
    rw [List.cons_append, List.cons_append, List.cons_append, List.nil_append,
      decodeUtf8Loop_three pos rest hx hy hz,
      show (low b1 4 * 2 ^ 6 + low b2 6) * 2 ^ 6 + low b3 6 = c.toNat from hcode, hn, ← hsize]
    rfl
  · rw [utf8Bytes_four (by omega)] at hv
    simp only [List.map_eq_cons_iff, List.map_eq_nil_iff] at hv
    obtain ⟨b1, _, henc, hb1, b2, _, rfl, hb2, b3, _, rfl, hb3, b4, _, rfl, hb4, rfl⟩ := hv
    rw [henc] at hsize ⊢
    obtain ⟨hx, hy, hz, hw, hcode⟩ := utf8Bytes_four_spells (n := c.toNat) (by omega) (by omega)
    rw [← hb1] at hx hy hcode
    rw [← hb2] at hy hcode
    rw [← hb3] at hz hcode
    rw [← hb4] at hw hcode
    rw [List.cons_append, List.cons_append, List.cons_append, List.cons_append, List.nil_append,
      decodeUtf8Loop_four pos rest hx hy hz hw,
      show ((low b1 3 * 2 ^ 6 + low b2 6) * 2 ^ 6 + low b3 6) * 2 ^ 6 + low b4 6 = c.toNat
        from hcode, hn, ← hsize]
    rfl

/-! ## Whole byte strings -/

/-- The UTF-8 form of any characters decodes to them. -/
theorem decodeUtf8Loop_flatMap (pos : Nat) (cs : List Char) :
    decodeUtf8Loop pos .idle (cs.flatMap String.utf8EncodeChar) = .ok cs := by
  induction cs generalizing pos with
  | nil => rfl
  | cons c cs ih => rw [List.flatMap_cons, decodeUtf8Loop_utf8EncodeChar, ih]; rfl

/-- A run from between sequences that returns read the UTF-8 form of what it returns. -/
theorem decodeUtf8Loop_ok {pos : Nat} {bs : Bytes} {cs : List Char}
    (h : decodeUtf8Loop pos .idle bs = .ok cs) : bs = cs.flatMap String.utf8EncodeChar := by
  cases bs with
  | nil =>
    cases h
    rfl
  | cons b rest =>
    obtain ⟨c, rest', cs', hbs, rfl, h'⟩ := decodeUtf8Loop_idle_ok h
    have hlt : rest'.length < (b :: rest).length := by
      rw [hbs, List.length_append, String.length_utf8EncodeChar]
      have := c.utf8Size_pos
      omega
    rw [hbs, decodeUtf8Loop_ok h', List.flatMap_cons]
termination_by bs.length

/-- `b.decode("utf-8")` returns exactly on the UTF-8 form of a string, and returns that string:
decoding is the inverse of `str.encode`. -/
theorem decodeUtf8_eq_ok_iff {b : Bytes} {s : String} :
    decodeUtf8 b = .ok s ↔ encodeUtf8 s = b := by
  constructor
  · intro h
    obtain ⟨cs, hcs, rfl⟩ := except_map_eq_ok.mp h
    exact (decodeUtf8Loop_ok hcs).symm
  · rintro rfl
    rw [decodeUtf8, encodeUtf8, decodeUtf8Loop_flatMap]
    rfl

end TonIndexer
