import TonIndexer.Python.Codecs

/-!
# Reading back base64 and hex text

The serializer stores binary values as text in two encodings: `base64.b64encode` for the
action id and an encrypted jetton comment, and `bytes.hex()` for a DNS record's key and ADNL
address. Neither encoding loses anything: this file gives the readers a consumer of those
columns would apply, and proves that each gives back the bytes that were written.

* `b64decode` reads RFC 4648 §4 base64 (four digits a group, `=` padding in the last group);
* `unhex` reads the text `bytes.hex()` writes, two lower-case digits a byte;
* `b64decode_b64encode` and `unhex_hex`: the round trips.

The arithmetic of a 24-bit group is done once on numbers (`sextets_rejoin` and its padded
forms), so the round trip's induction, which follows `b64encode`'s own recursion, only reads
digits off the alphabet table.
-/

namespace TonIndexer

/-! ## Base64 -/

/-- The value of a base64 digit, `none` for a byte outside the alphabet. -/
def b64Value (x : UInt8) : Option Nat :=
  if 65 ≤ x ∧ x ≤ 90 then some (x.toNat - 65)
  else if 97 ≤ x ∧ x ≤ 122 then some (x.toNat - 71)
  else if 48 ≤ x ∧ x ≤ 57 then some (x.toNat + 4)
  else if x = 43 then some 62
  else if x = 47 then some 63
  else none

/-- Base64 text back to bytes: each group of four digits is three bytes; a last group ending
in `==` or `=` is one byte or two. Text that is not whole groups of digits, or that pads
anywhere but at its end, is rejected. -/
def b64decode : Bytes → Option Bytes
  | [] => some []
  | a :: b :: c :: d :: rest => do
    let va ← b64Value a
    let vb ← b64Value b
    if c = b64Pad ∧ d = b64Pad ∧ rest = [] then
      pure [UInt8.ofNat ((va * 2 ^ 18 + vb * 2 ^ 12) / 2 ^ 16)]
    else do
      let vc ← b64Value c
      let n := va * 2 ^ 18 + vb * 2 ^ 12 + vc * 2 ^ 6
      if d = b64Pad ∧ rest = [] then pure [UInt8.ofNat (n / 2 ^ 16), UInt8.ofNat (n / 2 ^ 8)]
      else do
        let vd ← b64Value d
        let tail ← b64decode rest
        pure ([UInt8.ofNat ((n + vd) / 2 ^ 16), UInt8.ofNat ((n + vd) / 2 ^ 8),
          UInt8.ofNat (n + vd)] ++ tail)
  | _ => none

/-- The alphabet table: every digit reads back as its own value. -/
theorem b64Value_b64Digit : ∀ n, n < 64 → b64Value (b64Digit n) = some n := by decide

theorem b64Digit_ne_pad : ∀ n, n < 64 → b64Digit n ≠ b64Pad := by decide

@[simp] theorem b64Value_sextet (n k : Nat) : b64Value (sextet n k) = some (n / 2 ^ k % 64) :=
  b64Value_b64Digit _ (Nat.mod_lt _ (by decide))

@[simp] theorem sextet_ne_pad (n k : Nat) : sextet n k ≠ b64Pad :=
  b64Digit_ne_pad _ (Nat.mod_lt _ (by decide))

theorem u8_bound (a : UInt8) : a.toNat < 256 := a.toNat_lt_size

theorem u8_ofNat_eq {m : Nat} {a : UInt8} (h : m % 256 = a.toNat) : UInt8.ofNat m = a :=
  UInt8.toNat.inj (by simpa using h)

/-- The sextets of a 24-bit group rejoin to the group. -/
theorem sextets_rejoin {n : Nat} (h : n < 2 ^ 24) :
    n / 2 ^ 18 % 64 * 2 ^ 18 + n / 2 ^ 12 % 64 * 2 ^ 12 + n / 2 ^ 6 % 64 * 2 ^ 6 +
      n / 2 ^ 0 % 64 = n := by
  omega

/-- The first three sextets rejoin a group of two bytes, whose low six bits are zero. -/
theorem sextets_rejoin_three {n : Nat} (h : n < 2 ^ 24) (h0 : n % 2 ^ 6 = 0) :
    n / 2 ^ 18 % 64 * 2 ^ 18 + n / 2 ^ 12 % 64 * 2 ^ 12 + n / 2 ^ 6 % 64 * 2 ^ 6 = n := by
  omega

/-- The first two sextets rejoin a group of one byte, whose low twelve bits are zero. -/
theorem sextets_rejoin_two {n : Nat} (h : n < 2 ^ 24) (h0 : n % 2 ^ 12 = 0) :
    n / 2 ^ 18 % 64 * 2 ^ 18 + n / 2 ^ 12 % 64 * 2 ^ 12 = n := by
  omega

/-- Base64 loses nothing: decoding the text of any bytes gives them back. -/
theorem b64decode_b64encode (bs : Bytes) : b64decode (b64encode bs) = some bs := by
  induction bs using b64encode.induct with
  | case1 a b c rest ih =>
    have := u8_bound a; have := u8_bound b; have := u8_bound c
    simp only [b64encode, List.cons_append, List.append_eq, List.nil_append, b64decode,
      b64Value_sextet, sextet_ne_pad, false_and, if_false, ih, Option.bind_eq_bind,
      Option.some_bind, Option.pure_def,
      sextets_rejoin (n := a.toNat * 2 ^ 16 + b.toNat * 2 ^ 8 + c.toNat) (by omega),
      Option.some.injEq, List.cons.injEq, and_true]
    exact ⟨u8_ofNat_eq (by omega), u8_ofNat_eq (by omega), u8_ofNat_eq (by omega)⟩
  | case2 a b =>
    have := u8_bound a; have := u8_bound b
    simp only [b64encode, b64decode, b64Value_sextet, sextet_ne_pad, false_and, if_false,
      Option.bind_eq_bind, Option.some_bind, Option.pure_def, and_true, true_and, if_true,
      sextets_rejoin_three (n := a.toNat * 2 ^ 16 + b.toNat * 2 ^ 8) (by omega) (by omega),
      Option.some.injEq, List.cons.injEq]
    exact ⟨u8_ofNat_eq (by omega), u8_ofNat_eq (by omega)⟩
  | case3 a =>
    have := u8_bound a
    simp only [b64encode, b64decode, b64Value_sextet, sextet_ne_pad, false_and, if_false,
      Option.bind_eq_bind, Option.some_bind, Option.pure_def, and_true, true_and, if_true,
      sextets_rejoin_two (n := a.toNat * 2 ^ 16) (by omega) (by omega),
      Option.some.injEq, List.cons.injEq]
    exact u8_ofNat_eq (by omega)
  | case4 => rfl

/-! ## Hex -/

/-- The value of a lower-case hex digit. -/
def hexValue (c : Char) : Option Nat :=
  if '0' ≤ c ∧ c ≤ '9' then some (c.toNat - 48)
  else if 'a' ≤ c ∧ c ≤ 'f' then some (c.toNat - 87)
  else none

/-- Hex digits back to bytes, two digits a byte, high digit first. -/
def unhexList : List Char → Option Bytes
  | [] => some []
  | h :: l :: rest => do
    let vh ← hexValue h
    let vl ← hexValue l
    let tail ← unhexList rest
    pure (UInt8.ofNat (vh * 16 + vl) :: tail)
  | [_] => none

/-- The bytes of the text `bytes.hex()` writes. -/
def unhex (s : String) : Option Bytes := unhexList s.data

/-- The digit table: every digit reads back as its own value. -/
theorem hexValue_hexDigit : ∀ n, n < 16 → hexValue (hexDigit n) = some n := by decide

/-- Hex loses nothing: reading the text of any bytes gives them back. -/
theorem unhex_hex (bs : Bytes) : unhex (hex bs) = some bs := by
  induction bs with
  | nil => rfl
  | cons x bs ih =>
    have hx := u8_bound x
    simp only [unhex, hex, List.flatMap_cons, List.cons_append, List.nil_append] at ih ⊢
    simp only [unhexList, hexValue_hexDigit (x.toNat / 16) (by omega),
      hexValue_hexDigit (x.toNat % 16) (by omega), ih, Option.bind_eq_bind, Option.some_bind,
      Option.pure_def, Option.some.injEq, List.cons.injEq, and_true]
    exact u8_ofNat_eq (by omega)

end TonIndexer
