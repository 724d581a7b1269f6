import TonIndexer.Python.Basic

/-!
# `hashlib.sha256(b).digest()`

The action id is the base64 text of a SHA-256 digest. The serializer relies on nothing but
the digest's value, so `sha256` is FIPS 180-4 itself, written to be evaluated: words are
`Nat`s kept below `2 ^ 32` by `w32`, the message schedule is grown one word at a time, and
the 64 rounds are a structural recursion over the round constants.

The one fact the rest of the development uses is `length_sha256`: a digest is 32 bytes.
-/

namespace TonIndexer
namespace Sha256

/-- Reduction modulo `2 ^ 32`. -/
def w32 (x : Nat) : Nat := x % 2 ^ 32

/-- Rotate a 32-bit word right by `n < 32`. -/
def rotr (x n : Nat) : Nat := w32 ((x >>> n) ||| (x <<< (32 - n)))

def bigSigma0 (x : Nat) : Nat := rotr x 2 ^^^ rotr x 13 ^^^ rotr x 22
def bigSigma1 (x : Nat) : Nat := rotr x 6 ^^^ rotr x 11 ^^^ rotr x 25
def smallSigma0 (x : Nat) : Nat := rotr x 7 ^^^ rotr x 18 ^^^ (x >>> 3)
def smallSigma1 (x : Nat) : Nat := rotr x 17 ^^^ rotr x 19 ^^^ (x >>> 10)
def ch (x y z : Nat) : Nat := (x &&& y) ^^^ ((2 ^ 32 - 1 - x) &&& z)
def maj (x y z : Nat) : Nat := (x &&& y) ^^^ (x &&& z) ^^^ (y &&& z)

/-- The round constants `K₀ .. K₆₃`. -/
def roundConstants : List Nat := [
  0x428a2f98, 0x71374491, 0xb5c0fbcf, 0xe9b5dba5, 0x3956c25b, 0x59f111f1, 0x923f82a4, 0xab1c5ed5,
  0xd807aa98, 0x12835b01, 0x243185be, 0x550c7dc3, 0x72be5d74, 0x80deb1fe, 0x9bdc06a7, 0xc19bf174,
  0xe49b69c1, 0xefbe4786, 0x0fc19dc6, 0x240ca1cc, 0x2de92c6f, 0x4a7484aa, 0x5cb0a9dc, 0x76f988da,
  0x983e5152, 0xa831c66d, 0xb00327c8, 0xbf597fc7, 0xc6e00bf3, 0xd5a79147, 0x06ca6351, 0x14292967,
  0x27b70a85, 0x2e1b2138, 0x4d2c6dfc, 0x53380d13, 0x650a7354, 0x766a0abb, 0x81c2c92e, 0x92722c85,
  0xa2bfe8a1, 0xa81a664b, 0xc24b8b70, 0xc76c51a3, 0xd192e819, 0xd6990624, 0xf40e3585, 0x106aa070,
  0x19a4c116, 0x1e376c08, 0x2748774c, 0x34b0bcb5, 0x391c0cb3, 0x4ed8aa4a, 0x5b9cca4f, 0x682e6ff3,
  0x748f82ee, 0x78a5636f, 0x84c87814, 0x8cc70208, 0x90befffa, 0xa4506ceb, 0xbef9a3f7, 0xc67178f2]

/-- The initial hash value `H⁽⁰⁾`. -/
def initialHash : List Nat :=
  [0x6a09e667, 0xbb67ae85, 0x3c6ef372, 0xa54ff53a, 0x510e527f, 0x9b05688c, 0x1f83d9ab, 0x5be0cd19]

/-- Grow the message schedule by `n` words: `Wₜ = σ₁(Wₜ₋₂) + Wₜ₋₇ + σ₀(Wₜ₋₁₅) + Wₜ₋₁₆`. -/
def schedule : Nat → List Nat → List Nat
  | 0, w => w
  | n + 1, w =>
    let t := w.length
    schedule n (w ++ [w32 (smallSigma1 (w.getD (t - 2) 0) + w.getD (t - 7) 0 +
      smallSigma0 (w.getD (t - 15) 0) + w.getD (t - 16) 0)])

/-- The working variables `a .. h`. -/
structure Working where
  a : Nat
  b : Nat
  c : Nat
  d : Nat
  e : Nat
  f : Nat
  g : Nat
  h : Nat

/-- One round, with constant `k` and schedule word `w`. -/
def round (s : Working) (k w : Nat) : Working :=
  let t1 := w32 (s.h + bigSigma1 s.e + ch s.e s.f s.g + k + w)
  let t2 := w32 (bigSigma0 s.a + maj s.a s.b s.c)
  ⟨w32 (t1 + t2), s.a, s.b, s.c, w32 (s.d + t1), s.e, s.f, s.g⟩

/-- The rounds, one per pair of constant and schedule word. -/
def rounds : Working → List Nat → List Nat → Working
  | s, k :: ks, w :: ws => rounds (round s k w) ks ws
  | s, _, _ => s

/-- Big-endian 32-bit words of a block of bytes. -/
def words : Bytes → List Nat
  | a :: b :: c :: d :: rest =>
    (a.toNat <<< 24 ||| b.toNat <<< 16 ||| c.toNat <<< 8 ||| d.toNat) :: words rest
  | _ => []

/-- The compression function on one 64-byte block. -/
def compress (hv : List Nat) (block : Bytes) : List Nat :=
  let s := rounds ⟨hv.getD 0 0, hv.getD 1 0, hv.getD 2 0, hv.getD 3 0,
    hv.getD 4 0, hv.getD 5 0, hv.getD 6 0, hv.getD 7 0⟩ roundConstants (schedule 48 (words block))
  List.zipWith (fun x y => w32 (x + y)) hv [s.a, s.b, s.c, s.d, s.e, s.f, s.g, s.h]

/-- The 64-bit big-endian length field. -/
def lengthField (n : Nat) : Bytes := (List.range 8).reverse.map fun i => UInt8.ofNat (n >>> (8 * i))

/-- Padding: `0x80`, zeros up to 56 mod 64, the bit length. -/
def pad (m : Bytes) : Bytes :=
  m ++ [0x80] ++ List.replicate ((119 - m.length % 64) % 64) 0 ++ lengthField (8 * m.length)

/-- Cut into 64-byte blocks (at most `n` of them). -/
def blocks : Nat → Bytes → List Bytes
  | 0, _ => []
  | n + 1, m => if m.isEmpty then [] else m.take 64 :: blocks n (m.drop 64)

/-- The four big-endian bytes of each word. -/
def wordBytes (hv : List Nat) : Bytes :=
  hv.flatMap fun x => [UInt8.ofNat (x >>> 24), UInt8.ofNat (x >>> 16), UInt8.ofNat (x >>> 8),
    UInt8.ofNat x]

end Sha256

open Sha256 in
/-- `hashlib.sha256(m).digest()`. -/
def sha256 (m : Bytes) : Bytes :=
  let p := pad m
  wordBytes ((blocks (p.length / 64) p).foldl compress initialHash)

namespace Sha256

/-- Every compression keeps eight words. -/
theorem length_compress {hv : List Nat} (h : hv.length = 8) (block : Bytes) :
    (compress hv block).length = 8 := by
  simp [compress, h]

theorem length_foldl_compress (bs : List Bytes) {hv : List Nat} (h : hv.length = 8) :
    (bs.foldl compress hv).length = 8 := by
  induction bs generalizing hv with
  | nil => exact h
  | cons b bs ih => exact ih (length_compress h b)

theorem length_wordBytes (hv : List Nat) : (wordBytes hv).length = 4 * hv.length := by
  induction hv with
  | nil => rfl
  | cons x hv ih => simp [wordBytes, List.flatMap_cons] at ih ⊢; omega

end Sha256

/-- A SHA-256 digest is 32 bytes. -/
theorem length_sha256 (m : Bytes) : (sha256 m).length = 32 := by
  rw [sha256, Sha256.length_wordBytes, @Sha256.length_foldl_compress _ Sha256.initialHash rfl]

/-- The FIPS 180-4 test vector `SHA-256("abc")`. -/
example : sha256 [0x61, 0x62, 0x63] =
    [0xba, 0x78, 0x16, 0xbf, 0x8f, 0x01, 0xcf, 0xea, 0x41, 0x41, 0x40, 0xde, 0x5d, 0xae, 0x22, 0x23,
     0xb0, 0x03, 0x61, 0xa3, 0x96, 0x17, 0x7a, 0x9c, 0xb4, 0x10, 0xff, 0x61, 0xf2, 0x00, 0x15, 0xad] := by
  decide

end TonIndexer
