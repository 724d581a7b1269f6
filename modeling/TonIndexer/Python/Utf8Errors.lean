import TonIndexer.Python.Utf8

/-!
# Where `bytes.decode("utf-8")` raises

A `UnicodeDecodeError` names a position in the bytes. The decoder raises at the first byte of
the first sequence that is not well formed: the bytes before that position are the UTF-8 form
of a text, and no character's UTF-8 form starts at it.

* `decodeUtf8Loop_error_ge`: a run raises at or after the start of the sequence it is in;
* `decodeUtf8Loop_idle_ne_error`: from between sequences, a run that does not raise at once
  starts with the UTF-8 form of one character;
* `decodeUtf8_error`: the position of the error, as above.
-/

namespace TonIndexer

@[simp] theorem except_map_eq_error {ε α β : Type} {f : α → β} {x : Except ε α} {e : ε} :
    f <$> x = .error e ↔ x = .error e := by
  cases x <;> simp

/-- A run raises a `UnicodeDecodeError` at or after the start of the sequence it is in, which is
the current position between sequences. -/
theorem decodeUtf8Loop_error_ge {pos : Nat} {st : Utf8State} {bs : Bytes} {e : PyError}
    (hst : st.need ≠ 0 → st.start ≤ pos) (h : decodeUtf8Loop pos st bs = .error e) :
    ∃ q, e = .unicodeDecodeError q ∧ (if st.need = 0 then pos else st.start) ≤ q := by
  induction bs generalizing pos st with
  | nil =>
    simp only [decodeUtf8Loop] at h
    split_ifs at h with hn
    · cases h
    · exact ⟨_, (Except.error.inj h).symm, by rw [if_neg hn]⟩
  | cons b rest ih =>
    simp only [decodeUtf8Loop] at h
    by_cases hn : st.need = 0
    · rw [if_pos hn] at h ⊢
      rcases hl : lead b with _ | _ | ⟨lo, hi⟩ | ⟨lo, hi⟩ | _ <;> rw [hl] at h <;> simp only at h
      · obtain ⟨q, rfl, hq⟩ := ih (fun h' => absurd hn h') (except_map_eq_error.mp h)
        rw [if_pos hn] at hq
        exact ⟨q, rfl, by omega⟩
      all_goals first
        | exact ⟨pos, (Except.error.inj h).symm, le_refl _⟩
        | obtain ⟨q, rfl, hq⟩ := ih (fun _ => Nat.le_succ pos) h
          exact ⟨q, rfl, hq⟩
    · rw [if_neg hn] at h ⊢
      split_ifs at h with hin h1
      · obtain ⟨q, rfl, hq⟩ := ih (fun h' => absurd Utf8State.idle_need h') (except_map_eq_error.mp h)
        exact ⟨q, rfl, by rw [if_pos Utf8State.idle_need] at hq; have := hst hn; omega⟩
      · obtain ⟨q, rfl, hq⟩ := ih (fun _ => by have := hst hn; dsimp only; omega) h
        exact ⟨q, rfl, by rwa [if_neg (show st.need - 1 ≠ 0 by omega)] at hq⟩
      · exact ⟨st.start, (Except.error.inj h).symm, le_refl _⟩

/-- A run that owes continuation bytes and does not raise at the start of its sequence reads the
next byte, in range, and goes on. -/
theorem decodeUtf8Loop_owed_ne {pos : Nat} {st : Utf8State} {bs : Bytes}
    (hneed : st.need ≠ 0) (h : decodeUtf8Loop pos st bs ≠ .error (.unicodeDecodeError st.start)) :
    ∃ b rest, bs = b :: rest ∧ st.lo.toNat ≤ b.toNat ∧ b.toNat ≤ st.hi.toNat ∧
      (if st.need = 1 then
        (Char.ofNat (st.acc * 2 ^ 6 + low b 6) :: ·) <$> decodeUtf8Loop (pos + 1) .idle rest
      else decodeUtf8Loop (pos + 1)
        ⟨st.need - 1, st.acc * 2 ^ 6 + low b 6, 0x80, 0xBF, st.start⟩ rest) ≠
        .error (.unicodeDecodeError st.start) := by
  cases bs with
  | nil => simp [decodeUtf8Loop, hneed] at h
  | cons b rest =>
    simp only [decodeUtf8Loop, hneed, if_false] at h
    by_cases hin : inRange st.lo st.hi b = true
    · rw [if_pos hin] at h
      exact ⟨b, rest, rfl, (inRange_iff.mp hin).1, (inRange_iff.mp hin).2, h⟩
    · rw [if_neg hin] at h
      exact absurd rfl h

/-- From between sequences, a run that does not raise at its first byte starts with the UTF-8
form of one character. -/
theorem decodeUtf8Loop_idle_ne_error {pos : Nat} {b : UInt8} {rest : Bytes}
    (h : decodeUtf8Loop pos .idle (b :: rest) ≠ .error (.unicodeDecodeError pos)) :
    ∃ c rest', b :: rest = String.utf8EncodeChar c ++ rest' := by
  have hl := lead_spec b
  simp only [decodeUtf8Loop, Utf8State.idle_need, if_true] at h
  rcases hlb : lead b with _ | _ | ⟨lo, hi⟩ | ⟨lo, hi⟩ | _ <;> rw [hlb] at h hl <;>
    simp only at h hl
  case ascii =>
    have henc : String.utf8EncodeChar (Char.ofNat b.toNat) = [b] :=
      utf8EncodeChar_charOfNat (by simp only [Nat.isValidChar]; omega) (by simp [utf8Bytes, hl])
    exact ⟨_, rest, by rw [henc]; rfl⟩
  case two =>
    obtain ⟨b2, rest, rfl, h2lo, h2hi, -⟩ := decodeUtf8Loop_owed_ne (Nat.succ_ne_zero _) h
    simp only [u8_toNat_lit] at h2lo h2hi
    obtain ⟨hvalid, hbytes⟩ := utf8Bytes_spelled_two hl ⟨h2lo, h2hi⟩
    have henc : String.utf8EncodeChar (Char.ofNat (low b 5 * 2 ^ 6 + low b2 6)) = [b, b2] :=
      utf8EncodeChar_charOfNat hvalid hbytes.symm
    exact ⟨_, rest, by rw [henc]; rfl⟩
  case three =>
    obtain ⟨b2, rest, rfl, h2lo, h2hi, h⟩ := decodeUtf8Loop_owed_ne (Nat.succ_ne_zero _) h
    obtain ⟨b3, rest, rfl, h3lo, h3hi, -⟩ := decodeUtf8Loop_owed_ne (Nat.succ_ne_zero _) h
    simp only [u8_toNat_lit] at h2lo h2hi h3lo h3hi
    obtain ⟨hvalid, hbytes⟩ :=
      utf8Bytes_spelled_three (y := b2.toNat) ⟨hl.1, hl.2.1⟩ (by omega) ⟨h3lo, h3hi⟩
    have henc : String.utf8EncodeChar
        (Char.ofNat ((low b 4 * 2 ^ 6 + low b2 6) * 2 ^ 6 + low b3 6)) = [b, b2, b3] :=
      utf8EncodeChar_charOfNat hvalid hbytes.symm
    exact ⟨_, rest, by rw [henc]; rfl⟩
  case four =>
    obtain ⟨b2, rest, rfl, h2lo, h2hi, h⟩ := decodeUtf8Loop_owed_ne (Nat.succ_ne_zero _) h
    obtain ⟨b3, rest, rfl, h3lo, h3hi, h⟩ := decodeUtf8Loop_owed_ne (Nat.succ_ne_zero _) h
    obtain ⟨b4, rest, rfl, h4lo, h4hi, -⟩ := decodeUtf8Loop_owed_ne (Nat.succ_ne_zero _) h
    simp only [u8_toNat_lit] at h2lo h2hi h3lo h3hi h4lo h4hi
    obtain ⟨hvalid, hbytes⟩ :=
      utf8Bytes_spelled_four (y := b2.toNat) ⟨hl.1, hl.2.1⟩ (by omega) ⟨h3lo, h3hi⟩ ⟨h4lo, h4hi⟩
    have henc : String.utf8EncodeChar (Char.ofNat
        (((low b 3 * 2 ^ 6 + low b2 6) * 2 ^ 6 + low b3 6) * 2 ^ 6 + low b4 6)) =
          [b, b2, b3, b4] :=
      utf8EncodeChar_charOfNat hvalid hbytes.symm
    exact ⟨_, rest, by rw [henc]; rfl⟩
  case invalid => exact absurd rfl h

/-- A run from between sequences raises at the first byte of the first sequence that is not
well formed: the bytes before it are the UTF-8 form of characters, and no character's UTF-8
form starts there. -/
theorem decodeUtf8Loop_error {pos : Nat} {bs : Bytes} {e : PyError}
    (h : decodeUtf8Loop pos .idle bs = .error e) :
    ∃ k, ∃ cs : List Char, e = .unicodeDecodeError (pos + k) ∧ k < bs.length ∧
      cs.flatMap String.utf8EncodeChar = bs.take k ∧
      ∀ c, ¬ String.utf8EncodeChar c <+: bs.drop k := by
  cases bs with
  | nil => cases h
  | cons b rest =>
    by_cases he : e = .unicodeDecodeError pos
    · subst he
      refine ⟨0, [], rfl, Nat.succ_pos _, rfl, fun c ⟨rest', hc⟩ => ?_⟩
      rw [List.drop_zero] at hc
      rw [← hc, decodeUtf8Loop_utf8EncodeChar] at h
      obtain ⟨q, hq, hle⟩ := decodeUtf8Loop_error_ge (fun h' => absurd Utf8State.idle_need h')
        (except_map_eq_error.mp h)
      cases hq
      rw [if_pos Utf8State.idle_need] at hle
      have := c.utf8Size_pos
      omega
    · obtain ⟨c, rest', hbs⟩ := decodeUtf8Loop_idle_ne_error (h ▸ fun h' => he (Except.error.inj h'))
      have hsize := String.length_utf8EncodeChar c
      have hlt : rest'.length < (b :: rest).length := by
        rw [hbs, List.length_append, hsize]
        have := c.utf8Size_pos
        omega
      rw [hbs, decodeUtf8Loop_utf8EncodeChar] at h
      obtain ⟨k, cs, rfl, hk, hcs, hno⟩ := decodeUtf8Loop_error (except_map_eq_error.mp h)
      refine ⟨c.utf8Size + k, c :: cs, by rw [Nat.add_assoc], ?_, ?_, ?_⟩
      · rw [hbs, List.length_append, hsize]
        omega
      · rw [hbs, List.flatMap_cons, hcs, ← hsize, List.take_append]
      · rw [hbs, ← hsize, List.drop_append]
        exact hno
termination_by bs.length

/-- `b.decode("utf-8")` raises a `UnicodeDecodeError` at the first byte of the first sequence
that is not well formed: a position inside the bytes, before which they are the UTF-8 form of a
string, and at which no character's UTF-8 form starts. -/
theorem decodeUtf8_error {b : Bytes} {e : PyError} (h : decodeUtf8 b = .error e) :
    ∃ p s, e = .unicodeDecodeError p ∧ p < b.length ∧ encodeUtf8 s = b.take p ∧
      ∀ c, ¬ String.utf8EncodeChar c <+: b.drop p := by
  obtain ⟨k, cs, rfl, hk, hcs, hno⟩ := decodeUtf8Loop_error (except_map_eq_error.mp h)
  exact ⟨k, ⟨cs⟩, by rw [Nat.zero_add], hk, hcs, hno⟩

end TonIndexer
