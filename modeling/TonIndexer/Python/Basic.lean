import Mathlib.Algebra.Group.Nat.Basic
import Mathlib.Data.List.Dedup

/-!
# The Python runtime the serializer is written against

`block_tree_serializer.py` leans on a few Python built-ins whose behaviour decides what
the normalizer returns and when it raises. This file gives them once:

* `PyError`, the exceptions a normalizer can raise: a `None` dereferenced, a missing dict
  key, `map` over `None`, `min` of an empty list, a comment that is not UTF-8;
* `Bytes`, Python's `bytes`, with `bytes.hex()`;
* `listSet`, the `list(set(xs))` idiom the base converter and the assembler deduplicate with;
* `stripNul`, `str.replace("\u0000", "")`;
* the `Except` facts every success proof peels a `do` block with.
-/

namespace TonIndexer

/-- An exception the serializer can raise, with what Python's message names. -/
inductive PyError where
  /-- `AttributeError: '<typeName>' object has no attribute '<attr>'`. -/
  | attributeError (typeName attr : String)
  /-- `KeyError: '<key>'`: a dict read of a key the payload does not have. -/
  | keyError (key : String)
  /-- `TypeError: '<typeName>' object is not iterable`. -/
  | typeError (typeName : String)
  /-- `ValueError: min() arg is an empty sequence`. -/
  | valueError
  /-- `IndexError: list index out of range`. -/
  | indexError
  /-- `UnicodeDecodeError: 'utf-8' codec can't decode byte ... in position <pos>`. -/
  | unicodeDecodeError (pos : Nat)
  deriving DecidableEq, Repr

/-- `None.<attr>`: what reading an attribute of `None` raises. -/
def noneAttr (attr : String) : PyError := .attributeError "NoneType" attr

/-! ## `bytes` -/

/-- Python's `bytes`. -/
abbrev Bytes := List UInt8

/-- The lower-case hex digit of a nibble. -/
def hexDigit (n : Nat) : Char :=
  if n < 10 then Char.ofNat (48 + n) else Char.ofNat (87 + n)

/-- `bytes.hex()`: two lower-case hex digits per byte. -/
def hex (b : Bytes) : String :=
  ⟨b.flatMap fun x => [hexDigit (x.toNat / 16), hexDigit (x.toNat % 16)]⟩

/-- Bytes compare as the numbers they hold. -/
theorem u8_lt_iff {a b : UInt8} : a < b ↔ a.toNat < b.toNat := Iff.rfl

theorem u8_le_iff {a b : UInt8} : a ≤ b ↔ a.toNat ≤ b.toNat := Iff.rfl

@[simp] theorem u8_toNat_ofNat (m : Nat) : (UInt8.ofNat m).toNat = m % 256 := rfl

@[simp] theorem u8_toNat_lit (m : Nat) : (no_index (OfNat.ofNat m) : UInt8).toNat = m % 256 := rfl

/-! ## `list(set(xs))` -/

/-- `list(set(xs))`: the distinct members of `xs`. CPython orders a set by hash, and
nothing in the serializer reads that order; we keep the order `List.dedup` gives. -/
def listSet {α : Type} [DecidableEq α] (xs : List α) : List α := xs.dedup

@[simp] theorem mem_listSet {α : Type} [DecidableEq α] {a : α} {xs : List α} :
    a ∈ listSet xs ↔ a ∈ xs := List.mem_dedup

theorem nodup_listSet {α : Type} [DecidableEq α] (xs : List α) : (listSet xs).Nodup :=
  List.nodup_dedup xs

/-! ## `str.replace("\u0000", "")` -/

/-- `s.replace("\u0000", "")`: the string with every NUL character removed. -/
def stripNul (s : String) : String := ⟨s.data.filter fun c => c != '\x00'⟩

/-- No NUL character survives `stripNul`. -/
theorem nul_not_mem_stripNul (s : String) : '\x00' ∉ (stripNul s).data := by
  simp [stripNul]

/-! ## Results -/

/-- Results compare by value, so that a run on a fixed input can be checked by `decide`. -/
instance instDecidableEqExcept {ε α : Type} [DecidableEq ε] [DecidableEq α] :
    DecidableEq (Except ε α)
  | .ok a, .ok b => decidable_of_iff (a = b) (by simp)
  | .error a, .error b => decidable_of_iff (a = b) (by simp)
  | .ok _, .error _ => isFalse (by simp)
  | .error _, .ok _ => isFalse (by simp)

/-! ## Peeling `do` blocks -/

@[simp] theorem except_ok_bind {ε α β : Type} (a : α) (f : α → Except ε β) :
    (Except.ok a >>= f) = f a := rfl

@[simp] theorem except_error_bind {ε α β : Type} (e : ε) (f : α → Except ε β) :
    (Except.error e >>= f) = Except.error e := rfl

@[simp] theorem except_throw {ε α : Type} (e : ε) : (throw e : Except ε α) = .error e := rfl

@[simp] theorem except_pure {ε α : Type} (a : α) : (pure a : Except ε α) = .ok a := rfl

@[simp] theorem except_map_ok {ε α β : Type} (f : α → β) (a : α) :
    f <$> (Except.ok a : Except ε α) = .ok (f a) := rfl

@[simp] theorem except_map_error {ε α β : Type} (f : α → β) (e : ε) :
    f <$> (Except.error e : Except ε α) = .error e := rfl

/-- A map returns exactly when the mapped computation does. -/
theorem except_map_eq_ok {ε α β : Type} {f : α → β} {m : Except ε α} {b : β} :
    f <$> m = .ok b ↔ ∃ a, m = .ok a ∧ f a = b := by
  cases m <;> simp

/-- A bind returns exactly when both of its halves do. -/
theorem except_bind_eq_ok {ε α β : Type} {m : Except ε α} {f : α → Except ε β} {b : β} :
    m >>= f = .ok b ↔ ∃ a, m = .ok a ∧ f a = .ok b := by
  cases m <;> simp

end TonIndexer
