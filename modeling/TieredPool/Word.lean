import TieredPool.Fault

/-!
# 64-bit words

Sizes and counts are natural numbers below `Word.bound`. Addition and multiplication of words are
checked: a result outside the words is a fault, never a wrapped number. The exception is the
position counters of a ring, which are meant to wrap and are kept as `UInt64`.
-/

namespace TieredPool.Word

/-- The number of different words. -/
def bound : Nat := 1 <<< 64

/-- The sum of two words. -/
def add (a b : Nat) : Except Fault Nat :=
  if a + b < bound then .ok (a + b) else .error (.overflow .add)

/-- The product of two words. -/
def mul (a b : Nat) : Except Fault Nat :=
  if a * b < bound then .ok (a * b) else .error (.overflow .multiply)

/-- Is the number a power of two? Zero is not. -/
def isPowerOfTwo (n : Nat) : Bool := 1 <<< n.log2 == n

/-- The quotient rounded up. -/
def ceilDiv (a b : Nat) : Nat := (a + b - 1) / b

/-! ## Laws -/

theorem add_eq_ok {a b c : Nat} : add a b = .ok c ↔ a + b < bound ∧ c = a + b := by
  unfold add
  split
  · next h => exact ⟨fun e => ⟨h, (Except.ok.inj e).symm⟩, fun e => by rw [e.2]⟩
  · next h => exact ⟨fun e => (nomatch e), fun e => absurd e.1 h⟩

theorem mul_eq_ok {a b c : Nat} : mul a b = .ok c ↔ a * b < bound ∧ c = a * b := by
  unfold mul
  split
  · next h => exact ⟨fun e => ⟨h, (Except.ok.inj e).symm⟩, fun e => by rw [e.2]⟩
  · next h => exact ⟨fun e => (nomatch e), fun e => absurd e.1 h⟩

theorem isPowerOfTwo_iff {n : Nat} : isPowerOfTwo n = true ↔ ∃ k, n = 1 <<< k := by
  unfold isPowerOfTwo
  rw [beq_iff_eq]
  constructor
  · exact fun h => ⟨n.log2, h.symm⟩
  · rintro ⟨k, rfl⟩
    rw [Nat.one_shiftLeft, Nat.one_shiftLeft, Nat.log2_two_pow]

theorem le_ceilDiv_mul (a : Nat) {b : Nat} (hb : 0 < b) : a ≤ ceilDiv a b * b := by
  have hlt := Nat.lt_div_mul_add (a := a + b - 1) hb
  rw [ceilDiv]
  omega

theorem ceilDiv_mul_lt (a : Nat) {b : Nat} (hb : 0 < b) : ceilDiv a b * b < a + b := by
  have hle := Nat.div_mul_le_self (a + b - 1) b
  rw [ceilDiv]
  omega

end TieredPool.Word
