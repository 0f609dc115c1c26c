import TieredPool.Layout

/-!
# The machine

What a program finds on the machine it runs on: how many CPUs there are, which elements the system
refuses, and where it puts chunks. All three are parameters, and nothing is assumed of them but what
every machine has: there is a CPU, and chunks do not overlap.

Memory for chunks, lists and queues is taken to be there, as long as it is no more than an address
space holds.
-/

namespace TieredPool

/-- The machine a program runs on. -/
structure Machine where
  /-- The number of CPUs. -/
  cpus : Nat
  cpus_pos : 0 < cpus
  /-- Does the system refuse an element of the layout, after so many requests for one? -/
  refuses : Layout → Nat → Bool
  /-- The address at which a chunk starts: for elements of a layout, in chunks of so many bytes. -/
  base : Layout → Nat → Nat → Nat
  apart : ∀ layout bytes i j, i ≠ j →
    base layout bytes i + bytes ≤ base layout bytes j ∨
      base layout bytes j + bytes ≤ base layout bytes i

namespace Machine

/-- The system of the machine never refuses an element of the layout. -/
def Meets (m : Machine) (layout : Layout) : Prop := ∀ n, m.refuses layout n = false

/-- Chunks that lie one after the other, with a gap of one alignment before each. -/
def spaced (layout : Layout) (bytes : Nat) : Nat → Nat :=
  fun chunk => layout.align + chunk * (bytes + layout.align)

theorem spaced_apart (layout : Layout) (bytes i j : Nat) (hne : i ≠ j) :
    spaced layout bytes i + bytes ≤ spaced layout bytes j ∨
      spaced layout bytes j + bytes ≤ spaced layout bytes i := by
  have hstep : ∀ i j, i < j → spaced layout bytes i + bytes ≤ spaced layout bytes j := by
    intro i j hlt
    have := Nat.mul_le_mul_right (bytes + layout.align) (Nat.succ_le_of_lt hlt)
    rw [Nat.succ_mul] at this
    simp only [spaced]
    omega
  rcases Nat.lt_or_gt_of_ne hne with hlt | hlt
  · exact .inl (hstep i j hlt)
  · exact .inr (hstep j i hlt)

/-- A machine with one CPU. Its system puts chunks one after the other. It meets every request for
less than 2^61 bytes at an alignment below that, and no other. -/
def single : Machine where
  cpus := 1
  cpus_pos := Nat.one_pos
  refuses layout _ := 1 <<< 61 ≤ max layout.size layout.align
  base := spaced
  apart := spaced_apart

end Machine

end TieredPool
