import TieredPool.Random.Bursts

/-!
# Draws lie in their range

A draw scales a random word down to the bound, and may carry one over from a second word. It stays
between one and the bound all the same, since a carry is only added below the last number
(`Random.succ_high_lt`). So whatever the seed, a worker gets as many bursts as it makes rounds, each
within the limit (`Random.bursts_spec`).
-/

namespace TieredPool.Random

theorem word_lt (bound : Nat) (g : Generator) : (word bound g).1 < wordBound bound := by
  have hlow := g.next.1.toNat_lt
  have hhigh := g.next.2.next.1.toNat_lt
  by_cases hshort : bound < 1 <<< 32
  · simp only [word, wordBound, hshort, ↓reduceIte]
    exact hlow
  · simp only [word, wordBound, hshort, ↓reduceIte]
    rw [Nat.shiftLeft_eq, Nat.one_shiftLeft]
    omega

section Scaling

variable {words bound x y : Nat}

theorem high_lt (hbound : 0 < bound) (hx : x < words) : x * bound / words < bound :=
  Nat.div_lt_of_lt_mul (Nat.mul_lt_mul_of_pos_right hx hbound)

/-- Where a carry is added there is room for it. -/
theorem succ_high_lt (hbound : 0 < bound) (hx : x < words) (hy : y < words)
    (hcarry : words ≤ x * bound % words + y * bound / words) :
    x * bound / words + 1 < bound := by
  have hsecond := high_lt hbound hy
  refine Nat.lt_of_mul_lt_mul_left (a := words) ?_
  calc words * (x * bound / words + 1)
      ≤ words * (x * bound / words) + (x * bound % words + y * bound / words) := by
        rw [Nat.mul_add_one]
        omega
    _ = x * bound + y * bound / words := by rw [← Nat.add_assoc, Nat.div_add_mod]
    _ < x * bound + bound := Nat.add_lt_add_left hsecond _
    _ = (x + 1) * bound := (Nat.succ_mul x bound).symm
    _ ≤ words * bound := Nat.mul_le_mul_right bound hx

end Scaling

/-- **A draw** lies between one and its bound. -/
theorem upTo_mem {bound : Nat} (hbound : 0 < bound) (g : Generator) :
    1 ≤ (upTo bound g).1 ∧ (upTo bound g).1 ≤ bound := by
  have hfirst := word_lt bound g
  have hsecond := word_lt bound (word bound g).2
  have hhigh := high_lt hbound hfirst
  have hroom := succ_high_lt hbound hfirst hsecond
  rw [upTo]
  dsimp only
  generalize (word bound g).1 * bound / wordBound bound = high at hhigh hroom ⊢
  split
  · split
    · next hcarry =>
      have hlt := hroom hcarry
      dsimp only
      omega
    · dsimp only
      omega
  · dsimp only
    omega

theorem draws_spec {fits : Nat → Bool} {bound : Nat} (hbound : 0 < bound)
    (hfits : ∀ n ≤ bound, fits n = true) (g : Generator) {drawn : List Nat}
    (hdrawn : ∀ n ∈ drawn, 1 ≤ n ∧ n ≤ bound) (count : Nat) :
    (draws fits bound g drawn count).length = drawn.length + count ∧
      ∀ n ∈ draws fits bound g drawn count, 1 ≤ n ∧ n ≤ bound := by
  induction count generalizing g drawn with
  | zero =>
    rw [draws, List.length_reverse]
    exact ⟨rfl, fun n hmem => hdrawn n (List.mem_reverse.1 hmem)⟩
  | succ count ih =>
    have hn := upTo_mem hbound g
    rw [draws]
    dsimp only
    rw [if_pos (hfits _ hn.2)]
    obtain ⟨hlength, hmem⟩ := ih (upTo bound g).2 (List.forall_mem_cons.2 ⟨hn, hdrawn⟩)
    refine ⟨?_, hmem⟩
    rw [hlength, List.length_cons]
    omega

/-- **A worker's bursts**, as many as it makes rounds, lie between one and the bound. -/
theorem bursts_spec {fits : Nat → Bool} {bound : Nat} (hbound : 0 < bound)
    (hfits : ∀ n ≤ bound, fits n = true) (seed : UInt64) (rounds : Nat) :
    (bursts fits seed bound rounds).length = rounds ∧
      ∀ n ∈ bursts fits seed bound rounds, 1 ≤ n ∧ n ≤ bound := by
  have hnone : ∀ n ∈ ([] : List Nat), 1 ≤ n ∧ n ≤ bound := nofun
  obtain ⟨hlength, hmem⟩ := draws_spec hbound hfits (Generator.ofSeed seed) hnone rounds
  rw [bursts, if_neg (by simpa using Nat.ne_of_gt hbound)]
  exact ⟨hlength.trans (Nat.zero_add rounds), hmem⟩

end TieredPool.Random
