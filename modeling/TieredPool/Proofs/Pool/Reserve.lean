import Mathlib.Logic.Function.Iterate
import TieredPool.Proofs.Pool.Figures

/-!
# Reserves of a pool

A pool that keeps away from its backing lives on its queues. The elements in the local queue and the
whole batches in the shared one are ready for allocations (`Figures.ready`); what lies beyond the
last whole batch never is. Frees have what is missing to full queues as their room (`Figures.room`).
An allocation takes one of what is ready and adds one to the room, and a free does the opposite,
until one of the two is used up and the backing is called. Then both are large again: the reserve
(`Figures.reserve`) is the smaller of them, it falls by one at most in a step without a call, and it
is a batch at least after a call.

Runs of allocations and frees follow: `Figures.refills` tells how often allocations alone call the
backing, and `Figures.Sound.free_iterate` what frees alone do to all figures.
-/

namespace TieredPool

/-! ## Marks with blanks between them -/

/-- Between two marks lie so many blanks at least. -/
def Spaced (gap : Nat) (marks : List Bool) : Prop :=
  ∀ i j, i < j → marks[i]? = some true → marks[j]? = some true →
    gap ≤ ((marks.take j).drop (i + 1)).count false

/-- So many blanks at least come before the first mark, and a gap before every other. -/
def SpacedFrom (gap : Nat) : (blanks : Nat) → List Bool → Prop
  | _, [] => True
  | blanks, true :: marks => blanks = 0 ∧ SpacedFrom gap gap marks
  | blanks, false :: marks => SpacedFrom gap (blanks - 1) marks

namespace SpacedFrom

variable {gap blanks : Nat} {marks : List Bool}

theorem mono {fewer : Nat} (h : SpacedFrom gap blanks marks) (hle : fewer ≤ blanks) :
    SpacedFrom gap fewer marks := by
  induction marks generalizing blanks fewer with
  | nil => trivial
  | cons mark marks ih =>
    cases mark with
    | true => exact ⟨Nat.le_zero.1 (h.1 ▸ hle), h.2⟩
    | false =>
      have hrest : SpacedFrom gap (blanks - 1) marks := h
      exact ih hrest (Nat.sub_le_sub_right hle 1)

theorem le_count {j : Nat} (h : SpacedFrom gap blanks marks) (hmark : marks[j]? = some true) :
    blanks ≤ (marks.take j).count false := by
  induction marks generalizing blanks j with
  | nil => cases hmark
  | cons mark marks ih =>
    cases mark with
    | true => exact h.1 ▸ Nat.zero_le _
    | false =>
      cases j with
      | zero => cases hmark
      | succ j =>
        have hrest : SpacedFrom gap (blanks - 1) marks := h
        have hle := ih hrest hmark
        rw [List.take_succ_cons, List.count_cons_self]
        omega

theorem drop {i : Nat} (h : SpacedFrom gap blanks marks) (hmark : marks[i]? = some true) :
    SpacedFrom gap gap (marks.drop (i + 1)) := by
  induction marks generalizing blanks i with
  | nil => cases hmark
  | cons mark marks ih =>
    cases i with
    | zero =>
      cases hmark
      exact h.2
    | succ i =>
      cases mark with
      | true => exact ih h.2 hmark
      | false =>
        have hrest : SpacedFrom gap (blanks - 1) marks := h
        exact ih hrest hmark

theorem spaced (h : SpacedFrom gap blanks marks) : Spaced gap marks := by
  intro i j hlt hi hj
  have hmark : (marks.drop (i + 1))[j - (i + 1)]? = some true := by
    rwa [List.getElem?_drop, Nat.add_sub_cancel' hlt]
  rw [List.drop_take]
  exact (h.drop hi).le_count hmark

end SpacedFrom

namespace Figures

variable {f : Figures}

/-! ## What is ready and what there is room for -/

/-- So many allocations are met without a call to the backing. -/
def ready (f : Figures) : Nat := f.cpu.localLength + batch * (f.pool.sharedLength / batch)

/-- So many frees find room without a call to the backing. -/
def room (f : Figures) : Nat := f.localSize - 1 + (f.sharedSize - batch) - f.ready

/-- So many steps of any kind are made without a call to the backing. -/
def reserve (f : Figures) : Nat := min f.ready f.room

theorem dry_iff : f.Dry ↔ f.ready = 0 := by
  simp only [Dry, ready, batch]
  omega

/-- Whole batches fill the shared queue up to its last batch. -/
theorem Sound.ready_le (h : f.Sound) : f.ready ≤ f.localSize - 1 + (f.sharedSize - batch) := by
  obtain ⟨batches, hsize⟩ := h.sharedSize_dvd
  have hlocal := h.local_lt
  have hshared := h.shared_lt
  simp only [ready, batch] at hsize ⊢
  omega

theorem Sound.brimming_iff (h : f.Sound) : f.Brimming ↔ f.room = 0 := by
  obtain ⟨batches, hsize⟩ := h.sharedSize_dvd
  have hlocal := h.local_lt
  have hshared := h.shared_lt
  simp only [Brimming, room, ready, batch] at hsize ⊢
  omega

@[simp] theorem allocate_id (more : Nat) (f : Figures) : (f.allocate more).id = f.id := by
  rw [allocate]
  split
  · rfl
  · split <;> rfl

@[simp] theorem allocate_localSize (more : Nat) (f : Figures) :
    (f.allocate more).localSize = f.localSize := by
  rw [allocate]
  split
  · rfl
  · split <;> rfl

@[simp] theorem allocate_sharedSize (more : Nat) (f : Figures) :
    (f.allocate more).sharedSize = f.sharedSize := by
  rw [allocate]
  split
  · rfl
  · split <;> rfl

@[simp] theorem free_id (f : Figures) : f.free.id = f.id := by
  rw [free]
  split
  · rfl
  · split <;> rfl

@[simp] theorem free_localSize (f : Figures) : f.free.localSize = f.localSize := by
  rw [free]
  split
  · rfl
  · split <;> rfl

@[simp] theorem free_sharedSize (f : Figures) : f.free.sharedSize = f.sharedSize := by
  rw [free]
  split
  · rfl
  · split <;> rfl

/-- An allocation that has to do with the queues alone takes one of what is ready. -/
theorem allocate_of_not_dry (hdry : ¬f.Dry) (more : Nat) :
    (f.allocate more).ready + 1 = f.ready ∧
      (f.allocate more).pool.sharedRefills = f.pool.sharedRefills ∧
      (f.allocate more).pool.backingAllocs = f.pool.backingAllocs := by
  rw [Dry] at hdry
  rw [allocate]
  split
  · refine ⟨?_, rfl, rfl⟩
    simp only [ready]
    omega
  · split
    · refine ⟨?_, rfl, rfl⟩
      simp only [ready, batch] at *
      omega
    · omega

/-- A full refill makes two batches ready. -/
theorem allocate_of_dry (hdry : f.Dry) :
    (f.allocate (batch * refillBatches)).ready = batch * refillBatches ∧
      (f.allocate (batch * refillBatches)).pool.sharedRefills = f.pool.sharedRefills + 1 ∧
      (f.allocate (batch * refillBatches)).pool.backingAllocs =
        f.pool.backingAllocs + (1 + batch * refillBatches) := by
  obtain ⟨hempty, hshort⟩ := hdry
  rw [allocate, if_neg (by omega), if_neg (by omega)]
  refine ⟨?_, rfl, rfl⟩
  simp only [ready, batch, refillBatches] at *
  omega

theorem free_backingFrees (f : Figures) :
    f.free.pool.backingFrees =
      f.pool.backingFrees + if f.Brimming then batch * (1 + refillBatches) else 0 := by
  by_cases hfull : f.Brimming
  · rw [if_pos hfull, free]
    obtain ⟨hlocal, hshared⟩ := hfull
    rw [if_neg (by omega), if_neg (by omega)]
  · rw [if_neg hfull, free]
    rw [Brimming] at hfull
    split
    · rfl
    · split
      · rfl
      · omega

theorem Sound.ready_free (h : f.Sound) (hroom : ¬f.Brimming) : f.free.ready = f.ready + 1 := by
  have hsize := h.localSize_ge
  have hlocal := h.local_lt
  rw [Brimming] at hroom
  rw [free]
  split
  · simp only [ready]
    omega
  · split
    · simp only [ready, batch] at *
      omega
    · omega

/-- A drain leaves room for three batches but the element that brought it about. -/
theorem Sound.ready_free_of_brimming (h : f.Sound) (hfull : f.Brimming) :
    f.free.ready + batch * (1 + refillBatches) = f.ready + 1 := by
  have hlocalSize := h.localSize_ge
  have hsharedSize := h.sharedSize_ge
  have hlocal := h.local_lt
  obtain ⟨hlocalFull, hsharedFull⟩ := hfull
  rw [free, if_neg (by omega), if_neg (by omega)]
  simp only [ready, batch, refillBatches] at *
  omega

/-! ## The reserve -/

theorem Sound.reserve_allocate (h : f.Sound) (hdry : ¬f.Dry) (more : Nat) :
    f.reserve - 1 ≤ (f.allocate more).reserve := by
  have hready := (allocate_of_not_dry hdry more).1
  have hle := h.ready_le
  simp only [reserve, room, allocate_localSize, allocate_sharedSize]
  omega

/-- A refill is made when the reserve is used up, and makes a new one. -/
theorem Sound.reserve_allocate_of_dry (h : f.Sound) (hdry : f.Dry) :
    f.reserve = 0 ∧ batch ≤ (f.allocate (batch * refillBatches)).reserve := by
  have hempty := dry_iff.1 hdry
  have hready := (allocate_of_dry hdry).1
  have hlocal := h.localSize_ge
  have hshared := h.sharedSize_ge
  simp only [reserve, room, allocate_localSize, allocate_sharedSize, batch, refillBatches] at *
  omega

theorem Sound.reserve_free (h : f.Sound) (hroom : ¬f.Brimming) :
    f.reserve - 1 ≤ f.free.reserve := by
  have hready := h.ready_free hroom
  simp only [reserve, room, free_localSize, free_sharedSize]
  omega

/-- A drain is made when the reserve is used up, and makes a new one. -/
theorem Sound.reserve_free_of_brimming (h : f.Sound) (hfull : f.Brimming) :
    f.reserve = 0 ∧ batch ≤ f.free.reserve := by
  have hnoroom := h.brimming_iff.1 hfull
  have hready := h.ready_free_of_brimming hfull
  have hle := h.ready_le
  have hlocal := h.localSize_ge
  have hshared := h.sharedSize_ge
  simp only [reserve, room, free_localSize, free_sharedSize, batch, refillBatches] at *
  omega

/-! ## Runs of allocations -/

/-- How many of so many allocations in a row call the backing: one in 33 of those beyond what is
ready, rounded up. -/
def refills (f : Figures) (allocations : Nat) : Nat :=
  (allocations - f.ready + batch * refillBatches) / (1 + batch * refillBatches)

theorem refills_zero (f : Figures) : f.refills 0 = 0 := by
  simp only [refills, batch, refillBatches]
  omega

theorem refills_succ (hdry : ¬f.Dry) (more allocations : Nat) :
    f.refills (allocations + 1) = (f.allocate more).refills allocations := by
  have hready := (allocate_of_not_dry hdry more).1
  simp only [refills, batch, refillBatches]
  omega

/-- The elements of a full refill are handed out one by one, and then the next is due. -/
theorem refills_succ_of_dry (hdry : f.Dry) (allocations : Nat) :
    f.refills (allocations + 1) =
      (f.allocate (batch * refillBatches)).refills allocations + 1 := by
  have hempty := dry_iff.1 hdry
  have hready := (allocate_of_dry hdry).1
  rw [refills, refills, hempty, hready]
  simp only [batch, refillBatches]
  omega

/-! ## Runs of frees -/

/-- Where an overflow takes the length of a shared queue of this size. -/
def overflow (size length : Nat) : Nat :=
  if length + batch ≤ size - 1 then length + batch else length - batch * refillBatches

/-- Overflow by overflow, whether it drains a shared queue of this size that starts at this
length. -/
def drainings (size : Nat) : (overflows length : Nat) → List Bool
  | 0, _ => []
  | overflows + 1, length =>
    decide (size - 1 < length + batch) :: drainings size overflows (overflow size length)

theorem drainings_succ (size overflows length : Nat) :
    drainings size (overflows + 1) length =
      drainings size overflows length ++
        [decide (size - 1 < (overflow size)^[overflows] length + batch)] := by
  induction overflows generalizing length with
  | zero => rfl
  | succ overflows ih =>
    rw [drainings, ih (overflow size length), drainings, Function.iterate_succ_apply,
      List.cons_append]

/-- After a drain two overflows find room. -/
theorem spacedFrom_drainings {size length : Nat} (hsize : batch * (refillBatches + 1) ≤ size)
    (hlength : length < size) (overflows : Nat) :
    SpacedFrom refillBatches ((size - 1 - length) / batch) (drainings size overflows length) := by
  induction overflows generalizing length with
  | zero => trivial
  | succ overflows ih =>
    simp only [batch, refillBatches] at hsize
    rw [drainings]
    by_cases hdrains : size - 1 < length + batch
    · have hover : overflow size length = length - batch * refillBatches :=
        if_neg (Nat.not_le_of_lt hdrains)
      have hrest := ih (show overflow size length < size by rw [hover]; omega)
      rw [decide_eq_true hdrains]
      refine ⟨?_, hrest.mono ?_⟩
      · simp only [batch] at hdrains ⊢
        omega
      · rw [hover]
        simp only [batch, refillBatches] at hdrains ⊢
        omega
    · have hover : overflow size length = length + batch := if_pos (Nat.le_of_not_lt hdrains)
      have hrest := ih (show overflow size length < size by rw [hover]; omega)
      rw [decide_eq_false hdrains]
      refine hrest.mono ?_
      rw [hover]
      simp only [batch] at hdrains ⊢
      omega

example : drainings 64 5 32 = [false, true, false, false, true] := by decide

/-- How many of so many frees in a row overflow the local queue: one in 16 of those beyond what it
has room for, rounded up. -/
def overflows (f : Figures) (frees : Nat) : Nat :=
  (frees - (f.localSize - 1 - f.cpu.localLength) + (batch - 1)) / batch

/-- **A run of frees** fills the local queue and empties it batch by batch, and each overflow takes
the shared queue on. -/
theorem Sound.free_iterate (h : f.Sound) (frees : Nat) :
    free^[frees] f =
      { f with
        pool.sharedLength := (overflow f.sharedSize)^[f.overflows frees] f.pool.sharedLength
        pool.backingFrees := f.pool.backingFrees + batch * (1 + refillBatches) *
          (drainings f.sharedSize (f.overflows frees) f.pool.sharedLength).count true
        pool.backingDrains := f.pool.backingDrains +
          (drainings f.sharedSize (f.overflows frees) f.pool.sharedLength).count true
        cpu.localLength := f.cpu.localLength + frees - batch * f.overflows frees
        cpu.overflows := f.cpu.overflows + f.overflows frees
        cpu.drains := f.cpu.drains +
          (drainings f.sharedSize (f.overflows frees) f.pool.sharedLength).count true } := by
  have hsize := h.localSize_ge
  have hlocal := h.local_lt
  simp only [batch] at hsize
  induction frees with
  | zero =>
    have hnone : f.overflows 0 = 0 := by
      simp only [overflows, batch]
      omega
    rw [hnone]
    rfl
  | succ frees ih =>
    have hbefore : f.overflows frees =
      (frees - (f.localSize - 1 - f.cpu.localLength) + 15) / 16 := rfl
    have hafter : f.overflows (frees + 1) =
      (frees + 1 - (f.localSize - 1 - f.cpu.localLength) + 15) / 16 := rfl
    rw [Function.iterate_succ_apply', ih, free]
    dsimp only
    by_cases hroom : f.cpu.localLength + frees - batch * f.overflows frees + 1 < f.localSize
    · -- the element goes to the local queue
      have hsame : f.overflows (frees + 1) = f.overflows frees := by
        simp only [batch] at hroom
        omega
      have hlength : f.cpu.localLength + frees - batch * f.overflows frees + 1 =
          f.cpu.localLength + (frees + 1) - batch * f.overflows frees := by
        simp only [batch] at hroom ⊢
        omega
      rw [if_pos hroom, hsame, hlength]
    · have hnext : f.overflows (frees + 1) = f.overflows frees + 1 := by
        simp only [batch] at hroom
        omega
      have hlength : f.cpu.localLength + frees - batch * f.overflows frees - (batch - 1) =
          f.cpu.localLength + (frees + 1) - batch * (f.overflows frees + 1) := by
        simp only [batch] at hroom ⊢
        omega
      rw [if_neg hroom, hnext, drainings_succ, Function.iterate_succ_apply', List.count_append,
        ← hlength]
      generalize (overflow f.sharedSize)^[f.overflows frees] f.pool.sharedLength = length
      by_cases hfits : length + batch < f.sharedSize
      · have hquiet : decide (f.sharedSize - 1 < length + batch) = false :=
          decide_eq_false (by omega)
        rw [if_pos hfits, hquiet, overflow, if_pos (by omega)]
        rfl
      · have hdrains : decide (f.sharedSize - 1 < length + batch) = true :=
          decide_eq_true (by have := h.shared_lt; omega)
        rw [if_neg hfits, hdrains, overflow, if_neg (by have := h.shared_lt; omega)]
        rfl

end Figures

end TieredPool
