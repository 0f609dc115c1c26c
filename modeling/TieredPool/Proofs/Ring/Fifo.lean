import Mathlib.Algebra.Group.Nat.Defs
import TieredPool.Ring

/-!
# Rings are bounded lists

A ring in use keeps its counters in step: the consumer's never runs ahead of the producer's, the
distance between them is at most the capacity, and every slot in between is written
(`Ring.WF`). Under this invariant the ring behaves as the list `Ring.toList` that holds at most
`Ring.capacity` items: `publish` appends and `consume` drops (`WF.publish`, `WF.consume`), and the
two tests that an enqueue and a dequeue make before they touch a slot compare with the length of
that list (`WF.room_eq`, `WF.entries_eq`). Nothing is assumed of where the counters stand, so all of
this holds across their wrap.
-/

namespace TieredPool.Ring

variable {α : Type}

/-! ## Positions and slots -/

section Positions

variable {n k : Nat}

/-- Masking by the size of a ring is taking the remainder. -/
theorem slotOf_eq_mod (hn : n = 2 ^ k) (hk : k < 64) (position : UInt64) :
    slotOf n position = position.toNat % n := by
  have hlt : n - 1 < 2 ^ 64 := by
    have := Nat.pow_lt_pow_right (a := 2) (by decide) hk
    omega
  unfold slotOf
  rw [UInt64.toNat_and, Nat.toUInt64_eq, UInt64.toNat_ofNat', Nat.mod_eq_of_lt hlt, hn,
    Nat.and_two_pow_sub_one_eq_mod]

/-- The slot of a position further on: the wrap of the counter does not show. -/
theorem slotOf_add (hn : n = 2 ^ k) (hk : k < 64) (position : UInt64) (i : Nat) :
    slotOf n (position + i.toUInt64) = (position.toNat + i) % n := by
  have hdvd : n ∣ 2 ^ 64 := hn ▸ Nat.pow_dvd_pow 2 (Nat.le_of_lt hk)
  rw [slotOf_eq_mod hn hk, UInt64.toNat_add, Nat.toUInt64_eq, UInt64.toNat_ofNat',
    Nat.mod_mod_of_dvd _ hdvd, Nat.add_mod, Nat.mod_mod_of_dvd _ hdvd, ← Nat.add_mod]

/-- Two steps from a position are one step of both lengths. -/
theorem add_toUInt64_add (position : UInt64) (i j : Nat) :
    position + i.toUInt64 + j.toUInt64 = position + (i + j).toUInt64 := by
  apply UInt64.toNat_inj.mp
  simp only [UInt64.toNat_add, Nat.toUInt64_eq, UInt64.toNat_ofNat']
  omega

theorem add_one_add (position : UInt64) (i : Nat) :
    position + 1 + i.toUInt64 = position + (i + 1).toUInt64 := by
  rw [Nat.add_comm i 1]
  exact add_toUInt64_add position 1 i

/-- Distinct positions of one round lie in distinct slots. -/
theorem slotOf_add_ne (hn : n = 2 ^ k) (hk : k < 64) (position : UInt64) {i j : Nat}
    (hi : i < n) (hj : j < n) (hij : i ≠ j) :
    slotOf n (position + i.toUInt64) ≠ slotOf n (position + j.toUInt64) := by
  rw [slotOf_add hn hk, slotOf_add hn hk]
  intro h
  -- two numbers less than `n` apart with one remainder are equal
  have hdiv := Nat.div_add_mod (position.toNat + i) n
  have hdiv' := Nat.div_add_mod (position.toNat + j) n
  rw [h] at hdiv
  rcases Nat.lt_trichotomy ((position.toNat + i) / n) ((position.toNat + j) / n) with
    hlt | heq | hlt
  · have := Nat.mul_le_mul_left n hlt
    rw [Nat.mul_succ] at this
    omega
  · rw [heq] at hdiv
    omega
  · have := Nat.mul_le_mul_left n hlt
    rw [Nat.mul_succ] at this
    omega

end Positions

/-! ## Reading and writing runs of positions -/

section Runs

variable {slots : Array (Option α)} {k : Nat}

/-- The run of slots from a position on holds these items. -/
def HoldsFrom (slots : Array (Option α)) (position : UInt64) (items : List α) : Prop :=
  ∀ i (h : i < items.length),
    slots[slotOf slots.size (position + i.toUInt64)]? = some (some items[i])

theorem HoldsFrom.tail {position : UInt64} {x : α} {items : List α}
    (h : HoldsFrom slots position (x :: items)) : HoldsFrom slots (position + 1) items := by
  intro i hi
  rw [add_one_add]
  exact h (i + 1) (Nat.succ_lt_succ hi)

theorem HoldsFrom.readFrom_eq {position : UInt64} {items : List α}
    (h : HoldsFrom slots position items) : readFrom slots position items.length = items := by
  induction items generalizing position with
  | nil => rfl
  | cons x items ih =>
    have hx : slots[slotOf slots.size position]? = some (some x) := by
      have h0 := h 0 (Nat.succ_pos _)
      rwa [show position + (0 : Nat).toUInt64 = position by simp] at h0
    rw [List.length_cons, readFrom]
    simp only [hx]
    rw [ih h.tail]

theorem HoldsFrom.drop {position : UInt64} {items : List α} (h : HoldsFrom slots position items)
    (n : Nat) : HoldsFrom slots (position + n.toUInt64) (items.drop n) := by
  intro i hi
  have hi' : n + i < items.length := by
    rw [List.length_drop] at hi
    omega
  rw [add_toUInt64_add, List.getElem_drop]
  exact h (n + i) hi'

theorem HoldsFrom.take {position : UInt64} {items : List α} (h : HoldsFrom slots position items)
    (n : Nat) : HoldsFrom slots position (items.take n) := by
  intro i hi
  rw [List.getElem_take]
  exact h i (by rw [List.length_take] at hi; omega)

@[simp] theorem size_writeFrom (slots : Array (Option α)) (position : UInt64) (items : List α) :
    (writeFrom slots position items).size = slots.size := by
  induction items generalizing slots position with
  | nil => rfl
  | cons x items ih => rw [writeFrom, ih, Array.size_setIfInBounds]

/-- Writing a run changes the slots of its positions and no other slot of the round. -/
theorem getElem?_writeFrom (hn : slots.size = 2 ^ k) (hk : k < 64) (position : UInt64)
    (items : List α) (hfit : items.length ≤ slots.size) {i : Nat} (hi : i < slots.size) :
    (writeFrom slots position items)[slotOf slots.size (position + i.toUInt64)]? =
      if h : i < items.length then some (some items[i])
      else slots[slotOf slots.size (position + i.toUInt64)]? := by
  induction items generalizing slots position i with
  | nil => rfl
  | cons x items ih =>
    have hpos : 0 < slots.size := by omega
    have hslot : slotOf slots.size position < slots.size := by
      rw [slotOf_eq_mod hn hk]
      exact Nat.mod_lt _ hpos
    have hzero : position + (0 : Nat).toUInt64 = position := by simp
    rw [List.length_cons] at hfit
    have ih' := @ih (slots.setIfInBounds (slotOf slots.size position) (some x))
    rw [Array.size_setIfInBounds] at ih'
    rw [writeFrom]
    cases i with
    | zero =>
      -- the first position is the last of the round that the later writes go through
      have hlast : slotOf slots.size (position + (0 : Nat).toUInt64) =
          slotOf slots.size (position + 1 + (slots.size - 1).toUInt64) := by
        rw [add_one_add, slotOf_add hn hk, slotOf_add hn hk, Nat.add_zero,
          Nat.sub_add_cancel hpos, Nat.add_mod_right]
      rw [hlast, ih' hn (position + 1) (by omega) (by omega), ← hlast, hzero]
      simp [hslot, show ¬slots.size - 1 < items.length by omega]
    | succ j =>
      have hne := slotOf_add_ne hn hk position hpos hi (Nat.succ_ne_zero j).symm
      rw [hzero] at hne
      rw [← add_one_add, ih' hn (position + 1) (by omega) (by omega)]
      by_cases hj : j < items.length
      · simp [hj]
      · rw [add_one_add, Array.getElem?_setIfInBounds_ne hne]
        simp [hj]

end Runs

/-! ## The invariant -/

/-- A ring in use: its counters are in step, and the slots between them are written. -/
structure WF (r : Ring α) : Prop where
  size_eq : ∃ k, 0 < k ∧ k < 64 ∧ r.slots.size = 2 ^ k
  producer_eq : r.producer.head = r.producer.tail
  consumer_eq : r.consumer.head = r.consumer.tail
  entries_le : r.entries ≤ r.capacity
  filled : ∃ items, items.length = r.entries ∧ HoldsFrom r.slots r.consumer.head items

@[simp] theorem size_publish (items : List α) (r : Ring α) : (r.publish items).size = r.size :=
  size_writeFrom _ _ _

@[simp] theorem size_consume (n : Nat) (r : Ring α) : (r.consume n).size = r.size := rfl

@[simp] theorem flags_publish (items : List α) (r : Ring α) : (r.publish items).flags = r.flags :=
  rfl

@[simp] theorem flags_consume (n : Nat) (r : Ring α) : (r.consume n).flags = r.flags := rfl

namespace WF

variable {r : Ring α}

theorem size_pos (h : r.WF) : 2 ≤ r.size := by
  obtain ⟨k, hk, -, hn⟩ := h.size_eq
  have := Nat.pow_le_pow_right (n := 2) (by decide) hk
  rw [size, hn]
  omega

theorem size_lt (h : r.WF) : r.size < 2 ^ 64 := by
  obtain ⟨k, -, hk, hn⟩ := h.size_eq
  have := Nat.pow_lt_pow_right (a := 2) (by decide) hk
  rw [size, hn]
  exact this

/-- The counter of published items, reached from the consumer's. -/
theorem producer_head_eq (h : r.WF) :
    r.producer.head = r.consumer.head + r.entries.toUInt64 := by
  apply UInt64.toNat_inj.mp
  rw [h.producer_eq, entries, UInt64.toNat_add, Nat.toUInt64_eq, UInt64.ofNat_toNat,
    UInt64.toNat_sub]
  have := r.producer.tail.toNat_lt
  have := r.consumer.head.toNat_lt
  omega

theorem length_eq (h : r.WF) : r.length = r.entries := by
  rw [length, ← h.consumer_eq]
  exact Nat.min_eq_left h.entries_le

/-- The list of a ring is what its slots hold from the consumer's counter on. -/
theorem holdsFrom_toList (h : r.WF) :
    r.toList.length = r.length ∧ HoldsFrom r.slots r.consumer.head r.toList := by
  obtain ⟨items, hlen, hitems⟩ := h.filled
  have heq : r.toList = items := by
    rw [toList, h.length_eq, ← hlen, ← h.consumer_eq, hitems.readFrom_eq]
  rw [heq, h.length_eq]
  exact ⟨hlen, hitems⟩

@[simp] theorem length_toList (h : r.WF) : r.toList.length = r.length :=
  h.holdsFrom_toList.1

theorem length_le (h : r.WF) : r.length ≤ r.capacity := h.length_eq ▸ h.entries_le

theorem entries_eq (h : r.WF) : r.entries = r.toList.length := by
  rw [h.length_toList, h.length_eq]

/-- A producer finds room for what the list lacks of the capacity. -/
theorem room_eq (h : r.WF) : r.room = r.capacity - r.toList.length := by
  have hcap : r.capacity < 2 ^ 64 := Nat.lt_of_le_of_lt (Nat.sub_le _ _) h.size_lt
  have hle := h.entries_le
  have hc := r.consumer.head.toNat_lt
  rw [room, h.producer_head_eq, ← h.consumer_eq, ← h.entries_eq]
  simp only [UInt64.toNat_sub, UInt64.toNat_add, Nat.toUInt64_eq, UInt64.toNat_ofNat']
  omega

section Publish

variable {items : List α}

theorem entries_publish (h : r.WF) (hfit : r.toList.length + items.length ≤ r.capacity) :
    (r.publish items).entries = r.toList.length + items.length := by
  have hcap : r.capacity < 2 ^ 64 := Nat.lt_of_le_of_lt (Nat.sub_le _ _) h.size_lt
  have hc := r.consumer.head.toNat_lt
  have he := h.entries_eq
  simp only [Ring.publish, entries] at he ⊢
  rw [h.producer_head_eq]
  simp only [UInt64.toNat_sub, UInt64.toNat_add, Nat.toUInt64_eq, UInt64.toNat_ofNat',
    entries] at he ⊢
  omega

/-- The slot of an item that is there lies ahead of the producer by the rest of the round. -/
theorem slotOf_ahead (h : r.WF) (i : Nat) :
    slotOf r.slots.size (r.consumer.head + i.toUInt64) =
      slotOf r.slots.size
        (r.producer.head + (r.slots.size - r.toList.length + i).toUInt64) := by
  obtain ⟨k, -, hk, hn⟩ := h.size_eq
  have hle : r.toList.length ≤ r.slots.size := by
    rw [h.length_toList]
    exact Nat.le_trans h.length_le (Nat.sub_le _ _)
  have hwrap : r.consumer.head.toNat +
      (r.toList.length + (r.slots.size - r.toList.length + i)) =
        r.consumer.head.toNat + i + r.slots.size := by omega
  rw [h.producer_head_eq, h.entries_eq, add_toUInt64_add, slotOf_add hn hk, slotOf_add hn hk,
    hwrap, Nat.add_mod_right]

/-- The older items stay, and the new ones follow them. -/
theorem holdsFrom_publish (h : r.WF) (hfit : r.toList.length + items.length ≤ r.capacity) :
    HoldsFrom (r.publish items).slots r.consumer.head (r.toList ++ items) := by
  obtain ⟨k, -, hk, hn⟩ := h.size_eq
  have hpos := h.size_pos
  have hcap : r.capacity = r.slots.size - 1 := rfl
  rw [size] at hpos
  intro i hi
  rw [List.length_append] at hi
  simp only [Ring.publish, size_writeFrom]
  by_cases hlt : i < r.toList.length
  · have hslot := h.slotOf_ahead i
    rw [hslot, getElem?_writeFrom hn hk _ _ (by omega) (by omega), dif_neg (by omega), ← hslot,
      List.getElem_append_left hlt]
    exact h.holdsFrom_toList.2 i hlt
  · obtain ⟨j, rfl⟩ := Nat.exists_eq_add_of_le (Nat.le_of_not_lt hlt)
    have hslot : r.consumer.head + (r.toList.length + j).toUInt64 =
        r.producer.head + j.toUInt64 := by
      rw [h.producer_head_eq, h.entries_eq, add_toUInt64_add]
    rw [hslot, getElem?_writeFrom hn hk _ _ (by omega) (by omega), dif_pos (by omega)]
    simp

/-- Publishing items that there is room for appends them. -/
theorem publish (h : r.WF) (hfit : r.toList.length + items.length ≤ r.capacity) :
    (r.publish items).WF ∧ (r.publish items).toList = r.toList ++ items := by
  have hentries := h.entries_publish hfit
  have hholds := h.holdsFrom_publish hfit
  have hwf : (r.publish items).WF := by
    obtain ⟨k, hk0, hk, hn⟩ := h.size_eq
    refine ⟨⟨k, hk0, hk, ?_⟩, rfl, h.consumer_eq, ?_, ⟨_, ?_, hholds⟩⟩
    · simpa [Ring.publish] using hn
    · rw [hentries]
      simpa [Ring.publish, capacity] using hfit
    · rw [hentries, List.length_append]
  refine ⟨hwf, ?_⟩
  rw [toList, hwf.length_eq, hentries, ← List.length_append, ← hwf.consumer_eq]
  exact hholds.readFrom_eq

end Publish

theorem readFrom_eq (h : r.WF) {n : Nat} (hn : n ≤ r.toList.length) :
    readFrom r.slots r.consumer.head n = r.toList.take n := by
  have := (h.holdsFrom_toList.2.take n).readFrom_eq
  rwa [List.length_take, Nat.min_eq_left hn] at this

theorem consume (h : r.WF) {n : Nat} (hn : n ≤ r.toList.length) :
    (r.consume n).WF ∧ (r.consume n).toList = r.toList.drop n := by
  have hentries : (r.consume n).entries = r.toList.length - n := by
    have hle := h.entries_le
    have hsize := h.size_lt
    have hcap : r.capacity = r.size - 1 := rfl
    have he := h.entries_eq
    have hp := r.producer.tail.toNat_lt
    have hc := r.consumer.head.toNat_lt
    simp only [Ring.consume, entries] at he ⊢
    simp only [UInt64.toNat_sub, UInt64.toNat_add, Nat.toUInt64_eq, UInt64.toNat_ofNat'] at he ⊢
    omega
  have hholds : HoldsFrom (r.consume n).slots (r.consume n).consumer.head (r.toList.drop n) :=
    h.holdsFrom_toList.2.drop n
  have hwf : (r.consume n).WF := by
    refine ⟨h.size_eq, h.producer_eq, rfl, ?_, ⟨_, ?_, hholds⟩⟩
    · have := h.entries_le
      rw [h.entries_eq] at this
      rw [hentries]
      exact Nat.le_trans (Nat.sub_le _ _) this
    · rw [hentries, List.length_drop]
  refine ⟨hwf, ?_⟩
  rw [toList, hwf.length_eq, hentries, ← List.length_drop, ← hwf.consumer_eq]
  exact hholds.readFrom_eq

/-- An enqueue that the flags allow succeeds iff the items fit beside those of the list. -/
theorem enqueue_eq (h : r.WF) {access : Access} (items : List α)
    (ha : (access == .single && !r.flags.singleProducer) = false) :
    r.enqueue access items =
      if r.toList.length + items.length ≤ r.capacity then (.ok (), r.publish items)
      else (.error .full, r) := by
  have hle : r.toList.length ≤ r.capacity := by
    rw [h.length_toList]
    exact h.length_le
  rw [enqueue, ha, h.room_eq, if_neg (by decide)]
  by_cases hfit : r.toList.length + items.length ≤ r.capacity
  · rw [if_pos hfit, if_neg (by omega)]
  · rw [if_neg hfit, if_pos (by omega)]

/-- A dequeue that the flags allow succeeds iff the list has so many items. -/
theorem dequeue_eq (h : r.WF) {access : Access} (n : Nat)
    (ha : (access == .single && !r.flags.singleConsumer) = false) :
    r.dequeue access n =
      if n ≤ r.toList.length then (.ok (r.toList.take n), r.consume n)
      else (.error .empty, r) := by
  rw [dequeue, ha, h.entries_eq, if_neg (by decide)]
  by_cases hn : n ≤ r.toList.length
  · rw [if_pos hn, if_neg (by omega), h.readFrom_eq hn]
  · rw [if_neg hn, if_pos (by omega)]

end WF

/-! ## New rings -/

/-- A new ring is in use and holds nothing, wherever its counters start. -/
theorem startingAt_wf {base : UInt64} {size : Nat} {flags : Flags} {r : Ring α}
    (hsize : size < 2 ^ 64) (h : startingAt base size flags = .ok r) :
    r.WF ∧ r.toList = [] ∧ r.size = size ∧ r.flags = flags := by
  unfold startingAt at h
  split at h
  · cases h
  · next hvalid =>
    cases h
    simp only [Bool.or_eq_true, decide_eq_true_eq, Bool.not_eq_true', not_or,
      Bool.not_eq_false] at hvalid
    obtain ⟨k, hk⟩ := Word.isPowerOfTwo_iff.mp hvalid.2
    rw [Nat.one_shiftLeft] at hk
    have hk0 : k ≠ 0 := fun h0 => hvalid.1 (by rw [hk, h0]; decide)
    have hk64 : k < 64 := (Nat.pow_lt_pow_iff_right (a := 2) (by decide)).mp (hk ▸ hsize)
    have hentries : (base - base).toNat = 0 := by simp
    refine ⟨⟨⟨k, Nat.pos_of_ne_zero hk0, hk64, ?_⟩, rfl, rfl, ?_, ⟨[], ?_, ?_⟩⟩, ?_, ?_, rfl⟩
    · rw [Array.size_replicate, hk]
    · simp [entries]
    · simp [entries]
    · intro i hi
      exact absurd hi (Nat.not_lt_zero i)
    · rw [toList, length]
      simp only [hentries, Nat.zero_min, readFrom]
    · simp [Ring.size]

theorem startingAt_size {base : UInt64} {size : Nat} {flags : Flags} {r : Ring α}
    (h : startingAt base size flags = .ok r) : 2 ≤ size ∧ Word.isPowerOfTwo size = true := by
  unfold startingAt at h
  split at h
  · cases h
  · next hvalid =>
    simp only [Bool.or_eq_true, decide_eq_true_eq, Bool.not_eq_true', not_or,
      Bool.not_eq_false] at hvalid
    exact ⟨Nat.le_of_not_lt hvalid.1, hvalid.2⟩

theorem create_wf {size : Nat} {flags : Flags} {r : Ring α} (h : create size flags = .ok r) :
    r.WF ∧ r.toList = [] ∧ r.size = size ∧ r.flags = flags := by
  unfold create at h
  split at h
  · cases h
  · next hvalid =>
    cases hs : startingAt (α := α) 0 size flags with
    | error e =>
      rw [hs] at h
      cases h
    | ok r' =>
      rw [hs] at h
      cases h
      have hbytes : Layout.isValid (size * slotBytes) slotBytes = true := by
        simpa [(startingAt_size hs).2] using hvalid
      have hle := of_decide_eq_true (Bool.and_eq_true_iff.mp hbytes).2
      refine startingAt_wf ?_ hs
      rw [slotBytes, Layout.sizeBound] at hle
      omega

/-- There is room in memory for the slots of a ring. -/
def Fits (size : Nat) : Prop := Layout.isValid (size * slotBytes) slotBytes = true

/-- A size that is a power of two above one makes a ring unless memory has no room for it. -/
theorem create_eq_ok_or_fault {size : Nat} (flags : Flags) (hsize : 2 ≤ size)
    (hpow : Word.isPowerOfTwo size = true) :
    (Fits size ∧ ∃ r : Ring α, create size flags = .ok r) ∨
      ¬Fits size ∧ create (α := α) size flags = .error (.fault .capacityOverflow) := by
  unfold create Fits
  rw [hpow, Bool.true_and]
  split
  · next hroom => exact .inr ⟨by simpa using hroom, rfl⟩
  · next hroom =>
    rw [startingAt, if_neg (by simp [hpow]; omega)]
    exact .inl ⟨by simpa using hroom, _, rfl⟩

end TieredPool.Ring
