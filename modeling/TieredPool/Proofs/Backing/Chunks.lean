import Mathlib.Data.Multiset.Range
import TieredPool.Backing.Chunks
import TieredPool.Proofs.Backing.Lawful

/-!
# Chunk allocators are lawful

Chunks that lie apart give every slot an address of its own, and the slot of an address is found
again by looking through the chunks (`Chunks.WF.slot?_slotAddress`). The slots that are out and
those that are not are together all slots, each once.
-/

namespace TieredPool

namespace Chunks

/-- Slots have a place, and no two chunks overlap. -/
structure WF (c : Chunks) : Prop where
  chunkSize_pos : 0 < c.chunkSize
  stride_pos : 0 < c.layout.stride
  fresh_le : c.fresh ≤ c.capacity
  apart : ∀ i j, i < c.chunkCount → j < c.chunkCount → i ≠ j →
    c.base i + c.chunkBytes ≤ c.base j ∨ c.base j + c.chunkBytes ≤ c.base i

/-! ## Addresses -/

namespace WF

variable {c : Chunks}

/-- What changes in use does not matter, if no slot beyond the capacity was out. -/
theorem update (h : c.WF) {recycled : List Nat} {fresh : Nat} {tally : Tally} {memory : Memory}
    (hfresh : fresh ≤ c.capacity) : WF { c with recycled, fresh, tally, memory } :=
  ⟨h.chunkSize_pos, h.stride_pos, hfresh, h.apart⟩

theorem offset_lt (h : c.WF) (slot : Nat) :
    slot % c.chunkSize * c.layout.stride < c.chunkBytes := by
  rw [chunkBytes, Nat.mul_comm]
  exact Nat.mul_lt_mul_of_pos_left (Nat.mod_lt slot h.chunkSize_pos) h.stride_pos

theorem div_lt_chunkCount (h : c.WF) {slot : Nat} (hslot : slot < c.capacity) :
    slot / c.chunkSize < c.chunkCount := by
  have hpos := h.chunkSize_pos
  have hle : (slot + c.chunkSize) / c.chunkSize ≤ c.chunkCount :=
    Nat.div_le_div_right (by omega)
  rwa [Nat.add_div_right slot hpos] at hle

theorem slotIn?_self (h : c.WF) (slot : Nat) :
    c.slotIn? (c.slotAddress slot) (slot / c.chunkSize) = some slot := by
  have hoffset := h.offset_lt slot
  rw [slotIn?, slotAddress, if_neg (Nat.not_lt.2 (Nat.le_add_right _ _))]
  simp only [Nat.add_sub_cancel_left]
  rw [if_neg, Nat.mul_div_cancel _ h.stride_pos, Nat.mul_comm, Nat.div_add_mod]
  simp only [Nat.mul_mod_left]
  simpa using hoffset

theorem slotIn?_other (h : c.WF) {slot chunk : Nat} (hslot : slot / c.chunkSize < c.chunkCount)
    (hchunk : chunk < c.chunkCount) (hne : chunk ≠ slot / c.chunkSize) :
    c.slotIn? (c.slotAddress slot) chunk = none := by
  have hoffset := h.offset_lt slot
  have hapart := h.apart _ _ hchunk hslot hne
  rw [slotIn?, slotAddress]
  split
  · rfl
  · next hle =>
    have hbeyond : c.chunkBytes ≤
        c.base (slot / c.chunkSize) + slot % c.chunkSize * c.layout.stride - c.base chunk := by
      rw [Nat.not_lt] at hle
      omega
    rw [if_pos (by simp [hbeyond])]

theorem slotFrom?_slotAddress (h : c.WF) {slot chunk count : Nat}
    (hfrom : chunk ≤ slot / c.chunkSize) (hto : slot / c.chunkSize < chunk + count)
    (hcount : chunk + count ≤ c.chunkCount) :
    c.slotFrom? (c.slotAddress slot) chunk count = some slot := by
  induction count generalizing chunk with
  | zero => omega
  | succ count ih =>
    rw [slotFrom?]
    by_cases hchunk : chunk = slot / c.chunkSize
    · rw [hchunk, h.slotIn?_self]
    · rw [h.slotIn?_other (by omega) (by omega) hchunk]
      exact ih (by omega) (by omega) (by omega)

theorem slot?_slotAddress (h : c.WF) {slot : Nat} (hslot : slot < c.capacity) :
    c.slot? (c.slotAddress slot) = some slot :=
  h.slotFrom?_slotAddress (Nat.zero_le _)
    (by rw [Nat.zero_add]; exact h.div_lt_chunkCount hslot) (by omega)

theorem free_slotAddress (h : c.WF) {slot : Nat} (hslot : slot < c.capacity) :
    c.free (c.slotAddress slot) =
      (.ok (), { c with recycled := slot :: c.recycled, tally := c.tally.deallocated }) := by
  simp only [Chunks.free, h.slot?_slotAddress hslot, if_pos hslot]

end WF

/-! ## Slots -/

/-- Taking a slot changes which slots are not out, and nothing else. -/
theorem exists_of_takeSlot? {c c' : Chunks} {slot : Nat} (h : c.takeSlot? = some (slot, c')) :
    ∃ recycled fresh, c' = { c with recycled, fresh } := by
  unfold takeSlot? at h
  split at h
  · cases h
    exact ⟨_, c.fresh, rfl⟩
  · split at h
    · cases h
      exact ⟨c.recycled, _, rfl⟩
    · cases h

/-- A slot that is taken is the first of those that are not out. -/
theorem takeSlot?_eq_some {c c' : Chunks} {slot : Nat} (h : c.takeSlot? = some (slot, c'))
    (hfresh : c.fresh ≤ c.capacity) :
    c.freeSlots = slot :: c'.freeSlots ∧
      ∃ recycled fresh, fresh ≤ c.capacity ∧ c' = { c with recycled, fresh } := by
  rw [takeSlot?] at h
  rcases hrecycled : c.recycled with _ | ⟨first, rest⟩ <;> rw [hrecycled] at h
  · dsimp only at h
    split at h
    · next hlt =>
      cases h
      refine ⟨?_, [], c.fresh + 1, hlt, rfl⟩
      have hcount : c.capacity - c.fresh = c.capacity - (c.fresh + 1) + 1 := by omega
      simp only [freeSlots, hrecycled, List.nil_append]
      rw [hcount, List.range_succ_eq_map, List.map_cons, List.map_map]
      congr 1
      refine List.map_congr_left fun i _ => ?_
      simp only [Function.comp_apply]
      omega
    · cases h
  · cases h
    exact ⟨by simp only [freeSlots, hrecycled, List.cons_append], rest, c.fresh, hfresh, rfl⟩

/-- The addresses out of an allocator: those of some slots, which with the slots that are not out
are all slots, each once. -/
def Out (c : Chunks) (m : Multiset Handle) : Prop :=
  c.WF ∧ ∃ slots : Multiset Nat, m = slots.map c.slotAddress ∧
    slots + ↑c.freeSlots = Multiset.range c.capacity

theorem lt_capacity {c : Chunks} {slots : Multiset Nat}
    (hslots : slots + ↑c.freeSlots = Multiset.range c.capacity) {slot : Nat} (h : slot ∈ slots) :
    slot < c.capacity := by
  rw [← Multiset.mem_range, ← hslots]
  exact Multiset.mem_add.2 (.inl h)

theorem Out.nodup {c : Chunks} {m : Multiset Handle} (h : c.Out m) : m.Nodup := by
  obtain ⟨hwf, slots, rfl, hslots⟩ := h
  have hnodup : slots.Nodup :=
    Multiset.nodup_of_le (hslots ▸ Multiset.le_add_right _ _) (Multiset.nodup_range c.capacity)
  refine hnodup.map_on fun i hi j hj heq => ?_
  have hi' := hwf.slot?_slotAddress (lt_capacity hslots hi)
  rw [heq, hwf.slot?_slotAddress (lt_capacity hslots hj)] at hi'
  exact (Option.some.inj hi').symm

theorem Out.alloc {c : Chunks} {m : Multiset Handle} (h : c.Out m) (flags : AllocFlags) :
    (c.alloc flags).2.Out (↑(c.alloc flags).1.toList + m) := by
  obtain ⟨hwf, slots, rfl, hslots⟩ := h
  rw [Chunks.alloc]
  rcases htake : c.takeSlot? with _ | ⟨slot, c'⟩
  · refine ⟨hwf.update hwf.fresh_le, slots, ?_, hslots⟩
    exact Multiset.zero_add _
  · obtain ⟨hfree, recycled, fresh, hfresh, rfl⟩ := takeSlot?_eq_some htake hwf.fresh_le
    refine ⟨hwf.update hfresh, slot ::ₘ slots, ?_, ?_⟩
    · rw [Option.toList_some, Multiset.coe_singleton, Multiset.singleton_add]
      exact (Multiset.map_cons _ _ _).symm
    · rw [← hslots, hfree, ← Multiset.cons_coe, Multiset.add_cons, Multiset.cons_add]
      rfl

theorem Out.free {c : Chunks} {m : Multiset Handle} {x : Handle} (h : c.Out (x ::ₘ m)) :
    ∃ c', c.free x = (.ok (), c') ∧ c'.Out m := by
  obtain ⟨hwf, slots, hm, hslots⟩ := h
  have hx : x ∈ slots.map c.slotAddress := hm ▸ Multiset.mem_cons_self x m
  obtain ⟨slot, hslot, rfl⟩ := Multiset.mem_map.1 hx
  obtain ⟨rest, rfl⟩ := Multiset.exists_cons_of_mem hslot
  rw [Multiset.map_cons, Multiset.cons_inj_right] at hm
  refine ⟨_, hwf.free_slotAddress (lt_capacity hslots hslot), hwf.update hwf.fresh_le, rest, hm, ?_⟩
  rw [← hslots, Multiset.cons_add, ← Multiset.add_cons, Multiset.cons_coe]
  rfl

instance : LawfulBacking Chunks where
  Out := Out
  nodup := Out.nodup
  alloc := Out.alloc
  free := Out.free

/-! ## New allocators -/

/-- The checks of a reservation, in order. -/
theorem reserveAt_eq (base : Layout → Nat → Nat → Nat) (layout : Layout)
    (chunkSize capacity : Nat) :
    reserveAt base layout chunkSize capacity =
      if layout.size = 0 then .error (.error .zeroSized)
      else if chunkSize = 0 ∨ capacity = 0 then .error (.error .zeroCapacity)
      else if layout.stride * chunkSize < Word.bound then
        if ¬Layout.isValid (layout.stride * chunkSize) layout.align then
          .error (.error .invalidLayout)
        else if ¬listsFit chunkSize capacity then .error (.fault .capacityOverflow)
        else .ok ⟨layout, chunkSize, capacity, base layout (layout.stride * chunkSize), [], 0, {},
          .untouched⟩
      else .error (.fault (.overflow .multiply)) := by
  repeat' split
  all_goals
    simp_all only [reserveAt, Layout.checkSize, Word.mul, Except.mapError, bind, Except.bind, pure,
      Except.pure, throw, throwThe, MonadExceptOf.throw, beq_iff_eq, Bool.or_eq_true, ↓reduceIte,
      not_or, Bool.not_eq_true, or_self, Bool.not_false, Bool.not_true, Bool.false_eq_true]

theorem reserveAt_eq_ok {base : Layout → Nat → Nat → Nat} {layout : Layout}
    {chunkSize capacity : Nat} {c : Chunks} (h : reserveAt base layout chunkSize capacity = .ok c) :
    0 < chunkSize ∧ 0 < layout.stride ∧
      c = ⟨layout, chunkSize, capacity, base layout (layout.stride * chunkSize), [], 0, {},
        .untouched⟩ := by
  rw [reserveAt_eq] at h
  repeat' split at h
  all_goals cases h
  next hsize hcounts _ hvalid _ =>
  have halign : 0 < layout.align := by
    rw [Decidable.not_not, Layout.isValid, Bool.and_eq_true, Word.isPowerOfTwo_iff] at hvalid
    obtain ⟨⟨k, hk⟩, -⟩ := hvalid
    rw [hk, Nat.one_shiftLeft]
    exact Nat.two_pow_pos k
  have hblocks : 0 < Word.ceilDiv layout.size layout.align := by
    rw [Word.ceilDiv]
    exact Nat.div_pos (by omega) halign
  exact ⟨by omega, Nat.mul_pos hblocks halign, rfl⟩

/-- An allocator whose chunks were put apart has no slot out. -/
theorem out_of_reserveAt {base : Layout → Nat → Nat → Nat} {layout : Layout}
    {chunkSize capacity : Nat} {c : Chunks} (h : reserveAt base layout chunkSize capacity = .ok c)
    (hapart : ∀ i j, i < c.chunkCount → j < c.chunkCount → i ≠ j →
      c.base i + c.chunkBytes ≤ c.base j ∨ c.base j + c.chunkBytes ≤ c.base i) : c.Out 0 := by
  obtain ⟨hsize, hstride, rfl⟩ := reserveAt_eq_ok h
  refine ⟨⟨hsize, hstride, Nat.zero_le _, hapart⟩, 0, rfl, ?_⟩
  simp [freeSlots, Multiset.range]

end Chunks

end TieredPool
