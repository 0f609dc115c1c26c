import Mathlib.Algebra.BigOperators.Group.Finset.Basic
import Mathlib.Order.Interval.Finset.Nat
import TieredPool.Proofs.Backing.Limit

/-!
# Where slots lie

The system says where the chunks lie, in any order. If it puts them at multiples of the alignment,
inside the address space and apart (`Chunks.Placed`), then every slot is aligned, lies inside its
chunk and apart from all others, and its address leads back to it. An address at which no slot of the
capacity starts is foreign: one inside a slot, one outside all chunks, and that of a slot that the
capacity leaves unused in the last chunk. Calls move no slot, so this is so after any calls
(`Chunks.locates_serveAll`).
-/

namespace TieredPool

/-! ## Requests -/

namespace Backing

/-- What a backing is asked to do. -/
inductive Request where
  | alloc (flags : AllocFlags)
  | free (handle : Handle)
deriving DecidableEq, Repr

variable {β : Type} [Backing β]

def serve (backing : β) : Request → β
  | .alloc flags => (Backing.alloc flags backing).2
  | .free handle => (Backing.free handle backing).2

/-- The backing after these requests, whatever each came to. -/
def serveAll (backing : β) (requests : List Request) : β := requests.foldl serve backing

theorem serveAll_append (backing : β) (first second : List Request) :
    serveAll backing (first ++ second) = serveAll (serveAll backing first) second :=
  List.foldl_append

theorem Keeps.serveAll {P : β → Prop} (hP : Keeps P) (requests : List Request) {b : β} (h : P b) :
    P (Backing.serveAll b requests) := by
  induction requests generalizing b with
  | nil => exact h
  | cons request requests ih =>
    apply ih
    cases request with
    | alloc flags => exact hP.alloc flags h
    | free handle => exact hP.free handle h

end Backing

namespace Layout

theorem align_pos_of_stride_pos {l : Layout} (h : 0 < l.stride) : 0 < l.align :=
  Nat.pos_of_mul_pos_left h

theorem le_stride {l : Layout} (h : 0 < l.align) : l.size ≤ l.stride := Word.le_ceilDiv_mul _ h

theorem stride_le (l : Layout) : l.stride ≤ l.size + l.align := by
  rw [stride, Word.ceilDiv]
  have hle := Nat.div_mul_le_self (l.size + l.align - 1) l.align
  omega

theorem align_dvd_stride (l : Layout) : l.align ∣ l.stride := Nat.dvd_mul_left _ _

end Layout

namespace Chunks

/-- Addresses of slots lead back to the slots. -/
theorem WF.filterMap_slot? {c : Chunks} (h : c.WF) {slots : Multiset Nat}
    (hslots : ∀ slot ∈ slots, slot < c.capacity) :
    (slots.map c.slotAddress).filterMap c.slot? = slots := by
  induction slots using Multiset.induction_on with
  | empty => rfl
  | cons slot slots ih =>
    have hslot := h.slot?_slotAddress (hslots slot (Multiset.mem_cons_self slot slots))
    rw [Multiset.map_cons, Multiset.filterMap_cons_some _ _ _ hslot,
      ih fun other hother => hslots other (Multiset.mem_cons_of_mem hother)]

/-- A free that faults changes nothing. -/
theorem free_eq_of_ne_ok {c : Chunks} {address : Handle} (h : (c.free address).1 ≠ .ok ()) :
    c.free address = (.error .foreignAddress, c) := by
  unfold free at h ⊢
  cases hslot : c.slot? address with
  | none => rfl
  | some slot =>
    rw [hslot] at h
    dsimp only at h ⊢
    split at h
    · exact absurd rfl h
    · next hunused => rw [if_neg hunused]

/-! ## States of one allocator -/

/-- Two states of one allocator: its slots are the same and lie at the same addresses. -/
structure SameSlots (c c' : Chunks) : Prop where
  layout_eq : c'.layout = c.layout
  chunkSize_eq : c'.chunkSize = c.chunkSize
  capacity_eq : c'.capacity = c.capacity
  base_eq : c'.base = c.base

theorem keeps_sameSlots (c : Chunks) : Backing.Keeps c.SameSlots := by
  refine ⟨fun {c'} flags h => ?_, fun {c'} handle h => ?_⟩
  · simp only [Backing.alloc]
    unfold alloc
    rcases htake : c'.takeSlot? with _ | ⟨slot, c''⟩
    · exact ⟨h.1, h.2, h.3, h.4⟩
    · obtain ⟨recycled, fresh, rfl⟩ := exists_of_takeSlot? htake
      exact ⟨h.1, h.2, h.3, h.4⟩
  · simp only [Backing.free]
    unfold free
    split
    · exact h
    · split
      · exact ⟨h.1, h.2, h.3, h.4⟩
      · exact h

theorem SameSlots.slotAddress_eq {c c' : Chunks} (h : c.SameSlots c') (slot : Nat) :
    c'.slotAddress slot = c.slotAddress slot := by
  rw [slotAddress, slotAddress, h.base_eq, h.chunkSize_eq, h.layout_eq]

/-- The elements that are out determine the slots that are not. -/
theorem SameSlots.freeSlots_perm {c c' : Chunks} {m : Multiset Handle} (h : c.SameSlots c')
    (hout : c.Out m) (hout' : c'.Out m) : c'.freeSlots.Perm c.freeSlots := by
  obtain ⟨hwf, slots, hm, hslots⟩ := hout
  obtain ⟨-, slots', hm', hslots'⟩ := hout'
  have hlt' : ∀ slot ∈ slots', slot < c.capacity := fun slot hslot =>
    h.capacity_eq ▸ lt_capacity hslots' hslot
  have haddress : slots'.map c'.slotAddress = slots'.map c.slotAddress :=
    Multiset.map_congr rfl fun slot _ => h.slotAddress_eq slot
  have hsame : slots' = slots := by
    rw [← hwf.filterMap_slot? hlt', ← haddress, ← hm', hm,
      hwf.filterMap_slot? fun slot hslot => lt_capacity hslots hslot]
  rw [h.capacity_eq, hsame, ← hslots] at hslots'
  exact Multiset.coe_eq_coe.1 (add_left_cancel hslots')

theorem keeps_wf : Backing.Keeps WF := by
  refine ⟨fun {c} flags h => ?_, fun {c} handle h => ?_⟩
  · simp only [Backing.alloc]
    unfold alloc
    rcases htake : c.takeSlot? with _ | ⟨slot, c'⟩
    · exact h.update h.fresh_le
    · obtain ⟨-, recycled, fresh, hfresh, rfl⟩ := takeSlot?_eq_some htake h.fresh_le
      exact h.update hfresh
  · simp only [Backing.free]
    unfold free
    split
    · exact h
    · split
      · exact h.update h.fresh_le
      · exact h

/-! ## Slots in their chunks -/

namespace WF

variable {c : Chunks}

/-- A slot ends inside its chunk, with its padding. -/
theorem slotAddress_add_stride_le (h : c.WF) (slot : Nat) :
    c.slotAddress slot + c.layout.stride ≤ c.base (slot / c.chunkSize) + c.chunkBytes := by
  have hplace : slot % c.chunkSize + 1 ≤ c.chunkSize := Nat.mod_lt slot h.chunkSize_pos
  have hend := Nat.mul_le_mul_right c.layout.stride hplace
  rw [Nat.succ_mul, Nat.mul_comm c.chunkSize] at hend
  rw [slotAddress, chunkBytes, Nat.add_assoc]
  exact Nat.add_le_add_left hend _

theorem slotAddress_add_stride_le_of_lt {i j : Nat} (hchunk : i / c.chunkSize = j / c.chunkSize)
    (hlt : i < j) : c.slotAddress i + c.layout.stride ≤ c.slotAddress j := by
  have hplace : i % c.chunkSize + 1 ≤ j % c.chunkSize := by
    have hi := Nat.div_add_mod i c.chunkSize
    have hj := Nat.div_add_mod j c.chunkSize
    rw [hchunk] at hi
    omega
  have hend := Nat.mul_le_mul_right c.layout.stride hplace
  rw [Nat.succ_mul] at hend
  rw [slotAddress, slotAddress, hchunk, Nat.add_assoc]
  exact Nat.add_le_add_left hend _

theorem slotAddress_add_stride_le_of_chunk (h : c.WF) {i j : Nat}
    (hapart : c.base (i / c.chunkSize) + c.chunkBytes ≤ c.base (j / c.chunkSize)) :
    c.slotAddress i + c.layout.stride ≤ c.slotAddress j :=
  calc c.slotAddress i + c.layout.stride
    _ ≤ c.base (i / c.chunkSize) + c.chunkBytes := h.slotAddress_add_stride_le i
    _ ≤ c.base (j / c.chunkSize) := hapart
    _ ≤ c.slotAddress j := Nat.le_add_right _ _

/-- **Slots lie a stride apart**, in one chunk or in two. -/
theorem stride_apart (h : c.WF) {i j : Nat} (hi : i / c.chunkSize < c.chunkCount)
    (hj : j / c.chunkSize < c.chunkCount) (hne : i ≠ j) :
    c.slotAddress i + c.layout.stride ≤ c.slotAddress j ∨
      c.slotAddress j + c.layout.stride ≤ c.slotAddress i := by
  by_cases hchunk : i / c.chunkSize = j / c.chunkSize
  · rcases Nat.lt_or_gt_of_ne hne with hlt | hlt
    · exact .inl (slotAddress_add_stride_le_of_lt hchunk hlt)
    · exact .inr (slotAddress_add_stride_le_of_lt hchunk.symm hlt)
  · rcases h.apart _ _ hi hj hchunk with hbelow | habove
    · exact .inl (h.slotAddress_add_stride_le_of_chunk hbelow)
    · exact .inr (h.slotAddress_add_stride_le_of_chunk habove)

/-! ## From addresses to slots -/

/-- What is found in a chunk is the slot at the address, and it is a slot of that chunk. -/
theorem slotIn?_eq_some (h : c.WF) {address chunk slot : Nat}
    (hfound : c.slotIn? address chunk = some slot) :
    slot / c.chunkSize = chunk ∧ address = c.slotAddress slot := by
  unfold slotIn? at hfound
  dsimp only at hfound
  split at hfound
  · cases hfound
  · next hstart =>
    split at hfound
    · cases hfound
    · next hplace =>
      rw [Bool.or_eq_true, decide_eq_true_iff, bne_iff_ne, not_or, Decidable.not_not,
        Nat.not_le] at hplace
      obtain ⟨hinside, hstarts⟩ := hplace
      obtain ⟨place, hplace⟩ := Nat.dvd_of_mod_eq_zero hstarts
      rw [hplace] at hinside
      have hlt : place < c.chunkSize := Nat.lt_of_mul_lt_mul_left hinside
      rw [hplace, Nat.mul_div_cancel_left _ h.stride_pos] at hfound
      cases hfound
      have hdiv : (chunk * c.chunkSize + place) / c.chunkSize = chunk := by
        rw [Nat.mul_comm, Nat.mul_add_div h.chunkSize_pos, Nat.div_eq_of_lt hlt, Nat.add_zero]
      have hmod : (chunk * c.chunkSize + place) % c.chunkSize = place := by
        rw [Nat.mul_comm, Nat.mul_add_mod, Nat.mod_eq_of_lt hlt]
      refine ⟨hdiv, ?_⟩
      rw [slotAddress, hdiv, hmod, Nat.mul_comm, ← hplace]
      exact (Nat.add_sub_of_le (Nat.not_lt.1 hstart)).symm

theorem slotFrom?_eq_some (h : c.WF) {address chunk count slot : Nat}
    (hfound : c.slotFrom? address chunk count = some slot) :
    slot / c.chunkSize < chunk + count ∧ address = c.slotAddress slot := by
  induction count generalizing chunk with
  | zero => cases hfound
  | succ count ih =>
    rw [slotFrom?] at hfound
    split at hfound
    · next slot' hhere =>
      cases hfound
      obtain ⟨hchunk, haddress⟩ := h.slotIn?_eq_some hhere
      exact ⟨by omega, haddress⟩
    · obtain ⟨hchunk, haddress⟩ := ih hfound
      exact ⟨by omega, haddress⟩

/-- **Addresses and slots are inverse**: the slot of an address is the one that starts there, used or
not. -/
theorem slot?_eq_some_iff (h : c.WF) {address slot : Nat} :
    c.slot? address = some slot ↔
      slot / c.chunkSize < c.chunkCount ∧ address = c.slotAddress slot := by
  constructor
  · intro hfound
    obtain ⟨hchunk, haddress⟩ := h.slotFrom?_eq_some hfound
    exact ⟨by omega, haddress⟩
  · rintro ⟨hchunk, rfl⟩
    exact h.slotFrom?_slotAddress (Nat.zero_le _) (by omega) (by omega)

theorem slotAddress_inj (h : c.WF) {i j : Nat} (hi : i / c.chunkSize < c.chunkCount)
    (hj : j / c.chunkSize < c.chunkCount) (heq : c.slotAddress i = c.slotAddress j) : i = j := by
  have hfound := h.slot?_eq_some_iff.2 ⟨hi, rfl⟩
  rw [h.slot?_eq_some_iff.2 ⟨hj, heq⟩] at hfound
  exact (Option.some.inj hfound).symm

/-- An address at which no slot of the capacity starts is turned away, and nothing changes. -/
theorem free_foreign (h : c.WF) {address : Handle}
    (hforeign : ∀ slot < c.capacity, address ≠ c.slotAddress slot) :
    c.free address = (.error .foreignAddress, c) := by
  unfold free
  split
  · rfl
  · next slot hfound =>
    obtain ⟨-, haddress⟩ := h.slot?_eq_some_iff.1 hfound
    rw [if_neg fun hslot => hforeign slot hslot haddress]

theorem free_eq_ok_iff (h : c.WF) {address : Handle} :
    (c.free address).1 = .ok () ↔ ∃ slot < c.capacity, address = c.slotAddress slot := by
  constructor
  · intro hok
    by_contra hnone
    rw [h.free_foreign fun slot hslot haddress => hnone ⟨slot, hslot, haddress⟩] at hok
    cases hok
  · rintro ⟨slot, hslot, rfl⟩
    rw [h.free_slotAddress hslot]

/-- No slot starts inside another or in its padding. -/
theorem interior_ne (h : c.WF) {slot other address : Nat}
    (hslot : slot / c.chunkSize < c.chunkCount) (hother : other / c.chunkSize < c.chunkCount)
    (hstart : c.slotAddress slot < address)
    (hend : address < c.slotAddress slot + c.layout.stride) : address ≠ c.slotAddress other := by
  rintro rfl
  have hne : slot ≠ other := by
    rintro rfl
    exact Nat.lt_irrefl _ hstart
  rcases h.stride_apart hslot hother hne with hbelow | habove
  · exact absurd hend (Nat.not_lt.2 hbelow)
  · exact absurd (Nat.le_trans (Nat.le_add_right _ _) habove) (Nat.not_le.2 hstart)

/-- No slot starts outside the chunks. -/
theorem outside_ne (h : c.WF) {slot address : Nat} (hslot : slot / c.chunkSize < c.chunkCount)
    (houtside : ∀ chunk < c.chunkCount,
      address < c.base chunk ∨ c.base chunk + c.chunkBytes ≤ address) :
    address ≠ c.slotAddress slot := by
  rintro rfl
  rcases houtside _ hslot with hbelow | habove
  · exact absurd hbelow (Nat.not_lt.2 (Nat.le_add_right _ _))
  · have hend := Nat.le_trans (h.slotAddress_add_stride_le slot) habove
    exact absurd hend (Nat.not_le.2 (Nat.lt_add_of_pos_right h.stride_pos))

end WF

/-! ## Where the chunks lie -/

/-- The chunks lie where a system may put them: at multiples of the alignment, inside the address
space and apart. -/
structure Placed (c : Chunks) : Prop where
  aligned : ∀ i < c.chunkCount, c.layout.align ∣ c.base i
  inside : ∀ i < c.chunkCount, c.base i + c.chunkBytes ≤ Word.bound
  apart : ∀ i < c.chunkCount, ∀ j < c.chunkCount, i ≠ j →
    c.base i + c.chunkBytes ≤ c.base j ∨ c.base j + c.chunkBytes ≤ c.base i

theorem wf_of_reserveAt {base : Layout → Nat → Nat → Nat} {layout : Layout}
    {chunkSize capacity : Nat} {c : Chunks} (h : reserveAt base layout chunkSize capacity = .ok c)
    (hplaced : c.Placed) : c.WF :=
  (out_of_reserveAt h fun i j hi hj => hplaced.apart i hi j hj).1

namespace Placed

variable {c : Chunks}

theorem aligned_slotAddress (h : c.Placed) {slot : Nat}
    (hslot : slot / c.chunkSize < c.chunkCount) : c.layout.align ∣ c.slotAddress slot := by
  apply Nat.dvd_add (h.aligned _ hslot)
  exact Nat.dvd_mul_left_of_dvd c.layout.align_dvd_stride _

/-- Chunks that lie apart fit the address space together. -/
theorem bytes_le (h : c.Placed) : c.chunkCount * c.chunkBytes ≤ Word.bound := by
  let bytes := fun i => Finset.Ico (c.base i) (c.base i + c.chunkBytes)
  have hdisjoint : Set.PairwiseDisjoint ↑(Finset.range c.chunkCount) bytes := by
    intro i hi j hj hne
    rw [Finset.mem_coe, Finset.mem_range] at hi hj
    rw [Function.onFun, Finset.disjoint_left]
    intro address hmem hmem'
    rw [Finset.mem_Ico] at hmem hmem'
    rcases h.apart i hi j hj hne with hbelow | habove
    · omega
    · omega
  have hsubset : (Finset.range c.chunkCount).biUnion bytes ⊆ Finset.range Word.bound := by
    intro address hmem
    obtain ⟨i, hi, hmem⟩ := Finset.mem_biUnion.1 hmem
    have hinside := h.inside i (Finset.mem_range.1 hi)
    rw [Finset.mem_Ico] at hmem
    rw [Finset.mem_range]
    omega
  have hcard := Finset.card_le_card hsubset
  rw [Finset.card_biUnion hdisjoint, Finset.card_range] at hcard
  simpa [bytes] using hcard

/-- The number of a slot that is found is a word, whether the slot is used or not. -/
theorem slot_lt_bound (h : c.Placed) (hwf : c.WF) {address slot : Nat}
    (hfound : c.slot? address = some slot) : slot < Word.bound := by
  obtain ⟨hchunk, -⟩ := hwf.slot?_eq_some_iff.1 hfound
  rw [Nat.div_lt_iff_lt_mul hwf.chunkSize_pos] at hchunk
  calc slot
    _ < c.chunkCount * c.chunkSize := hchunk
    _ ≤ c.chunkCount * c.chunkBytes :=
      Nat.mul_le_mul_left _ (Nat.le_mul_of_pos_left _ hwf.stride_pos)
    _ ≤ Word.bound := h.bytes_le

end Placed

theorem SameSlots.placed {c c' : Chunks} (h : c.SameSlots c') (hplaced : c.Placed) :
    c'.Placed := by
  obtain ⟨layout, chunkSize, capacity, base, recycled, fresh, tally, memory⟩ := c'
  obtain ⟨rfl, rfl, rfl, rfl⟩ := h
  exact ⟨hplaced.aligned, hplaced.inside, hplaced.apart⟩

/-- **Addresses and slots are inverse**, wherever the system puts the chunks and whatever calls have
been made. The address of a slot leads back to it; it is aligned, and the slot lies inside its chunk,
inside the address space and apart from the other slots. What is found at an address has a word for
its number. A free is accepted for exactly the addresses of slots. Any other is foreign and changes
nothing, in particular one inside a slot or its padding, one outside all chunks, and the address of
a slot that the capacity leaves unused. -/
theorem locates_serveAll {base : Layout → Nat → Nat → Nat} {layout : Layout}
    {chunkSize capacity : Nat} {c : Chunks}
    (hreserve : reserveAt base layout chunkSize capacity = .ok c) (hplaced : c.Placed)
    (requests : List Backing.Request) :
    let c' := Backing.serveAll c requests
    let foreign := fun address => c'.free address = (.error .foreignAddress, c')
    (∀ slot < capacity,
      c'.slot? (c.slotAddress slot) = some slot ∧ layout.align ∣ c.slotAddress slot ∧
      c.base (slot / chunkSize) ≤ c.slotAddress slot ∧
      c.slotAddress slot + layout.size ≤ c.base (slot / chunkSize) + c.chunkBytes ∧
      c.slotAddress slot + layout.size ≤ Word.bound) ∧
    (∀ i < capacity, ∀ j < capacity, i ≠ j →
      c.slotAddress i + layout.size ≤ c.slotAddress j ∨
        c.slotAddress j + layout.size ≤ c.slotAddress i) ∧
    (∀ address slot, c'.slot? address = some slot → slot < Word.bound) ∧
    (∀ address, (c'.free address).1 = .ok () ↔ ∃ slot < capacity, address = c.slotAddress slot) ∧
    (∀ address, (c'.free address).1 ≠ .ok () → foreign address) ∧
    (∀ slot < c.chunkCount * chunkSize, ∀ address, c.slotAddress slot < address →
      address < c.slotAddress slot + layout.stride → foreign address) ∧
    (∀ address, (∀ chunk < c.chunkCount,
      address < c.base chunk ∨ c.base chunk + c.chunkBytes ≤ address) → foreign address) ∧
    ∀ slot < c.chunkCount * chunkSize, capacity ≤ slot → foreign (c.slotAddress slot) := by
  intro c' foreign
  have hwf := wf_of_reserveAt hreserve hplaced
  have hwf' : c'.WF := keeps_wf.serveAll requests hwf
  have hsame : c.SameSlots c' := (keeps_sameSlots c).serveAll requests ⟨rfl, rfl, rfl, rfl⟩
  obtain ⟨-, -, hc⟩ := reserveAt_eq_ok hreserve
  have hlayout : c.layout = layout := by rw [hc]
  have hchunkSize : c.chunkSize = chunkSize := by rw [hc]
  have hcapacity : c'.capacity = capacity := by rw [hsame.capacity_eq, hc]
  subst hlayout hchunkSize hcapacity
  have hused : ∀ slot < c'.capacity, slot / c.chunkSize < c.chunkCount := fun slot hslot =>
    hwf.div_lt_chunkCount (hsame.capacity_eq ▸ hslot)
  have hreached : ∀ slot < c.chunkCount * c.chunkSize, slot / c.chunkSize < c.chunkCount :=
    fun slot hslot => (Nat.div_lt_iff_lt_mul hwf.chunkSize_pos).2 hslot
  have hsize := Layout.le_stride (Layout.align_pos_of_stride_pos hwf.stride_pos)
  have hforeign : ∀ address, (∀ slot < c'.capacity, address ≠ c.slotAddress slot) →
      foreign address := by
    intro address hnone
    apply hwf'.free_foreign
    intro slot hslot
    rw [hsame.slotAddress_eq]
    exact hnone slot hslot
  refine ⟨fun slot hslot => ⟨?_, ?_, ?_, ?_, ?_⟩, fun i hi j hj hne => ?_,
    fun address slot hfound => ?_, fun address => ?_, fun address hfault => ?_,
    fun slot hslot address hstart hend => ?_, fun address houtside => ?_,
    fun slot hslot hunused => ?_⟩
  · rw [← hsame.slotAddress_eq]
    exact hwf'.slot?_slotAddress hslot
  · exact hplaced.aligned_slotAddress (hused slot hslot)
  · exact Nat.le_add_right _ _
  · exact Nat.le_trans (Nat.add_le_add_left hsize _) (hwf.slotAddress_add_stride_le slot)
  · calc c.slotAddress slot + c.layout.size
      _ ≤ c.slotAddress slot + c.layout.stride := Nat.add_le_add_left hsize _
      _ ≤ c.base (slot / c.chunkSize) + c.chunkBytes := hwf.slotAddress_add_stride_le slot
      _ ≤ Word.bound := hplaced.inside _ (hused slot hslot)
  · rcases hwf.stride_apart (hused i hi) (hused j hj) hne with hbelow | habove
    · exact .inl (Nat.le_trans (Nat.add_le_add_left hsize _) hbelow)
    · exact .inr (Nat.le_trans (Nat.add_le_add_left hsize _) habove)
  · exact (hsame.placed hplaced).slot_lt_bound hwf' hfound
  · have haccepted : (c'.free address).1 = .ok () ↔
        ∃ slot < c'.capacity, address = c'.slotAddress slot := hwf'.free_eq_ok_iff
    simpa only [hsame.slotAddress_eq] using haccepted
  · exact free_eq_of_ne_ok hfault
  · apply hforeign
    intro other hother
    exact hwf.interior_ne (hreached slot hslot) (hused other hother) hstart hend
  · apply hforeign
    intro slot hslot
    exact hwf.outside_ne (hused slot hslot) houtside
  · apply hforeign
    intro other hother heq
    have hslots := hwf.slotAddress_inj (hreached slot hslot) (hused other hother) heq
    omega

/-- Bases for up to four small chunks, each below the one before. -/
def descending : Layout → Nat → Nat → Nat := fun _ _ chunk => 1024 * (4 - chunk)

/-- Seven slots of 20 bytes at multiples of 16, in chunks of three: slot 2 is the last of the first
chunk, slot 6 is alone in the last, and slot 7 after it is not used. -/
theorem locates_serveAll_descending :
    ∃ c, reserveAt descending ⟨20, 16⟩ 3 7 = .ok c ∧ c.Placed ∧
      let c' := Backing.serveAll c [.alloc .zero, .alloc .none, .free 4096, .free 4100]
      c.slotAddress 2 = 4160 ∧ c'.slot? 4160 = some 2 ∧
      c.slotAddress 6 = 2048 ∧ c'.slot? 2048 = some 6 ∧
      c'.free 4164 = (.error .foreignAddress, c') ∧
      c'.free 1024 = (.error .foreignAddress, c') ∧
      c'.free 2080 = (.error .foreignAddress, c') := by
  have hreserve : reserveAt descending ⟨20, 16⟩ 3 7 =
      .ok ⟨⟨20, 16⟩, 3, 7, descending ⟨20, 16⟩ 96, [], 0, {}, .untouched⟩ := rfl
  have hplaced : Placed ⟨⟨20, 16⟩, 3, 7, descending ⟨20, 16⟩ 96, [], 0, {}, .untouched⟩ :=
    ⟨by decide +kernel, by decide +kernel, by decide +kernel⟩
  obtain ⟨hslots, -, -, -, -, hinterior, houtside, hunused⟩ :=
    locates_serveAll hreserve hplaced [.alloc .zero, .alloc .none, .free 4096, .free 4100]
  exact ⟨_, hreserve, hplaced, rfl, (hslots 2 (by decide)).1, rfl, (hslots 6 (by decide)).1,
    hinterior 2 (by decide) 4164 (by decide) (by decide), houtside 1024 (by decide +kernel),
    hunused 7 (by decide) (by decide)⟩

end Chunks

end TieredPool
