import TieredPool.Proofs.Backing.Slots

/-!
# The slots of a chunk allocator and who has them

Callers of a chunk allocator hold what it handed out to them, and give back only that. They may also
try an address at which no slot starts, and are turned away. After all such requests every slot is
in one place: it is held, or it is among the free slots, once (`Chunks.Custody.partition_serveAll`).
What one request preserves is the audit of the store (`Store.Audited`), and a run preserves it by
induction.
-/

namespace TieredPool.Chunks

open Backing (Request)

/-- A chunk allocator and the elements its callers hold, the latest last. -/
structure Custody where
  chunks : Chunks
  held : List Handle

namespace Custody

/-- Serves a request. What is handed out is held from then on, and what is taken back no longer; an
address that is turned away changes nothing for the callers. -/
def serve (k : Custody) : Request → Custody
  | .alloc flags =>
    let (address, chunks) := k.chunks.alloc flags
    ⟨chunks, k.held ++ address.toList⟩
  | .free address =>
    match k.chunks.free address with
    | (.ok (), chunks) => ⟨chunks, k.held.erase address⟩
    | (.error _, chunks) => ⟨chunks, k.held⟩

/-- Serves these requests, one after the other. -/
def serveAll (k : Custody) (requests : List Request) : Custody := requests.foldl serve k

/-- The slots that are held. -/
def heldSlots (k : Custody) : List Nat := k.held.filterMap k.chunks.slot?

/-- An address that is given back is held, or no slot of the capacity starts there. -/
def Allows (k : Custody) : Request → Prop
  | .alloc _ => True
  | .free address =>
    address ∈ k.held ∨ ∀ slot < k.chunks.capacity, address ≠ k.chunks.slotAddress slot

/-- Each of the requests is allowed when it is made. -/
def Permits (k : Custody) : List Request → Prop
  | [] => True
  | request :: requests => k.Allows request ∧ (k.serve request).Permits requests

instance (k : Custody) : (request : Request) → Decidable (k.Allows request)
  | .alloc _ => inferInstanceAs (Decidable True)
  | .free address => inferInstanceAs (Decidable (address ∈ k.held ∨ _))

instance instDecidablePermits : (k : Custody) → (requests : List Request) →
    Decidable (k.Permits requests)
  | _, [] => inferInstanceAs (Decidable True)
  | k, request :: requests =>
    have := instDecidablePermits (k.serve request) requests
    inferInstanceAs (Decidable (k.Allows request ∧ _))

/-! ## Requests -/

/-- Callers do not matter to the allocator. -/
theorem chunks_serveAll (k : Custody) (requests : List Request) :
    (k.serveAll requests).chunks = Backing.serveAll k.chunks requests := by
  induction requests generalizing k with
  | nil => rfl
  | cons request requests ih =>
    have hstep : (k.serve request).chunks = Backing.serve k.chunks request := by
      cases request with
      | alloc flags => rfl
      | free address =>
        simp only [serve, Backing.serve, Backing.free]
        split <;> simp [*]
    have hrest := ih (k.serve request)
    rw [hstep] at hrest
    exact hrest

/-- The elements held are those out of the allocator, and the tally says how many they are. -/
def Audited (k : Custody) : Prop := (Store.chunks k.chunks).Audited ↑k.held

variable {k : Custody}

theorem Audited.wf (h : k.Audited) : k.chunks.WF := h.out.1

theorem Audited.serve (h : k.Audited) {request : Request} (hallows : k.Allows request) :
    (k.serve request).Audited := by
  cases request with
  | alloc flags =>
    have hheld : (↑(k.serve (.alloc flags)).held : Multiset Handle) =
        ↑(k.chunks.alloc flags).1.toList + ↑k.held := by
      rw [add_comm, Multiset.coe_add]
      rfl
    rw [Audited, hheld]
    exact Store.Audited.alloc h flags
  | free address =>
    rcases hallows with hheld | hforeign
    · have hm : (↑k.held : Multiset Handle) = address ::ₘ ↑(k.held.erase address) :=
        Multiset.coe_eq_coe.2 (List.perm_cons_erase hheld)
      rw [Audited, hm] at h
      obtain ⟨s', hfree, haudited⟩ := Store.Audited.free h
      rw [Store.free] at hfree
      rw [Custody.serve]
      rcases hchunks : k.chunks.free address with ⟨fault | _, c'⟩ <;> rw [hchunks] at hfree
      · cases hfree
      · cases hfree
        exact haudited
    · rw [Custody.serve, h.wf.free_foreign hforeign]
      exact h

theorem Audited.serveAll (h : k.Audited) {requests : List Request}
    (hpermits : k.Permits requests) : (k.serveAll requests).Audited := by
  induction requests generalizing k with
  | nil => exact h
  | cons request requests ih => exact ih (h.serve hpermits.1) hpermits.2

/-! ## Where the slots are -/

theorem length_freeSlots (c : Chunks) : c.freeSlots.length = c.available := by
  simp [freeSlots, available]

/-- A request that is refused counts as a failure and changes nothing else. -/
theorem alloc_eq_of_none {c : Chunks} {flags : AllocFlags} (h : (c.alloc flags).1 = none) :
    (c.alloc flags).2 = { c with tally := c.tally.failed } := by
  unfold alloc at h ⊢
  cases htake : c.takeSlot? with
  | none => rfl
  | some taken =>
    rw [htake] at h
    cases h

theorem Audited.exists_slot (h : k.Audited) {address : Handle} (hheld : address ∈ k.held) :
    ∃ slot < k.chunks.capacity, address = k.chunks.slotAddress slot := by
  obtain ⟨⟨-, slots, hslots, hall⟩, -⟩ := h
  rw [← Multiset.mem_coe, hslots] at hheld
  obtain ⟨slot, hslot, haddress⟩ := Multiset.mem_map.1 hheld
  exact ⟨slot, lt_capacity hall hslot, haddress.symm⟩

theorem Audited.free_held (h : k.Audited) {address : Handle} (hheld : address ∈ k.held) :
    (k.chunks.free address).1 = .ok () :=
  h.wf.free_eq_ok_iff.2 (h.exists_slot hheld)

theorem Audited.held_eq (h : k.Audited) : k.held = k.heldSlots.map k.chunks.slotAddress := by
  have hback : ∀ address ∈ k.held,
      (k.chunks.slot? address).map k.chunks.slotAddress = some address := by
    intro address hmem
    obtain ⟨slot, hslot, rfl⟩ := h.exists_slot hmem
    rw [h.wf.slot?_slotAddress hslot, Option.map_some]
  rw [heldSlots, List.map_filterMap, List.filterMap_congr hback, List.filterMap_some]

/-- The slots that are held and the free slots are all slots, each once. -/
theorem Audited.partition (h : k.Audited) :
    (k.heldSlots ++ k.chunks.freeSlots).Perm (List.range k.chunks.capacity) := by
  obtain ⟨⟨hwf, slots, hheld, hslots⟩, -⟩ := h
  have hheldSlots : ↑k.heldSlots = slots := by
    have hcoe : (↑k.heldSlots : Multiset Nat) = Multiset.filterMap k.chunks.slot? ↑k.held := rfl
    rw [hcoe, hheld, hwf.filterMap_slot? fun slot hslot => lt_capacity hslots hslot]
  rw [← hheldSlots, Multiset.coe_add] at hslots
  exact Multiset.coe_eq_coe.1 hslots

/-- **Every slot is in one place.** After any requests that callers may make of an allocator, the
held slots differ, lie below the capacity, and with the free slots are all slots, each once. What is
available is the capacity less what is held, which is what the tally counts as live. A request is
refused exactly when all slots are held, and then counts as a failure and changes nothing else.
What is held can be given back; a free that faults changes nothing. -/
theorem partition_serveAll {base : Layout → Nat → Nat → Nat} {layout : Layout}
    {chunkSize capacity : Nat} {c : Chunks}
    (hreserve : reserveAt base layout chunkSize capacity = .ok c)
    (hapart : ∀ i j, i < c.chunkCount → j < c.chunkCount → i ≠ j →
      c.base i + c.chunkBytes ≤ c.base j ∨ c.base j + c.chunkBytes ≤ c.base i)
    {requests : List Request} (hpermits : Permits ⟨c, []⟩ requests) :
    let k := serveAll ⟨c, []⟩ requests
    k.held = k.heldSlots.map c.slotAddress ∧ k.heldSlots.Nodup ∧
    (∀ slot ∈ k.heldSlots, slot < capacity) ∧
    (k.heldSlots ++ k.chunks.freeSlots).Perm (List.range capacity) ∧
    k.held.length ≤ capacity ∧ k.chunks.available = capacity - k.held.length ∧
    k.chunks.tally.live = k.held.length ∧
    (∀ flags, (k.chunks.alloc flags).1 = none ↔ k.held.length = capacity) ∧
    (∀ flags, (k.chunks.alloc flags).1 = none →
      (k.chunks.alloc flags).2 = { k.chunks with tally := k.chunks.tally.failed }) ∧
    (∀ address ∈ k.held, (k.chunks.free address).1 = .ok ()) ∧
    ∀ address, (k.chunks.free address).1 ≠ .ok () →
      k.chunks.free address = (.error .foreignAddress, k.chunks) := by
  intro k
  have hnew : Audited ⟨c, []⟩ := by
    refine ⟨out_of_reserveAt hreserve hapart, ?_⟩
    obtain ⟨-, -, rfl⟩ := reserveAt_eq_ok hreserve
    rfl
  have haudited : k.Audited := hnew.serveAll hpermits
  have hsame : c.SameSlots k.chunks := by
    have hchunks : k.chunks = Backing.serveAll c requests := chunks_serveAll ⟨c, []⟩ requests
    rw [hchunks]
    exact (keeps_sameSlots c).serveAll requests ⟨rfl, rfl, rfl, rfl⟩
  have hcapacity : k.chunks.capacity = capacity := by
    obtain ⟨-, -, rfl⟩ := reserveAt_eq_ok hreserve
    exact hsame.capacity_eq
  have hheld := haudited.held_eq
  have hpartition := haudited.partition
  rw [hcapacity] at hpartition
  have hcount : k.heldSlots.length + k.chunks.available = capacity := by
    rw [← length_freeSlots, ← List.length_append, hpartition.length_eq, List.length_range]
  have hlength : k.held.length = k.heldSlots.length := by
    rw [hheld, List.length_map]
  have hlive : k.chunks.tally.live = k.held.length := haudited.live_eq
  have hnodup : (k.heldSlots ++ k.chunks.freeSlots).Nodup :=
    hpartition.nodup_iff.2 List.nodup_range
  refine ⟨?_, (List.nodup_append.1 hnodup).1, fun slot hslot => ?_, hpartition, by omega, by omega,
    hlive, fun flags => ?_, fun flags => alloc_eq_of_none, fun address => haudited.free_held,
    fun address => free_eq_of_ne_ok⟩
  · rw [hheld]
    exact List.map_congr_left fun slot _ => hsame.slotAddress_eq slot
  · rw [← List.mem_range, ← hpartition.mem_iff]
    exact List.mem_append_left _ hslot
  · have hrefused := alloc_eq_none_iff haudited.out flags
    rw [hcapacity, Multiset.coe_card] at hrefused
    rw [hrefused]
    omega

/-- Three slots in chunks of two. All are handed out and a fourth request is refused; an address
inside slot 0 and that of the unused slot 3 are turned away, and slot 1 is given back. -/
theorem partition_serveAll_descending :
    let requests : List Request :=
      [.alloc .zero, .alloc .none, .alloc .none, .alloc .none, .free 4104, .free 3096, .free 4120]
    ∃ c, reserveAt descending ⟨24, 8⟩ 2 3 = .ok c ∧ Permits ⟨c, []⟩ requests ∧
      let k := serveAll ⟨c, []⟩ requests
      k.held = [4096, 3072] ∧ k.heldSlots = [0, 2] ∧ k.chunks.freeSlots = [1] ∧
      k.chunks.tally = ⟨3, 1, 1⟩ ∧ (k.heldSlots ++ k.chunks.freeSlots).Perm (List.range 3) := by
  intro requests
  have hreserve : reserveAt descending ⟨24, 8⟩ 2 3 =
      .ok ⟨⟨24, 8⟩, 2, 3, descending ⟨24, 8⟩ 48, [], 0, {}, .untouched⟩ := rfl
  have hplaced : Placed ⟨⟨24, 8⟩, 2, 3, descending ⟨24, 8⟩ 48, [], 0, {}, .untouched⟩ :=
    ⟨by decide +kernel, by decide +kernel, by decide +kernel⟩
  have hpermits : Permits ⟨⟨⟨24, 8⟩, 2, 3, descending ⟨24, 8⟩ 48, [], 0, {}, .untouched⟩, []⟩
      requests := by decide +kernel
  obtain ⟨-, -, -, hpartition, -⟩ :=
    partition_serveAll hreserve (fun i j hi hj => hplaced.apart i hi j hj) hpermits
  exact ⟨_, hreserve, hpermits, by decide +kernel, by decide +kernel, by decide +kernel,
    by decide +kernel, hpartition⟩

end Custody

end TieredPool.Chunks
