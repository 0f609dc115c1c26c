import TieredPool.Proofs.Backing.Slots
import TieredPool.Proofs.Workshop.Laws

/-!
# Setting up a stress run

Valid settings without a limit always come to a run: the headroom is a word, the backing is there,
and the pool is built with all that is to be preallocated. What limits the backing is then known:
nothing limits a heap of a system that meets every request, and a chunk allocator has the capacity
that was reckoned for it (`PoolSettings.capacity?`). Only a limit may ask for more slots than there
can be a list of (`PoolSettings.SlotsFit`).
-/

namespace TieredPool

theorem Layout.isValid_of_le {size align : Nat} (hpow : Word.isPowerOfTwo align = true)
    (hsize : size ≤ 1 <<< 62) (halign : align ≤ 1 <<< 62) : isValid size align = true := by
  have hbound : size + align ≤ sizeBound := by
    rw [sizeBound]
    rw [Nat.one_shiftLeft] at hsize halign ⊢
    omega
  rw [isValid, hpow, Bool.true_and, decide_eq_true hbound]

/-- A list of slots is one that memory can be reserved for exactly if there are fewer than 2^60. -/
theorem Chunks.listFits_slotEntry_iff {capacity : Nat} :
    slotEntry.listFits capacity = true ↔ capacity < 1 <<< 60 := by
  have hpow : Word.isPowerOfTwo slotEntry.align = true := by decide
  rw [Layout.listFits, Layout.isValid, hpow, Bool.true_and, decide_eq_true_iff, Layout.sizeBound,
    Nat.one_shiftLeft, Nat.one_shiftLeft]
  dsimp only [slotEntry]
  omega

/-! ## The backing -/

/-- If the settings ask for chunks with a limit, there can be a list of so many slots. -/
def PoolSettings.SlotsFit (pool : PoolSettings) : Prop :=
  pool.backing = .chunk →
    ∀ limit, pool.backingLimit = some limit → Chunks.slotEntry.listFits limit = true

/-- How many elements the backing of settings without a limit can hand out, if that is limited. -/
def PoolSettings.capacity? (pool : PoolSettings) (headroom : Nat) : Option Nat :=
  match pool.backing with
  | .heap => none
  | .chunk => some (pool.sharedCapacity + pool.cpus * pool.localCapacity + headroom)

/-- How many elements the backing of settings can hand out, if that is limited: the limit of the
settings goes before that of the kind. -/
def PoolSettings.ceiling? (pool : PoolSettings) (headroom : Nat) : Option Nat :=
  pool.backingLimit.or (pool.capacity? headroom)

namespace Store

variable {pool : PoolSettings} {headroom : Nat}

/-- What the pool can keep and the headroom are far from the bound on words. -/
theorem cached_lt (h : pool.InRange) (hroom : headroom ≤ 1 <<< 29) :
    pool.sharedCapacity + pool.cpus * pool.localCapacity + headroom < 1 <<< 60 := by
  have hcached : pool.cpus * pool.localCapacity ≤ 4096 * 65536 :=
    Nat.mul_le_mul h.cpus.2 h.localCapacity.2
  have hshared := h.sharedCapacity.2
  have hbound : 1048576 + 4096 * 65536 + 1 <<< 29 < 1 <<< 60 := by decide
  omega

theorem cachedElements_eq (h : pool.InRange) (hroom : headroom ≤ 1 <<< 29) :
    cachedElements pool headroom =
      .ok (pool.sharedCapacity + pool.cpus * pool.localCapacity + headroom) := by
  have hbound := Nat.lt_trans (cached_lt h hroom) (by decide : 1 <<< 60 < Word.bound)
  have hmul : Word.mul pool.cpus pool.localCapacity = .ok (pool.cpus * pool.localCapacity) :=
    Word.mul_eq_ok.2 ⟨by omega, rfl⟩
  have hqueued : Word.add pool.sharedCapacity (pool.cpus * pool.localCapacity) =
      .ok (pool.sharedCapacity + pool.cpus * pool.localCapacity) :=
    Word.add_eq_ok.2 ⟨by omega, rfl⟩
  have hall : Word.add (pool.sharedCapacity + pool.cpus * pool.localCapacity) headroom =
      .ok (pool.sharedCapacity + pool.cpus * pool.localCapacity + headroom) :=
    Word.add_eq_ok.2 ⟨hbound, rfl⟩
  rw [cachedElements, hmul]
  dsimp only [bind, Except.bind]
  rw [hqueued]
  exact hall

theorem element_valid (h : pool.InRange) :
    Layout.isValid pool.elementSize pool.elementAlign = true := by
  apply Layout.isValid_of_le h.elementAlign_pow
  · exact Nat.le_trans h.elementSize.2 (by decide)
  · exact Nat.le_trans h.elementAlign.2 (by decide)

/-- The elements of valid settings have a layout. -/
theorem ofSizeAlign?_eq (h : pool.InRange) :
    Layout.ofSizeAlign? pool.elementSize pool.elementAlign =
      some ⟨pool.elementSize, pool.elementAlign⟩ := by
  unfold Layout.ofSizeAlign?
  rw [element_valid h, if_pos rfl]

/-- A chunk of so many slots has few bytes. -/
theorem stride_mul_slots_le (h : pool.InRange) (capacity : Nat) :
    Layout.stride ⟨pool.elementSize, pool.elementAlign⟩ * min chunkSlots capacity ≤
      (1048576 + 4096) * 1024 := by
  apply Nat.mul_le_mul
  · exact Nat.le_trans (Layout.stride_le _) (Nat.add_le_add h.elementSize.2 h.elementAlign.2)
  · exact Nat.min_le_left ..

theorem chunkBytes_valid (h : pool.InRange) (capacity : Nat) :
    Layout.isValid (Layout.stride ⟨pool.elementSize, pool.elementAlign⟩ * min chunkSlots capacity)
      pool.elementAlign = true := by
  apply Layout.isValid_of_le h.elementAlign_pow
  · exact Nat.le_trans (stride_mul_slots_le h capacity) (by decide)
  · exact Nat.le_trans h.elementAlign.2 (by decide)

/-- Chunks of so many slots are few enough if the slots are. -/
theorem listsFit_eq {capacity : Nat} (hpos : 0 < capacity) :
    Chunks.listsFit (min chunkSlots capacity) capacity = Chunks.slotEntry.listFits capacity := by
  cases hslots : Chunks.slotEntry.listFits capacity with
  | false => rw [Chunks.listsFit, hslots, Bool.and_false]
  | true =>
    rw [Chunks.listsFit, hslots, Bool.and_true]
    have hfew := Chunks.listFits_slotEntry_iff.1 hslots
    have hcount : Word.ceilDiv capacity (min chunkSlots capacity) ≤ 1 <<< 55 := by
      rw [Word.ceilDiv]
      rcases Nat.le_total capacity chunkSlots with hone | hmany
      · -- one chunk holds them all
        rw [Nat.min_eq_right hone]
        have hquotient : (capacity + capacity - 1) / capacity < 2 :=
          Nat.div_lt_of_lt_mul (by omega)
        exact Nat.le_trans (Nat.le_of_lt hquotient) (by decide)
      · rw [Nat.min_eq_left hmany, chunkSlots]
        rw [Nat.one_shiftLeft] at hfew ⊢
        omega
    apply Layout.isValid_of_le (by decide)
    · exact Nat.le_trans (Nat.mul_le_mul_right _ hcount) (by decide)
    · decide

/-- Slots of valid settings can be reserved if there can be a list of them. -/
theorem reserve_eq (h : pool.InRange) {capacity : Nat} (hpos : 0 < capacity) (machine : Machine) :
    let element : Layout := ⟨pool.elementSize, pool.elementAlign⟩
    let slots := min chunkSlots capacity
    Chunks.reserve element slots capacity machine =
      if Chunks.slotEntry.listFits capacity then
        .ok ⟨element, slots, capacity, machine.base element (element.stride * slots), [], 0, {},
          .untouched⟩
      else .error (.fault .capacityOverflow) := by
  intro element slots
  have hslots_pos : 0 < slots := Nat.lt_min.2 ⟨by decide, hpos⟩
  rw [Chunks.reserve, Chunks.reserveAt_eq, if_neg (Nat.ne_of_gt h.elementSize.1),
    if_neg (by omega), if_pos (Nat.lt_of_le_of_lt (stride_mul_slots_le h capacity) (by decide)),
    if_neg (not_not_intro (chunkBytes_valid h capacity)), listsFit_eq hpos, ite_not]

/-- How many slots the settings ask for, if they ask for chunks. -/
def slotCount (pool : PoolSettings) (headroom : Nat) : Nat :=
  pool.backingLimit.getD (pool.sharedCapacity + pool.cpus * pool.localCapacity + headroom)

theorem slotCount_pos (h : pool.InRange)
    (hlimit : ∀ limit, pool.backingLimit = some limit → 0 < limit) (headroom : Nat) :
    0 < slotCount pool headroom := by
  unfold slotCount
  cases hsome : pool.backingLimit with
  | none =>
    have hshared := h.sharedCapacity.1
    rw [Option.getD_none]
    omega
  | some limit => exact hlimit limit hsome

/-- What was reckoned is always few enough; a limit may not be. -/
theorem listFits_slotCount (h : pool.InRange) (hkind : pool.backing = .chunk)
    (hfits : pool.SlotsFit) (hroom : headroom ≤ 1 <<< 29) :
    Chunks.slotEntry.listFits (slotCount pool headroom) = true := by
  unfold slotCount
  cases hsome : pool.backingLimit with
  | none => exact Chunks.listFits_slotEntry_iff.2 (cached_lt h hroom)
  | some limit => exact hfits hkind limit hsome

/-- **A heap** is there for valid settings that ask for one. -/
theorem provide_heap (h : pool.InRange) (hkind : pool.backing = .heap) (headroom : Nat)
    (machine : Machine) :
    ∃ heap, provide pool headroom machine = .ok (.heap heap, []) ∧
      heap.layout = ⟨pool.elementSize, pool.elementAlign⟩ ∧ heap.limit = pool.backingLimit ∧
      heap.systemRefuses = machine.refuses ⟨pool.elementSize, pool.elementAlign⟩ := by
  have hcreate : Heap.create ⟨pool.elementSize, pool.elementAlign⟩ machine =
      .ok ⟨⟨pool.elementSize, pool.elementAlign⟩, none, 0, {},
        machine.refuses ⟨pool.elementSize, pool.elementAlign⟩, .untouched⟩ := by
    rw [Heap.create, Layout.checkSize, if_neg (by simpa using Nat.ne_of_gt h.elementSize.1)]
    rfl
  rw [provide, ofSizeAlign?_eq h]
  dsimp only
  rw [hkind]
  dsimp only
  rw [hcreate]
  cases pool.backingLimit with
  | none => exact ⟨_, rfl, rfl, rfl, rfl⟩
  | some limit => exact ⟨_, rfl, rfl, rfl, rfl⟩

/-- **Chunks** of valid settings are what a reservation of so many slots comes to. -/
theorem provide_chunk_eq (h : pool.InRange) (hkind : pool.backing = .chunk)
    (hroom : headroom ≤ 1 <<< 29) (machine : Machine) :
    provide pool headroom machine =
      (Chunks.reserve ⟨pool.elementSize, pool.elementAlign⟩
        (min chunkSlots (slotCount pool headroom)) (slotCount pool headroom) machine).map
          fun chunks => (.chunks chunks, [chunks.reservedEvent]) := by
  rw [provide, ofSizeAlign?_eq h]
  dsimp only
  rw [hkind]
  dsimp only
  rw [cachedElements_eq h hroom]
  rfl

theorem provide_chunk (h : pool.InRange) (hkind : pool.backing = .chunk)
    (hlimit : ∀ limit, pool.backingLimit = some limit → 0 < limit) (hfits : pool.SlotsFit)
    (hroom : headroom ≤ 1 <<< 29) (machine : Machine) :
    ∃ chunks, provide pool headroom machine = .ok (.chunks chunks, [chunks.reservedEvent]) ∧
      chunks.layout = ⟨pool.elementSize, pool.elementAlign⟩ ∧
      chunks.chunkSize = min chunkSlots (slotCount pool headroom) ∧
      chunks.capacity = slotCount pool headroom := by
  rw [provide_chunk_eq h hkind hroom, reserve_eq h (slotCount_pos h hlimit headroom),
    if_pos (listFits_slotCount h hkind hfits hroom)]
  exact ⟨_, rfl, rfl, rfl, rfl⟩

/-- Too many slots for a list are a fault. -/
theorem provide_eq_of_not_slotsFit (h : pool.InRange) (hroom : headroom ≤ 1 <<< 29)
    (machine : Machine) (hunfit : ¬pool.SlotsFit) :
    provide pool headroom machine = .error (.fault .capacityOverflow) := by
  simp only [PoolSettings.SlotsFit, not_forall] at hunfit
  obtain ⟨hkind, limit, hlimit, hunfit⟩ := hunfit
  have hcount : slotCount pool headroom = limit := by rw [slotCount, hlimit, Option.getD_some]
  have hpos : 0 < limit := by
    apply Nat.pos_of_ne_zero
    rintro rfl
    exact absurd (by decide) hunfit
  rw [provide_chunk_eq h hkind hroom, hcount, reserve_eq h hpos, if_neg hunfit]
  rfl

/-- **The backing** of valid settings is there, and what limits it is known. -/
theorem exists_provide (h : pool.InRange)
    (hlimit : ∀ limit, pool.backingLimit = some limit → 0 < limit) (hfits : pool.SlotsFit)
    (hroom : headroom ≤ 1 <<< 29) {machine : Machine}
    (hmeets : machine.Meets ⟨pool.elementSize, pool.elementAlign⟩) :
    ∃ store events, provide pool headroom machine = .ok (store, events) ∧
      store.Limited (pool.ceiling? headroom) := by
  unfold PoolSettings.ceiling? PoolSettings.capacity?
  cases hkind : pool.backing with
  | heap =>
    obtain ⟨heap, hprovide, -, hsame, hsystem⟩ := provide_heap h hkind headroom machine
    refine ⟨_, _, hprovide, ?_, fun n => ?_⟩
    · simpa [limit?] using hsame
    · rw [hsystem]
      exact hmeets n
  | chunk =>
    obtain ⟨chunks, hprovide, -, -, hcapacity⟩ := provide_chunk h hkind hlimit hfits hroom machine
    refine ⟨_, _, hprovide, ?_, trivial⟩
    simp only [limit?, hcapacity, slotCount]
    cases pool.backingLimit <;> rfl

/-- Settings without a limit leave it to the kind of the backing. -/
theorem exists_provide_eq (h : pool.InRange) (hunlimited : pool.backingLimit = none)
    (hroom : headroom ≤ 1 <<< 29) {machine : Machine}
    (hmeets : machine.Meets ⟨pool.elementSize, pool.elementAlign⟩) :
    ∃ store events, provide pool headroom machine = .ok (store, events) ∧
      store.Limited (pool.capacity? headroom) := by
  have hnone : ∀ limit, pool.backingLimit ≠ some limit := by
    rw [hunlimited]
    exact fun _ hsome => nomatch hsome
  have hprovide := exists_provide h (fun limit hsome => absurd hsome (hnone limit))
    (fun _ limit hsome => absurd hsome (hnone limit)) hroom hmeets
  rwa [PoolSettings.ceiling?, hunlimited, Option.none_or] at hprovide

end Store

namespace Stress

variable {s : Settings}

theorem headroom_eq {workload : WorkloadSettings} (h : workload.InRange) :
    headroom workload = .ok (workload.threads * workload.burst * 2) ∧
      workload.threads * workload.burst * 2 ≤ 1 <<< 29 := by
  have hmost : workload.threads * workload.burst ≤ 4096 * 65536 :=
    Nat.mul_le_mul h.threads.2 h.burst.2
  have hbound : 4096 * 65536 * 2 < Word.bound := by decide
  have hbursts : Word.mul workload.threads workload.burst =
      .ok (workload.threads * workload.burst) := Word.mul_eq_ok.2 ⟨by omega, rfl⟩
  rw [headroom, hbursts]
  refine ⟨Word.mul_eq_ok.2 ⟨by omega, rfl⟩, ?_⟩
  exact Nat.le_trans (Nat.mul_le_mul_right 2 hmost) (by decide)

/-! ## The pool -/

theorem plan_sound (h : s.pool.InRange) : (plan s).Sound where
  localSize_ge := h.localCapacity.1
  sharedSize_ge := h.sharedCapacity.1
  localSize_pow := h.localCapacity_pow
  sharedSize_pow := h.sharedCapacity_pow
  preallocate_lt := h.preallocate

theorem check_plan (h : s.pool.InRange) :
    ((plan s).check true).1 = .ok (max s.pool.cpus s.workload.threads) :=
  Plan.check_of_sound (plan_sound h)
    (Nat.lt_of_lt_of_le h.cpus.1 (Nat.le_max_left s.pool.cpus s.workload.threads))

/-- Rings as large as settings may ask for have room in memory. -/
theorem fits_of_le {size : Nat} (hsize : size ≤ 1048576) : Ring.Fits size :=
  Layout.isValid_of_le (by decide) (Nat.le_trans (Nat.mul_le_mul_right _ hsize) (by decide))
    (by decide)

/-- **The pool** of valid settings is built over a backing with room for what is preallocated, and
over no other. -/
theorem build_plan (h : s.pool.InRange) (id : Nat) {store : Store} {limit : Option Nat}
    (hnew : store.IsNew) (hlimited : store.Limited limit) :
    ((∀ n, limit = some n → s.pool.preallocate ≤ n) →
      ∃ items pool, items.length = s.pool.preallocate ∧
        ((plan s).build id (some store)).pool = .ok pool ∧
        pool.stock = (plan s).stocked id (max s.pool.cpus s.workload.threads) items) ∧
    ∀ n, limit = some n → n < s.pool.preallocate →
      ((plan s).build id (some store)).pool =
        .error (.error (.preallocExhausted n s.pool.preallocate)) := by
  have hout : LawfulBacking.Out store 0 := hnew.out
  have hlength := hlimited.length_supply_eq hnew.out (plan s).flags (plan s).preallocate
  rw [Multiset.card_zero] at hlength
  obtain ⟨hall, hshort⟩ := Plan.build_of_supply id (check_plan h)
    (fits_of_le (Nat.le_trans h.localCapacity.2 (by decide))) (fits_of_le h.sharedCapacity.2) hout
  refine ⟨fun hroom => ?_, fun n hn hlt => ?_⟩
  · have hmet : (Backing.supply (plan s).flags (plan s).preallocate store).1.length =
        (plan s).preallocate := by
      rw [hlength]
      cases limit with
      | none => rfl
      | some n => exact Nat.min_eq_left (hroom n rfl)
    obtain ⟨pool, hpool, hstock⟩ := hall hmet
    exact ⟨_, pool, hmet, hpool, hstock⟩
  · have hmin : min (plan s).preallocate n = n := Nat.min_eq_right (Nat.le_of_lt hlt)
    rw [hn, Option.elim_some, Nat.sub_zero, hmin] at hlength
    rw [hlength] at hshort
    exact hshort hlt

theorem exists_build_eq (h : s.pool.InRange) {store : Store} {limit : Option Nat}
    (hnew : store.IsNew) (hlimited : store.Limited limit)
    (hroom : ∀ n, limit = some n → s.pool.preallocate ≤ n) :
    ∃ pool backing numbered reports,
      (plan s).build 1 (some store) = ⟨.ok pool, some backing, numbered, reports⟩ := by
  obtain ⟨_, pool, -, hpool, -⟩ := (build_plan h 1 hnew hlimited).1 hroom
  obtain ⟨-, hbacking, -⟩ := Plan.build_of_ok 1 (b := store) (check_plan h)
  rcases hbuild : (plan s).build 1 (some store) with ⟨result, backing, numbered, reports⟩
  rw [hbuild] at hpool hbacking
  dsimp only at hpool hbacking
  rw [hpool, hbacking]
  exact ⟨_, _, _, _, rfl⟩

end Stress

end TieredPool
