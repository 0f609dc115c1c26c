import TieredPool.Proofs.Workshop.Admission

/-!
# The arithmetic of setting up

Between the settings and the backing of a run lie a few sums and products of words: the headroom,
the elements to keep, the padded element and the bytes of a chunk. The ranges of valid settings keep
all of them in bounds, whatever the limit of the backing (`Stress.sizes_fit`), and so only memory can
be wanting: that for the chunks, which is taken to be there, and that for a list of the slots, which
is asked for by name (`PoolSettings.SlotsFit`).
-/

namespace TieredPool

/-- The size can be rounded up to the alignment without leaving the words, and the stride is what
comes of it: the least multiple of the alignment that holds the element. -/
structure Layout.Pads (l : Layout) : Prop where
  sum_lt : l.size + l.align < Word.bound
  dvd : l.align ∣ l.stride
  le : l.size ≤ l.stride
  lt : l.stride < l.size + l.align

theorem Layout.pads_of_isValid {l : Layout} (h : isValid l.size l.align = true) : l.Pads := by
  unfold isValid at h
  rw [Bool.and_eq_true, decide_eq_true_iff] at h
  obtain ⟨hpow, hbytes⟩ := h
  obtain ⟨k, hk⟩ := Word.isPowerOfTwo_iff.1 hpow
  have hpos : 0 < l.align := by
    rw [hk, Nat.one_shiftLeft]
    exact Nat.two_pow_pos k
  exact ⟨Nat.lt_of_le_of_lt hbytes (by decide), l.align_dvd_stride, le_stride hpos,
    Word.ceilDiv_mul_lt l.size hpos⟩

namespace Store

/-- The store is as the settings ask: of their kind, for their elements, and with their limit. Where
there is no limit a heap has none, and chunks have the capacity that was reckoned for them. -/
def Suits (pool : PoolSettings) (headroom : Nat) : Store → Prop
  | heap h =>
    pool.backing = .heap ∧ h.layout = ⟨pool.elementSize, pool.elementAlign⟩ ∧
      h.limit = pool.backingLimit
  | chunks c =>
    pool.backing = .chunk ∧ c.layout = ⟨pool.elementSize, pool.elementAlign⟩ ∧
      c.capacity = slotCount pool headroom ∧ c.chunkSize = min chunkSlots c.capacity ∧
      1 ≤ c.chunkSize ∧ c.chunkSize ≤ c.capacity

theorem exists_provide_suits {pool : PoolSettings} {headroom : Nat} (h : pool.InRange)
    (hlimit : ∀ limit, pool.backingLimit = some limit → 0 < limit) (hfits : pool.SlotsFit)
    (hroom : headroom ≤ 1 <<< 29) (machine : Machine) :
    ∃ store events, provide pool headroom machine = .ok (store, events) ∧
      store.Suits pool headroom := by
  cases hkind : pool.backing with
  | heap =>
    obtain ⟨heap, hprovide, hlayout, hsame, -⟩ := provide_heap h hkind headroom machine
    exact ⟨_, _, hprovide, hkind, hlayout, hsame⟩
  | chunk =>
    obtain ⟨chunks, hprovide, hlayout, hsize, hcapacity⟩ :=
      provide_chunk h hkind hlimit hfits hroom machine
    have hpos := slotCount_pos h hlimit headroom
    rw [← hcapacity] at hsize hpos
    refine ⟨_, _, hprovide, hkind, hlayout, hcapacity, hsize, ?_, ?_⟩
    · rw [hsize]
      exact Nat.le_min.2 ⟨by decide, hpos⟩
    · rw [hsize]
      exact Nat.min_le_right chunkSlots chunks.capacity

end Store

namespace Stress

/-- **Nothing overflows** on the way from valid settings to a run. The headroom and the number of
elements to keep are words, and they are what was to be computed; the element has a layout and can be
padded; the bytes of a chunk are a word and make a layout. And if memory can be had for a list of the
slots, the backing is there, as the settings ask, on every machine. -/
theorem sizes_fit {s : Settings} (hvalid : s.isValid = true) (machine : Machine) :
    let room := s.workload.threads * s.workload.burst * 2
    let cached := s.pool.sharedCapacity + s.pool.cpus * s.pool.localCapacity + room
    let element : Layout := ⟨s.pool.elementSize, s.pool.elementAlign⟩
    let slots := min Store.chunkSlots (s.pool.backingLimit.getD cached)
    headroom s.workload = .ok room ∧ room < Word.bound ∧
    Store.cachedElements s.pool room = .ok cached ∧ cached < Word.bound ∧
    Layout.ofSizeAlign? s.pool.elementSize s.pool.elementAlign = some element ∧ element.Pads ∧
    Word.mul element.stride slots = .ok (element.stride * slots) ∧
    Layout.isValid (element.stride * slots) element.align = true ∧
    (s.pool.SlotsFit → ∃ store events,
      Store.provide s.pool room machine = .ok (store, events) ∧ store.Suits s.pool room) := by
  intro room cached element slots
  obtain ⟨hpool, hworkload⟩ := Settings.inRange hvalid
  obtain ⟨hheadroom, hroom⟩ := headroom_eq hworkload
  have hcached := Store.cachedElements_eq hpool hroom
  have hlimit : ∀ limit, s.pool.backingLimit = some limit → 0 < limit :=
    fun limit hsome => Settings.backingLimit_pos hvalid hsome
  have hchunk : element.stride * slots < Word.bound :=
    Nat.lt_of_le_of_lt (Store.stride_mul_slots_le hpool _) (by decide)
  exact ⟨hheadroom, Nat.lt_of_le_of_lt hroom (by decide), hcached,
    Nat.lt_trans (Store.cached_lt hpool hroom) (by decide),
    Store.ofSizeAlign?_eq hpool, Layout.pads_of_isValid (Store.element_valid hpool),
    Word.mul_eq_ok.2 ⟨hchunk, rfl⟩, Store.chunkBytes_valid hpool _,
    fun hfits => Store.exists_provide_suits hpool hlimit hfits hroom machine⟩

/-- The largest settings there are: every size is at its bound, and the limit is the greatest number
of slots that there can be a list of. -/
def largest : Settings where
  pool :=
    { localCapacity := 65536, sharedCapacity := 1048576, cpus := 4096, elementSize := 1048576,
      elementAlign := 4096, preallocate := 1048575, backing := .chunk,
      backingLimit := some 1152921504606846975 }
  workload := { threads := 4096, burst := 65536 }

/-- The largest settings have chunks of a gigabyte, and as many slots as can be listed. -/
theorem sizes_fit_largest :
    largest.isValid = true ∧ largest.pool.SlotsFit ∧
    headroom largest.workload = .ok 536870912 ∧
    Store.cachedElements largest.pool 536870912 = .ok 806354944 ∧
    Word.mul (Layout.stride ⟨1048576, 4096⟩) 1024 = .ok 1073741824 ∧
    ∃ store events, Store.provide largest.pool 536870912 = .ok (store, events) ∧
      store.Suits largest.pool 536870912 := by
  have hvalid : largest.isValid = true := by decide +kernel
  have hfits : largest.pool.SlotsFit := by
    intro _ limit hlimit
    cases hlimit
    decide
  obtain ⟨hroom, -, hcached, -, -, -, hbytes, -, hstore⟩ := sizes_fit hvalid .single
  exact ⟨hvalid, hfits, hroom, hcached, hbytes, hstore hfits⟩

end Stress

end TieredPool
