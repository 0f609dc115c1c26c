import TieredPool.Proofs.Pool.Exchange

/-!
# Figures of a pool

What a caller at a CPU can read of a pool are its figures: its sizes, its statistics and those of
the CPU. An allocation and a free take the figures on, and how they do so depends on the figures
alone but for the number of elements that a backing gives (`Figures.allocate`, `Figures.free`). So
does whether they have to do with the backing: an allocation if the figures are `Figures.Dry`, a
free if they are `Figures.Brimming`. What follows of runs of allocations and frees is arithmetic of
figures.
-/

namespace TieredPool

/-- What a caller at a CPU can read of a pool. -/
structure Figures where
  id : Nat
  localSize : Nat
  sharedSize : Nat
  pool : PoolStatistics
  cpu : CpuStatistics
deriving DecidableEq, Repr

namespace Figures

/-- The local queue is empty, and the shared one is short of a batch. -/
def Dry (f : Figures) : Prop := f.cpu.localLength = 0 ∧ f.pool.sharedLength < batch

instance (f : Figures) : Decidable f.Dry := inferInstanceAs (Decidable (_ ∧ _))

/-- The local queue is full, and the shared one has no room for a batch. -/
def Brimming (f : Figures) : Prop :=
  f.localSize ≤ f.cpu.localLength + 1 ∧ f.sharedSize ≤ f.pool.sharedLength + batch

instance (f : Figures) : Decidable f.Brimming := inferInstanceAs (Decidable (_ ∧ _))

/-- The figures after an allocation that is met. A backing that it asks gives so many elements more
than the one that is handed out. -/
def allocate (more : Nat) (f : Figures) : Figures :=
  if 0 < f.cpu.localLength then { f with cpu.localLength := f.cpu.localLength - 1 }
  else if batch ≤ f.pool.sharedLength then
    { f with
      pool.sharedLength := f.pool.sharedLength - batch
      cpu.localLength := batch - 1
      cpu.refills := f.cpu.refills + 1 }
  else
    { f with
      pool.sharedLength := f.pool.sharedLength + more
      pool.backingAllocs := f.pool.backingAllocs + (1 + more)
      pool.sharedRefills := f.pool.sharedRefills + 1 }

/-- The figures after a free. -/
def free (f : Figures) : Figures :=
  if f.cpu.localLength + 1 < f.localSize then
    { f with cpu.localLength := f.cpu.localLength + 1 }
  else if f.pool.sharedLength + batch < f.sharedSize then
    { f with
      pool.sharedLength := f.pool.sharedLength + batch
      cpu.localLength := f.cpu.localLength - (batch - 1)
      cpu.overflows := f.cpu.overflows + 1 }
  else
    { f with
      pool.sharedLength := f.pool.sharedLength - batch * refillBatches
      pool.backingFrees := f.pool.backingFrees + batch * (1 + refillBatches)
      pool.backingDrains := f.pool.backingDrains + 1
      cpu.localLength := f.cpu.localLength - (batch - 1)
      cpu.overflows := f.cpu.overflows + 1
      cpu.drains := f.cpu.drains + 1 }

/-- The figures of a pool in use: sizes that let every transfer through, and no queue beyond
them. -/
structure Sound (f : Figures) : Prop where
  localSize_ge : batch ≤ f.localSize
  sharedSize_ge : batch * (refillBatches + 2) ≤ f.sharedSize
  sharedSize_dvd : batch ∣ f.sharedSize
  local_lt : f.cpu.localLength < f.localSize
  shared_lt : f.pool.sharedLength < f.sharedSize

end Figures

/-! ## Reading figures -/

def Pool.figures? (p : Pool) (cpu : Nat) : Option Figures :=
  (p.cpuStatistics? cpu).map fun statistics =>
    ⟨p.id, p.localSize, p.sharedSize, p.statistics, statistics⟩

theorem Pool.id_of_figures? {p : Pool} {cpu : Nat} {f : Figures} (hf : p.figures? cpu = some f) :
    f.id = p.id := by
  obtain ⟨statistics, -, rfl⟩ := Option.map_eq_some_iff.1 hf
  rfl

def Shelf.statistics (shelf : Shelf) (cpu : Nat) : CpuStatistics :=
  ⟨cpu, shelf.owner, shelf.refills, shelf.overflows, shelf.drains, shelf.items.length⟩

namespace Stock

def statistics (s : Stock) : PoolStatistics :=
  ⟨s.traffic.allocs, s.traffic.frees, s.traffic.refills, s.traffic.drains, s.shared.length,
    s.preallocated⟩

/-- The figures of the pool with another tier of the CPU. -/
def figures (s : Stock) (cpu : Nat) (shelf : Shelf) : Figures :=
  ⟨s.id, s.localSize, s.sharedSize, s.statistics, shelf.statistics cpu⟩

def figures? (s : Stock) (cpu : Nat) : Option Figures := s.shelves[cpu]?.map (s.figures cpu)

theorem figures?_of_getElem? {s : Stock} {cpu : Nat} {shelf : Shelf}
    (hshelf : s.shelves[cpu]? = some shelf) : s.figures? cpu = some (s.figures cpu shelf) := by
  rw [figures?, hshelf, Option.map_some]

theorem id_of_figures? {s : Stock} {cpu : Nat} {f : Figures} (hf : s.figures? cpu = some f) :
    f.id = s.id := by
  obtain ⟨shelf, -, rfl⟩ := Option.map_eq_some_iff.1 hf
  rfl

theorem figures?_onShelf {s : Stock} {cpu : Nat} {shelf : Shelf}
    (hshelf : s.shelves[cpu]? = some shelf) (f : Shelf → Shelf) :
    (s.onShelf cpu f).figures? cpu = some (s.figures cpu (f shelf)) := by
  rw [figures?, onShelf, List.getElem?_modify, hshelf]
  simp only [↓reduceIte, Option.map_some, Option.map_eq_map, figures, statistics]

theorem Sound.figures {s : Stock} (h : s.Sound) (hdvd : batch ∣ s.sharedSize) {cpu : Nat}
    {f : Figures} (hf : s.figures? cpu = some f) : f.Sound := by
  obtain ⟨shelf, hshelf, rfl⟩ := Option.map_eq_some_iff.1 hf
  exact ⟨h.localSize_ge, h.sharedSize_ge, hdvd, h.items_lt_of_getElem? hshelf, h.shared_lt⟩

end Stock

/-- The figures of a pool are those of its lists. -/
theorem Pool.WF.figures?_eq {p : Pool} (h : p.WF) (cpu : Nat) :
    p.figures? cpu = p.stock.figures? cpu := by
  have hshared : p.stock.shared.length = p.shared.length := h.shared.length_toList
  have hpool : p.stock.statistics = p.statistics := by
    rw [Stock.statistics, hshared]
    rfl
  rw [figures?, cpuStatistics?, Stock.figures?, stock_shelves_getElem?]
  rcases hcache : p.caches[cpu]? with _ | cache
  · rfl
  · have hmem : cache ∈ p.caches.toList := Array.mem_toList_iff.2 (Array.mem_of_getElem? hcache)
    have hlocal : cache.shelf.items.length = cache.queue.length :=
      (h.caches cache hmem).queue.length_toList
    simp only [Option.map_some, Stock.figures, hpool, Shelf.statistics, hlocal]
    rfl

/-- A shared queue that takes a batch beyond a refill is some batches long. -/
theorem Pool.WF.batch_dvd {p : Pool} (h : p.WF) (hs : p.stock.Sound) : batch ∣ p.sharedSize := by
  obtain ⟨k, -, -, hk⟩ := h.shared.size_eq
  have hsize : p.sharedSize = 2 ^ k := hk
  have hge : 2 ^ 4 ≤ 2 ^ k := by
    have hle : batch * (refillBatches + 2) ≤ p.sharedSize := hs.sharedSize_ge
    simp only [batch, refillBatches] at hle
    omega
  rw [hsize]
  exact Nat.pow_dvd_pow 2 ((Nat.pow_le_pow_iff_right (by decide)).1 hge)

/-! ## Allocations and frees -/

section Outcomes

variable {β : Type} [Backing β] {cpu : Nat} {flags : AllocFlags} {d d' : Depot β}
  {answer : Option Handle} {x : Handle} {f : Figures}

/-- **An allocation** that is met takes the figures on. -/
theorem Allocation.figures?_eq (h : Allocation cpu flags d (some x) d')
    (hf : d.stock.figures? cpu = some f) :
    d'.stock.figures? cpu = some (f.allocate
      ((Backing.supply flags (1 + batch * refillBatches) d.backing).1.length - 1)) := by
  obtain ⟨shelf, hshelf, rfl⟩ := Option.map_eq_some_iff.1 hf
  cases h with
  | @cached shelf' _ rest hshelf' hitems =>
    obtain rfl := Option.some.inj (hshelf.symm.trans hshelf')
    have hlocal : (d.stock.figures cpu shelf).cpu.localLength = rest.length + 1 :=
      congrArg List.length hitems
    rw [Figures.allocate, if_pos (by omega), hlocal, Nat.add_sub_cancel]
    exact Stock.figures?_onShelf hshelf _
  | @shared shelf' _ xs rest hshelf' hempty hshared hlen =>
    obtain rfl := Option.some.inj (hshelf.symm.trans hshelf')
    have hlocal : (d.stock.figures cpu shelf).cpu.localLength = 0 := congrArg List.length hempty
    have hlength : (d.stock.figures cpu shelf).pool.sharedLength = batch + rest.length := by
      show d.stock.shared.length = _
      rw [hshared, List.length_cons, List.length_append, hlen]
      simp only [batch]
      omega
    rw [Figures.allocate, if_neg (by omega), if_pos (by omega), hlength, Nat.add_sub_cancel_left,
      ← hlen]
    exact Stock.figures?_onShelf (s := { d.stock with shared := rest }) hshelf _
  | @supplied shelf' _ xs backing hshelf' hempty hshort hsupply =>
    obtain rfl := Option.some.inj (hshelf.symm.trans hshelf')
    have hlocal : (d.stock.figures cpu shelf).cpu.localLength = 0 := congrArg List.length hempty
    have hlength : (d.stock.figures cpu shelf).pool.sharedLength < batch := hshort
    rw [Figures.allocate, if_neg (by omega), if_neg (by omega), hsupply, List.length_cons,
      Nat.add_sub_cancel, Stock.figures?_of_getElem?
        (s := { d.stock with shared := d.stock.shared ++ xs, traffic := _ }) hshelf]
    simp only [Stock.figures, Stock.statistics, List.length_append, Nat.add_comm 1]

/-- An allocation asks the backing if the figures are dry, and only then. -/
theorem Allocation.backing_eq (h : Allocation cpu flags d answer d')
    (hf : d.stock.figures? cpu = some f) :
    d'.backing =
      if f.Dry then (Backing.supply flags (1 + batch * refillBatches) d.backing).2
      else d.backing := by
  obtain ⟨shelf, hshelf, rfl⟩ := Option.map_eq_some_iff.1 hf
  have hdry : (d.stock.figures cpu shelf).Dry ↔
      shelf.items = [] ∧ d.stock.shared.length < batch :=
    and_congr_left fun _ => List.length_eq_zero_iff
  cases h with
  | @cached shelf' _ rest hshelf' hitems =>
    obtain rfl := Option.some.inj (hshelf.symm.trans hshelf')
    rw [if_neg (by rw [hdry, hitems]; simp)]
  | @shared shelf' _ xs rest hshelf' hempty hshared hlen =>
    rw [if_neg]
    rintro ⟨-, hshort⟩
    have hlength : d.stock.shared.length < batch := hshort
    rw [hshared, List.length_cons, List.length_append, hlen, batch] at hlength
    omega
  | supplied hshelf' hempty hshort hsupply =>
    obtain rfl := Option.some.inj (hshelf.symm.trans hshelf')
    rw [if_pos (hdry.2 ⟨hempty, hshort⟩), hsupply]
  | refused hshelf' hempty hshort halloc =>
    obtain rfl := Option.some.inj (hshelf.symm.trans hshelf')
    rw [if_pos (hdry.2 ⟨hempty, hshort⟩), Nat.add_comm, Backing.supply, halloc]

/-- Only an allocation that asks the backing can come to nothing. -/
theorem Allocation.dry_of_none (h : Allocation cpu flags d none d')
    (hf : d.stock.figures? cpu = some f) :
    f.Dry ∧ (Backing.alloc flags d.backing).1 = none := by
  obtain ⟨shelf, hshelf, rfl⟩ := Option.map_eq_some_iff.1 hf
  cases h with
  | refused hshelf' hempty hshort halloc =>
    obtain rfl := Option.some.inj (hshelf.symm.trans hshelf')
    exact ⟨⟨congrArg List.length hempty, hshort⟩, congrArg Prod.fst halloc⟩

/-- **A free** takes the figures on. -/
theorem Release.figures?_eq (h : Release cpu x d d') (hf : d.stock.figures? cpu = some f) :
    d'.stock.figures? cpu = some f.free := by
  obtain ⟨shelf, hshelf, rfl⟩ := Option.map_eq_some_iff.1 hf
  have hlocal : (d.stock.figures cpu shelf).cpu.localLength = shelf.items.length := rfl
  have hlocalSize : (d.stock.figures cpu shelf).localSize = d.stock.localSize := rfl
  have hlength : (d.stock.figures cpu shelf).pool.sharedLength = d.stock.shared.length := rfl
  have hsharedSize : (d.stock.figures cpu shelf).sharedSize = d.stock.sharedSize := rfl
  cases h with
  | cached hshelf' hroom =>
    obtain rfl := Option.some.inj (hshelf.symm.trans hshelf')
    rw [Figures.free, if_pos (by omega), Stock.figures?_onShelf hshelf]
    simp only [Stock.figures, Shelf.statistics, List.length_append, List.length_singleton]
  | @overflowed shelf' xs rest hshelf' hfull hitems hlen hroom =>
    obtain rfl := Option.some.inj (hshelf.symm.trans hshelf')
    have hrest : shelf.items.length - (batch - 1) = rest.length := by
      rw [hitems, List.length_append, hlen, Nat.add_sub_cancel_left]
    have hmore : (d.stock.shared ++ x :: xs).length = d.stock.shared.length + batch := by
      rw [List.length_append, List.length_cons, hlen]
      rfl
    rw [Figures.free, if_neg (by omega), if_pos (by omega),
      Stock.figures?_onShelf (s := { d.stock with shared := d.stock.shared ++ x :: xs }) hshelf]
    simp only [Stock.figures, Stock.statistics, Shelf.statistics, hrest, hmore]
  | @drained shelf' xs rest ys kept backing hshelf' hfull hitems hlen hnoroom hshared hys =>
    obtain rfl := Option.some.inj (hshelf.symm.trans hshelf')
    have hrest : shelf.items.length - (batch - 1) = rest.length := by
      rw [hitems, List.length_append, hlen, Nat.add_sub_cancel_left]
    have hkept : d.stock.shared.length - batch * refillBatches = kept.length := by
      rw [hshared, List.length_append, hys, Nat.add_sub_cancel_left]
    rw [Figures.free, if_neg (by omega), if_neg (by omega),
      Stock.figures?_onShelf (s := { d.stock with shared := kept, traffic := _ }) hshelf]
    simp only [Stock.figures, Stock.statistics, Shelf.statistics, hrest, hkept]

/-- A free that finds room in a queue has nothing to do with the backing. -/
theorem Release.backing_eq (h : Release cpu x d d') (hf : d.stock.figures? cpu = some f)
    (hroom : ¬f.Brimming) : d'.backing = d.backing := by
  obtain ⟨shelf, hshelf, rfl⟩ := Option.map_eq_some_iff.1 hf
  cases h with
  | cached => rfl
  | overflowed => rfl
  | drained hshelf' hfull _ _ hnoroom =>
    obtain rfl := Option.some.inj (hshelf.symm.trans hshelf')
    exact absurd ⟨Nat.le_of_eq hfull.symm, hnoroom⟩ hroom

/-- A free that finds both queues full gives three batches back. -/
theorem Release.exists_reclaim (h : Release cpu x d d') (hf : d.stock.figures? cpu = some f)
    (hfull : f.Brimming) :
    ∃ items : List Handle, items.length = batch * (1 + refillBatches) ∧
      Backing.reclaim items d.backing = (.ok (), d'.backing) := by
  obtain ⟨shelf, hshelf, rfl⟩ := Option.map_eq_some_iff.1 hf
  obtain ⟨hlocal, hshared⟩ := hfull
  cases h with
  | cached hshelf' hroom =>
    obtain rfl := Option.some.inj (hshelf.symm.trans hshelf')
    exact absurd hroom (Nat.not_lt_of_le hlocal)
  | overflowed _ _ _ _ hroom => exact absurd hroom (Nat.not_lt_of_le hshared)
  | @drained shelf' xs rest ys kept backing _ _ _ hlen _ _ hys hreclaim =>
    refine ⟨x :: xs ++ ys, ?_, hreclaim⟩
    rw [List.length_append, List.length_cons, hlen, hys]
    rfl

end Outcomes

end TieredPool
