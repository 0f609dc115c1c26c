import TieredPool.Proofs.Pool.Conservation

/-!
# The flow of batches

The counters of a pool account for every batch that went through its shared queue. What came is what
the backing gave beyond the elements handed straight to callers, and a batch for each overflow; what
went is a batch for each refill of a local queue, and three for each drain, one of them by way of an
overflow. `Stock.Flow` says so in equations, and every outcome of an allocation or a free keeps
them.
-/

namespace TieredPool

namespace Stock

def refills (s : Stock) : Nat := (s.shelves.map Shelf.refills).sum

def overflows (s : Stock) : Nat := (s.shelves.map Shelf.overflows).sum

def drains (s : Stock) : Nat := (s.shelves.map Shelf.drains).sum

/-- The counters and the fill of the shared queue agree. -/
structure Flow (s : Stock) : Prop where
  shared_eq :
    s.shared.length + batch * s.refills + batch * (1 + refillBatches) * s.traffic.drains =
      s.traffic.allocs - s.traffic.refills + batch * s.overflows
  frees_eq : s.traffic.frees = batch * (1 + refillBatches) * s.traffic.drains
  drains_eq : s.traffic.drains = s.drains
  drains_le : ∀ shelf ∈ s.shelves, shelf.drains ≤ shelf.overflows
  allocs_ge : s.preallocated + s.traffic.refills ≤ s.traffic.allocs
  allocs_le :
    s.traffic.allocs ≤ s.preallocated + (1 + batch * refillBatches) * s.traffic.refills

/-- A move of batches keeps the flow: `r` into a local queue, `o` out of one, and `n` of those on to
the backing with others of the shared queue. -/
theorem Flow.move {s s' : Stock} (h : s.Flow) {cpu : Nat} {shelf : Shelf} {f : Shelf → Shelf}
    {r o n : Nat} (hshelf : s.shelves[cpu]? = some shelf)
    (hs' : s'.shelves = s.shelves.modify cpu f)
    (hrefills : ∀ shelf, (f shelf).refills = shelf.refills + r)
    (hoverflows : ∀ shelf, (f shelf).overflows = shelf.overflows + o)
    (hdrains : ∀ shelf, (f shelf).drains = shelf.drains + n) (hle : n ≤ o)
    (hpreallocated : s'.preallocated = s.preallocated)
    (htraffic : s'.traffic =
      { s.traffic with
        frees := s.traffic.frees + batch * (1 + refillBatches) * n
        drains := s.traffic.drains + n })
    (hshared : s'.shared.length + batch * r + batch * (1 + refillBatches) * n =
      s.shared.length + batch * o) : s'.Flow := by
  have hr : s'.refills + shelf.refills = s.refills + (f shelf).refills := by
    rw [refills, hs']
    exact sum_map_modify Shelf.refills f hshelf
  have ho : s'.overflows + shelf.overflows = s.overflows + (f shelf).overflows := by
    rw [overflows, hs']
    exact sum_map_modify Shelf.overflows f hshelf
  have hn : s'.drains + shelf.drains = s.drains + (f shelf).drains := by
    rw [drains, hs']
    exact sum_map_modify Shelf.drains f hshelf
  rw [hrefills] at hr
  rw [hoverflows] at ho
  rw [hdrains] at hn
  obtain ⟨hflow, hfrees, hcount, hbelow, hge, hallocs⟩ := h
  simp only [batch, refillBatches] at hflow hfrees hallocs hshared
  refine ⟨?_, ?_, ?_, fun shelf' hmem => ?_, ?_, ?_⟩
  · simp only [htraffic, batch, refillBatches]
    omega
  · simp only [htraffic, batch, refillBatches]
    omega
  · simp only [htraffic]
    omega
  · have hmem' : shelf' ∈ (s.onShelf cpu f).shelves := by rwa [onShelf, ← hs']
    rcases mem_shelves_onShelf hmem' with ⟨old, hold, rfl⟩ | hmem'
    · rw [hdrains, hoverflows]
      exact Nat.add_le_add (hbelow old (List.mem_of_getElem? hold)) hle
    · exact hbelow shelf' hmem'
  · rw [htraffic, hpreallocated]
    exact hge
  · simp only [htraffic, hpreallocated, batch, refillBatches]
    exact hallocs

end Stock

variable {β : Type} [Backing β] {cpu : Nat} {d d' : Depot β}

/-- **An allocation** keeps the flow. -/
theorem Allocation.flow {flags : AllocFlags} {answer : Option Handle}
    (h : Allocation cpu flags d answer d') (hf : d.stock.Flow) : d'.stock.Flow := by
  cases h with
  | cached hshelf hitems =>
    exact hf.move (r := 0) (o := 0) (n := 0) hshelf rfl (fun _ => rfl) (fun _ => rfl) (fun _ => rfl)
      (Nat.le_refl 0) rfl rfl rfl
  | @shared shelf x xs rest hshelf hempty hlist hlen =>
    refine hf.move (r := 1) (o := 0) (n := 0) hshelf rfl (fun _ => rfl) (fun _ => rfl)
      (fun _ => rfl) (Nat.le_refl 0) rfl rfl ?_
    rw [hlist, List.length_cons, List.length_append, hlen]
    simp only [Stock.onShelf, batch]
    omega
  | @supplied shelf x xs backing hshelf hempty hshort hsupply =>
    have hle := Backing.length_supply_le flags (1 + batch * refillBatches) d.backing
    rw [hsupply, List.length_cons] at hle
    obtain ⟨hshared, hfrees, hdrains, hbelow, hge, hallocs⟩ := hf
    refine ⟨?_, hfrees, hdrains, hbelow, ?_, ?_⟩
    · simp only [Stock.refills, Stock.overflows, List.length_append] at hshared ⊢
      omega
    · dsimp only
      omega
    · simp only [Nat.mul_add, Nat.mul_one]
      omega
  | refused => exact hf

/-- **A free** keeps the flow. -/
theorem Release.flow {x : Handle} (h : Release cpu x d d') (hf : d.stock.Flow) :
    d'.stock.Flow := by
  cases h with
  | cached hshelf hroom =>
    exact hf.move (r := 0) (o := 0) (n := 0) hshelf rfl (fun _ => rfl) (fun _ => rfl) (fun _ => rfl)
      (Nat.le_refl 0) rfl rfl rfl
  | @overflowed shelf xs rest hshelf hfull hitems hlen hroom =>
    refine hf.move (r := 0) (o := 1) (n := 0) hshelf rfl (fun _ => rfl) (fun _ => rfl)
      (fun _ => rfl) (Nat.zero_le 1) rfl rfl ?_
    simp only [Stock.onShelf, List.length_append, List.length_cons, hlen, batch]
    omega
  | @drained shelf xs rest ys kept backing hshelf hfull hitems hlen hnoroom hlist hys =>
    refine hf.move (r := 0) (o := 1) (n := 1) hshelf rfl (fun _ => rfl) (fun _ => rfl)
      (fun _ => rfl) (Nat.le_refl 1) rfl rfl ?_
    rw [hlist, List.length_append, hys]
    simp only [Stock.onShelf, batch, refillBatches]
    omega

end TieredPool
