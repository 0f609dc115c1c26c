import TieredPool.Pool.Lease
import TieredPool.Proofs.Backing.Lawful
import TieredPool.Proofs.Pool.Stock

/-!
# What an allocation and a free exchange

The routines of a lease, on lists. An allocation has four outcomes (`Allocation`) and a free of an
element of the pool three (`Release`); each says which items leave which queue for which, in what
order, and what is counted. `Stock.Sound` is the invariant that carries them: it asks for sizes that
let every transfer through, and with it no assertion of a routine can fail
(`Pool.Lease.runOn_allocate`, `Pool.Lease.runOn_free`).
-/

namespace TieredPool

theorem exists_front {items : List Handle} {n : Nat} (h : n ≤ items.length) :
    ∃ front rest, items = front ++ rest ∧ front.length = n :=
  ⟨_, _, (List.take_append_drop n _).symm, List.length_take_of_le h⟩

/-! ## Running calls on lists -/

theorem Stock.items_cache {s : Stock} {cpu : Nat} {shelf : Shelf}
    (hshelf : s.shelves[cpu]? = some shelf) : s.items (.cache cpu) = .ok shelf.items := by
  simp only [items, hshelf]

namespace Routine

variable {α γ β : Type} [Backing β]

@[simp] theorem runOn_pure (a : α) (d : Depot β) : (pure a : Routine α).runOn d = (.ok a, d) := rfl

theorem runOn_bind (r : Routine α) (f : α → Routine γ) (d : Depot β) :
    (r >>= f).runOn d =
      match r.runOn d with
      | (.ok a, d) => (f a).runOn d
      | (.error fault, d) => (.error fault, d) := by
  induction r generalizing d with
  | done a => rfl
  | abort fault => rfl
  | call c next ih =>
    have hbind : (call c next >>= f) = call c fun answer => next answer >>= f := rfl
    rw [hbind, runOn, runOn]
    rcases d.perform c with ⟨fault | answer, d⟩
    · rfl
    · exact ih answer d

/-- A routine that has come to a result goes on with it. -/
theorem runOn_bind_ok {r : Routine α} {f : α → Routine γ} {d d' : Depot β} {a : α}
    (h : r.runOn d = (.ok a, d')) : (r >>= f).runOn d = (f a).runOn d' := by
  rw [runOn_bind, h]

@[simp] theorem runOn_ask (c : Call) (d : Depot β) : (ask c).runOn d = d.perform c := by
  rw [ask, runOn]
  rcases d.perform c with ⟨_ | _, _⟩ <;> rfl

@[simp] theorem runOn_count (counter : Counter) (d : Depot β) :
    (count counter).runOn d = (.ok (), { d with stock := d.stock.step counter }) :=
  runOn_ask _ _

@[simp] theorem runOn_report (event : Event) (d : Depot β) :
    (report event).runOn d = (.ok (), d) := rfl

theorem runOn_ensure_true (fault : Fault) (d : Depot β) :
    (ensure true fault).runOn d = (.ok (), d) := rfl

theorem runOn_pull {d : Depot β} {queue : Queue} (access : Ring.Access) {items rest : List Handle}
    (hitems : d.stock.items queue = .ok (items ++ rest)) (ha : queue.forbids access = false) :
    (pull queue access items.length).runOn d =
      (.ok (some items), { d with stock := d.stock.setItems rest queue }) := by
  rw [pull, runOn_ask, Depot.perform, Depot.onItems, hitems]
  simp [ha]

theorem runOn_pull_none {d : Depot β} {queue : Queue} {access : Ring.Access} {items : List Handle}
    {count : Nat} (hitems : d.stock.items queue = .ok items) (ha : queue.forbids access = false)
    (hcount : items.length < count) : (pull queue access count).runOn d = (.ok none, d) := by
  rw [pull, runOn_ask, Depot.perform, Depot.onItems, hitems]
  simp [ha, Nat.not_le_of_lt hcount]

theorem runOn_push {d : Depot β} {queue : Queue} (access : Ring.Access) {items : List Handle}
    (more : List Handle) (hitems : d.stock.items queue = .ok items)
    (ha : queue.forbids access = false)
    (hfit : items.length + more.length < d.stock.size queue) :
    (push queue access more).runOn d =
      (.ok true, { d with stock := d.stock.setItems (items ++ more) queue }) := by
  rw [push, runOn_ask, Depot.perform, Depot.onItems, hitems]
  simp [ha, hfit]

theorem runOn_push_false {d : Depot β} {queue : Queue} (access : Ring.Access) {items : List Handle}
    (more : List Handle) (hitems : d.stock.items queue = .ok items)
    (ha : queue.forbids access = false)
    (hfull : d.stock.size queue ≤ items.length + more.length) :
    (push queue access more).runOn d = (.ok false, d) := by
  rw [push, runOn_ask, Depot.perform, Depot.onItems, hitems]
  simp [ha, Nat.not_lt_of_le hfull]

section Shared

variable {d : Depot β}

theorem runOn_pull_shared {items rest : List Handle} (hshared : d.stock.shared = items ++ rest) :
    (pull .shared .multi items.length).runOn d =
      (.ok (some items), { d with stock := { d.stock with shared := rest } }) :=
  runOn_pull .multi (congrArg Except.ok hshared) rfl

theorem runOn_pull_shared_none {count : Nat} (hshort : d.stock.shared.length < count) :
    (pull .shared .multi count).runOn d = (.ok none, d) :=
  runOn_pull_none rfl rfl hshort

theorem runOn_push_shared (more : List Handle)
    (hfit : d.stock.shared.length + more.length < d.stock.sharedSize) :
    (push .shared .multi more).runOn d =
      (.ok true, { d with stock := { d.stock with shared := d.stock.shared ++ more } }) :=
  runOn_push .multi more rfl rfl hfit

theorem runOn_push_shared_false (more : List Handle)
    (hfull : d.stock.sharedSize ≤ d.stock.shared.length + more.length) :
    (push .shared .multi more).runOn d = (.ok false, d) :=
  runOn_push_false .multi more rfl rfl hfull

end Shared

section Local

variable {d : Depot β} {cpu : Nat} {shelf : Shelf}

theorem runOn_pull_cache (hshelf : d.stock.shelves[cpu]? = some shelf) {items rest : List Handle}
    (hitems : shelf.items = items ++ rest) :
    (pull (.cache cpu) .single items.length).runOn d =
      (.ok (some items),
        { d with stock := d.stock.onShelf cpu fun shelf => { shelf with items := rest } }) :=
  runOn_pull .single (hitems ▸ Stock.items_cache hshelf) rfl

theorem runOn_pull_cache_none (hshelf : d.stock.shelves[cpu]? = some shelf) {count : Nat}
    (hshort : shelf.items.length < count) :
    (pull (.cache cpu) .single count).runOn d = (.ok none, d) :=
  runOn_pull_none (Stock.items_cache hshelf) rfl hshort

theorem runOn_push_cache (hshelf : d.stock.shelves[cpu]? = some shelf) (more : List Handle)
    (hfit : shelf.items.length + more.length < d.stock.localSize) :
    (push (.cache cpu) .single more).runOn d =
      (.ok true, { d with
        stock := d.stock.onShelf cpu fun s => { s with items := shelf.items ++ more } }) :=
  runOn_push .single more (Stock.items_cache hshelf) rfl hfit

theorem runOn_push_cache_false (hshelf : d.stock.shelves[cpu]? = some shelf) (more : List Handle)
    (hfull : d.stock.localSize ≤ shelf.items.length + more.length) :
    (push (.cache cpu) .single more).runOn d = (.ok false, d) :=
  runOn_push_false .single more (Stock.items_cache hshelf) rfl hfull

end Local

theorem runOn_length {d : Depot β} {queue : Queue} {items : List Handle}
    (hitems : d.stock.items queue = .ok items) :
    (length queue).runOn d = (.ok items.length, d) := by
  rw [length, runOn_ask, Depot.perform, Depot.onItems, hitems]

/-- Giving elements back is reclaiming them, each of them counted. -/
theorem runOn_giveBackAll {items : List Handle} {d : Depot β} {b : β}
    (h : Backing.reclaim items d.backing = (.ok (), b)) :
    (giveBackAll items).runOn d = (.ok (), ⟨d.stock.countFrees items.length, b⟩) := by
  induction items generalizing d with
  | nil =>
    cases h
    rfl
  | cons handle items ih =>
    rw [Backing.reclaim] at h
    rw [giveBackAll, runOn_bind, giveBack, runOn_ask, Depot.perform]
    rcases hf : Backing.free handle d.backing with ⟨fault | _, b'⟩ <;> rw [hf] at h
    · cases h
    · simp only
      rw [ih (d := ⟨d.stock.countFrees 1, b'⟩) h, Stock.countFrees_countFrees, List.length_cons,
        Nat.add_comm 1]

end Routine

/-! ## The invariant of a stock -/

/-- The sizes let every transfer between the tiers through, and no queue is beyond its size. -/
structure Stock.Sound (s : Stock) : Prop where
  localSize_ge : batch ≤ s.localSize
  sharedSize_ge : batch * (refillBatches + 2) ≤ s.sharedSize
  shared_lt : s.shared.length < s.sharedSize
  items_lt : ∀ shelf ∈ s.shelves, shelf.items.length < s.localSize

theorem Stock.Sound.items_lt_of_getElem? {s : Stock} (h : s.Sound) {cpu : Nat} {shelf : Shelf}
    (hshelf : s.shelves[cpu]? = some shelf) : shelf.items.length < s.localSize :=
  h.items_lt shelf (List.mem_of_getElem? hshelf)

theorem Stock.Sound.setShared {s : Stock} (h : s.Sound) {items : List Handle}
    (hitems : items.length < s.sharedSize) : Stock.Sound { s with shared := items } :=
  ⟨h.localSize_ge, h.sharedSize_ge, hitems, h.items_lt⟩

theorem Stock.mem_shelves_onShelf {s : Stock} {cpu : Nat} {f : Shelf → Shelf} {shelf : Shelf}
    (h : shelf ∈ (s.onShelf cpu f).shelves) :
    (∃ old, s.shelves[cpu]? = some old ∧ shelf = f old) ∨ shelf ∈ s.shelves := by
  obtain ⟨i, hi⟩ := List.mem_iff_getElem?.1 h
  rw [Stock.onShelf, List.getElem?_modify] at hi
  rcases hold : s.shelves[i]? with _ | old <;> rw [hold] at hi
  · cases hi
  · obtain rfl := Option.some.inj hi
    dsimp only
    split
    · next hcpu =>
      subst hcpu
      exact .inl ⟨old, hold, rfl⟩
    · exact .inr (List.mem_of_getElem? hold)

theorem Stock.Sound.onShelf {s : Stock} (h : s.Sound) {cpu : Nat} {f : Shelf → Shelf}
    (hf : ∀ shelf, s.shelves[cpu]? = some shelf → (f shelf).items.length < s.localSize) :
    (s.onShelf cpu f).Sound := by
  refine ⟨h.localSize_ge, h.sharedSize_ge, h.shared_lt, fun shelf hmem => ?_⟩
  rcases Stock.mem_shelves_onShelf hmem with ⟨old, hold, rfl⟩ | hmem
  · exact hf old hold
  · exact h.items_lt shelf hmem

/-! ## Allocating -/

section Allocating

variable {β : Type} [Backing β]

/-- The outcomes of an allocation on a CPU: the element, if there is one, and the depot after it. -/
inductive Allocation (cpu : Nat) (flags : AllocFlags) (d : Depot β) :
    Option Handle → Depot β → Prop
  /-- The local queue has an element. -/
  | cached {shelf : Shelf} {x : Handle} {rest : List Handle}
      (hshelf : d.stock.shelves[cpu]? = some shelf) (hitems : shelf.items = x :: rest) :
      Allocation cpu flags d (some x)
        { d with stock := d.stock.onShelf cpu fun s => { s with items := rest } }
  /-- The local queue is empty and the shared one has a batch. -/
  | shared {shelf : Shelf} {x : Handle} {xs rest : List Handle}
      (hshelf : d.stock.shelves[cpu]? = some shelf) (hempty : shelf.items = [])
      (hshared : d.stock.shared = x :: (xs ++ rest)) (hlen : xs.length = batch - 1) :
      Allocation cpu flags d (some x)
        { d with
          stock := { d.stock with shared := rest }.onShelf cpu fun s =>
            { s with items := xs, refills := s.refills + 1 } }
  /-- The shared queue is short of a batch, and the backing gives one element and refills it. -/
  | supplied {shelf : Shelf} {x : Handle} {xs : List Handle} {backing : β}
      (hshelf : d.stock.shelves[cpu]? = some shelf) (hempty : shelf.items = [])
      (hshort : d.stock.shared.length < batch)
      (hsupply : Backing.supply flags (1 + batch * refillBatches) d.backing = (x :: xs, backing)) :
      Allocation cpu flags d (some x)
        { stock :=
            { d.stock with
              shared := d.stock.shared ++ xs
              traffic :=
                { d.stock.traffic with
                  allocs := d.stock.traffic.allocs + (1 + xs.length)
                  refills := d.stock.traffic.refills + 1 } }
          backing }
  /-- The shared queue is short of a batch, and the backing refuses. -/
  | refused {shelf : Shelf} {backing : β}
      (hshelf : d.stock.shelves[cpu]? = some shelf) (hempty : shelf.items = [])
      (hshort : d.stock.shared.length < batch)
      (halloc : Backing.alloc flags d.backing = (none, backing)) :
      Allocation cpu flags d none { d with backing }

namespace Pool.Lease

theorem runOn_gather (flags : AllocFlags) (obtained : List Handle) (count : Nat) (d : Depot β) :
    (gather flags obtained count).runOn d =
      (.ok (obtained.reverse ++ (Backing.supply flags count d.backing).1),
        ⟨d.stock.countAllocs (Backing.supply flags count d.backing).1.length,
          (Backing.supply flags count d.backing).2⟩) := by
  induction count generalizing obtained d with
  | zero => simp [gather, Backing.supply, Stock.countAllocs]
  | succ count ih =>
    rw [gather, Routine.runOn_bind, Routine.request, Routine.runOn_ask, Depot.perform,
      Backing.supply]
    rcases Backing.alloc flags d.backing with ⟨_ | handle, backing⟩
    · simp [Stock.countAllocs]
    · simp only [ih, List.reverse_cons, List.append_assoc, List.singleton_append,
        Stock.countAllocs_countAllocs, List.length_cons, Nat.add_comm 1]

theorem runOn_gather_nil (flags : AllocFlags) (count : Nat) (d : Depot β) :
    (gather flags [] count).runOn d =
      (.ok (Backing.supply flags count d.backing).1,
        ⟨d.stock.countAllocs (Backing.supply flags count d.backing).1.length,
          (Backing.supply flags count d.backing).2⟩) := by
  rw [runOn_gather, List.reverse_nil, List.nil_append]

/-- Refilling the shared queue puts all that the backing gives at its end. -/
theorem runOn_refillShared (l : Lease) (flags : AllocFlags) (batches : Nat) {d : Depot β}
    (hroom : d.stock.shared.length + batch * batches < d.stock.sharedSize) :
    (l.refillShared flags batches).runOn d =
      (.ok (),
        { stock :=
            { d.stock.countAllocs (Backing.supply flags (batch * batches) d.backing).1.length with
              shared :=
                d.stock.shared ++ (Backing.supply flags (batch * batches) d.backing).1 }
          backing := (Backing.supply flags (batch * batches) d.backing).2 }) := by
  induction batches generalizing d with
  | zero =>
    rw [Nat.mul_zero]
    simp [refillShared, Backing.supply, Stock.countAllocs]
  | succ batches ih =>
    rw [Nat.mul_succ] at hroom
    have hle := Backing.length_supply_le flags batch d.backing
    rw [refillShared, Routine.runOn_bind_ok (runOn_gather_nil flags batch d),
      Nat.mul_succ, Nat.add_comm (batch * batches), Backing.supply_add]
    generalize Backing.supply flags batch d.backing = given at hle ⊢
    obtain ⟨items, backing⟩ := given
    dsimp only at hle ⊢
    rw [Routine.runOn_bind_ok (Routine.runOn_push_shared items
        (by simp only [Stock.countAllocs]; omega)),
      Routine.runOn_bind_ok (Routine.runOn_ensure_true _ _)]
    by_cases hshort : items.length < batch
    · -- the batch was cut short, so it is the last
      rw [if_pos hshort, if_pos hshort]
      split <;> rfl
    · rw [if_neg hshort, if_neg hshort, ih]
      · simp only [Stock.countAllocs, List.append_assoc, List.length_append, Nat.add_assoc]
      · simp only [Stock.countAllocs, List.length_append]
        omega

/-- Moving a batch of the shared queue to the empty local one. -/
theorem runOn_refillLocal (l : Lease) {d : Depot β} (hs : d.stock.Sound) {shelf : Shelf}
    (hshelf : d.stock.shelves[l.cpu]? = some shelf) (hempty : shelf.items = [])
    {x : Handle} {xs rest : List Handle} (hshared : d.stock.shared = x :: (xs ++ rest))
    (hlen : xs.length = batch - 1) :
    l.refillLocal.runOn d =
      (.ok (some x),
        { d with
          stock := { d.stock with shared := rest }.onShelf l.cpu fun s =>
            { s with items := xs, refills := s.refills + 1 } }) := by
  have hbatch : (x :: xs).length = batch := by simp [hlen, batch]
  have hpull := Routine.runOn_pull_shared (show d.stock.shared = (x :: xs) ++ rest from hshared)
  rw [hbatch] at hpull
  have hfit : shelf.items.length + xs.length < d.stock.localSize := by
    have := hs.localSize_ge
    simp only [batch] at this hlen
    rw [hempty, List.length_nil]
    omega
  have hpush := Routine.runOn_push_cache (d := ⟨{ d.stock with shared := rest }, d.backing⟩) hshelf
    xs hfit
  rw [refillLocal, Routine.runOn_bind_ok hpull]
  dsimp only
  rw [Routine.runOn_bind_ok hpush, Routine.runOn_bind_ok (Routine.runOn_ensure_true _ _),
    Routine.runOn_bind_ok (Routine.runOn_count _ _), Routine.runOn_pure, hempty]
  simp only [Stock.step, Stock.onShelf, List.modify_modify_eq, List.nil_append]
  rfl

theorem runOn_allocateFromBacking (l : Lease) (flags : AllocFlags) {d : Depot β}
    (hs : d.stock.Sound)
    {shelf : Shelf} (hshelf : d.stock.shelves[l.cpu]? = some shelf) (hempty : shelf.items = [])
    (hshort : d.stock.shared.length < batch) :
    ∃ answer d', (l.allocateFromBacking flags).runOn d = (.ok answer, d') ∧
      Allocation l.cpu flags d answer d' := by
  rw [allocateFromBacking, Routine.runOn_bind, Routine.request, Routine.runOn_ask, Depot.perform]
  rcases halloc : Backing.alloc flags d.backing with ⟨_ | x, backing⟩
  · refine ⟨none, { d with backing }, ?_, .refused hshelf hempty hshort halloc⟩
    dsimp only
    split <;> rfl
  · have hroom : d.stock.shared.length + batch * refillBatches < d.stock.sharedSize := by
      have := hs.sharedSize_ge
      simp only [batch, refillBatches] at this hshort ⊢
      omega
    have hsupply : Backing.supply flags (1 + batch * refillBatches) d.backing =
        (x :: (Backing.supply flags (batch * refillBatches) backing).1,
          (Backing.supply flags (batch * refillBatches) backing).2) := by
      rw [Nat.add_comm, Backing.supply, halloc]
    have hrefill := runOn_refillShared l flags refillBatches
      (d := ⟨(d.stock.countAllocs 1).step .sharedRefills, backing⟩) hroom
    refine ⟨some x, _, ?_, .supplied hshelf hempty hshort hsupply⟩
    dsimp only
    rw [Routine.runOn_bind_ok (Routine.runOn_count _ _), Routine.runOn_bind_ok hrefill,
      Routine.runOn_pure]
    simp only [Stock.step, Stock.countAllocs, Nat.add_assoc]

/-- **Allocating**: on a leased CPU an allocation never faults, and ends in one of its outcomes. -/
theorem runOn_allocate (l : Lease) (flags : AllocFlags) {d : Depot β} (hs : d.stock.Sound)
    {shelf : Shelf} (hshelf : d.stock.shelves[l.cpu]? = some shelf) :
    ∃ answer d', (l.allocate flags).runOn d = (.ok (answer.map fun x => ⟨x, l.pool⟩), d') ∧
      Allocation l.cpu flags d answer d' := by
  rw [allocate]
  rcases hitems : shelf.items with _ | ⟨x, rest⟩
  · rw [Routine.runOn_bind_ok (Routine.runOn_pull_cache_none hshelf (by rw [hitems]; decide))]
    dsimp only
    by_cases hshort : d.stock.shared.length < batch
    · have hlocal : l.refillLocal.runOn d = (.ok none, d) := by
        rw [refillLocal, Routine.runOn_bind_ok (Routine.runOn_pull_shared_none hshort)]
        rfl
      obtain ⟨answer, d', hrun, hout⟩ :=
        runOn_allocateFromBacking l flags hs hshelf hitems hshort
      refine ⟨answer, d', ?_, hout⟩
      rw [Routine.runOn_bind_ok hlocal]
      dsimp only
      rw [Routine.runOn_bind_ok (Routine.runOn_report _ _), Routine.runOn_bind_ok hrun,
        Routine.runOn_pure]
    · -- the shared queue is a batch and a rest
      obtain ⟨x, xs, rest, hshared, hlen⟩ : ∃ x xs rest,
          d.stock.shared = x :: (xs ++ rest) ∧ xs.length = batch - 1 := by
        rcases hlist : d.stock.shared with _ | ⟨x, tail⟩
        · exact absurd (by simp [hlist, batch]) hshort
        · rw [hlist, List.length_cons] at hshort
          have hle : batch - 1 ≤ tail.length := by omega
          obtain ⟨xs, rest, rfl, hlen⟩ := exists_front hle
          exact ⟨x, xs, rest, rfl, hlen⟩
      refine ⟨some x, _, ?_, .shared hshelf hitems hshared hlen⟩
      rw [Routine.runOn_bind_ok (runOn_refillLocal l hs hshelf hitems hshared hlen)]
      rfl
  · have hpull := Routine.runOn_pull_cache hshelf (show shelf.items = [x] ++ rest from hitems)
    refine ⟨some x, _, ?_, .cached hshelf hitems⟩
    exact Routine.runOn_bind_ok hpull

end Pool.Lease

theorem Allocation.sound {cpu : Nat} {flags : AllocFlags} {d d' : Depot β} {answer : Option Handle}
    (h : Allocation cpu flags d answer d') (hs : d.stock.Sound) : d'.stock.Sound := by
  have hlocal := hs.localSize_ge
  have hshared := hs.sharedSize_ge
  have hlt := hs.shared_lt
  simp only [batch, refillBatches] at hlocal hshared
  cases h with
  | cached hshelf hitems =>
    have := hs.items_lt_of_getElem? hshelf
    rw [hitems, List.length_cons] at this
    exact hs.onShelf fun _ _ => Nat.lt_of_succ_lt this
  | @shared shelf x xs rest hshelf hempty hlist hlen =>
    rw [hlist, List.length_cons, List.length_append] at hlt
    have hrest : rest.length < d.stock.sharedSize := by omega
    refine (hs.setShared hrest).onShelf fun _ _ => ?_
    simp only [batch] at hlen
    dsimp only
    omega
  | @supplied shelf x xs backing hshelf hempty hshort hsupply =>
    have hle := Backing.length_supply_le flags (1 + batch * refillBatches) d.backing
    rw [hsupply, List.length_cons] at hle
    refine ⟨hs.localSize_ge, hs.sharedSize_ge, ?_, hs.items_lt⟩
    simp only [batch, refillBatches] at hshort hle
    rw [List.length_append]
    dsimp only
    omega
  | refused => exact hs

end Allocating

/-! ## Freeing -/

section Freeing

variable {β : Type} [Backing β]

/-- The outcomes of a free of an element of the pool on a CPU. -/
inductive Release (cpu : Nat) (handle : Handle) (d : Depot β) : Depot β → Prop
  /-- The local queue has room. -/
  | cached {shelf : Shelf} (hshelf : d.stock.shelves[cpu]? = some shelf)
      (hroom : shelf.items.length + 1 < d.stock.localSize) :
      Release cpu handle d
        { d with
          stock := d.stock.onShelf cpu fun s => { s with items := shelf.items ++ [handle] } }
  /-- The local queue is full, and the shared one has room for a batch. -/
  | overflowed {shelf : Shelf} {xs rest : List Handle}
      (hshelf : d.stock.shelves[cpu]? = some shelf)
      (hfull : shelf.items.length + 1 = d.stock.localSize) (hitems : shelf.items = xs ++ rest)
      (hlen : xs.length = batch - 1)
      (hroom : d.stock.shared.length + batch < d.stock.sharedSize) :
      Release cpu handle d
        { d with
          stock := { d.stock with shared := d.stock.shared ++ handle :: xs }.onShelf cpu fun s =>
            { s with items := rest, overflows := s.overflows + 1 } }
  /-- Both queues are full, and the batch goes to the backing with others of the shared queue. -/
  | drained {shelf : Shelf} {xs rest ys kept : List Handle} {backing : β}
      (hshelf : d.stock.shelves[cpu]? = some shelf)
      (hfull : shelf.items.length + 1 = d.stock.localSize) (hitems : shelf.items = xs ++ rest)
      (hlen : xs.length = batch - 1)
      (hnoroom : d.stock.sharedSize ≤ d.stock.shared.length + batch)
      (hshared : d.stock.shared = ys ++ kept) (hys : ys.length = batch * refillBatches)
      (hreclaim : Backing.reclaim (handle :: xs ++ ys) d.backing = (.ok (), backing)) :
      Release cpu handle d
        { stock :=
            { d.stock with
              shared := kept
              traffic :=
                { d.stock.traffic with
                  frees := d.stock.traffic.frees + batch * (1 + refillBatches)
                  drains := d.stock.traffic.drains + 1 } }.onShelf cpu fun s =>
              { s with items := rest, overflows := s.overflows + 1, drains := s.drains + 1 }
          backing }

namespace Pool.Lease

/-- Shrinking the shared queue gives its oldest batches back. -/
theorem runOn_shrinkShared (l : Lease) (round batches : Nat) {d : Depot β} {b : β}
    {ys kept : List Handle} (hshared : d.stock.shared = ys ++ kept)
    (hys : ys.length = batch * batches)
    (hreclaim : Backing.reclaim ys d.backing = (.ok (), b)) :
    (l.shrinkShared round batches).runOn d =
      (.ok (), ⟨{ d.stock.countFrees ys.length with shared := kept }, b⟩) := by
  induction batches generalizing round d ys with
  | zero =>
    obtain rfl := List.eq_nil_of_length_eq_zero (hys.trans (Nat.mul_zero _))
    cases hreclaim
    rw [List.nil_append] at hshared
    simp [shrinkShared, Stock.countFrees, ← hshared]
  | succ batches ih =>
    -- the first batch, and those of the later rounds
    rw [Nat.mul_succ] at hys
    have hle : batch ≤ ys.length := by omega
    obtain ⟨first, later, rfl, hfirst⟩ := exists_front hle
    have hlater : later.length = batch * batches := by
      rw [List.length_append] at hys
      omega
    obtain ⟨middle, hfirstBack, hlaterBack⟩ := Backing.exists_of_reclaim_append hreclaim
    rw [List.append_assoc] at hshared
    have hpull := Routine.runOn_pull_shared hshared
    rw [hfirst] at hpull
    have hback := Routine.runOn_giveBackAll
      (d := ⟨{ d.stock with shared := later ++ kept }, d.backing⟩) hfirstBack
    have hrest := ih (round + 1) rfl hlater hlaterBack
      (d := ⟨Stock.countFrees { d.stock with shared := later ++ kept } first.length, middle⟩)
    rw [shrinkShared, Routine.runOn_bind_ok hpull]
    dsimp only
    rw [Routine.runOn_bind_ok hback, hrest]
    simp only [Stock.countFrees, List.length_append, Nat.add_assoc]

/-- Draining gives a batch back and shrinks the shared queue. -/
theorem runOn_drain (l : Lease) {d : Depot β} {b : β} {items ys kept : List Handle}
    (hshared : d.stock.shared = ys ++ kept) (hys : ys.length = batch * refillBatches)
    (hreclaim : Backing.reclaim (items ++ ys) d.backing = (.ok (), b)) :
    (l.drain items).runOn d =
      (.ok (), ⟨({ d.stock.countFrees (items.length + ys.length) with
        shared := kept } : Stock).step .backingDrains, b⟩) := by
  obtain ⟨middle, hfirst, hlater⟩ := Backing.exists_of_reclaim_append hreclaim
  have hshrink := runOn_shrinkShared l 0 refillBatches
    (d := ⟨d.stock.countFrees items.length, middle⟩) hshared hys hlater
  rw [drain, Routine.runOn_bind_ok (Routine.runOn_giveBackAll hfirst),
    Routine.runOn_bind_ok hshrink, Routine.runOn_count]
  simp only [Stock.countFrees, Nat.add_assoc]

/-- The local queue gives up the rest of a batch, which is then offered to the shared one. -/
theorem runOn_overflow_eq (l : Lease) {d : Depot β} {shelf : Shelf} {xs rest : List Handle}
    (hshelf : d.stock.shelves[l.cpu]? = some shelf) (hitems : shelf.items = xs ++ rest)
    (hlen : xs.length = batch - 1) (handle : Handle) :
    (l.overflow handle).runOn d =
      (do
        if ← Routine.push .shared .multi (handle :: xs) then pure ()
        else
          Routine.report (.sharedFull l.cpu)
          l.drain (handle :: xs)
          Routine.count (.drains l.cpu) : Routine Unit).runOn
        ⟨d.stock.onShelf l.cpu fun s => { s with items := rest, overflows := s.overflows + 1 },
          d.backing⟩ := by
  have hcounted : (d.stock.step (.overflows l.cpu)).shelves[l.cpu]? =
      some { shelf with overflows := shelf.overflows + 1 } := by
    simp [Stock.step, Stock.onShelf, hshelf]
  have hpull := Routine.runOn_pull_cache (d := ⟨d.stock.step (.overflows l.cpu), d.backing⟩)
    hcounted hitems
  rw [hlen] at hpull
  rw [overflow, Routine.runOn_bind_ok (Routine.runOn_count _ _), Routine.runOn_bind_ok hpull]
  simp only [Stock.step, Stock.onShelf, List.modify_modify_eq]
  rfl

theorem runOn_overflow (l : Lease) {d : Depot β} (hs : d.stock.Sound) {shelf : Shelf}
    (hshelf : d.stock.shelves[l.cpu]? = some shelf)
    (hfull : shelf.items.length + 1 = d.stock.localSize) {handle : Handle}
    (hback : ∀ xs rest ys kept, shelf.items = xs ++ rest → d.stock.shared = ys ++ kept →
      ∃ b, Backing.reclaim (handle :: xs ++ ys) d.backing = (.ok (), b)) :
    ∃ d', (l.overflow handle).runOn d = (.ok (), d') ∧ Release l.cpu handle d d' := by
  have hlocal := hs.localSize_ge
  have hbatches := hs.sharedSize_ge
  have hle : batch - 1 ≤ shelf.items.length := by omega
  obtain ⟨xs, rest, hitems, hlen⟩ := exists_front hle
  have hbatch : (handle :: xs).length = batch := by simp [hlen, batch]
  let pulled : Stock := d.stock.onShelf l.cpu fun s =>
    { s with items := rest, overflows := s.overflows + 1 }
  rw [runOn_overflow_eq l hshelf hitems hlen]
  by_cases hroom : d.stock.shared.length + batch < d.stock.sharedSize
  · have hpush := Routine.runOn_push_shared (d := ⟨pulled, d.backing⟩) (handle :: xs)
      (by rw [hbatch]; exact hroom)
    exact ⟨_, Routine.runOn_bind_ok hpush, .overflowed hshelf hfull hitems hlen hroom⟩
  · have hnoroom : d.stock.sharedSize ≤ d.stock.shared.length + batch := Nat.le_of_not_lt hroom
    have hpush := Routine.runOn_push_shared_false (d := ⟨pulled, d.backing⟩) (handle :: xs)
      (by rw [hbatch]; exact hnoroom)
    -- the shared queue, being full, has the batches that a drain takes
    have hdrained : batch * refillBatches ≤ d.stock.shared.length := by
      simp only [batch, refillBatches] at hbatches hnoroom ⊢
      omega
    obtain ⟨ys, kept, hshared, hys⟩ := exists_front hdrained
    obtain ⟨b, hreclaim⟩ := hback xs rest ys kept hitems hshared
    have hdrain := runOn_drain l (d := ⟨pulled, d.backing⟩) hshared hys hreclaim
    refine ⟨_, ?_, .drained hshelf hfull hitems hlen hnoroom hshared hys hreclaim⟩
    rw [Routine.runOn_bind_ok hpush, if_neg (by decide),
      Routine.runOn_bind_ok (Routine.runOn_report _ _), Routine.runOn_bind_ok hdrain,
      Routine.runOn_count]
    have hcount : (handle :: xs).length + ys.length = batch * (1 + refillBatches) := by
      rw [hbatch, hys]
      rfl
    rw [hcount]
    simp only [pulled, Stock.step, Stock.onShelf, Stock.countFrees, List.modify_modify_eq]
    rfl

/-- **Freeing**: on a leased CPU a free of an element of the pool never faults and ends in one of
its outcomes, provided that the backing takes back what a drain gives it. -/
theorem runOn_free (l : Lease) {d : Depot β} (hs : d.stock.Sound) {shelf : Shelf}
    (hshelf : d.stock.shelves[l.cpu]? = some shelf) {e : Element} (howner : e.pool = l.pool)
    (hback : ∀ xs rest ys kept, shelf.items = xs ++ rest → d.stock.shared = ys ++ kept →
      ∃ b, Backing.reclaim (e.handle :: xs ++ ys) d.backing = (.ok (), b)) :
    ∃ d', (l.free e).runOn d = (.ok (), d') ∧ Release l.cpu e.handle d d' := by
  have hlt := hs.items_lt_of_getElem? hshelf
  rw [free, howner, beq_self_eq_true, Routine.runOn_bind_ok (Routine.runOn_ensure_true _ _)]
  by_cases hroom : shelf.items.length + 1 < d.stock.localSize
  · have hpush := Routine.runOn_push_cache hshelf [e.handle] hroom
    exact ⟨_, Routine.runOn_bind_ok hpush, .cached hshelf hroom⟩
  · have hfull : shelf.items.length + 1 = d.stock.localSize := by omega
    have hpush := Routine.runOn_push_cache_false hshelf [e.handle] (Nat.le_of_not_lt hroom)
    rw [Routine.runOn_bind_ok hpush, if_neg (by decide)]
    exact runOn_overflow l hs hshelf hfull hback

/-- A free of an element of another pool is a fault, before anything is done. -/
theorem run_free_foreign (l : Lease) (w : World β) {e : Element} (howner : e.pool ≠ l.pool) :
    (l.free e).run w = (.error (.foreignElement e.pool l.pool), w) := by
  rw [free, Routine.ensure, if_neg (by simpa using howner)]
  rfl

end Pool.Lease

theorem Release.sound {cpu : Nat} {x : Handle} {d d' : Depot β} (h : Release cpu x d d')
    (hs : d.stock.Sound) : d'.stock.Sound := by
  have hlt := hs.shared_lt
  cases h with
  | cached hshelf hroom =>
    refine hs.onShelf fun _ _ => ?_
    rwa [List.length_append]
  | @overflowed shelf xs rest hshelf hfull hitems hlen hroom =>
    rw [hitems, List.length_append] at hfull
    have hshared : (d.stock.shared ++ x :: xs).length < d.stock.sharedSize := by
      rw [List.length_append, List.length_cons]
      simp only [batch] at hlen hroom
      omega
    refine (hs.setShared hshared).onShelf fun _ _ => ?_
    dsimp only
    omega
  | @drained shelf xs rest ys kept backing hshelf hfull hitems hlen hnoroom hlist =>
    rw [hitems, List.length_append] at hfull
    rw [hlist, List.length_append] at hlt
    have hkept : kept.length < d.stock.sharedSize := by omega
    refine Stock.Sound.onShelf (s := { d.stock with shared := kept, traffic := _ })
      ⟨hs.localSize_ge, hs.sharedSize_ge, hkept, hs.items_lt⟩ fun _ _ => ?_
    dsimp only
    omega

end Freeing

end TieredPool
