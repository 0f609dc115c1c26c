import TieredPool.Proofs.Pool.Conservation

/-!
# Leasing and retiring

Leases change who may use a queue and nothing that is in one. Retiring a pool gives all its
contents back to the backing, in order, and faults only if the backing does.
-/

namespace TieredPool

namespace Pool

/-! ## Leases -/

theorem modify_eq_set {α : Type} (xs : Array α) {i : Nat} (h : i < xs.size) (f : α → α) :
    xs.modify i f = xs.set i (f xs[i]) h := by
  apply Array.ext_getElem?
  intro j
  rw [Array.getElem?_modify, Array.getElem?_set]
  by_cases hj : i = j
  · subst hj
    simp [h]
  · simp [hj]

/-- Ending a lease marks the shelf as free. -/
theorem WF.unlease {p : Pool} (h : p.WF) (cpu : Nat) :
    (p.unlease cpu).WF ∧
      (p.unlease cpu).stock = p.stock.onShelf cpu fun shelf => { shelf with leased := false } := by
  by_cases hcpu : cpu < p.caches.size
  · rw [Pool.unlease, modify_eq_set _ hcpu]
    have hcache := h.cache hcpu
    exact ⟨h.set hcpu ⟨hcache.queue, hcache.flags_eq, hcache.size_eq⟩, p.stock_set hcpu _ rfl⟩
  · have hsame : p.unlease cpu = p := by
      have hmodify : (p.caches.modify cpu fun c => { c with leased := false }) = p.caches := by
        apply Array.ext_getElem?
        intro i
        rw [Array.getElem?_modify]
        by_cases hi : cpu = i
        · subst hi
          simp [hcpu]
        · simp [hi]
      rw [Pool.unlease, hmodify]
    rw [hsame, Stock.onShelf, List.modify_eq_self (by simpa [stock] using hcpu)]
    exact ⟨h, rfl⟩

/-- Ending leases keeps a pool in use and sound, all that is in it, and its counts. -/
theorem WF.unleaseAll {p : Pool} (h : p.WF) (hs : p.stock.Sound) (cpus : List Nat) :
    (cpus.foldl (fun p cpu => p.unlease cpu) p).WF ∧
      (cpus.foldl (fun p cpu => p.unlease cpu) p).stock.Sound ∧
      (cpus.foldl (fun p cpu => p.unlease cpu) p).stock.contents = p.stock.contents ∧
      (cpus.foldl (fun p cpu => p.unlease cpu) p).id = p.id ∧
      (cpus.foldl (fun p cpu => p.unlease cpu) p).traffic = p.traffic := by
  induction cpus generalizing p with
  | nil => exact ⟨h, hs, rfl, rfl, rfl⟩
  | cons cpu cpus ih =>
    obtain ⟨hwf, hstock⟩ := h.unlease cpu
    have hsound : (p.unlease cpu).stock.Sound := by
      rw [hstock]
      exact hs.onShelf fun shelf hshelf => hs.items_lt shelf (List.mem_of_getElem? hshelf)
    have hcontents : (p.unlease cpu).stock.contents = p.stock.contents := by
      rw [hstock]
      exact Stock.contents_onShelf _ _ fun _ => rfl
    obtain ⟨hwf', hsound', hrest, hid, htraffic⟩ := ih hwf hsound
    exact ⟨hwf', hsound', hrest.trans hcontents, hid, htraffic⟩

/-- Taking a lease marks the shelf of a CPU that the pool has. -/
theorem WF.lease {p : Pool} (h : p.WF) {cpu : Nat} {lease : Lease} {p' : Pool}
    (hlease : p.lease cpu = (.ok lease, p')) :
    p'.WF ∧ ∃ shelf, p.stock.shelves[cpu]? = some shelf ∧
      p'.stock = p.stock.onShelf cpu fun shelf =>
        { shelf with leased := true, owner := some cpu } := by
  rw [Pool.lease] at hlease
  split at hlease
  · cases hlease
  · next cache hcache =>
    split at hlease
    · cases hlease
    · obtain ⟨hcpu, rfl⟩ := Array.getElem?_eq_some_iff.1 hcache
      have hwf := h.cache hcpu
      simp only [Prod.mk.injEq, Array.setIfInBounds, hcpu, ↓reduceDIte] at hlease
      rw [← hlease.2]
      refine ⟨h.set hcpu ⟨hwf.queue, hwf.flags_eq, hwf.size_eq⟩, p.caches[cpu].shelf, ?_,
        p.stock_set hcpu _ rfl⟩
      rw [stock_shelves_getElem?, hcache, Option.map_some]

/-- A CPU that is not leased can be. -/
theorem exists_lease_eq {p : Pool} {cpu : Nat} {shelf : Shelf}
    (hshelf : p.stock.shelves[cpu]? = some shelf) (hleased : shelf.leased = false) :
    ∃ p', p.lease cpu = (.ok ⟨p.id, cpu⟩, p') := by
  rw [stock_shelves_getElem?, Option.map_eq_some_iff] at hshelf
  obtain ⟨cache, hcache, rfl⟩ := hshelf
  have hcacheLeased : cache.leased = false := hleased
  rw [Pool.lease, hcache]
  dsimp only
  rw [if_neg (by rw [hcacheLeased]; exact Bool.false_ne_true)]
  exact ⟨_, rfl⟩

theorem lease_error {p p' : Pool} {cpu : Nat} {error : LeaseError}
    (h : p.lease cpu = (.error error, p')) : p' = p := by
  rw [Pool.lease] at h
  split at h
  · exact (congrArg Prod.snd h).symm
  · split at h
    · exact (congrArg Prod.snd h).symm
    · cases h

/-- A lease is one of the pool, on a CPU that it has. -/
theorem leaseOf?_eq_some {p : Pool} {cpu : Nat} {lease : Lease}
    (h : p.leaseOf? cpu = some lease) :
    lease = ⟨p.id, cpu⟩ ∧ ∃ shelf, p.stock.shelves[cpu]? = some shelf := by
  rw [leaseOf?] at h
  split at h
  · cases h
  · next cache hcache =>
    split at h
    · cases h
      exact ⟨rfl, cache.shelf, by rw [stock_shelves_getElem?, hcache, Option.map_some]⟩
    · cases h

end Pool

/-! ## Emptying -/

namespace Stock

theorem items_setItems {s : Stock} {queue : Queue} {items : List Handle}
    (h : s.items queue = .ok items) (items' : List Handle) :
    (s.setItems items' queue).items queue = .ok items' := by
  cases queue with
  | shared => rfl
  | cache cpu =>
    simp only [Stock.items] at h
    rcases hshelf : s.shelves[cpu]? with _ | shelf <;> rw [hshelf] at h
    · cases h
    · simp [Stock.items, setItems, onShelf, hshelf]

theorem setItems_setItems (s : Stock) (queue : Queue) (items items' : List Handle) :
    (s.setItems items queue).setItems items' queue = s.setItems items' queue := by
  cases queue with
  | shared => rfl
  | cache cpu =>
    simp only [setItems, onShelf, List.modify_modify_eq]
    rfl

theorem countFrees_setItems (s : Stock) (queue : Queue) (items : List Handle) (n : Nat) :
    (s.countFrees n).setItems items queue = (s.setItems items queue).countFrees n := by
  cases queue <;> rfl

theorem items_countFrees (s : Stock) (queue : Queue) (n : Nat) :
    (s.countFrees n).items queue = s.items queue := by
  cases queue <;> rfl

theorem modify_append_cons {α : Type} (front : List α) (x : α) (back : List α) (f : α → α) :
    (front ++ x :: back).modify front.length f = front ++ f x :: back := by
  induction front with
  | nil => rfl
  | cons y front ih =>
    rw [List.cons_append, List.length_cons, List.modify_succ_cons, ih, List.cons_append]

theorem setItems_append {s : Stock} {front back : List Shelf} {shelf : Shelf} {cpu : Nat}
    (hshelves : s.shelves = front ++ shelf :: back) (hcpu : front.length = cpu)
    (items : List Handle) :
    s.setItems items (.cache cpu) =
      { s with shelves := front ++ { shelf with items } :: back } := by
  subst hcpu
  rw [setItems, onShelf, hshelves, modify_append_cons]

end Stock

section Retiring

variable {β : Type} [Backing β]

namespace Pool

theorem runOn_drainQueue {queue : Queue} {items : List Handle} {slots : Nat} {d : Depot β} {b : β}
    (hitems : d.stock.items queue = .ok items) (hslots : items.length ≤ slots)
    (hreclaim : Backing.reclaim items d.backing = (.ok (), b)) :
    (drainQueue queue slots).runOn d =
      (.ok (), ⟨(d.stock.setItems [] queue).countFrees items.length, b⟩) := by
  induction slots generalizing items d with
  | zero =>
    obtain rfl := List.eq_nil_of_length_eq_zero (Nat.le_zero.1 hslots)
    cases hreclaim
    rw [Stock.setItems_self hitems]
    rfl
  | succ slots ih =>
    rw [drainQueue]
    cases items with
    | nil =>
      cases hreclaim
      rw [Routine.runOn_bind_ok (Routine.runOn_pull_none hitems rfl (Nat.succ_pos 0)),
        Stock.setItems_self hitems]
      rfl
    | cons x items =>
      rw [← List.singleton_append] at hitems hreclaim
      obtain ⟨middle, hfirst, hrest⟩ := Backing.exists_of_reclaim_append hreclaim
      have hpull : (Routine.pull queue .multi 1).runOn d = _ := Routine.runOn_pull .multi hitems rfl
      have hback := Routine.runOn_giveBackAll (d := ⟨d.stock.setItems items queue, d.backing⟩)
        hfirst
      have hleft := Stock.items_setItems hitems items
      rw [← Stock.items_countFrees _ _ [x].length] at hleft
      rw [Routine.runOn_bind_ok hpull]
      dsimp only
      rw [Routine.runOn_bind_ok hback, ih hleft (Nat.le_of_succ_le_succ hslots) hrest]
      simp only [Stock.countFrees_setItems, Stock.setItems_setItems, Stock.countFrees_countFrees,
        List.length_cons, List.length_nil, Nat.zero_add, Nat.add_comm 1]

/-- Emptying a queue gives its items back, oldest first. -/
theorem runOn_emptyQueue {queue : Queue} {items : List Handle} {slots : Nat} (name : String)
    {d : Depot β} {b : β} (hitems : d.stock.items queue = .ok items)
    (hslots : items.length ≤ slots) (hreclaim : Backing.reclaim items d.backing = (.ok (), b)) :
    (emptyQueue queue slots name).runOn d =
      (.ok (), ⟨(d.stock.setItems [] queue).countFrees items.length, b⟩) := by
  have hleft := Stock.items_setItems hitems []
  rw [← Stock.items_countFrees _ _ items.length] at hleft
  have hlength := Routine.runOn_length
    (d := ⟨(d.stock.setItems [] queue).countFrees items.length, b⟩) hleft
  rw [emptyQueue, Routine.runOn_bind_ok (runOn_drainQueue hitems hslots hreclaim),
    Routine.runOn_bind_ok hlength]
  rfl

theorem runOn_emptyCaches {slots cpu : Nat} {front back : List Shelf} {d : Depot β} {b : β}
    (hshelves : d.stock.shelves = front ++ back) (hcpu : front.length = cpu)
    (hslots : ∀ shelf ∈ back, shelf.items.length ≤ slots)
    (hreclaim : Backing.reclaim (back.flatMap Shelf.items) d.backing = (.ok (), b)) :
    (emptyCaches slots cpu back.length).runOn d =
      (.ok (), ⟨{ d.stock.countFrees (back.flatMap Shelf.items).length with
        shelves := front ++ back.map fun shelf => { shelf with items := [] } }, b⟩) := by
  induction back generalizing cpu front d with
  | nil =>
    cases hreclaim
    rw [List.append_nil] at hshelves
    simp [emptyCaches, Stock.countFrees, ← hshelves]
  | cons shelf back ih =>
    rw [List.flatMap_cons] at hreclaim
    obtain ⟨middle, hfirst, hrest⟩ := Backing.exists_of_reclaim_append hreclaim
    have hshelf : d.stock.shelves[cpu]? = some shelf := by
      rw [hshelves, ← hcpu, List.getElem?_append_right (Nat.le_refl _), Nat.sub_self]
      rfl
    have hqueue := runOn_emptyQueue "local" (Stock.items_cache hshelf)
      (hslots shelf List.mem_cons_self) hfirst
    rw [Stock.setItems_append hshelves hcpu] at hqueue
    have hnext : (front ++ [{ shelf with items := [] }]).length = cpu + 1 := by simp [hcpu]
    rw [List.length_cons, emptyCaches, Routine.runOn_bind_ok hqueue,
      ih (by simp [Stock.countFrees]) hnext
        (fun shelf hmem => hslots shelf (List.mem_cons_of_mem _ hmem)) hrest]
    simp only [Stock.countFrees, List.flatMap_cons, List.length_append, List.map_cons,
      List.append_assoc, List.singleton_append, Nat.add_assoc]

/-- **Emptying a pool** gives all its contents back, in order. -/
theorem runOn_emptyAll {d : Depot β} {b : β} {localSlots sharedSlots : Nat}
    (hlocal : ∀ shelf ∈ d.stock.shelves, shelf.items.length ≤ localSlots)
    (hshared : d.stock.shared.length ≤ sharedSlots)
    (hreclaim : Backing.reclaim d.stock.contents d.backing = (.ok (), b)) :
    (emptyAll d.stock.shelves.length localSlots sharedSlots).runOn d =
      (.ok (), ⟨{ d.stock.countFrees d.stock.contents.length with
        shared := []
        shelves := d.stock.shelves.map fun shelf => { shelf with items := [] } }, b⟩) := by
  obtain ⟨middle, hfirst, hrest⟩ := Backing.exists_of_reclaim_append hreclaim
  have hshelves : d.stock.shelves = [] ++ d.stock.shelves := (List.nil_append _).symm
  have hcaches := runOn_emptyCaches hshelves List.length_nil hlocal hfirst
  rw [emptyAll, Routine.runOn_bind_ok hcaches,
    runOn_emptyQueue "shared" (by exact rfl) (by exact hshared) (by exact hrest)]
  simp only [Stock.setItems, Stock.countFrees, Stock.contents, List.length_append,
    List.nil_append, Nat.add_assoc]

end Pool

/-- **Retiring** a pool never faults if the backing takes its contents back. What is reported counts
them as returned. -/
theorem World.retire_eq {w : World β} {b : β} (hwf : w.pool.WF)
    (hlocal : ∀ shelf ∈ w.pool.stock.shelves, shelf.items.length ≤ w.pool.localSize)
    (hshared : w.pool.stock.shared.length ≤ w.pool.sharedSize)
    (hreclaim : Backing.reclaim w.pool.stock.contents w.backing = (.ok (), b)) :
    ∃ (pool : Pool) (events : Array Event),
      w.retire = (.ok (), ⟨pool, b, events.push (.poolDestroyed w.pool.id w.pool.traffic.allocs
        (w.pool.traffic.frees + w.pool.stock.contents.length))⟩) := by
  have hempty := Pool.runOn_emptyAll (d := w.depot) hlocal hshared hreclaim
  have hcpus : w.depot.stock.shelves.length = w.pool.cpus := by
    simp only [World.depot, Pool.stock, Pool.cpus, List.length_map, Array.length_toList]
  rw [hcpus] at hempty
  obtain ⟨pool, events, hrun, -, hstock⟩ := Routine.exists_run_eq hwf hempty
  have hid : pool.id = w.pool.id := congrArg Stock.id hstock
  have htraffic : pool.traffic = _ := congrArg Stock.traffic hstock
  rw [retire, hrun]
  refine ⟨pool, events, ?_⟩
  dsimp only
  rw [hid, htraffic]
  rfl

end Retiring

end TieredPool
