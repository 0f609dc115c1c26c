import TieredPool.Proofs.Session.Zeroing

/-!
# When memory runs out

An allocation finds every tier exhausted in one case: the local queue is empty, the shared one is
short of a batch and the backing refuses the first request (`Allocation.eq_none_iff`). A refusal
leaves a store as it was but for its count of refusals (`Store.eq_of_refused`), so nothing else in
the session has changed then. In every other case an element goes out, and it is one that no caller
has.
-/

namespace TieredPool

/-! ## Refusals -/

namespace Store

/-- The store with another tally. -/
def withTally (tally : Tally) : Store → Store
  | heap h => heap { h with tally }
  | chunks c => chunks { c with tally }

/-- A store that refuses a request counts it, and that is all. -/
theorem eq_of_refused {s s' : Store} {flags : AllocFlags} (h : s.alloc flags = (none, s')) :
    s' = s.withTally s.tally.failed := by
  cases s with
  | heap a =>
    simp only [alloc, Heap.alloc, Heap.reserve?] at h
    by_cases hlimit : a.atLimit = true
    · simp only [hlimit, ↓reduceIte, Heap.refuse] at h
      cases h
      rfl
    · by_cases hsystem : a.systemRefuses a.requests = true
      · -- the place reserved below the limit is free again
        simp only [hlimit, hsystem, ↓reduceIte, Heap.refuse, Heap.unreserve] at h
        cases h
        rfl
      · simp only [hlimit, hsystem, Heap.grant] at h
        cases h
  | chunks c =>
    simp only [alloc, Chunks.alloc] at h
    rcases htake : c.takeSlot? with _ | ⟨slot, c'⟩ <;> rw [htake] at h <;> cases h
    rfl

theorem Out.withTally {s : Store} {m : Multiset Handle} (h : s.Out m) :
    (s.withTally s.tally.failed).Out m := by
  cases s with
  | heap _ => exact ⟨h.live_eq, h.nodup, h.lt⟩
  | chunks _ =>
    obtain ⟨hwf, hslots⟩ := h
    exact ⟨hwf.update hwf.fresh_le, hslots⟩

end Store

namespace Recorded

def refused (flags : AllocFlags) (r : Recorded Store) : Recorded Store :=
  ⟨r.backing.withTally r.backing.tally.failed, r.calls.push (.refused flags)⟩

theorem eq_of_refused {r r' : Recorded Store} {flags : AllocFlags}
    (h : Backing.alloc flags r = (none, r')) : r' = r.refused flags := by
  obtain ⟨backing, calls⟩ := r
  simp only [Backing.alloc, Recorded.alloc] at h
  rcases halloc : backing.alloc flags with ⟨_ | x, backing'⟩ <;> rw [halloc] at h
  · cases h
    rw [Store.eq_of_refused halloc]
    rfl
  · cases h

theorem alloc_eq_none_iff (r : Recorded Store) (flags : AllocFlags) :
    (Backing.alloc flags r).1 = none ↔ (r.backing.alloc flags).1 = none := by
  obtain ⟨backing, calls⟩ := r
  simp only [Backing.alloc, Recorded.alloc]
  rcases backing.alloc flags with ⟨_ | x, backing'⟩
  · exact Iff.rfl
  · constructor
    · intro h
      cases h
    · intro h
      cases h

theorem out?_refused (r : Recorded Store) (flags : AllocFlags) :
    (r.refused flags).out? = r.out? := by
  rw [refused, out?_push]
  show r.out?.bind some = r.out?
  exact Option.bind_fun_some r.out?

end Recorded

/-- **Exhaustion.** An allocation comes to nothing when no tier has an element, and only then. -/
theorem Allocation.eq_none_iff {β : Type} [Backing β] {cpu : Nat} {flags : AllocFlags}
    {d d' : Depot β} {answer : Option Handle} {shelf : Shelf}
    (h : Allocation cpu flags d answer d') (hshelf : d.stock.shelves[cpu]? = some shelf) :
    answer = none ↔ shelf.items = [] ∧ d.stock.shared.length < batch ∧
      (Backing.alloc flags d.backing).1 = none := by
  cases h with
  | @cached shelf' x rest hshelf' hitems =>
    obtain rfl := Option.some.inj (hshelf.symm.trans hshelf')
    refine ⟨fun hnone => (nomatch hnone), fun ⟨hempty, _⟩ => ?_⟩
    rw [hempty] at hitems
    cases hitems
  | @shared shelf' x xs rest _ _ hshared hlen =>
    refine ⟨fun hnone => (nomatch hnone), fun ⟨_, hshort, _⟩ => ?_⟩
    rw [hshared, List.length_cons, List.length_append, hlen, batch] at hshort
    omega
  | @supplied _ x xs backing _ _ _ hsupply =>
    refine ⟨fun hnone => (nomatch hnone), fun ⟨_, _, hnone⟩ => ?_⟩
    rw [Nat.add_comm, Backing.supply] at hsupply
    rcases halloc : Backing.alloc flags d.backing with ⟨_ | y, b⟩ <;> rw [halloc] at hnone hsupply
    · cases hsupply
    · cases hnone
  | @refused shelf' backing hshelf' hempty hshort halloc =>
    obtain rfl := Option.some.inj (hshelf.symm.trans hshelf')
    exact ⟨fun _ => ⟨hempty, hshort, by rw [halloc]⟩, fun _ => rfl⟩

theorem Allocation.eq_of_none {β : Type} [Backing β] {cpu : Nat} {flags : AllocFlags}
    {d d' : Depot β} (h : Allocation cpu flags d none d') :
    d'.stock = d.stock ∧ Backing.alloc flags d.backing = (none, d'.backing) := by
  cases h with
  | refused _ _ _ halloc => exact ⟨rfl, halloc⟩

namespace Session

/-! ## Sessions that run out of memory -/

/-- Two sessions differ in nothing but one backing and what was reported: the pools are at the same
places over the same backings, with the same elements in the same order in every queue, the same
leases and the same counts, and callers have the same elements. -/
structure SameBut (k : Nat) (s s' : Session (Recorded Store)) : Prop where
  pools : ∀ place, (s'.tenant? place).map (fun tenant => (tenant.pool.stock, tenant.backing)) =
    (s.tenant? place).map fun tenant => (tenant.pool.stock, tenant.backing)
  held : s'.held = s.held
  lost : s'.lost = s.lost
  nextId : s'.nextId = s.nextId
  backings : ∀ j, j ≠ k → s'.backings[j]? = s.backings[j]?

/-- A session in which one pool and its backing are set anew, and the pool has the stock it had. -/
theorem sameBut_of_set {s s' : Session (Recorded Store)} {place : Nat} {tenant : Tenant}
    {pool : Pool} {r : Recorded Store} (htenant : s.tenant? place = some tenant)
    (hpools : s'.pools = s.pools.setIfInBounds place (some ⟨pool, tenant.backing⟩))
    (hstock : pool.stock = tenant.pool.stock)
    (hbackings : s'.backings = s.backings.setIfInBounds tenant.backing r)
    (hheld : s'.held = s.held) (hlost : s'.lost = s.lost) (hnextId : s'.nextId = s.nextId) :
    SameBut tenant.backing s s' := by
  refine ⟨fun place' => ?_, hheld, hlost, hnextId, fun j hj => ?_⟩
  · rw [tenant?_of_set hpools htenant]
    by_cases hplace : place = place'
    · subst hplace
      rw [if_pos rfl, htenant, Option.map_some, Option.map_some, hstock]
    · rw [if_neg hplace]
  · rw [hbackings]
    exact Array.getElem?_setIfInBounds_ne hj.symm

theorem WF.fresh {s s' : Session (Recorded Store)} (h : s'.WF) {k : Nat} {r : Recorded Store}
    {x : Handle} {id : Nat} (hbacking : s'.backings[k]? = some r)
    (hheld : s'.held = s.held ++ [⟨⟨x, id⟩, k⟩]) (hlost : s'.lost = s.lost) :
    ∀ holding ∈ s.held ++ s.lost, holding.backing = k → holding.element.handle ≠ x := by
  intro holding hmem hhome hsame
  have hnodup := Multiset.nodup_add.1 (LawfulBacking.nodup (h.out hbacking))
  have hstrays : s'.strays = {⟨⟨x, id⟩, k⟩} + s.strays := by
    rw [strays, strays, hheld, hlost, ← Multiset.coe_add, Multiset.coe_singleton]
    abel
  have hcons : handlesOn k s'.strays = x ::ₘ handlesOn k s.strays := by
    rw [hstrays, handlesOn_add, ← Multiset.singleton_add]
    congr 1
    simp only [handlesOn, Multiset.filter_singleton, ↓reduceIte, Multiset.map_singleton]
  have hx : x ∉ handlesOn k s.strays := by
    have hparts := hnodup.2.1
    rw [hcons] at hparts
    exact (Multiset.nodup_cons.1 hparts).1
  apply hx
  rw [← hsame, handlesOn]
  apply Multiset.mem_map_of_mem
  rw [Multiset.mem_filter, strays, Multiset.coe_add, Multiset.mem_coe]
  exact ⟨hmem, hhome⟩

/-- **An allocation** on a leased CPU finds all tiers exhausted, and leaves all but the backing as it
was, or it does not, and brings an element that no caller has. -/
theorem WF.allocate_cases {s : Session (Recorded Store)} (hs : s.WF) {place cpu : Nat}
    {tenant : Tenant} {r : Recorded Store} {lease : Pool.Lease} {shelf : Shelf}
    (htenant : s.tenant? place = some tenant) (hbacking : s.backings[tenant.backing]? = some r)
    (hlease : tenant.pool.leaseOf? cpu = some lease)
    (hshelf : tenant.pool.stock.shelves[cpu]? = some shelf) (flags : AllocFlags) :
    ((s.allocate place cpu flags).1 = .error .outOfMemory ∧
      (shelf.items = [] ∧ tenant.pool.stock.shared.length < batch ∧
        (Backing.alloc flags r).1 = none) ∧
      SameBut tenant.backing s (s.allocate place cpu flags).2 ∧
      (s.allocate place cpu flags).2.backings[tenant.backing]? = some (r.refused flags)) ∨
    ∃ e, (s.allocate place cpu flags).1 = .ok e ∧
      ¬(shelf.items = [] ∧ tenant.pool.stock.shared.length < batch ∧
        (Backing.alloc flags r).1 = none) ∧
      e.pool = tenant.pool.id ∧
      (s.allocate place cpu flags).2.held = s.held ++ [⟨e, tenant.backing⟩] ∧
      (s.allocate place cpu flags).2.lost = s.lost ∧
      ∀ holding ∈ s.held ++ s.lost,
        holding.backing = tenant.backing → holding.element.handle ≠ e.handle := by
  have hs' : (s.allocate place cpu flags).2.WF := hs.act_wf (.allocate place cpu flags)
  have hlt := hs.backing_lt htenant
  obtain ⟨answer, d, pool, events, hout, -, hstock, hallocate⟩ :=
    hs.allocate_eq htenant hbacking hlease flags
  have htiers := hout.eq_none_iff hshelf
  rw [hallocate] at hs' ⊢
  cases answer with
  | none =>
    obtain ⟨hsame, hrefused⟩ := hout.eq_of_none
    refine .inl ⟨rfl, htiers.1 rfl, ?_, ?_⟩
    · exact sameBut_of_set htenant rfl (hstock.trans hsame) rfl (List.append_nil s.held) rfl rfl
    · rw [← Recorded.eq_of_refused hrefused]
      exact Array.getElem?_setIfInBounds_self_of_lt hlt
  | some x =>
    refine .inr ⟨⟨x, tenant.pool.id⟩, rfl, ?_, rfl, rfl, rfl, ?_⟩
    · intro hexhausted
      cases htiers.2 hexhausted
    · exact hs'.fresh (Array.getElem?_setIfInBounds_self_of_lt hlt) rfl rfl

/-- **Exhaustion is exact and changes nothing.** In any session over new stores, however it was
used, an allocation on a leased CPU runs out of memory when its local queue is empty, the shared
queue has fewer than 16 elements and the backing refuses the request, and only then. The backing
has then counted one more refusal, and nothing else has changed. In every other case the caller gets
an element of the pool that was in no caller's hands. -/
theorem used_allocate_outOfMemory_iff {backings : Array (Recorded Store)}
    (hnew : ∀ r ∈ backings, r.IsNew) (uses : List Use) {place cpu : Nat} {tenant : Tenant}
    (htenant : (used backings uses).tenant? place = some tenant)
    (hleased : (tenant.pool.leaseOf? cpu).isSome) (flags : AllocFlags) :
    let s := used backings uses
    let s' := (s.allocate place cpu flags).2
    ∃ cache r, tenant.pool.caches[cpu]? = some cache ∧ s.backings[tenant.backing]? = some r ∧
      ((s.allocate place cpu flags).1 = .error .outOfMemory ↔
        cache.queue.length = 0 ∧ tenant.pool.shared.length < 16 ∧
          (r.backing.alloc flags).1 = none) ∧
      ((s.allocate place cpu flags).1 = .error .outOfMemory →
        SameBut tenant.backing s s' ∧
        ∃ r', s'.backings[tenant.backing]? = some r' ∧ r'.out? = r.out? ∧
          r'.backing = r.backing.withTally r.backing.tally.failed ∧
          ∀ m, r.backing.Out m → r'.backing.Out m) ∧
      ((s.allocate place cpu flags).1 ≠ .error .outOfMemory →
        ∃ e, (s.allocate place cpu flags).1 = .ok e ∧ e.pool = tenant.pool.id ∧
          s'.held = s.held ++ [⟨e, tenant.backing⟩] ∧ s'.lost = s.lost ∧
          ∀ holding ∈ s.held ++ s.lost,
            holding.backing = tenant.backing → holding.element.handle ≠ e.handle) := by
  intro s s'
  have hs : s.WF := WF.used hnew uses
  obtain ⟨lease, hlease⟩ := Option.isSome_iff_exists.1 hleased
  obtain ⟨r, hbacking⟩ := hs.backing htenant
  have hwf := (hs.tenant htenant).pool
  obtain ⟨cache, hcache, hshelf, hlocal⟩ := hwf.exists_cache hlease
  have hshared : tenant.pool.stock.shared.length = tenant.pool.shared.length :=
    hwf.shared.length_toList
  have hcases := hs.allocate_cases htenant hbacking hlease hshelf flags
  rw [← List.length_eq_zero_iff, hlocal, hshared, Recorded.alloc_eq_none_iff] at hcases
  refine ⟨cache, r, hcache, hbacking, ?_⟩
  rcases hcases with ⟨hresult, hexhausted, hsame, hrefused⟩ |
    ⟨e, hresult, hexhausted, hpool, hheld, hlost, hfresh⟩
  · refine ⟨⟨fun _ => hexhausted, fun _ => hresult⟩, fun _ => ?_, fun hne => absurd hresult hne⟩
    refine ⟨hsame, r.refused flags, hrefused, Recorded.out?_refused r flags, rfl, ?_⟩
    intro m hm
    exact hm.withTally
  · have hne : (s.allocate place cpu flags).1 ≠ .error .outOfMemory := by
      intro h
      rw [hresult] at h
      cases h
    refine ⟨⟨fun h => absurd h hne, fun h => absurd h hexhausted⟩, fun h => absurd h hne, ?_⟩
    intro _
    exact ⟨e, hresult, hpool, hheld, hlost, hfresh⟩

def limitedHeap (limit : Nat) : Array (Recorded Store) :=
  #[{ backing := .heap ⟨⟨64, 8⟩, some limit, 0, {}, fun _ => false, .untouched⟩ }]

/-- A pool with so many elements in its shared queue and one leased CPU. -/
def stockAndLease (preallocate : Nat) : List Use :=
  [.act (.build { localSize := 16, sharedSize := 64, preallocate, cpus := some 1 } (some 0)),
    .act (.lease 0 0)]

theorem limitedHeap_isNew (limit : Nat) : ∀ r ∈ limitedHeap limit, r.IsNew := by
  intro r hmem
  obtain rfl := List.mem_singleton.1 (Array.mem_toList_iff.2 hmem)
  exact ⟨rfl, .heap ..⟩

/-- Fifteen elements in the shared queue are of no use to an allocation, and stay there; of sixteen
the first goes to the caller. -/
theorem used_allocate_outOfMemory_iff_fifteen :
    let s := used (limitedHeap 15) (stockAndLease 15)
    let s' := (s.allocate 0 0 .none).2
    (∀ r ∈ limitedHeap 15, r.IsNew) ∧
    (∃ tenant, s.tenant? 0 = some tenant ∧ (tenant.pool.leaseOf? 0).isSome ∧
      tenant.pool.shared.length = 15 ∧ (s.allocate 0 0 .none).1 = .error .outOfMemory ∧
      SameBut tenant.backing s s') ∧
    ((used (limitedHeap 16) (stockAndLease 16)).allocate 0 0 .none).1 = .ok ⟨0, 1⟩ := by
  intro s s'
  have hplaces : (s.tenant? 0).map (fun tenant =>
      ((tenant.pool.leaseOf? 0).isSome, tenant.pool.shared.length, tenant.backing,
        tenant.pool.caches[0]?.map fun cache => cache.queue.length)) =
      some (true, 15, 0, some 0) := by decide +kernel
  have hrefusal : s.backings[0]?.map (fun r => (r.backing.alloc .none).1) = some none := by
    decide +kernel
  obtain ⟨tenant, htenant, hplaces⟩ := Option.map_eq_some_iff.1 hplaces
  simp only [Prod.mk.injEq] at hplaces
  obtain ⟨hleased, hshared, hhome, hlocal⟩ := hplaces
  obtain ⟨cache, r, hcache, hbacking, hiff, hsame, -⟩ := used_allocate_outOfMemory_iff
    (limitedHeap_isNew 15) (stockAndLease 15) htenant hleased .none
  rw [hcache] at hlocal
  rw [hhome] at hbacking
  rw [hbacking] at hrefusal
  have hempty : cache.queue.length = 0 := Option.some.inj hlocal
  have hfail : (s.allocate 0 0 .none).1 = .error .outOfMemory :=
    hiff.2 ⟨hempty, by rw [hshared]; decide, Option.some.inj hrefusal⟩
  exact ⟨limitedHeap_isNew 15, ⟨tenant, htenant, hleased, hshared, hfail, (hsame hfail).1⟩,
    by decide +kernel⟩

end Session

end TieredPool
