import TieredPool.Proofs.Backing.Store
import TieredPool.Proofs.Session.Run

/-!
# Laws of sessions

What holds of every session after every run, said of rings, statistics and the calls that backings
received: elements are conserved, no queue is filled beyond its size and no assertion of a pool
fails, and the counters account for every batch that moved.
-/

namespace TieredPool

namespace Pool

/-- The elements in the queues of a pool: those of the local ones, by CPU, and those of the shared
one, each oldest first. -/
def contents (p : Pool) : List Handle :=
  (p.caches.toList.flatMap fun cache => cache.queue.toList) ++ p.shared.toList

theorem stock_contents (p : Pool) : p.stock.contents = p.contents := by
  rw [Stock.contents, stock, List.flatMap_map]
  rfl

/-- A figure of all local tiers, seen in their statistics and on their shelves. -/
theorem WF.map_allCpuStatistics {p : Pool} (h : p.WF) {f : CpuStatistics → Nat} {g : Shelf → Nat}
    (hfg : ∀ cache : Cache, cache.WF p.localSize →
      ∀ cpu, f (cache.statistics cpu) = g cache.shelf) :
    p.allCpuStatistics.map f = p.stock.shelves.map g := by
  apply List.ext_getElem?
  intro i
  rw [allCpuStatistics, stock, List.getElem?_map, List.getElem?_mapIdx, List.getElem?_map,
    List.getElem?_map]
  rcases hget : p.caches.toList[i]? with _ | cache
  · rfl
  · simp [hfg cache (h.caches cache (List.mem_of_getElem? hget)) i]

end Pool

namespace Session

/-! ## Conservation -/

section Conservation

variable {β : Type}

/-- The elements of a backing in the queues of its pools, in the hands of callers, and lost. -/
def contentsOn (s : Session β) (k : Nat) : List Handle :=
  (s.pools.toList.flatMap fun
    | some tenant => if tenant.backing = k then tenant.pool.contents else []
    | none => []) ++
  ((s.held ++ s.lost).filter fun holding => holding.backing = k).map fun holding =>
    holding.element.handle

theorem coe_contentsOn (s : Session β) (k : Nat) :
    (s.contentsOn k : Multiset Handle) = s.elementsOn k := by
  rw [contentsOn, elementsOn, ← Multiset.coe_add, coe_flatMap, handlesOn, strays,
    Multiset.coe_add, Multiset.filter_coe, Multiset.map_coe]
  congr 3
  funext tenant?
  cases tenant? with
  | none => rfl
  | some tenant =>
    rw [elementsAt]
    dsimp only
    split
    · rw [← Pool.stock_contents, Stock.coe_contents]
    · rfl

/-- **Conservation.** After every run over new stores, the elements a backing has handed out and
not got back, as its calls have it, are those in the queues of the pools on it, those in the hands
of callers and those that callers lost, and no element is among them twice. And each pool has
obtained more than it has returned by just as much as it holds and callers took from it. -/
theorem after_conserves {backings : Array (Recorded Store)}
    (hnew : ∀ r ∈ backings, r.IsNew) (actions : List Action) :
    (∀ (k : Nat) (r : Recorded Store), (after backings actions).backings[k]? = some r →
      ∃ out : List Handle, r.out? = some out ∧ out.Nodup ∧
        out.Perm ((after backings actions).contentsOn k)) ∧
    ∀ (place : Nat) (tenant : Tenant), (after backings actions).tenant? place = some tenant →
      tenant.pool.statistics.backingFrees ≤ tenant.pool.statistics.backingAllocs ∧
      tenant.pool.statistics.outstanding =
        tenant.pool.statistics.sharedLength +
        (tenant.pool.allCpuStatistics.map CpuStatistics.localLength).sum +
        ((after backings actions).held ++ (after backings actions).lost).countP fun holding =>
          holding.element.pool = tenant.pool.id := by
  have hrun := WF.after (fun r hmem => (hnew r hmem).out) actions
  generalize after backings actions = s at hrun ⊢
  refine ⟨fun k r hget => ?_, fun place tenant htenant => ?_⟩
  · obtain ⟨hout, out, hcalls, hperm⟩ := hrun.out hget
    refine ⟨out, hcalls, ?_, ?_⟩
    · rw [← Multiset.coe_nodup, hperm]
      exact LawfulBacking.nodup hout
    · rw [← Multiset.coe_eq_coe, hperm, coe_contentsOn]
  · have haccounts := hrun.accounts htenant
    have hwf := (hrun.tenant htenant).pool
    rw [Stock.Accounts, Stock.card_elements, strayCount, strays, Multiset.coe_add,
      Multiset.coe_countP] at haccounts
    have hlocal : tenant.pool.allCpuStatistics.map CpuStatistics.localLength =
        tenant.pool.stock.shelves.map fun shelf => shelf.items.length :=
      hwf.map_allCpuStatistics fun cache hcache _ => hcache.queue.length_toList.symm
    have hshared : tenant.pool.stock.shared.length = tenant.pool.shared.length :=
      hwf.shared.length_toList
    have htraffic : tenant.pool.stock.traffic = tenant.pool.traffic := rfl
    rw [hshared, htraffic] at haccounts
    simp only [PoolStatistics.outstanding, Pool.statistics, hlocal]
    omega

/-- A heap that may have 40 elements out. -/
def smallHeap : Array (Recorded Store) :=
  #[{ backing := .heap ⟨⟨64, 8⟩, some 40, 0, {}, fun _ => false, .untouched⟩ }]

theorem smallHeap_isNew : ∀ r ∈ smallHeap, r.IsNew := by
  intro r hmem
  obtain rfl := List.mem_singleton.1 (Array.mem_toList_iff.2 hmem)
  exact ⟨rfl, .heap ..⟩

/-- A pool is built and refilled, a second one cannot be built over what is left of the backing, and
an element is forgotten. -/
def refillAndForget : List Action :=
  [.build { localSize := 16, sharedSize := 64, preallocate := 3, cpus := some 2 } (some 0),
    .lease 0 1, .allocate 0 1 .none, .allocate 0 1 .none,
    .build { localSize := 16, sharedSize := 64, preallocate := 32, cpus := some 1 } (some 0),
    .forget .first, .free 0 1 .last]

/-- There is one element beside those in the queues, which is lost. -/
theorem after_conserves_refillAndForget :
    (∀ r ∈ smallHeap, r.IsNew) ∧
    ∃ tenant, (after smallHeap refillAndForget).tenant? 0 = some tenant ∧
      tenant.pool.statistics.outstanding =
        tenant.pool.statistics.sharedLength +
        (tenant.pool.allCpuStatistics.map CpuStatistics.localLength).sum + 1 := by
  have hid : ((after smallHeap refillAndForget).tenant? 0).map (fun tenant => tenant.pool.id) =
      some 1 := by decide +kernel
  have hstrays : (after smallHeap refillAndForget).held ++ (after smallHeap refillAndForget).lost =
      [⟨⟨3, 1⟩, 0⟩] := by decide +kernel
  obtain ⟨tenant, htenant, hone⟩ := Option.map_eq_some_iff.1 hid
  have hconserves := ((after_conserves smallHeap_isNew refillAndForget).2 0 tenant htenant).2
  rw [hstrays, hone] at hconserves
  exact ⟨smallHeap_isNew, tenant, htenant, hconserves⟩

end Conservation

section Lawful

variable {β : Type} [Backing β] [LawfulBacking β] {backings : Array β}

/-! ## Capacity -/

/-- **Capacity.** After every run over backings with nothing out, every queue of every pool holds
fewer elements than it has slots. And the next step, whatever it is, stops on an assertion only if
it frees an element of another pool, or if it builds a pool that no memory has room for. -/
theorem after_within_capacity (hnew : ∀ b ∈ backings, LawfulBacking.Out b 0)
    (actions : List Action) :
    (∀ (place : Nat) (tenant : Tenant), (after backings actions).tenant? place = some tenant →
      tenant.pool.shared.entries ≤ tenant.pool.sharedSize - 1 ∧
      ∀ cache ∈ tenant.pool.caches.toList,
        cache.queue.size = tenant.pool.localSize ∧
        cache.queue.entries ≤ tenant.pool.localSize - 1) ∧
    ∀ (a : Action) (fault : Fault), ((after backings actions).act a).1 = some (.fault fault) →
      (∃ place cpu pick at_ holding tenant, a = .free place cpu pick ∧
        (after backings actions).tenant? place = some tenant ∧
        (after backings actions).picked? pick = some (at_, holding) ∧
        holding.element.pool ≠ tenant.pool.id ∧
        fault = .foreignElement holding.element.pool tenant.pool.id) ∨
      ∃ plan backing, a = .build plan backing ∧ fault = .capacityOverflow := by
  have hrun := WF.after hnew actions
  generalize after backings actions = s at hrun ⊢
  refine ⟨fun place tenant htenant => ?_, fun a fault hfault => ?_⟩
  · obtain ⟨hwf, hsound, -⟩ := hrun.tenant htenant
    refine ⟨?_, fun cache hmem => ?_⟩
    · rw [hwf.shared.entries_eq]
      exact Nat.le_sub_one_of_lt hsound.shared_lt
    · have hcache := hwf.caches cache hmem
      refine ⟨hcache.size_eq, ?_⟩
      rw [hcache.queue.entries_eq]
      exact Nat.le_sub_one_of_lt (hsound.items_lt cache.shelf (List.mem_map_of_mem hmem))
  · have ht := hrun.act a
    rw [hfault] at ht
    generalize (s.act a).2 = s' at ht
    cases ht with
    | idle hproblem => exact absurd rfl (hproblem fault)
    | dealt _ _ _ _ _ _ hproblem => exact absurd rfl (hproblem fault)
    | misfreed htenant hpicked hforeign =>
      exact .inl ⟨_, _, _, _, _, _, rfl, htenant, hpicked, hforeign, rfl⟩
    | abandoned hbacking hfailed hproblem =>
      have hmemory := (hfailed.of_error (hrun.out hbacking)).2
      exact .inr ⟨_, _, rfl, hmemory fault (hproblem fault rfl)⟩

/-- After a refill that left the shared queue with 35 elements, which is less than its 64 slots. -/
theorem after_within_capacity_refillAndForget :
    (∀ r ∈ smallHeap, LawfulBacking.Out r 0) ∧
    ∃ tenant, (after smallHeap refillAndForget).tenant? 0 = some tenant ∧
      tenant.pool.shared.entries = 35 ∧
      tenant.pool.shared.entries ≤ tenant.pool.sharedSize - 1 := by
  have hnew : ∀ r ∈ smallHeap, LawfulBacking.Out r 0 := fun r hmem => (smallHeap_isNew r hmem).out
  have hentries : ((after smallHeap refillAndForget).tenant? 0).map
      (fun tenant => tenant.pool.shared.entries) = some 35 := by decide +kernel
  obtain ⟨tenant, htenant, hentries⟩ := Option.map_eq_some_iff.1 hentries
  exact ⟨hnew, tenant, htenant, hentries,
    ((after_within_capacity hnew refillAndForget).1 0 tenant htenant).1⟩

/-! ## Flow -/

/-- **Flow.** After every run over backings with nothing out, the statistics of every pool account
for the batches that went through its shared queue, for its returns to the backing, for its drains
and for what it obtained. -/
theorem after_flows (hnew : ∀ b ∈ backings, LawfulBacking.Out b 0) (actions : List Action)
    (place : Nat) (tenant : Tenant)
    (htenant : (after backings actions).tenant? place = some tenant) :
    let pool := tenant.pool.statistics
    let cpus := tenant.pool.allCpuStatistics
    pool.sharedLength + 16 * (cpus.map CpuStatistics.refills).sum + 48 * pool.backingDrains =
      (pool.backingAllocs - pool.sharedRefills) + 16 * (cpus.map CpuStatistics.overflows).sum ∧
    pool.backingFrees = 48 * pool.backingDrains ∧
    pool.backingDrains = (cpus.map CpuStatistics.drains).sum ∧
    (∀ cpu ∈ cpus, cpu.drains ≤ cpu.overflows) ∧
    pool.preallocated + pool.sharedRefills ≤ pool.backingAllocs ∧
    pool.backingAllocs ≤ pool.preallocated + 33 * pool.sharedRefills := by
  obtain ⟨hwf, -, hflow⟩ := (WF.after hnew actions).tenant htenant
  have hrefills : tenant.pool.allCpuStatistics.map CpuStatistics.refills =
      tenant.pool.stock.shelves.map Shelf.refills :=
    hwf.map_allCpuStatistics fun _ _ _ => rfl
  have hoverflows : tenant.pool.allCpuStatistics.map CpuStatistics.overflows =
      tenant.pool.stock.shelves.map Shelf.overflows :=
    hwf.map_allCpuStatistics fun _ _ _ => rfl
  have hdrains : tenant.pool.allCpuStatistics.map CpuStatistics.drains =
      tenant.pool.stock.shelves.map Shelf.drains :=
    hwf.map_allCpuStatistics fun _ _ _ => rfl
  have hshared : tenant.pool.stock.shared.length = tenant.pool.shared.length :=
    hwf.shared.length_toList
  dsimp only
  rw [hrefills, hoverflows, hdrains]
  refine ⟨?_, hflow.frees_eq, hflow.drains_eq, fun cpu hmem => ?_, hflow.allocs_ge,
    hflow.allocs_le⟩
  · have heq := hflow.shared_eq
    rw [hshared] at heq
    exact heq
  · obtain ⟨i, hi, rfl⟩ := List.mem_mapIdx.1 hmem
    exact hflow.drains_le _ (List.mem_map_of_mem (List.getElem_mem hi))

/-- One refill gave 33 elements beyond the 3 preallocated ones, and one overflow came back. -/
theorem after_flows_refillAndForget :
    (∀ r ∈ smallHeap, LawfulBacking.Out r 0) ∧
    ∃ tenant, (after smallHeap refillAndForget).tenant? 0 = some tenant ∧
      tenant.pool.statistics = ⟨36, 0, 1, 0, 35, 3⟩ ∧
      tenant.pool.statistics.sharedLength +
        16 * (tenant.pool.allCpuStatistics.map CpuStatistics.refills).sum +
        48 * tenant.pool.statistics.backingDrains =
      (tenant.pool.statistics.backingAllocs - tenant.pool.statistics.sharedRefills) +
        16 * (tenant.pool.allCpuStatistics.map CpuStatistics.overflows).sum := by
  have hnew : ∀ r ∈ smallHeap, LawfulBacking.Out r 0 := fun r hmem => (smallHeap_isNew r hmem).out
  have hstatistics : ((after smallHeap refillAndForget).tenant? 0).map
      (fun tenant => tenant.pool.statistics) = some ⟨36, 0, 1, 0, 35, 3⟩ := by decide +kernel
  obtain ⟨tenant, htenant, hstatistics⟩ := Option.map_eq_some_iff.1 hstatistics
  exact ⟨hnew, tenant, htenant, hstatistics,
    (after_flows hnew refillAndForget 0 tenant htenant).1⟩

end Lawful

end Session

end TieredPool
