import TieredPool.Proofs.Backing.Zeroing
import TieredPool.Proofs.Session.Laws

/-!
# Zeroed elements

Callers write to the elements that they hold, so a session is used in steps and in writes between
them. What is written has no bearing on where elements are: a used session is in order
(`Session.WF.used`).

A flag of an allocation is handed on to the backing and means nothing to the pool. So an allocation
that asks for zero bytes gets an element that is zero if the backing is asked for it. If a queue has
an element for the call, no backing is asked and nothing is written to any element: the one handed
out holds what it held (`Session.used_allocate_zero`).
-/

namespace TieredPool

theorem Pool.WF.exists_cache {p : Pool} (h : p.WF) {cpu : Nat} {lease : Lease}
    (hlease : p.leaseOf? cpu = some lease) :
    ∃ cache : Cache, p.caches[cpu]? = some cache ∧ p.stock.shelves[cpu]? = some cache.shelf ∧
      cache.shelf.items.length = cache.queue.length := by
  obtain ⟨-, shelf, hshelf⟩ := Pool.leaseOf?_eq_some hlease
  obtain ⟨cache, hcache, rfl⟩ := Option.map_eq_some_iff.1
    ((Pool.stock_shelves_getElem? _ _).symm.trans hshelf)
  have hmem : cache ∈ p.caches.toList := Array.mem_toList_iff.2 (Array.mem_of_getElem? hcache)
  exact ⟨cache, hcache, hshelf, (h.caches cache hmem).queue.length_toList⟩

namespace Session

/-- A step of a session, or writes of callers between two steps: whatever they write and wherever,
the backing has some memory after it. -/
inductive Use where
  | act (a : Action)
  | write (backing : Nat) (memory : Memory)

def use (s : Session (Recorded Store)) : Use → Session (Recorded Store)
  | .act a => (s.act a).2
  | .write k memory => s.onBacking k fun r => { r with backing := r.backing.withMemory memory }

/-- A session over these backings after it was used in this way. -/
def used (backings : Array (Recorded Store)) (uses : List Use) : Session (Recorded Store) :=
  uses.foldl use { backings }

namespace WF

variable {s : Session (Recorded Store)}

theorem write (h : s.WF) (k : Nat) (memory : Memory) : (s.use (.write k memory)).WF := by
  refine h.congr rfl rfl (Nat.le_refl _) Array.size_modify fun {j r} hget => ?_
  rw [use, onBacking, Array.getElem?_modify] at hget
  by_cases hj : k = j
  · rw [if_pos hj] at hget
    obtain ⟨old, hold, rfl⟩ := Option.map_eq_some_iff.1 hget
    obtain ⟨hout, hcalls⟩ := h.out hold
    exact ⟨Store.Out.withMemory hout memory, hcalls⟩
  · rw [if_neg hj] at hget
    exact h.out hget

/-- **Use** keeps a session in order. -/
theorem used {backings : Array (Recorded Store)} (hnew : ∀ r ∈ backings, r.IsNew)
    (uses : List Use) : (Session.used backings uses).WF := by
  have hstart : ({ backings } : Session (Recorded Store)).WF :=
    WF.of_backings fun r hmem => (hnew r hmem).out
  rw [Session.used]
  generalize ({ backings } : Session (Recorded Store)) = s at hstart
  induction uses generalizing s with
  | nil => exact hstart
  | cons u uses ih =>
    refine ih _ ?_
    cases u with
    | act a => exact hstart.act_wf a
    | write k memory => exact hstart.write k memory

end WF

/-- The tiers from which an allocation on a CPU is served: the backing only if the local queue is
empty and the shared one is short of a batch. -/
theorem allocation_served {cpu : Nat} {flags : AllocFlags} {d d' : Depot (Recorded Store)}
    {x : Handle} {shelf : Shelf} (h : Allocation cpu flags d (some x) d')
    (hshelf : d.stock.shelves[cpu]? = some shelf) (hflags : flags.contains .zero = true) :
    (shelf.items = [] ∧ d.stock.shared.length < batch → d'.backing.backing.Zeroed x) ∧
      (shelf.items ≠ [] ∨ batch ≤ d.stock.shared.length → d'.backing = d.backing) := by
  cases h with
  | @cached shelf' x rest hshelf' hitems =>
    refine ⟨fun ⟨hempty, _⟩ => ?_, fun _ => rfl⟩
    obtain rfl := Option.some.inj (hshelf.symm.trans hshelf')
    rw [hempty] at hitems
    cases hitems
  | @shared shelf' x xs rest hshelf' hempty hshared hlen =>
    refine ⟨fun ⟨_, hshort⟩ => ?_, fun _ => rfl⟩
    rw [hshared, List.length_cons, List.length_append, hlen, batch] at hshort
    omega
  | @supplied shelf' x xs backing hshelf' hempty hshort hsupply =>
    obtain rfl := Option.some.inj (hshelf.symm.trans hshelf')
    refine ⟨fun _ => ?_, fun hserved => ?_⟩
    · have hzeroed := Recorded.zeroed_supply hflags (1 + batch * refillBatches) (r := d.backing)
        (x := x)
      rw [hsupply] at hzeroed
      exact hzeroed (.inl List.mem_cons_self)
    · rcases hserved with hsome | hlong
      · exact absurd hempty hsome
      · omega

/-- **Zeroed allocation.** In any session over new stores, however it was used and whatever callers
wrote, let an allocation with the zero flag hand out an element. If the CPU's local queue is empty
and the shared queue is short of a batch, all bytes of the element are zero then. If not, no backing
has received a call and no element has changed. -/
theorem used_allocate_zero {backings : Array (Recorded Store)} (hnew : ∀ r ∈ backings, r.IsNew)
    (uses : List Use) {place cpu : Nat} {flags : AllocFlags} (hflags : flags.contains .zero = true)
    {element : Element}
    (hok : ((used backings uses).allocate place cpu flags).1 = .ok element) :
    let s := used backings uses
    let s' := (s.allocate place cpu flags).2
    ∃ tenant cache r', s.tenant? place = some tenant ∧ tenant.pool.caches[cpu]? = some cache ∧
      s'.backings[tenant.backing]? = some r' ∧
      (cache.queue.length = 0 ∧ tenant.pool.shared.length < batch →
        ∀ offset < r'.backing.layout.size,
          r'.backing.memory.contents element.handle offset = 0) ∧
      (0 < cache.queue.length ∨ batch ≤ tenant.pool.shared.length → s'.backings = s.backings) := by
  intro s s'
  have hs : s.WF := WF.used hnew uses
  rcases htenant : s.tenant? place with _ | tenant
  · rw [allocate_missing htenant] at hok
    cases hok
  obtain ⟨r, hbacking⟩ := hs.backing htenant
  rcases hlease : tenant.pool.leaseOf? cpu with _ | lease
  · rw [allocate_noLease htenant hbacking hlease] at hok
    cases hok
  obtain ⟨answer, d, pool, events, hout, -, -, hallocate⟩ :=
    hs.allocate_eq htenant hbacking hlease flags
  have hs' : s'.backings = s.backings.setIfInBounds tenant.backing d.backing := by
    rw [show s' = _ from congrArg Prod.snd hallocate]
  rw [hallocate] at hok
  cases answer with
  | none => cases hok
  | some x =>
    cases hok
    have hwf := (hs.tenant htenant).pool
    obtain ⟨cache, hcache, hshelf, hlocal⟩ := hwf.exists_cache hlease
    obtain ⟨hzeroed, hsame⟩ := allocation_served hout hshelf hflags
    have hshared : tenant.pool.stock.shared.length = tenant.pool.shared.length :=
      hwf.shared.length_toList
    refine ⟨tenant, cache, d.backing, rfl, hcache, ?_, fun ⟨hempty, hshort⟩ => ?_,
      fun hserved => ?_⟩
    · rw [hs', Array.getElem?_setIfInBounds_self_of_lt (hs.backing_lt htenant)]
    · rw [← hlocal] at hempty
      rw [← hshared] at hshort
      exact hzeroed ⟨List.eq_nil_of_length_eq_zero hempty, hshort⟩
    · rw [← hlocal, ← hshared, List.length_pos_iff] at hserved
      rw [hs', hsame hserved, setIfInBounds_self hbacking]

/-- A pool with one leased CPU. -/
def buildAndLease : List Use :=
  [.act (.build { localSize := 16, sharedSize := 64, preallocate := 0, cpus := some 1 } (some 0)),
    .act (.lease 0 0)]

/-- The first allocation is served by the backing. -/
theorem used_allocate_zero_buildAndLease :
    (∀ r ∈ smallHeap, r.IsNew) ∧ AllocFlags.zero.contains .zero = true ∧
    ((used smallHeap buildAndLease).allocate 0 0 .zero).1 = .ok ⟨0, 1⟩ ∧
    ∃ r', ((used smallHeap buildAndLease).allocate 0 0 .zero).2.backings[0]? = some r' ∧
      ∀ offset < r'.backing.layout.size, r'.backing.memory.contents 0 offset = 0 := by
  have hok : ((used smallHeap buildAndLease).allocate 0 0 .zero).1 = .ok ⟨0, 1⟩ := by decide +kernel
  have hflags : AllocFlags.zero.contains .zero = true := by decide
  have htiers : ((used smallHeap buildAndLease).tenant? 0).map (fun tenant =>
      (tenant.backing, tenant.pool.shared.length,
        tenant.pool.caches[0]?.map fun cache => cache.queue.length)) = some (0, 0, some 0) := by
    decide +kernel
  obtain ⟨tenant, cache, r', htenant, hcache, hget, hzeroed, -⟩ :=
    used_allocate_zero smallHeap_isNew buildAndLease hflags hok
  simp only [htenant, hcache, Option.map_some, Option.some.injEq, Prod.mk.injEq] at htiers
  obtain ⟨hbacking, hshared, hlocal⟩ := htiers
  rw [hbacking] at hget
  refine ⟨smallHeap_isNew, hflags, hok, r', hget, hzeroed ⟨hlocal, ?_⟩⟩
  rw [hshared]
  decide

/-- The first allocation refills the shared queue. -/
def refill : List Use := [.act (.allocate 0 0 .none)]

/-- A caller writes to the elements, and frees the one that it got. -/
def writeAndFree (memory : Memory) : List Use :=
  refill ++ [.write 0 memory, .act (.free 0 0 .last)]

/-- An element that the refill left in the shared queue has not been written to. -/
theorem backing_refill :
    ((used smallHeap (buildAndLease ++ refill)).allocate 0 0 .zero).2.backings[0]?.map
      (fun r => (r.backing.layout.size, r.backing.memory.written.isEmpty)) = some (64, true) := by
  decide +kernel

set_option maxRecDepth 1000 in
/-- An element that comes back from the local queue has not been written to since it was freed. -/
theorem backing_writeAndFree (memory : Memory) :
    ((used smallHeap (buildAndLease ++ writeAndFree memory)).allocate 0 0 .zero).2.backings[0]?.map
      (fun r => (r.backing.layout.size, r.backing.memory)) = some (64, memory) := by
  rfl

/-- With the zero flag, the shared queue hands out an element that no one has filled, and the local
queue one that still holds the ones that its last owner wrote. -/
theorem allocate_zero_from_queues :
    let ones := Memory.untouched.fill 0 64 0xff
    let shared := (used smallHeap (buildAndLease ++ refill)).allocate 0 0 .zero
    let cached := (used smallHeap (buildAndLease ++ writeAndFree ones)).allocate 0 0 .zero
    (∀ r ∈ smallHeap, r.IsNew) ∧ AllocFlags.zero.contains .zero = true ∧
    (∃ r, shared.1 = .ok ⟨1, 1⟩ ∧ shared.2.backings[0]? = some r ∧ 0 < r.backing.layout.size ∧
      r.backing.memory.contents 1 0 ≠ 0) ∧
    ∃ r, cached.1 = .ok ⟨0, 1⟩ ∧ cached.2.backings[0]? = some r ∧ 0 < r.backing.layout.size ∧
      r.backing.memory.contents 0 0 = 0xff := by
  obtain ⟨r, hr, hleft⟩ := Option.map_eq_some_iff.1 backing_refill
  obtain ⟨r', hr', hwritten⟩ := Option.map_eq_some_iff.1 (backing_writeAndFree _)
  obtain ⟨hsize, hempty⟩ := Prod.mk.inj hleft
  obtain ⟨hsize', hmemory⟩ := Prod.mk.inj hwritten
  refine ⟨smallHeap_isNew, by decide, ⟨r, by decide +kernel, hr, ?_, ?_⟩, r', by decide +kernel,
    hr', ?_, ?_⟩
  · rw [hsize]
    decide
  · rw [Memory.contents_of_isEmpty hempty]
    decide
  · rw [hsize']
    decide
  · rw [hmemory, Memory.contents_fill]
    rfl

end Session

end TieredPool
