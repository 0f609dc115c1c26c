import TieredPool.Pool.Lease
import TieredPool.Proofs.Pool.Stock

/-!
# What a lease can touch

The routines of a lease make calls on the shared queue, on the queue of their CPU, and to the
backing, and step the counters of the pool and of that CPU. `Routine.Within` says so of a routine
call by call, whatever the answers are. A pool on which such a routine runs is the same afterwards
but for what belongs to all CPUs or to this one (`Routine.Within.run`), also where the routine stops
on a fault.
-/

namespace TieredPool

/-! ## Footprints -/

/-- The queue is the shared one, or that of the CPU. -/
def Queue.Within (cpu : Nat) : Queue → Prop
  | shared => True
  | cache other => other = cpu

/-- The counter is one of the pool, or of the CPU. -/
def Counter.Within (cpu : Nat) : Counter → Prop
  | sharedRefills | backingDrains => True
  | refills other | overflows other | drains other => other = cpu

def Call.Within (cpu : Nat) : Call → Prop
  | push queue _ _ | pull queue _ _ | length queue => queue.Within cpu
  | count counter => counter.Within cpu
  | request _ | giveBack _ | report _ => True

/-- All calls of the routine are on what belongs to all CPUs or to this one. -/
def Routine.Within {α : Type} (cpu : Nat) : Routine α → Prop
  | done _ | abort _ => True
  | call c next => c.Within cpu ∧ ∀ answer, (next answer).Within cpu

/-- The pools are the same but for the shared queue, the counts of dealings with the backing, and
the queue and the counts of one CPU. -/
structure Pool.SameBut (cpu : Nat) (p p' : Pool) : Prop where
  id_eq : p'.id = p.id
  flags_eq : p'.flags = p.flags
  preallocated_eq : p'.preallocated = p.preallocated
  localSize_eq : p'.localSize = p.localSize
  cpus_eq : p'.cpus = p.cpus
  other (i : Nat) (hi : i ≠ cpu) : p'.caches[i]? = p.caches[i]?
  /-- Who has the CPU stays the same. -/
  lease : p'.caches[cpu]?.map (fun cache => (cache.owner, cache.leased)) =
    p.caches[cpu]?.map fun cache => (cache.owner, cache.leased)

namespace Pool.SameBut

variable {cpu : Nat} {p p' p'' : Pool}

theorem refl (cpu : Nat) (p : Pool) : p.SameBut cpu p :=
  ⟨rfl, rfl, rfl, rfl, rfl, fun _ _ => rfl, rfl⟩

theorem trans (h : p.SameBut cpu p') (h' : p'.SameBut cpu p'') : p.SameBut cpu p'' where
  id_eq := h'.id_eq.trans h.id_eq
  flags_eq := h'.flags_eq.trans h.flags_eq
  preallocated_eq := h'.preallocated_eq.trans h.preallocated_eq
  localSize_eq := h'.localSize_eq.trans h.localSize_eq
  cpus_eq := h'.cpus_eq.trans h.cpus_eq
  other i hi := (h'.other i hi).trans (h.other i hi)
  lease := h'.lease.trans h.lease

theorem onShared {τ : Type} (cpu : Nat) (f : Ring Handle → τ × Ring Handle) (p : Pool) :
    p.SameBut cpu (p.onShared f).2 :=
  ⟨rfl, rfl, rfl, rfl, rfl, fun _ _ => rfl, rfl⟩

theorem withTraffic (cpu : Nat) (p : Pool) (traffic : Traffic) :
    p.SameBut cpu { p with traffic } :=
  ⟨rfl, rfl, rfl, rfl, rfl, fun _ _ => rfl, rfl⟩

/-- Work on the tier of the CPU that leaves the lease alone. -/
theorem onCache {τ : Type} (cpu : Nat) {f : Cache → τ × Cache} (p : Pool)
    (hf : ∀ cache, (f cache).2.owner = cache.owner ∧ (f cache).2.leased = cache.leased) :
    p.SameBut cpu (p.onCache cpu f).2 := by
  by_cases hcpu : cpu < p.caches.size
  · rw [p.onCache_of_lt hcpu]
    refine ⟨rfl, rfl, rfl, rfl, Array.size_set hcpu, fun i hi => ?_, ?_⟩
    · exact Array.getElem?_set_ne hcpu hi.symm
    · obtain ⟨howner, hleased⟩ := hf p.caches[cpu]
      dsimp only
      rw [Array.getElem?_set_self hcpu, Array.getElem?_eq_getElem hcpu, Option.map_some,
        Option.map_some, howner, hleased]
  · rw [p.onCache_of_not_lt hcpu]
    exact .refl cpu p

theorem onQueue {τ : Type} {queue : Queue} (hqueue : queue.Within cpu)
    (f : Ring Handle → Except Fault τ × Ring Handle) (p : Pool) :
    p.SameBut cpu (p.onQueue queue f).2 := by
  cases queue with
  | shared => exact .onShared cpu f p
  | cache other =>
    obtain rfl : other = cpu := hqueue
    have hcache : p.SameBut other (p.onCache other (Cache.onQueue f)).2 :=
      .onCache other p fun _ => ⟨rfl, rfl⟩
    rw [Pool.onQueue]
    rcases hwork : p.onCache other (Cache.onQueue f) with ⟨_ | answer, p'⟩ <;>
      rw [hwork] at hcache
    · exact hcache
    · exact hcache

theorem step {counter : Counter} (hcounter : counter.Within cpu) (p : Pool) :
    p.SameBut cpu (p.step counter) := by
  cases counter with
  | sharedRefills | backingDrains => exact .withTraffic cpu p _
  | refills other | overflows other | drains other =>
    obtain rfl : other = cpu := hcounter
    exact .onCache other p fun _ => ⟨rfl, rfl⟩

end Pool.SameBut

section Running

variable {α γ β : Type} [Backing β] {cpu : Nat}

/-- **One call** leaves the rest of the pool alone. -/
theorem World.perform_sameBut {c : Call} (h : c.Within cpu) (w : World β) :
    w.pool.SameBut cpu (w.perform c).2.pool := by
  obtain ⟨pool, backing, events⟩ := w
  cases c with
  | push queue access items => exact .onQueue h _ pool
  | pull queue access count => exact .onQueue h _ pool
  | length queue => exact .onQueue h _ pool
  | request flags =>
    simp only [perform, request]
    split
    · exact .withTraffic cpu pool _
    · exact .refl cpu pool
  | giveBack handle =>
    simp only [perform, giveBack]
    split
    · exact .withTraffic cpu pool _
    · exact .refl cpu pool
  | count counter => exact .step h pool
  | report event => exact .refl cpu pool

namespace Routine

theorem Within.bind {r : Routine α} {k : α → Routine γ} (h : r.Within cpu)
    (hk : ∀ a, (k a).Within cpu) : (r >>= k).Within cpu := by
  induction r with
  | done a => exact hk a
  | abort fault => exact h
  | call c next ih => exact ⟨h.1, fun answer => ih answer (h.2 answer)⟩

theorem Within.ask {c : Call} (h : c.Within cpu) : (Routine.ask c).Within cpu :=
  ⟨h, fun _ => trivial⟩

theorem ensure_within (cpu : Nat) (condition : Bool) (fault : Fault) :
    (ensure condition fault).Within cpu := by
  rw [ensure]
  split <;> exact trivial

theorem giveBackAll_within (cpu : Nat) (items : List Handle) : (giveBackAll items).Within cpu := by
  induction items with
  | nil => exact trivial
  | cons handle items ih => exact .bind (.ask trivial) fun _ => ih

/-- **A routine** within its footprint leaves the rest of the pool alone, wherever it ends. -/
theorem Within.run {r : Routine α} (h : r.Within cpu) (w : World β) :
    w.pool.SameBut cpu (r.run w).2.pool := by
  induction r generalizing w with
  | done result => exact .refl cpu w.pool
  | abort fault => exact .refl cpu w.pool
  | call c next ih =>
    have hcall := World.perform_sameBut h.1 w
    rw [Routine.run]
    rcases hperform : w.perform c with ⟨fault | answer, w'⟩ <;> rw [hperform] at hcall
    · exact hcall
    · exact hcall.trans (ih answer (h.2 answer) w')

end Routine

end Running

/-! ## The routines of a lease -/

namespace Pool.Lease

open Routine (Within)

theorem gather_within (cpu : Nat) (flags : AllocFlags) (obtained : List Handle) (count : Nat) :
    (gather flags obtained count).Within cpu := by
  induction count generalizing obtained with
  | zero => exact trivial
  | succ count ih =>
    refine .bind (.ask trivial) fun answer => ?_
    cases answer with
    | none => exact trivial
    | some handle => exact ih _

theorem refillShared_within (l : Lease) (cpu : Nat) (flags : AllocFlags) (batches : Nat) :
    (l.refillShared flags batches).Within cpu := by
  induction batches with
  | zero => exact trivial
  | succ batches ih =>
    refine .bind (gather_within cpu flags [] batch) fun items => ?_
    refine .bind (.ask trivial) fun accepted => .bind (Routine.ensure_within ..) fun _ => ?_
    split
    · split
      · exact trivial
      · exact .ask trivial
    · exact ih

theorem allocateFromBacking_within (l : Lease) (cpu : Nat) (flags : AllocFlags) :
    (l.allocateFromBacking flags).Within cpu := by
  refine .bind (.ask trivial) fun answer => ?_
  cases answer with
  | none =>
    dsimp only
    split
    · exact trivial
    · exact .bind (.ask trivial) fun _ => trivial
  | some handle =>
    refine .bind (.ask trivial) fun _ => ?_
    exact .bind (l.refillShared_within cpu flags refillBatches) fun _ => trivial

theorem refillLocal_within (l : Lease) : l.refillLocal.Within l.cpu := by
  refine .bind (.ask trivial) fun answer => ?_
  split
  · refine .bind (.ask rfl) fun accepted => .bind (Routine.ensure_within ..) fun _ => ?_
    exact .bind (.ask rfl) fun _ => trivial
  · exact trivial

/-- **An allocation** touches what belongs to all CPUs or to its own. -/
theorem allocate_within (l : Lease) (flags : AllocFlags) : (l.allocate flags).Within l.cpu := by
  refine .bind (.ask rfl) fun answer => ?_
  split
  · exact trivial
  · refine .bind l.refillLocal_within fun handle => ?_
    cases handle with
    | some handle => exact trivial
    | none =>
      refine .bind (.ask trivial) fun _ => ?_
      exact .bind (l.allocateFromBacking_within l.cpu flags) fun _ => trivial

theorem shrinkShared_within (l : Lease) (cpu round batches : Nat) :
    (l.shrinkShared round batches).Within cpu := by
  induction batches generalizing round with
  | zero => exact trivial
  | succ batches ih =>
    refine .bind (.ask trivial) fun answer => ?_
    cases answer with
    | none => exact trivial
    | some items => exact .bind (Routine.giveBackAll_within cpu items) fun _ => ih _

theorem drain_within (l : Lease) (cpu : Nat) (items : List Handle) :
    (l.drain items).Within cpu := by
  refine .bind (Routine.giveBackAll_within cpu items) fun _ => ?_
  exact .bind (l.shrinkShared_within cpu 0 refillBatches) fun _ => .ask trivial

theorem overflow_within (l : Lease) (handle : Handle) : (l.overflow handle).Within l.cpu := by
  refine .bind (.ask rfl) fun _ => .bind (.ask rfl) fun answer => ?_
  cases answer with
  | none => exact trivial
  | some rest =>
    refine .bind (.ask trivial) fun accepted => ?_
    split
    · exact trivial
    · refine .bind (.ask trivial) fun _ => ?_
      exact .bind (l.drain_within l.cpu (handle :: rest)) fun _ => .ask rfl

/-- **A free** touches what belongs to all CPUs or to its own. -/
theorem free_within (l : Lease) (e : Element) : (l.free e).Within l.cpu := by
  refine .bind (Routine.ensure_within ..) fun _ => .bind (.ask rfl) fun accepted => ?_
  split
  · exact trivial
  · exact l.overflow_within e.handle

end Pool.Lease

end TieredPool
