import TieredPool.Proofs.Backing.Store
import TieredPool.Proofs.Crew.Run
import TieredPool.Proofs.Pool.Building

/-!
# Laws of crews

What holds however the leases of a pool interleave. No queue is filled beyond its size, and no
assertion on a local queue fails. Those on the shared queue rely on what an earlier call saw of it,
and fail if others came in between: two leases may both find the queue short of a batch and both
refill it, or one may find it full and the others empty it before the first has drained it.
-/

namespace TieredPool

/-- The crew of a pool that is built over a backing, before any lease is taken. -/
def Plan.crew? {β : Type} [Backing β] (p : Plan) (id : Nat) (backing : β) (held : List Element) :
    Option (Crew β) :=
  match p.build id (some backing) with
  | ⟨.ok pool, some backing, _, _⟩ => some (.create ⟨pool, backing, #[]⟩ held)
  | _ => none

namespace Crew

/-! ## Leases that disturb each other -/

def openHeap : Store := .heap ⟨⟨64, 8⟩, none, 0, {}, fun _ => false, .untouched⟩

def smallPlan (preallocate cpus : Nat) : Plan :=
  { localSize := 16, sharedSize := 64, preallocate, cpus := some cpus }

def calls (cpu count : Nat) : List Move := List.replicate count (.advance cpu)

/-- Two leases find the shared queue empty and both refill it. -/
def refillTogether : List Move :=
  [.lease 0, .lease 1, .allocate 0 .none] ++ calls 0 2 ++ [.allocate 1 .none] ++ calls 1 2 ++
    calls 0 37 ++ calls 1 37

/-- One lease finds the shared queue full, and three others empty it before the first drains it. -/
def drainTogether : List Move :=
  [.lease 0, .lease 1, .lease 2, .lease 3, .lease 4] ++
    (.allocate 0 .none :: calls 0 4) ++ (.allocate 1 .none :: calls 1 4) ++
    (.allocate 2 .none :: calls 2 4) ++ (.allocate 3 .none :: calls 3 39) ++
    (.free 1 1 :: calls 1 4) ++ (.free 0 0 :: calls 0 4) ++
    (.allocate 1 .none :: calls 1 4) ++ (.allocate 3 .none :: calls 3 4) ++
    (.allocate 4 .none :: calls 4 4) ++ calls 0 18

def faults? {β : Type} (c : Crew β) : List (Option Fault) := c.members.map Member.fault?

/-- **Leases stop**: the second of two refills at the same time is rejected half-way, and a drain runs
dry while others refill their local queues. -/
theorem disturbed_leases_stop :
    ((smallPlan 0 2).crew? 1 openHeap []).map (fun c => (c.follow refillTogether).faults?) =
      some [none, some (.sharedRefillRejected 16)] ∧
    ((smallPlan 63 5).crew? 1 openHeap []).map (fun c => (c.follow drainTogether).faults?) =
      some [some (.shrinkRanDry 0), none, none, none, none] := by
  decide +kernel

/-! ## Leases in any order -/

section Laws

variable {β : Type} [Backing β] [LawfulBacking β] {plan : Plan} {id : Nat} {b : β}
  {m : Multiset Handle} {held : List Element} {c : Crew β}

theorem InOrder.of_crew? (hout : LawfulBacking.Out b m) (hheld : ∀ e ∈ held, e.pool ≠ id)
    (hcrew : plan.crew? id b held = some c) :
    c.InOrder fun cpu => ⟨⟨id, cpu⟩, plan.localSize, plan.sharedSize⟩ := by
  unfold Plan.crew? at hcrew
  split at hcrew
  · next pool backing numbered reports hbuild =>
    cases hcrew
    obtain ⟨hplan, cpus, hconstructed⟩ := Plan.build_eq_ok hout hbuild
    obtain ⟨hpool, hid, hsound, -, -, hleft⟩ := hconstructed.of_ok hplan hout
    obtain ⟨items, hstock⟩ := hconstructed.exists_stock_eq
    have hseat : pool.stock.seat = fun cpu => ⟨⟨id, cpu⟩, plan.localSize, plan.sharedSize⟩ := by
      rw [hstock]
      rfl
    have hforeign : ∀ e ∈ held, e.pool ≠ pool.id := hid.symm ▸ hheld
    have hwf := WF.create (w := ⟨pool, backing, #[]⟩) hpool hsound hforeign hleft
    exact ⟨_, _, hseat ▸ hwf⟩
  · cases hcrew

/-- **Capacity.** However the leases of a pool interleave, every queue holds fewer elements than it
has slots. -/
theorem follow_within_capacity (hout : LawfulBacking.Out b m) (hheld : ∀ e ∈ held, e.pool ≠ id)
    (hcrew : plan.crew? id b held = some c) (moves : List Move) :
    (c.follow moves).world.pool.shared.entries ≤ plan.sharedSize - 1 ∧
    ∀ cache ∈ (c.follow moves).world.pool.caches.toList,
      cache.queue.entries ≤ plan.localSize - 1 := by
  obtain ⟨hands, others, hwf⟩ := (InOrder.of_crew? hout hheld hcrew).follow moves
  have hlocal := congrArg (fun seat => (seat 0).localSize) hwf.seat_eq
  have hshared := congrArg (fun seat => (seat 0).sharedSize) hwf.seat_eq
  dsimp only [Stock.seat] at hlocal hshared
  rw [← hlocal, ← hshared]
  refine ⟨?_, fun cache hmem => ?_⟩
  · rw [hwf.pool.shared.entries_eq]
    exact Nat.le_sub_one_of_lt hwf.sound.shared_lt
  · rw [(hwf.pool.caches cache hmem).queue.entries_eq]
    exact Nat.le_sub_one_of_lt (hwf.sound.items_lt cache.shelf (List.mem_map_of_mem hmem))

/-- **Interleaving.** However the leases of a pool interleave their calls, over any lawful backing,
a lease stops on an assertion only if it was given an element of another pool to free; or if its
refill was rejected after others had added to the shared queue all but 47 of its size since the
queue was last short of a batch for this lease; or if its drain ran dry after others had removed as
much since the queue last had no room for a batch of this lease. -/
theorem stops_only_if_disturbed (hout : LawfulBacking.Out b m) (hheld : ∀ e ∈ held, e.pool ≠ id)
    (hcrew : plan.crew? id b held = some c) (moves : List Move) {cpu : Nat} {member : Member}
    {fault : Fault} (hmember : (c.follow moves).members[cpu]? = some member)
    (hfault : member.fault? = some fault) :
    (∃ owner, owner ≠ id ∧ fault = .foreignElement owner id) ∨
    (∃ filled, fault = .sharedRefillRejected filled ∧ plan.sharedSize ≤ member.added + 47) ∨
    ∃ round, fault = .shrinkRanDry round ∧ plan.sharedSize ≤ member.removed + 47 := by
  cases ((InOrder.of_crew? hout hheld hcrew).follow moves).blameless hmember hfault with
  | foreign howner => exact .inl ⟨_, howner, rfl⟩
  | crowded filled hcrowded => exact .inr (.inl ⟨filled, rfl, hcrowded⟩)
  | starved round hstarved => exact .inr (.inr ⟨round, rfl, hstarved⟩)

end Laws

/-- The lease whose refill was rejected was disturbed by that of the other. -/
theorem stops_only_if_disturbed_refillTogether :
    LawfulBacking.Out openHeap 0 ∧ (∀ e ∈ [(⟨7, 2⟩ : Element)], e.pool ≠ 1) ∧
    ∃ c, (smallPlan 0 2).crew? 1 openHeap [⟨7, 2⟩] = some c ∧
      ∃ member, (c.follow refillTogether).members[1]? = some member ∧
        member.fault? = some (.sharedRefillRejected 16) ∧
        (smallPlan 0 2).sharedSize ≤ member.added + 47 := by
  have hout : LawfulBacking.Out openHeap 0 := (Store.IsNew.heap ..).out
  have hheld : ∀ e ∈ [(⟨7, 2⟩ : Element)], e.pool ≠ 1 := by decide
  have hfault : ((smallPlan 0 2).crew? 1 openHeap [⟨7, 2⟩]).bind (fun c =>
      (c.follow refillTogether).members[1]?.bind Member.fault?) =
        some (.sharedRefillRejected 16) := by decide +kernel
  obtain ⟨c, hcrew, hfault⟩ := Option.bind_eq_some_iff.1 hfault
  obtain ⟨member, hmember, hfault⟩ := Option.bind_eq_some_iff.1 hfault
  refine ⟨hout, hheld, c, hcrew, member, hmember, hfault, ?_⟩
  rcases stops_only_if_disturbed hout hheld hcrew refillTogether hmember hfault with
    ⟨_, _, h⟩ | ⟨_, _, h⟩ | ⟨_, h, _⟩
  · cases h
  · exact h
  · cases h

end Crew

end TieredPool
