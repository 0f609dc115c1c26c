import TieredPool.Proofs.Backing.Calls
import TieredPool.Proofs.Pool.Dealing
import TieredPool.Proofs.Workshop.Worker

/-!
# The invariant of a workshop

`Workshop.WF` ties the workers, their mailboxes and the pool together. A worker at work holds the
lease of its CPU. The elements out of the backing are those in the pool's queues and those in the
workers' hands and mailboxes. What the workers say to have allocated is what they say to have freed
and what is in mailboxes. And where bursts go to the next worker, those that a worker has still to
take are in its mailbox or still to be sent.
-/

namespace TieredPool

namespace Workshop

/-! ## The ring of workers -/

section Ring

variable {w : Workshop} {i j : Nat}

theorem nextOf_lt (h : i < w.workers.size) : w.nextOf i < w.workers.size :=
  Nat.mod_lt _ (Nat.lt_of_le_of_lt (Nat.zero_le i) h)

theorem nextOf_inj (hi : i < w.workers.size) (hj : j < w.workers.size)
    (h : w.nextOf i = w.nextOf j) : i = j := by
  have hwrap : ∀ k < w.workers.size,
      k + 1 < w.workers.size ∧ w.nextOf k = k + 1 ∨ k + 1 = w.workers.size ∧ w.nextOf k = 0 := by
    intro k hk
    rcases Nat.lt_or_eq_of_le (Nat.succ_le_of_lt hk) with hlt | heq
    · exact .inl ⟨hlt, Nat.mod_eq_of_lt hlt⟩
    · refine .inr ⟨heq, ?_⟩
      rw [nextOf, ← Nat.succ_eq_add_one, heq, Nat.mod_self]
  rcases hwrap i hi with hi' | hi' <;> rcases hwrap j hj with hj' | hj' <;> omega

/-- Every worker is the next of one. -/
theorem exists_nextOf_eq (h : j < w.workers.size) : ∃ i < w.workers.size, w.nextOf i = j := by
  rcases Nat.eq_zero_or_pos j with rfl | hpos
  · refine ⟨w.workers.size - 1, Nat.sub_lt h Nat.one_pos, ?_⟩
    rw [nextOf, Nat.sub_add_cancel h, Nat.mod_self]
  · refine ⟨j - 1, Nat.lt_of_le_of_lt (Nat.sub_le j 1) h, ?_⟩
    rw [nextOf, Nat.sub_add_cancel hpos, Nat.mod_eq_of_lt h]

end Ring

/-! ## The invariant -/

/-- A sum over the workers. -/
def sum {M : Type} [AddCommMonoid M] (w : Workshop) (f : Worker → M) : M :=
  (w.workers.toList.map f).sum

/-- The elements in hands and mailboxes. -/
def elements (w : Workshop) : Multiset Element := w.sum Worker.elements

structure WF (w : Workshop) : Prop where
  pool : w.world.pool.WF
  sound : w.world.pool.stock.Sound
  worker {id : Nat} {worker : Worker} : w.workers[id]? = some worker → worker.WF
  lease {id : Nat} {worker : Worker} :
    w.workers[id]? = some worker → w.world.pool.stock.leases[id]? = some worker.phase.isLeased
  home : ∀ e ∈ w.elements, e.pool = w.world.pool.id
  audited : w.world.backing.Audited
    (w.world.pool.stock.elements + w.elements.map Element.handle)
  reports : w.sum (fun worker => worker.report.allocated) =
    w.sum fun worker => worker.report.freed + worker.sentTo
  rounds (hcrossing : w.crossCpuFree = true) {id : Nat} {sender receiver : Worker} :
    w.workers[id]? = some sender → w.workers[w.nextOf id]? = some receiver →
      receiver.mailbox.length + sender.unsent = receiver.unreceived
  keeping (hkeeping : w.crossCpuFree = false) {id : Nat} {worker : Worker} :
    w.workers[id]? = some worker → worker.mailbox = [] ∧ worker.phase ≠ .receiving

/-- What a worker has is part of what all workers have. -/
theorem exists_elements_eq {w : Workshop} {id : Nat} {worker : Worker}
    (h : w.workers[id]? = some worker) : ∃ rest, w.elements = worker.elements + rest := by
  rw [← Array.getElem?_toList] at h
  obtain ⟨rest, hsum, -⟩ := exists_sum_map_modify Worker.elements h
  exact ⟨rest, hsum⟩

end Workshop

end TieredPool
