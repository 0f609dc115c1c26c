import TieredPool.Proofs.Workshop.Transition

/-!
# Schedules of a workshop

Every move keeps a workshop in order (`Workshop.Moved.wf`), and so does every schedule
(`Workshop.WF.follow`). A move changes one worker and adds to one mailbox at most; sums over the
workers change by as much (`Workshop.exists_sum_eq`).
-/

namespace TieredPool

namespace Workshop

/-! ## One move -/

section Step

variable {w w' : Workshop} {id : Nat} {worker worker' : Worker} {sent : List (List Element)}

/-- The workers after a move are those before, but for the one that moved and the mailbox of the
next. -/
theorem exists_of_getElem? {workers : Array Worker} {next j : Nat} {x : Worker}
    (h : ((workers.setIfInBounds id worker').modify next (Worker.post sent))[j]? = some x) :
    ∃ y, x = y.post (if next = j then sent else []) ∧
      (id = j ∧ y = worker' ∨ id ≠ j ∧ workers[j]? = some y) := by
  have hpost : ∃ y, (workers.setIfInBounds id worker')[j]? = some y ∧
      x = y.post (if next = j then sent else []) := by
    rw [Array.getElem?_modify] at h
    split at h
    · next heq =>
      obtain ⟨y, hy, rfl⟩ := Option.map_eq_some_iff.1 h
      exact ⟨y, hy, by rw [if_pos heq]⟩
    · next hne => exact ⟨x, h, by rw [if_neg hne, Worker.post_nil]⟩
  obtain ⟨y, hy, hx⟩ := hpost
  refine ⟨y, hx, ?_⟩
  rw [Array.getElem?_setIfInBounds] at hy
  split at hy
  · next heq =>
    split at hy
    · exact .inl ⟨heq, (Option.some.inj hy).symm⟩
    · cases hy
  · next hne => exact .inr ⟨hne, hy⟩

theorem exists_sum_eq {M : Type} [AddCommMonoid M] (f : Worker → M) {p : M}
    (hworker : w.workers[id]? = some worker) (hpost : ∀ x : Worker, f (x.post sent) = f x + p)
    (hworkers : w'.workers =
      (w.workers.setIfInBounds id worker').modify (w.nextOf id) (Worker.post sent)) :
    ∃ others, w.sum f = f worker + others ∧ w'.sum f = f worker' + p + others := by
  obtain ⟨hid, -⟩ := Array.getElem?_eq_some_iff.1 hworker
  rw [← Array.getElem?_toList] at hworker
  obtain ⟨others, hsum, hset⟩ := exists_sum_map_modify f hworker
  have hnext : w.nextOf id < (w.workers.toList.modify id fun _ => worker').length := by
    rw [List.length_modify, Array.length_toList]
    exact nextOf_lt hid
  obtain ⟨rest, hsum', hmodify⟩ := exists_sum_map_modify f (List.getElem?_eq_getElem hnext)
  refine ⟨others, hsum, ?_⟩
  rw [sum, hworkers, Array.toList_modify, Array.toList_setIfInBounds, List.set_eq_modify, hmodify,
    hpost, add_right_comm, ← hsum', hset, add_right_comm]

namespace Moved

theorem size_eq (h : w.Moved id w') : w'.workers.size = w.workers.size := by
  obtain ⟨-, -, -, hworkers, -⟩ := h
  rw [hworkers, Array.size_modify, Array.size_setIfInBounds]

theorem nextOf_eq (h : w.Moved id w') (i : Nat) : w'.nextOf i = w.nextOf i := by
  rw [nextOf, nextOf, h.size_eq]

theorem reports (hmoved : w.Moved id w') (h : w.WF) :
    w'.sum (fun worker => worker.report.allocated) =
      w'.sum fun worker => worker.report.freed + worker.sentTo := by
  obtain @⟨worker, worker', freed, allocated, sent, hworker, hnext, -, hworkers, -⟩ := hmoved
  have hpost : ∀ x : Worker, (x.post sent).report.freed + (x.post sent).sentTo =
      x.report.freed + x.sentTo + sent.flatten.length := by
    intro x
    rw [Worker.sentTo_post, ← Nat.add_assoc]
    rfl
  obtain ⟨others, hallocated, hallocated'⟩ :=
    exists_sum_eq (fun worker => worker.report.allocated) (p := 0) hworker (fun _ => rfl) hworkers
  obtain ⟨others', hfreed, hfreed'⟩ :=
    exists_sum_eq (fun worker => worker.report.freed + worker.sentTo) hworker hpost hworkers
  have hold := h.reports
  have hstep := hnext.reports_eq
  rw [hallocated, hfreed] at hold
  rw [hallocated', hfreed']
  omega

theorem keeping (hmoved : w.Moved id w') (h : w.WF) (hkeeping : w.crossCpuFree = false) {i : Nat}
    {x : Worker} (hx : w'.workers[i]? = some x) : x.mailbox = [] ∧ x.phase ≠ .receiving := by
  obtain ⟨hworker, hnext, -, hworkers, -⟩ := hmoved
  rw [hkeeping] at hnext
  rw [hworkers] at hx
  obtain ⟨hmailbox, hphase⟩ := h.keeping hkeeping hworker
  obtain ⟨rfl, hmailbox', hphase'⟩ := hnext.keeping hphase
  obtain ⟨y, rfl, ⟨-, rfl⟩ | ⟨-, hy⟩⟩ := exists_of_getElem? hx
  all_goals rw [ite_self, Worker.post_nil]
  · exact ⟨hmailbox'.trans hmailbox, hphase'⟩
  · exact h.keeping hkeeping hy

/-- The bursts that a worker has still to take stay those in its mailbox and those still to be
sent. -/
theorem rounds (hmoved : w.Moved id w') (h : w.WF) (hcrossing : w.crossCpuFree = true) {i : Nat}
    {sender receiver : Worker} (hsender : w'.workers[i]? = some sender)
    (hreceiver : w'.workers[w.nextOf i]? = some receiver) :
    receiver.mailbox.length + sender.unsent = receiver.unreceived := by
  obtain @⟨worker, worker', freed, allocated, sent, hworker, hnext, hdealt, hworkers, hcross⟩ :=
    hmoved
  rw [hcrossing] at hnext
  rw [hworkers] at hsender hreceiver
  obtain ⟨hsent, htaken⟩ := hnext.rounds_eq
  obtain ⟨x, rfl, hx⟩ := exists_of_getElem? hsender
  obtain ⟨y, rfl, hy⟩ := exists_of_getElem? hreceiver
  have hposted : (y.mailbox ++ if w.nextOf id = w.nextOf i then sent else []).length =
      y.mailbox.length + if id = i then sent.length else 0 := by
    rw [List.length_append]
    by_cases hi : id = i
    · rw [if_pos (congrArg _ hi), if_pos hi]
    · obtain ⟨hi', -⟩ | ⟨-, hx⟩ := hx
      · exact absurd hi' hi
      · obtain ⟨hid, -⟩ := Array.getElem?_eq_some_iff.1 hworker
        obtain ⟨hlt, -⟩ := Array.getElem?_eq_some_iff.1 hx
        rw [if_neg fun heq => hi (nextOf_inj hid hlt heq), if_neg hi, List.length_nil]
  change (y.mailbox ++ _).length + x.unsent = y.unreceived
  rw [hposted]
  -- the sender moved or not, and the receiver moved or not
  rcases hx with ⟨rfl, rfl⟩ | ⟨hi, hx⟩ <;> rcases hy with ⟨hj, rfl⟩ | ⟨hj, hy⟩
  · have hold := h.rounds hcrossing hworker (hj ▸ hworker)
    rw [if_pos rfl]
    omega
  · have hold := h.rounds hcrossing hworker hy
    rw [if_pos rfl]
    omega
  · have hold := h.rounds hcrossing hx (hj ▸ hworker)
    rw [if_neg hi]
    omega
  · have hold := h.rounds hcrossing hx hy
    rw [if_neg hi]
    omega

/-- **A move** keeps a workshop in order. -/
theorem wf (hmoved : w.Moved id w') (h : w.WF) : w'.WF := by
  have hmove := hmoved
  obtain @⟨worker, worker', freed, allocated, sent, hworker, hnext, hdealt, hworkers, hcross⟩ :=
    hmove
  -- the elements that stay where they are, with the worker or elsewhere
  obtain ⟨kept, hkept, hkept'⟩ := hnext.exists_kept (h.worker hworker)
  obtain ⟨others, hsum, hsum'⟩ :=
    exists_sum_eq Worker.elements hworker (Worker.elements_post sent) hworkers
  refine
    { pool := hdealt.pool, sound := hdealt.sound, worker := fun hget => ?_,
      lease := fun {j x} hget => ?_, home := fun e hmem => ?_, audited := ?_, reports := ?_,
      rounds := fun hcrossing {i sender receiver} hsender hreceiver => ?_,
      keeping := fun hkeeping {j x} hget => ?_ }
  · rw [hworkers] at hget
    obtain ⟨y, rfl, ⟨-, rfl⟩ | ⟨-, hy⟩⟩ := exists_of_getElem? hget
    · exact (hnext.wf (h.worker hworker)).post _
    · exact (h.worker hy).post _
  · rw [hworkers] at hget
    rw [hdealt.leases_eq]
    obtain ⟨y, rfl, ⟨rfl, rfl⟩ | ⟨hne, hy⟩⟩ := exists_of_getElem? hget
    · obtain ⟨hlt, -⟩ := List.getElem?_eq_some_iff.1 (h.lease hworker)
      rw [List.getElem?_set_self hlt]
      rfl
    · have hlease := h.lease hy
      rw [List.getElem?_set_ne hne]
      exact hlease
  · rw [hdealt.id_eq]
    rw [elements, hsum', hkept', add_assoc] at hmem
    rcases Multiset.mem_add.1 hmem with hnew | hold
    · exact hdealt.home e hnew
    · refine h.home e ?_
      rw [elements, hsum, hkept, add_assoc]
      exact Multiset.mem_add.2 (.inr hold)
  · have haudited := h.audited
    rw [elements, hsum, hkept, add_assoc, Multiset.map_add, ← add_assoc, Multiset.map_coe]
      at haudited
    rw [elements, hsum', hkept', add_assoc, Multiset.map_add, ← add_assoc, Multiset.map_coe]
    exact hdealt.audited haudited
  · exact hmoved.reports h
  · exact hmoved.rounds h (hcross ▸ hcrossing) hsender (hmoved.nextOf_eq i ▸ hreceiver)
  · exact hmoved.keeping h (hcross ▸ hkeeping) hget

end Moved

end Step

namespace WF

variable {w : Workshop}

theorem move_wf (h : w.WF) (id : Nat) : (w.move id).WF := by
  by_cases hmove : w.canMove id = true
  · exact (h.move hmove).wf h
  · rwa [move_of_not_canMove (Bool.eq_false_iff.2 hmove)]

/-- **Every schedule** keeps a workshop in order. -/
theorem follow (h : w.WF) (schedule : List Nat) : (w.follow schedule).WF := by
  induction schedule generalizing w with
  | nil => exact h
  | cons id schedule ih => exact ih (h.move_wf id)

end WF

/-! ## The beginning and the end -/

theorem sum_eq_zero {M : Type} [AddCommMonoid M] {w : Workshop} {f : Worker → M}
    (h : ∀ worker ∈ w.workers, f worker = 0) : w.sum f = 0 := by
  refine List.sum_eq_zero fun x hmem => ?_
  obtain ⟨worker, hworker, rfl⟩ := List.mem_map.1 hmem
  exact h worker (Array.mem_toList_iff.1 hworker)

theorem of_getElem?_create {world : World Store} {threads : Nat} {bursts : Nat → List Nat}
    {crossCpuFree : Bool} {transcript : Transcript} {id : Nat} {worker : Worker}
    (h : (create world threads bursts crossCpuFree transcript).workers[id]? = some worker) :
    id < threads ∧ worker = { bursts := bursts id } := by
  obtain ⟨hlt, rfl⟩ := Array.getElem?_eq_some_iff.1 h
  rw [create, Array.size_ofFn] at hlt
  exact ⟨hlt, Array.getElem_ofFn _⟩

/-- Workers that have not begun, on a pool with a CPU for each that is not leased, are in order, if
they can make their bursts and all have as many. -/
theorem wf_create {world : World Store} {threads rounds : Nat} {bursts : Nat → List Nat}
    (crossCpuFree : Bool) (transcript : Transcript) (hpool : world.pool.WF)
    (hsound : world.pool.stock.Sound)
    (hleases : ∀ id < threads, world.pool.stock.leases[id]? = some false)
    (haudited : world.backing.Audited world.pool.stock.elements)
    (hbursts : ∀ id < threads,
      (bursts id).length = rounds ∧ ∀ burst ∈ bursts id, burst ≠ 0 ∧ fits burst = true) :
    (create world threads bursts crossCpuFree transcript).WF := by
  have hnone : (create world threads bursts crossCpuFree transcript).elements = 0 := by
    refine sum_eq_zero fun worker hmem => ?_
    obtain ⟨id, hget⟩ := Array.getElem?_of_mem hmem
    obtain ⟨-, rfl⟩ := of_getElem?_create hget
    rfl
  refine
    { pool := hpool, sound := hsound, worker := fun {id worker} hget => ?_,
      lease := fun {id worker} hget => ?_, home := fun e hmem => ?_, audited := ?_, reports := ?_,
      rounds := fun hcrossing {id sender receiver} hsender hreceiver => ?_,
      keeping := fun hkeeping {id worker} hget => ?_ }
  · obtain ⟨hlt, rfl⟩ := of_getElem?_create hget
    exact ⟨(hbursts id hlt).2, by simp, by simp, fun _ => rfl, by simp⟩
  · obtain ⟨hlt, rfl⟩ := of_getElem?_create hget
    exact hleases id hlt
  · rw [hnone] at hmem
    exact absurd hmem (Multiset.notMem_zero e)
  · rw [hnone, Multiset.map_zero, add_zero]
    exact haudited
  · rw [sum_eq_zero, sum_eq_zero]
    all_goals
      intro worker hmem
      obtain ⟨id, hget⟩ := Array.getElem?_of_mem hmem
      obtain ⟨-, rfl⟩ := of_getElem?_create hget
      rfl
  · obtain ⟨hlt, rfl⟩ := of_getElem?_create hsender
    obtain ⟨hlt', rfl⟩ := of_getElem?_create hreceiver
    simp only [Worker.unsent, Worker.unreceived, Phase.unsent, Phase.unreceived,
      (hbursts _ hlt).1, (hbursts _ hlt').1, List.length_nil, Nat.zero_add]
  · obtain ⟨-, rfl⟩ := of_getElem?_create hget
    exact ⟨rfl, by simp⟩

/-- The reports of workers that have all finished add up. -/
theorem total_eq_ok {workers : List Worker} (h : ∀ worker ∈ workers, worker.phase = .finished)
    (id : Nat) (sum : WorkerReport) :
    total id sum workers = .ok
      { allocated := sum.allocated + (workers.map fun worker => worker.report.allocated).sum
        freed := sum.freed + (workers.map fun worker => worker.report.freed).sum
        failures := sum.failures + (workers.map fun worker => worker.report.failures).sum } := by
  induction workers generalizing id sum with
  | nil => rfl
  | cons worker workers ih =>
    have hresult : worker.result id = .ok worker.report := by
      rw [Worker.result, h worker List.mem_cons_self]
    have hrest := ih (fun worker hmem => h worker (List.mem_cons_of_mem _ hmem)) (id + 1)
      (sum.add worker.report)
    rw [total, hresult]
    simp only [List.map_cons, List.sum_cons, ← Nat.add_assoc]
    exact hrest

namespace WF

variable {w : Workshop}

/-- In a workshop in order a worker only stops when it has finished. -/
theorem isOver_iff (h : w.WF) :
    w.isOver = true ↔ ∀ worker ∈ w.workers, worker.phase = .finished := by
  rw [isOver, Array.all_eq_true']
  refine forall₂_congr fun worker hmem => ?_
  obtain ⟨id, hworker⟩ := Array.getElem?_of_mem hmem
  rw [Worker.hasStopped]
  cases hphase : worker.phase with
  | refused error => exact absurd hphase ((h.worker hworker).not_refused error)
  | panicked fault => exact absurd hphase ((h.worker hworker).not_panicked fault)
  | finished => exact iff_of_true rfl rfl
  | _ => simp

/-- Nothing is left in the mailboxes of workers that have all finished. -/
theorem mailbox_eq_nil (h : w.WF) (hover : w.isOver = true) {worker : Worker}
    (hmem : worker ∈ w.workers) : worker.mailbox = [] := by
  have hfinished := h.isOver_iff.1 hover
  obtain ⟨id, hworker⟩ := Array.getElem?_of_mem hmem
  cases hcrossing : w.crossCpuFree with
  | false => exact (h.keeping hcrossing hworker).1
  | true =>
    obtain ⟨hid, -⟩ := Array.getElem?_eq_some_iff.1 hworker
    obtain ⟨i, hi, rfl⟩ := exists_nextOf_eq hid
    have hrounds := h.rounds hcrossing (Array.getElem?_eq_getElem hi) hworker
    rw [(h.worker hworker).unreceived_eq_zero (hfinished worker hmem)] at hrounds
    exact List.eq_nil_of_length_eq_zero (Nat.eq_zero_of_add_eq_zero_right hrounds)

theorem elements_eq_zero (h : w.WF) (hover : w.isOver = true) : w.elements = 0 := by
  refine sum_eq_zero fun worker hmem => ?_
  obtain ⟨id, hworker⟩ := Array.getElem?_of_mem hmem
  have hphase := h.isOver_iff.1 hover worker hmem
  have hheld := (h.worker hworker).held
  rw [hphase] at hheld
  rw [Worker.elements, hheld rfl, hphase, h.mailbox_eq_nil hover hmem]
  rfl

/-- **When all workers have finished**, their reports add up and balance. -/
theorem exists_total_eq (h : w.WF) (hover : w.isOver = true) :
    ∃ report, total 0 {} w.workers.toList = .ok report ∧ report.freed = report.allocated := by
  have hfinished := h.isOver_iff.1 hover
  refine ⟨_, total_eq_ok (fun worker hmem => hfinished worker (Array.mem_toList_iff.1 hmem)) 0 {},
    ?_⟩
  have hreports := h.reports
  have htaken : w.sum (fun worker => worker.report.freed + worker.sentTo) =
      w.sum fun worker => worker.report.freed := by
    refine congrArg List.sum (List.map_congr_left fun worker hmem => ?_)
    rw [Worker.sentTo, h.mailbox_eq_nil hover (Array.mem_toList_iff.1 hmem)]
    rfl
  exact congrArg (0 + ·) (hreports.trans htaken).symm

/-- **The pool of workers that have all finished** gives all its elements back, and none is out of
the backing then. -/
theorem exists_retire_eq (h : w.WF) (hover : w.isOver = true) :
    ∃ pool store events, w.world.retire = (.ok (), ⟨pool, store, events⟩) ∧ store.Audited 0 := by
  have haudited := h.audited
  rw [h.elements_eq_zero hover, Multiset.map_zero, ← Stock.coe_contents] at haudited
  obtain ⟨store, hreclaim, hleft⟩ := @LawfulBacking.out_reclaim _ _ Store.auditing _ _ _ haudited
  obtain ⟨pool, events, hretire⟩ := World.retire_eq h.pool
    (fun shelf hmem => Nat.le_of_lt (h.sound.items_lt shelf hmem)) (Nat.le_of_lt h.sound.shared_lt)
    hreclaim
  exact ⟨pool, store, _, hretire, hleft⟩

end WF

end Workshop

end TieredPool
