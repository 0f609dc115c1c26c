import Mathlib.Algebra.BigOperators.Ring.List
import Mathlib.Algebra.Order.BigOperators.Group.List
import TieredPool.Proofs.Workshop.Setup

/-!
# Stress runs that fail no allocation

As long as no allocation fails, a worker has at most one burst in its hands, or waits for one that
is due. As many bursts lie in mailboxes as are due, so all workers together never have more elements
than one burst each (`Workshop.Supplied.card_lt`). What the pool strands when it asks its backing is
bounded as well, and a backing with room for both refuses nothing. Then every worker allocates all
of its bursts, in whatever order the workers move.

The capacity that is reckoned for a chunk allocator counts the queues of the CPUs in the settings,
and the pool has one for each worker. It covers the run if there are as many CPUs as workers
(`Stress.covered_of_threads_le`), but not in general (`Stress.fails_crowded`).
-/

namespace TieredPool

/-! ## Bursts of one worker -/

namespace Phase

/-- The allocations that the burst still takes. -/
def missing : Phase → Nat
  | allocating missing => missing
  | _ => 0

/-- How many bursts the worker is due to take. -/
def due : Phase → Nat
  | receiving => 1
  | _ => 0

end Phase

namespace Worker

/-- What a worker will have allocated in the end, if no allocation fails. -/
def promised (worker : Worker) : Nat :=
  worker.report.allocated + worker.held.length + worker.phase.missing + worker.bursts.sum

/-- A worker of which no allocation has failed, and whose bursts are not larger than this. -/
structure Modest (most : Nat) (worker : Worker) : Prop where
  bursts : ∀ burst ∈ worker.bursts, burst ≤ most
  held : worker.held.length + worker.phase.missing ≤ most
  rest : worker.phase.rest.length ≤ most
  mailbox : ∀ burst ∈ worker.mailbox, burst.length ≤ most
  failures : worker.report.failures = 0

namespace Modest

variable {most : Nat} {worker : Worker}

theorem post (h : worker.Modest most) {bursts : List (List Element)}
    (hbursts : ∀ burst ∈ bursts, burst.length ≤ most) : (worker.post bursts).Modest most := by
  refine ⟨h.bursts, h.held, h.rest, ?_, h.failures⟩
  intro burst hmem
  rcases List.mem_append.1 hmem with hold | hnew
  · exact h.mailbox burst hold
  · exact hbursts burst hnew

theorem sentTo_le (h : worker.Modest most) : worker.sentTo ≤ most * worker.mailbox.length := by
  have hsum := List.sum_le_card_nsmul (worker.mailbox.map List.length) most fun n hmem => by
    obtain ⟨burst, hburst, rfl⟩ := List.mem_map.1 hmem
    exact h.mailbox burst hburst
  rw [List.length_map, Nat.nsmul_eq_mul, Nat.mul_comm] at hsum
  rw [sentTo, List.length_flatten]
  exact hsum

/-- **A worker has one burst in its hands**, or one is due. -/
theorem card_le (h : worker.Modest most) (hw : worker.WF) :
    worker.elements.card + worker.phase.missing + most * worker.phase.due ≤
      most + most * worker.mailbox.length := by
  have hmailbox := h.sentTo_le
  have hheld := h.held
  have hrest := h.rest
  have hempty := hw.held
  rw [card_elements]
  cases hphase : worker.phase with
  | allocating | handingOver =>
    rw [hphase] at hheld
    simp only [Phase.rest, Phase.due, List.length_nil]
    omega
  | receiving | freeing =>
    rw [hphase] at hheld hrest hempty
    rw [hempty rfl]
    simp only [Phase.rest, Phase.due, Phase.missing, List.length_nil] at hrest ⊢
    omega
  | starting | between | finished | refused | panicked =>
    rw [hphase] at hempty
    rw [hempty rfl]
    simp only [Phase.rest, Phase.due, Phase.missing, List.length_nil]
    omega

end Modest

namespace Next

variable {crossing : Bool} {worker worker' : Worker} {freed allocated : List Element}
  {sent : List (List Element)} {most : Nat}

/-- **A move in which no allocation fails** keeps a worker to its bursts, and so those it sends. -/
theorem modest (h : Next crossing worker freed allocated sent worker')
    (hm : worker.Modest most) (hsame : worker'.report.failures = worker.report.failures) :
    worker'.Modest most ∧ ∀ burst ∈ sent, burst.length ≤ most := by
  have hheld := hm.held
  have hrest := hm.rest
  have hnone : ∀ burst ∈ ([] : List (List Element)), burst.length ≤ most := fun _ hmem =>
    absurd hmem List.not_mem_nil
  cases h with
  | starts hphase | finishes hphase | rests hphase =>
    rw [hphase] at hheld
    exact ⟨⟨hm.bursts, hheld, Nat.zero_le most, hm.mailbox, hm.failures⟩, hnone⟩
  | @draws burst bursts hphase hbursts =>
    have hall := hm.bursts
    rw [hbursts] at hall
    refine ⟨⟨fun b hmem => hall b (List.mem_cons_of_mem _ hmem), ?_, Nat.zero_le most, hm.mailbox,
      hm.failures⟩, hnone⟩
    rw [List.length_nil, Nat.zero_add]
    exact hall burst List.mem_cons_self
  | completes hphase =>
    rw [hphase] at hheld
    exact ⟨⟨hm.bursts, hheld, Nat.zero_le most, hm.mailbox, hm.failures⟩, hnone⟩
  | @allocates missing e hphase =>
    rw [hphase, Phase.missing] at hheld
    refine ⟨⟨hm.bursts, ?_, ?_, hm.mailbox, hm.failures⟩, hnone⟩
    · dsimp only
      rw [List.length_cons]
      split
      · simp only [Phase.missing]
        omega
      · simp only [Phase.missing]
        omega
    · dsimp only
      split
      · exact Nat.zero_le most
      · exact Nat.zero_le most
  | fails => exact absurd hsame (Nat.succ_ne_self _)
  | keeps hphase =>
    simp only [hphase, Phase.missing, Nat.add_zero] at hheld
    refine ⟨⟨hm.bursts, Nat.zero_le most, ?_, hm.mailbox, hm.failures⟩, hnone⟩
    rw [begin, Phase.rest, List.length_reverse]
    exact hheld
  | sends hphase =>
    simp only [hphase, Phase.missing, Nat.add_zero] at hheld
    refine ⟨⟨hm.bursts, Nat.zero_le most, Nat.zero_le most, hm.mailbox, hm.failures⟩, ?_⟩
    intro burst hmem
    rw [List.mem_singleton.1 hmem, List.length_reverse]
    exact hheld
  | @takes burst mailbox hphase hmailbox =>
    have hall := hm.mailbox
    rw [hmailbox] at hall
    rw [hphase] at hheld
    exact ⟨⟨hm.bursts, hheld, hall burst List.mem_cons_self,
      fun b hmem => hall b (List.mem_cons_of_mem _ hmem), hm.failures⟩, hnone⟩
  | frees hphase =>
    rw [hphase] at hheld
    rw [hphase, Phase.rest, List.length_cons] at hrest
    exact ⟨⟨hm.bursts, hheld, Nat.le_of_succ_le hrest, hm.mailbox, hm.failures⟩, hnone⟩

/-- What a worker will have allocated in the end stays the same, unless an allocation fails. -/
theorem promised_eq (h : Next crossing worker freed allocated sent worker') (hw : worker.WF)
    (hsame : worker'.report.failures = worker.report.failures) :
    worker'.promised = worker.promised := by
  have hempty := hw.held
  unfold promised
  cases h with
  | draws hphase hbursts =>
    rw [hphase] at hempty
    simp only [hempty rfl, hphase, hbursts, Phase.missing, List.length_nil, List.sum_cons]
    omega
  | @allocates missing e hphase =>
    by_cases hlast : missing = 0
    · simp only [hphase, hlast, ↓reduceIte, Phase.missing, List.length_cons]
      omega
    · simp only [hphase, hlast, ↓reduceIte, Phase.missing, List.length_cons]
      omega
  | fails => exact absurd hsame (Nat.succ_ne_self _)
  | keeps hphase | sends hphase =>
    simp only [begin, handed, hphase, Phase.missing, List.length_reverse, List.length_nil,
      Nat.add_zero]
  | starts hphase | finishes hphase | completes hphase | takes hphase | frees hphase
  | rests hphase => simp only [begin, hphase, Phase.missing]

/-- A burst that is sent makes one due, and one that is taken is due no more. -/
theorem due_eq (h : Next crossing worker freed allocated sent worker') :
    worker'.mailbox.length + sent.length + worker.phase.due =
      worker.mailbox.length + worker'.phase.due := by
  cases h with
  | @allocates missing e hphase =>
    by_cases hlast : missing = 0 <;> simp [hphase, hlast, Phase.due]
  | takes hphase hmailbox => simp [begin, hphase, hmailbox, Phase.due]
  | starts hphase | finishes hphase | draws hphase | completes hphase | fails hphase
  | keeps hphase | sends hphase | frees hphase | rests hphase =>
    simp [begin, handed, hphase, Phase.due]

end Next

end Worker

namespace Workshop

/-! ## No refusal -/

section Moves

variable {w : Workshop} {id most : Nat} {limit : Option Nat}

/-- A failure that is counted is a request that the pool and its backing could not meet. -/
theorem WF.exists_refused (h : w.WF) {worker worker' : Worker}
    (hworker : w.workers[id]? = some worker) (hworker' : (w.move id).workers[id]? = some worker')
    (hfailed : worker'.report.failures ≠ worker.report.failures) :
    (∃ missing, worker.phase = .allocating (missing + 1)) ∧
      ∃ d, Allocation id .noWarn w.world.depot none d := by
  have hmove : w.canMove id = true := by
    by_contra hstill
    rw [move_of_not_canMove (Bool.eq_false_iff.2 hstill), hworker] at hworker'
    cases hworker'
    exact hfailed rfl
  obtain ⟨hbefore, hnext, -, hworkers, -⟩ := h.move hmove
  obtain rfl := Option.some.inj (hworker.symm.trans hbefore)
  have hafter := hworker'
  rw [hworkers] at hafter
  obtain ⟨y, rfl, ⟨-, rfl⟩ | ⟨hne, -⟩⟩ := exists_of_getElem? hafter
  · cases hnext with
    | @fails missing hphase =>
      refine ⟨⟨missing, hphase⟩, ?_⟩
      obtain ⟨shelf, hshelf, -⟩ := h.exists_shelf hworker
      obtain ⟨answer, d, hrun, hout⟩ := Pool.Lease.runOn_allocate ⟨w.world.pool.id, id⟩ .noWarn
        (d := w.world.depot) h.sound hshelf
      cases answer with
      | none => exact ⟨d, hout⟩
      | some x =>
        -- an answer would have been counted as one
        obtain ⟨world, transcript, hperform, -⟩ :=
          perform_eq (fun lease => lease.allocate .noWarn) h.pool hrun
        obtain ⟨hlt, -⟩ := Array.getElem?_eq_some_iff.1 hworker
        rw [Workshop.move, hworker] at hworker'
        simp only [hphase, Workshop.allocate, Option.map_some, hperform, update] at hworker'
        rw [Array.getElem?_setIfInBounds_self_of_lt hlt] at hworker'
        rw [← Option.some.inj hworker'] at hfailed
        exact absurd rfl hfailed
    | _ => exact absurd rfl hfailed
  · exact absurd rfl hne

/-- So far no allocation has failed, and the limit of the backing has room for a burst of every
worker and for what the pool strands. -/
structure Supplied (most : Nat) (limit : Option Nat) (w : Workshop) : Prop where
  worker {id : Nat} {worker : Worker} : w.workers[id]? = some worker → worker.Modest most
  due : (w.sum fun worker => worker.mailbox.length) = w.sum fun worker => worker.phase.due
  limited : w.world.backing.Limited limit
  room (n : Nat) : limit = some n →
    batch - 1 + w.world.pool.stock.aside + w.workers.size * most ≤ n

namespace Supplied

/-- **All workers together** have fewer elements than one burst each while one allocates. -/
theorem card_lt (hs : w.Supplied most limit) (h : w.WF) {worker : Worker}
    (hworker : w.workers[id]? = some worker) {missing : Nat}
    (hphase : worker.phase = .allocating (missing + 1)) :
    w.elements.card < w.workers.size * most := by
  have hlt : (w.workers.toList.map fun worker => worker.elements.card + most * worker.phase.due).sum
      < (w.workers.toList.map fun worker => most + most * worker.mailbox.length).sum := by
    apply List.sum_lt_sum
    · intro x hmem
      obtain ⟨i, hx⟩ := Array.getElem?_of_mem (Array.mem_toList_iff.1 hmem)
      have hle := (hs.worker hx).card_le (h.worker hx)
      omega
    · have hle := (hs.worker hworker).card_le (h.worker hworker)
      have hone : 1 ≤ worker.phase.missing := by
        rw [hphase, Phase.missing]
        exact Nat.le_add_left 1 missing
      exact ⟨worker, Array.mem_toList_iff.2 (Array.mem_of_getElem? hworker), by omega⟩
  have hcard : (w.workers.toList.map fun worker => worker.elements.card).sum = w.elements.card := by
    rw [elements, sum]
    induction w.workers.toList with
    | nil => rfl
    | cons x xs ih =>
      rw [List.map_cons, List.map_cons, List.sum_cons, List.sum_cons, Multiset.card_add, ih]
  have hdue := hs.due
  rw [sum, sum] at hdue
  rw [List.sum_map_add, List.sum_map_add, List.sum_map_mul_left, List.sum_map_mul_left, hcard, hdue,
    List.map_const', List.sum_replicate, Nat.nsmul_eq_mul, Array.length_toList] at hlt
  exact Nat.lt_of_add_lt_add_right hlt

/-- **No request is refused.** -/
theorem not_refused (hs : w.Supplied most limit) (h : w.WF) {worker : Worker}
    (hworker : w.workers[id]? = some worker) {missing : Nat}
    (hphase : worker.phase = .allocating (missing + 1)) {d : Depot Store} :
    ¬Allocation id .noWarn w.world.depot none d := by
  intro hrefused
  obtain ⟨hstranded, halloc⟩ := hrefused.card_of_refused h.sound
  obtain ⟨n, hn, hle⟩ := hs.limited.exists_le_of_refused h.audited.out halloc
  have hroom := hs.room n hn
  have hhands := hs.card_lt h hworker hphase
  rw [Multiset.card_add, Multiset.card_map] at hle
  have hstock : w.world.depot.stock = w.world.pool.stock := rfl
  rw [hstock] at hstranded
  omega

/-- **Every move** leaves it so, and leaves what the workers will have allocated. -/
theorem move (hs : w.Supplied most limit) (h : w.WF) (id : Nat) :
    (w.move id).Supplied most limit ∧ (w.move id).sum Worker.promised = w.sum Worker.promised := by
  by_cases hmove : w.canMove id = true
  swap
  · rw [move_of_not_canMove (Bool.eq_false_iff.2 hmove)]
    exact ⟨hs, rfl⟩
  have hmoved := h.move hmove
  obtain @⟨worker, worker', freed, allocated, sent, hworker, hnext, hdealt, hworkers, -⟩ :=
    h.move hmove
  have hpost : ∀ x : Worker, (x.post sent).mailbox.length = x.mailbox.length + sent.length :=
    fun x => List.length_append
  have hsame : worker'.report.failures = worker.report.failures := by
    by_contra hfailed
    obtain ⟨hlt, -⟩ := Array.getElem?_eq_some_iff.1 hworker
    obtain ⟨x, hx⟩ : ∃ x, (w.move id).workers[id]? = some x := by
      rw [← hmoved.size_eq] at hlt
      exact ⟨_, Array.getElem?_eq_getElem hlt⟩
    have hreport : x.report = worker'.report := by
      have hx' := hx
      rw [hworkers] at hx'
      obtain ⟨y, rfl, ⟨-, rfl⟩ | ⟨hne, -⟩⟩ := exists_of_getElem? hx'
      · rfl
      · exact absurd rfl hne
    obtain ⟨⟨missing, hphase⟩, d, hrefused⟩ := h.exists_refused hworker hx (hreport ▸ hfailed)
    exact hs.not_refused h hworker hphase hrefused
  obtain ⟨hmodest, hsent⟩ := hnext.modest (hs.worker hworker) hsame
  refine ⟨⟨?_, ?_, hdealt.keeps (Store.keeps_limited limit) hs.limited, ?_⟩, ?_⟩
  · intro i x hx
    have hposted : ∀ burst ∈ (if w.nextOf id = i then sent else []), burst.length ≤ most := by
      intro burst hmem
      split at hmem
      · exact hsent burst hmem
      · exact absurd hmem List.not_mem_nil
    rw [hworkers] at hx
    obtain ⟨y, rfl, ⟨-, rfl⟩ | ⟨-, hy⟩⟩ := exists_of_getElem? hx
    · exact hmodest.post hposted
    · exact (hs.worker hy).post hposted
  · obtain ⟨others, hold, hnew⟩ :=
      exists_sum_eq (fun worker => worker.mailbox.length) hworker hpost hworkers
    obtain ⟨others', hold', hnew'⟩ :=
      exists_sum_eq (fun worker => worker.phase.due) (p := 0) hworker (fun _ => rfl) hworkers
    have hdue := hs.due
    have hstep := hnext.due_eq
    rw [hold, hold'] at hdue
    rw [hnew, hnew']
    omega
  · intro n hn
    rw [hdealt.aside_eq, hmoved.size_eq]
    exact hs.room n hn
  · obtain ⟨others, hold, hnew⟩ :=
      exists_sum_eq Worker.promised (p := 0) hworker (fun _ => rfl) hworkers
    rw [hold, hnew, hnext.promised_eq (h.worker hworker) hsame, Nat.add_zero]

/-- **Every schedule** leaves it so. -/
theorem follow (hs : w.Supplied most limit) (h : w.WF) (schedule : List Nat) :
    (w.follow schedule).Supplied most limit ∧
      (w.follow schedule).sum Worker.promised = w.sum Worker.promised := by
  induction schedule generalizing w with
  | nil => exact ⟨hs, rfl⟩
  | cons id schedule ih =>
    obtain ⟨hnext, hpromised⟩ := hs.move h id
    obtain ⟨hrest, hpromised'⟩ := ih hnext (h.move_wf id)
    exact ⟨hrest, hpromised'.trans hpromised⟩

/-- **When all workers have finished**, they have allocated what they were to allocate. -/
theorem total_eq (hs : w.Supplied most limit) (h : w.WF) (hover : w.isOver = true) :
    total 0 {} w.workers.toList =
      .ok ⟨w.sum Worker.promised, w.sum Worker.promised, 0⟩ := by
  have hfinished := h.isOver_iff.1 hover
  obtain ⟨report, htotal, hbalance⟩ := h.exists_total_eq hover
  have heq := total_eq_ok
    (fun worker hmem => hfinished worker (Array.mem_toList_iff.1 hmem)) 0 {}
  obtain rfl := Except.ok.inj (htotal.symm.trans heq)
  have hallocated : (w.workers.toList.map fun worker => worker.report.allocated).sum =
      w.sum Worker.promised := by
    refine congrArg List.sum (List.map_congr_left fun worker hmem => ?_)
    obtain ⟨id, hworker⟩ := Array.getElem?_of_mem (Array.mem_toList_iff.1 hmem)
    have hphase := hfinished worker (Array.mem_toList_iff.1 hmem)
    have hempty := (h.worker hworker).held
    rw [hphase] at hempty
    rw [Worker.promised, hempty rfl, (h.worker hworker).finished hphase, hphase]
    rfl
  have hfailures : (w.workers.toList.map fun worker => worker.report.failures).sum = 0 := by
    refine List.sum_eq_zero fun n hmem => ?_
    obtain ⟨worker, hworker, rfl⟩ := List.mem_map.1 hmem
    obtain ⟨id, hworker⟩ := Array.getElem?_of_mem (Array.mem_toList_iff.1 hworker)
    exact (hs.worker hworker).failures
  dsimp only at hbalance
  rw [htotal, hbalance, hallocated, hfailures, Nat.zero_add]

end Supplied

/-! ## The run as a schedule -/

theorem follow_append (w : Workshop) (first second : List Nat) :
    w.follow (first ++ second) = (w.follow first).follow second := by
  induction first generalizing w with
  | nil => rfl
  | cons id first ih => exact ih (w.move id)

theorem exists_follow_turn (w : Workshop) (id moves : Nat) :
    ∃ schedule, w.turn id moves = w.follow schedule := by
  induction moves generalizing w with
  | zero => exact ⟨[], rfl⟩
  | succ moves ih =>
    rw [turn]
    split
    · obtain ⟨schedule, hschedule⟩ := ih (w.move id)
      exact ⟨id :: schedule, hschedule⟩
    · exact ⟨[], rfl⟩

theorem exists_follow_turns (w : Workshop) (id moves count : Nat) :
    ∃ schedule, w.turns id moves count = w.follow schedule := by
  induction count generalizing w id with
  | zero => exact ⟨[], rfl⟩
  | succ count ih =>
    obtain ⟨first, hfirst⟩ := w.exists_follow_turn id moves
    obtain ⟨second, hsecond⟩ := ih (w.turn id moves) (id + 1)
    exact ⟨first ++ second, by rw [turns, hsecond, hfirst, follow_append]⟩

theorem exists_follow_passes (w : Workshop) (moves count : Nat) :
    ∃ schedule, w.passes moves count = w.follow schedule := by
  induction count generalizing w with
  | zero => exact ⟨[], rfl⟩
  | succ count ih =>
    rw [passes]
    split
    · exact ⟨[], rfl⟩
    · obtain ⟨first, hfirst⟩ := w.exists_follow_turns 0 moves w.workers.size
      obtain ⟨second, hsecond⟩ := ih (w.turns 0 moves w.workers.size)
      exact ⟨first ++ second, by rw [hsecond, hfirst, follow_append]⟩

/-- The run is one of the schedules. -/
theorem exists_follow_run (w : Workshop) : ∃ schedule, w.run = w.follow schedule :=
  w.exists_follow_passes w.enoughMoves w.enoughPasses

end Moves

/-! ## The beginning -/

section Beginning

variable (world : World Store) (threads : Nat) (bursts : Nat → List Nat) (crossCpuFree : Bool)
  (transcript : Transcript)

theorem sum_promised_create :
    (create world threads bursts crossCpuFree transcript).sum Worker.promised =
      ((List.range threads).map fun id => (bursts id).sum).sum := by
  have hpromised : ∀ id, Worker.promised { bursts := bursts id } = (bursts id).sum := fun _ =>
    Nat.zero_add _
  rw [sum, create, Array.toList_ofFn, List.map_ofFn, List.ofFn_eq_map, ← List.map_coe_finRange_eq_range,
    List.map_map]
  exact congrArg List.sum (List.map_congr_left fun id _ => hpromised id)

end Beginning

end Workshop

namespace Stress

/-! ## Runs on a backing with room -/

/-- If the backing is a chunk allocator, its capacity has room for what the pool strands and for a
burst of every worker. -/
def Covered (s : Settings) : Prop :=
  s.pool.backing = .chunk →
    (max s.pool.cpus s.workload.threads - 1) * (s.pool.localCapacity - 1) + (batch - 1) ≤
      s.pool.sharedCapacity + s.pool.cpus * s.pool.localCapacity +
        s.workload.threads * s.workload.burst

/-- A run with a CPU of the settings for each worker is covered. -/
theorem covered_of_threads_le {s : Settings} (hvalid : s.isValid = true)
    (hthreads : s.workload.threads ≤ s.pool.cpus) : Covered s := by
  intro _
  have hshared := (Settings.inRange hvalid).1.sharedCapacity.1
  have hqueues : (s.pool.cpus - 1) * (s.pool.localCapacity - 1) ≤
      s.pool.cpus * s.pool.localCapacity :=
    Nat.mul_le_mul (Nat.sub_le ..) (Nat.sub_le ..)
  have hbatch : batch - 1 ≤ 64 := by decide
  rw [Nat.max_eq_left hthreads]
  omega

variable {s : Settings}

/-- The limit of a covered run has room. -/
theorem room_of_covered (hcovered : Covered s) {n : Nat}
    (hn : s.pool.capacity? (s.workload.threads * s.workload.burst * 2) = some n) :
    batch - 1 + (max s.pool.cpus s.workload.threads - 1) * (s.pool.localCapacity - 1) +
      s.workload.threads * s.workload.burst ≤ n := by
  unfold PoolSettings.capacity? at hn
  split at hn
  · cases hn
  · next hchunk =>
    cases hn
    have hroom := hcovered hchunk
    omega

/-- The workers of a covered run begin with no failure and with room in the backing. -/
theorem supplied_create {store backing : Store} {events reports : List Event} {pool : Pool}
    {numbered : Bool} {room : Nat} {machine : Machine}
    (hprovide : Store.provide s.pool room machine = .ok (store, events))
    (hbuild : (plan s).build 1 (some store) = ⟨.ok pool, some backing, numbered, reports⟩)
    {limit : Option Nat} (hlimited : store.Limited limit)
    (hroom : ∀ n, limit = some n →
      batch - 1 + (max s.pool.cpus s.workload.threads - 1) * (s.pool.localCapacity - 1) +
        s.workload.threads * s.workload.burst ≤ n)
    {bursts : Nat → List Nat} (hbursts : s.workload.Draws bursts) (transcript : Transcript) :
    (Workshop.create ⟨pool, backing, #[]⟩ s.workload.threads bursts s.workload.crossCpuFree
      transcript).Supplied s.workload.burst limit := by
  have hout : LawfulBacking.Out store 0 := (Store.isNew_of_provide hprovide).out
  obtain ⟨cpus, hchecked, -, hconstructed⟩ := Plan.exists_checked_of_build hout hbuild
  have hcpus : cpus = max s.pool.cpus s.workload.threads := Plan.check_cpus_eq hchecked
  obtain ⟨items, hstock⟩ := hconstructed.exists_stock_eq
  have haside : pool.stock.aside =
      (max s.pool.cpus s.workload.threads - 1) * (s.pool.localCapacity - 1) := by
    rw [hstock, Stock.aside, Plan.stocked, List.length_replicate, hcpus]
    rfl
  refine ⟨?_, ?_, hconstructed.keeps (Store.keeps_limited limit) hlimited, ?_⟩
  · intro id worker hworker
    obtain ⟨hlt, rfl⟩ := Workshop.of_getElem?_create hworker
    exact ⟨fun burst hmem => ((hbursts id hlt).2 burst hmem).2, Nat.zero_le _, Nat.zero_le _,
      fun _ hmem => absurd hmem List.not_mem_nil, rfl⟩
  · rw [Workshop.sum_eq_zero, Workshop.sum_eq_zero]
    all_goals
      intro worker hmem
      obtain ⟨id, hget⟩ := Array.getElem?_of_mem hmem
      obtain ⟨-, rfl⟩ := Workshop.of_getElem?_create hget
      rfl
  · intro n hn
    rw [Workshop.create, Array.size_ofFn, haside]
    exact hroom n hn

/-- **A covered run fails no allocation.** For valid settings without a limit that are covered, and on
a machine whose system never refuses an element, the backing and the pool are built. Then, whatever
bursts the workers draw and in whatever order they move, none has a failure at any moment, and when
all have finished they have allocated and freed the sum of all bursts. So the run itself ends with
this total. -/
theorem covered_runs_fail_nothing (hvalid : s.isValid = true)
    (hunlimited : s.pool.backingLimit = none) (hcovered : Covered s) {machine : Machine}
    (hmeets : machine.Meets ⟨s.pool.elementSize, s.pool.elementAlign⟩) :
    ∃ room store events pool backing numbered reports,
      headroom s.workload = .ok room ∧ Store.provide s.pool room machine = .ok (store, events) ∧
      (plan s).build 1 (some store) = ⟨.ok pool, some backing, numbered, reports⟩ ∧
      ∀ bursts, s.workload.Draws bursts →
        let drawn := ((List.range s.workload.threads).map fun id => (bursts id).sum).sum
        (∀ transcript schedule,
          let w := (Workshop.create ⟨pool, backing, #[]⟩ s.workload.threads bursts
            s.workload.crossCpuFree transcript).follow schedule
          (∀ worker ∈ w.workers, worker.report.failures = 0) ∧
          (w.isOver = true → Workshop.total 0 {} w.workers.toList = .ok ⟨drawn, drawn, 0⟩)) ∧
        ∃ w : Workshop, w.isOver = true ∧
          runWith s bursts machine = conclude s.workload.threads ⟨drawn, drawn, 0⟩ w := by
  obtain ⟨hpool, hworkload⟩ := Settings.inRange hvalid
  obtain ⟨hheadroom, hroom⟩ := headroom_eq hworkload
  obtain ⟨store, events, hprovide, hlimited⟩ :=
    Store.exists_provide_eq hpool hunlimited hroom hmeets
  obtain ⟨pool, backing, numbered, reports, hbuild⟩ :=
    exists_build_eq hpool (Store.isNew_of_provide hprovide) hlimited fun n hn => by
      have hpreallocate := hpool.preallocate
      unfold PoolSettings.capacity? at hn
      split at hn
      · cases hn
      · cases hn
        omega
  refine ⟨_, store, events, pool, backing, numbered, reports, hheadroom, hprovide, hbuild, ?_⟩
  intro bursts hbursts drawn
  have hwf := wf_create hvalid hprovide hbuild hbursts
  have hsupplied := supplied_create hprovide hbuild hlimited (fun n => room_of_covered hcovered)
    hbursts
  have hschedule : ∀ transcript schedule,
      let w := (Workshop.create ⟨pool, backing, #[]⟩ s.workload.threads bursts
        s.workload.crossCpuFree transcript).follow schedule
      w.Supplied s.workload.burst
        (s.pool.capacity? (s.workload.threads * s.workload.burst * 2)) ∧
        (w.isOver = true → Workshop.total 0 {} w.workers.toList = .ok ⟨drawn, drawn, 0⟩) := by
    intro transcript schedule
    obtain ⟨hend, hpromised⟩ := (hsupplied transcript).follow (hwf transcript) schedule
    refine ⟨hend, fun hover => ?_⟩
    rw [hend.total_eq ((hwf transcript).follow schedule) hover, hpromised,
      Workshop.sum_promised_create]
  refine ⟨fun transcript schedule => ⟨fun worker hmem => ?_, (hschedule transcript schedule).2⟩, ?_⟩
  · obtain ⟨id, hworker⟩ := Array.getElem?_of_mem hmem
    exact ((hschedule transcript schedule).1.worker hworker).failures
  · rw [runWith_eq hheadroom hprovide hbuild, work_eq]
    obtain ⟨-, hover⟩ := (hwf _).run (Workshop.effort_create_le _ _ _ _ _)
    refine ⟨_, hover, ?_⟩
    obtain ⟨schedule, hrun⟩ := Workshop.exists_follow_run _
    rw [hrun] at hover ⊢
    rw [finish, (hschedule _ schedule).2 hover]

/-- Two workers that send their bursts to each other, with a CPU each, on a chunk allocator. -/
def roomyPair : Settings where
  pool :=
    { localCapacity := 16, sharedCapacity := 64, preallocate := 0, cpus := 2, elementSize := 64,
      elementAlign := 8, backing := .chunk }
  workload := { threads := 2, iterations := 2, burst := 2, crossCpuFree := true }

theorem covered_runs_fail_nothing_roomyPair :
    roomyPair.isValid = true ∧ roomyPair.pool.backingLimit = none ∧ Covered roomyPair ∧
      Machine.single.Meets ⟨64, 8⟩ ∧ roomyPair.workload.Draws tightBursts ∧
      ∃ w : Workshop, w.isOver = true ∧ runWith roomyPair tightBursts = conclude 2 ⟨7, 7, 0⟩ w := by
  have hvalid : roomyPair.isValid = true := by decide +kernel
  have hcovered : Covered roomyPair := covered_of_threads_le hvalid (by decide)
  have hbursts : roomyPair.workload.Draws tightBursts := by
    unfold WorkloadSettings.Draws
    decide
  have hmeets : Machine.single.Meets ⟨64, 8⟩ := fun _ => rfl
  obtain ⟨_, _, _, _, _, _, _, -, -, -, hrun⟩ :=
    covered_runs_fail_nothing hvalid rfl hcovered hmeets
  exact ⟨hvalid, rfl, hcovered, hmeets, hbursts, (hrun tightBursts hbursts).2⟩

/-- Twelve workers on a pool for which the settings name one CPU. -/
def crowded : Settings where
  pool :=
    { localCapacity := 32, sharedCapacity := 64, preallocate := 0, elementSize := 64,
      elementAlign := 8, backing := .chunk }
  workload := { threads := 12, iterations := 1, burst := 1 }

/-- **Not every run is covered**: elements are stranded on eleven CPUs, and there is none left for
the last worker. -/
theorem fails_crowded :
    crowded.isValid = true ∧ crowded.pool.backingLimit = none ∧
      crowded.workload.Draws (fun _ => [1]) ∧
      (runWith crowded fun _ => [1]).transcript[21]? =
        some (.printed "11 allocations, 11 frees, 1 failures\n") := by
  refine ⟨by decide +kernel, rfl, ?_, by decide +kernel⟩
  unfold WorkloadSettings.Draws
  decide

end Stress

end TieredPool
