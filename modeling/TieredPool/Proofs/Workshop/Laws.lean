import TieredPool.Proofs.Pool.Building
import TieredPool.Proofs.Random.Bursts
import TieredPool.Proofs.Settings.Ranges
import TieredPool.Proofs.Workshop.Progress
import TieredPool.Run.Stress

/-!
# Stress runs balance

What a stress run promises, in the words of the program's own observers. Valid settings ask only
for bursts that a worker can make (`Stress.draws_burstsOf`), and the pool that they build has a CPU
for each worker, so the workers begin in order (`Stress.wf_create`). Then every schedule keeps what
`Stress.Balanced` says, and the run comes to its end.
-/

namespace TieredPool

/-! ## What a run starts from -/

theorem Worker.isWaiting_iff {worker : Worker} :
    worker.isWaiting = true ↔ worker.phase = .receiving ∧ worker.mailbox = [] := by
  rw [isWaiting]
  cases worker.phase <;> simp

theorem Heap.create_eq_ok {layout : Layout} {machine : Machine} {heap : Heap}
    (h : create layout machine = .ok heap) :
    heap = ⟨layout, none, 0, {}, machine.refuses layout, .untouched⟩ := by
  rw [create, Layout.checkSize] at h
  split at h <;> cases h
  rfl

/-- The backing that settings provide is new, on any machine. -/
theorem Store.isNew_of_provide {pool : PoolSettings} {headroom : Nat} {machine : Machine}
    {store : Store} {events : List Event}
    (h : provide pool headroom machine = .ok (store, events)) : store.IsNew := by
  rw [provide] at h
  split at h
  · cases h
  · next layout hlayout =>
    split at h
    · rcases hcreate : Heap.create layout machine with error | heap <;> rw [hcreate] at h
      · cases h
      · obtain rfl := Heap.create_eq_ok hcreate
        cases hlimit : pool.backingLimit <;> rw [hlimit] at h <;> cases h
        · exact .heap ..
        · exact .heap ..
    · rcases hcached : cachedElements pool headroom with fault | cached <;> rw [hcached] at h
      · cases h
      · rcases hreserve : Chunks.reserve layout (min chunkSlots (pool.backingLimit.getD cached))
          (pool.backingLimit.getD cached) machine with failure | chunks
        all_goals simp only [Except.mapError, bind, Except.bind, hreserve] at h
        · cases h
        · cases h
          exact isNew_of_reserve hreserve

theorem Workshop.fits_of_le {burst : Nat} (h : burst ≤ 65536) : fits burst = true := by
  have hpow : Word.isPowerOfTwo 8 = true := by decide
  have hsize : burst * elementBytes + 8 ≤ Layout.sizeBound := by
    rw [elementBytes, Layout.sizeBound, Nat.one_shiftLeft]
    omega
  rw [fits, Layout.isValid, hpow, Bool.true_and, decide_eq_true hsize]

/-- These are bursts that the workers can draw, one for each of their rounds. -/
def WorkloadSettings.Draws (w : WorkloadSettings) (bursts : Nat → List Nat) : Prop :=
  ∀ id < w.threads, (bursts id).length = w.iterations ∧
    ∀ burst ∈ bursts id, 1 ≤ burst ∧ burst ≤ w.burst

theorem Stress.draws_burstsOf {s : Settings} (h : s.isValid = true) (seed : UInt64) :
    s.workload.Draws (burstsOf s.workload seed) := by
  obtain ⟨hpos, hle⟩ := (Settings.inRange h).2.burst
  intro id _
  exact Random.bursts_spec hpos (fun _ hburst => Workshop.fits_of_le (Nat.le_trans hburst hle)) _ _

theorem Plan.leases_stocked (p : Plan) (id cpus : Nat) (items : List Handle) :
    (p.stocked id cpus items).leases = List.replicate cpus false := by
  rw [Stock.leases, stocked, List.map_replicate]

namespace Stress

/-- The workers of a run begin in order: there is a CPU for each, and they can make their bursts. -/
theorem wf_create {s : Settings} {machine : Machine} {bursts : Nat → List Nat} {room : Nat}
    {store backing : Store} {events reports : List Event} {pool : Pool} {numbered : Bool}
    (hvalid : s.isValid = true)
    (hprovide : Store.provide s.pool room machine = .ok (store, events))
    (hbuild : (plan s).build 1 (some store) = ⟨.ok pool, some backing, numbered, reports⟩)
    (hbursts : s.workload.Draws bursts) (transcript : Transcript) :
    (Workshop.create ⟨pool, backing, #[]⟩ s.workload.threads bursts s.workload.crossCpuFree
      transcript).WF := by
  let _ := Store.auditing
  have hout : Store.auditing.Out store 0 := (Store.isNew_of_provide hprovide).audited
  obtain ⟨cpus, hchecked, hplan, hconstructed⟩ := Plan.exists_checked_of_build hout hbuild
  have hcpus : cpus = max s.pool.cpus s.workload.threads := Plan.check_cpus_eq hchecked
  obtain ⟨hpool, -, hsound, -, -, haudited⟩ := hconstructed.of_ok hplan hout
  obtain ⟨items, hstock⟩ := hconstructed.exists_stock_eq
  rw [add_zero] at haudited
  refine Workshop.wf_create _ transcript hpool hsound (fun id hid => ?_) haudited
    fun id hid => ⟨(hbursts id hid).1, fun burst hmem => ?_⟩
  · rw [hstock, Plan.leases_stocked, List.getElem?_replicate, if_pos]
    rw [hcpus]
    exact Nat.lt_of_lt_of_le hid (Nat.le_max_right _ _)
  · obtain ⟨hpos, hle⟩ := (hbursts id hid).2 burst hmem
    exact ⟨Nat.ne_of_gt hpos,
      Workshop.fits_of_le (Nat.le_trans hle (Settings.inRange hvalid).2.burst.2)⟩

/-! ## How a run ends -/

/-- The end of a run, once its workers have stopped. -/
def finish (threads : Nat) (w : Workshop) : Run :=
  match Workshop.total 0 {} w.workers.toList with
  | .ok total => conclude threads total w
  | .error failure =>
    let (_, _, transcript) := retire w.world w.transcript
    ⟨.error failure, transcript, {}⟩

theorem work_eq (workload : WorkloadSettings) (bursts : Nat → List Nat) (pool : Pool)
    (store : Store) (transcript : Transcript) :
    work workload bursts pool store transcript =
      finish workload.threads
        (Workshop.create ⟨pool, store, #[]⟩ workload.threads bursts workload.crossCpuFree
          (transcript.report .main (openingEvent workload store))).run :=
  rfl

section Ending

variable {w : Workshop}

theorem exists_retire_eq (h : w.WF) (hover : w.isOver = true) (transcript : Transcript) :
    ∃ store transcript', retire w.world transcript = (.ok (), store, transcript') ∧
      store.tally.live = 0 := by
  obtain ⟨pool, store, events, hretire, haudited⟩ := h.exists_retire_eq hover
  exact ⟨store, transcript.reportAll .main events, by rw [retire, hretire], haudited.live_eq⟩

theorem ending_conclude (h : w.WF) (hover : w.isOver = true) (threads : Nat)
    (total : WorkerReport) : (conclude threads total w).ending = .ok () := by
  choose store transcript' hretire hlive using exists_retire_eq h hover
  have hbalance : ∀ transcript, (store transcript).tally.checkBalance = .ok () := by
    intro transcript
    rw [Tally.checkBalance, hlive]
    rfl
  simp only [conclude, hretire, hbalance]

theorem ending_finish (h : w.WF) (hover : w.isOver = true) (threads : Nat) :
    (finish threads w).ending = .ok () := by
  obtain ⟨total, htotal, -⟩ := h.exists_total_eq hover
  rw [finish, htotal]
  exact ending_conclude h hover threads total

end Ending

/-! ## Every schedule -/

/-- What a run promises of its workers at every moment. -/
structure Balanced (threads : Nat) (w : Workshop) : Prop where
  /-- Every worker gets its lease, and has it for all of its rounds. -/
  not_refused : ∀ worker ∈ w.workers, ∀ error, worker.phase ≠ .refused error
  isSome_leaseOf? : ∀ id worker, w.workers[id]? = some worker →
    (w.world.pool.leaseOf? id).isSome = worker.phase.isLeased
  not_panicked : ∀ worker ∈ w.workers, ∀ fault, worker.phase ≠ .panicked fault
  /-- Unless all have finished, not all that have not finished wait on empty mailboxes. -/
  exists_canMove : w.isOver = false → ∃ id, w.canMove id = true
  /-- No worker waits for one that is gone. -/
  sender_unfinished : ∀ id sender receiver, w.workers[id]? = some sender →
    w.workers[w.nextOf id]? = some receiver → receiver.isWaiting = true → sender.phase ≠ .finished
  /-- No worker sends to one that is gone. -/
  receiver_unfinished : ∀ id sender receiver, w.workers[id]? = some sender →
    w.workers[w.nextOf id]? = some receiver → w.crossCpuFree = true →
      sender.phase = .handingOver → receiver.phase ≠ .finished
  finished : w.isOver = true → ∀ worker ∈ w.workers, worker.phase = .finished ∧ worker.mailbox = []
  reports : w.isOver = true → ∃ total,
    Workshop.total 0 {} w.workers.toList = .ok total ∧ total.freed = total.allocated
  returned : w.isOver = true → ∀ transcript, ∃ store transcript',
    retire w.world transcript = (.ok (), store, transcript') ∧ store.tally.live = 0
  ending : w.isOver = true → (finish threads w).ending = .ok ()

theorem balanced_of_wf {w : Workshop} (h : w.WF) (threads : Nat) : Balanced threads w where
  not_refused worker hmem error := by
    obtain ⟨id, hworker⟩ := Array.getElem?_of_mem hmem
    exact (h.worker hworker).not_refused error
  isSome_leaseOf? id worker hworker := Pool.isSome_leaseOf? (h.lease hworker)
  not_panicked worker hmem fault := by
    obtain ⟨id, hworker⟩ := Array.getElem?_of_mem hmem
    exact (h.worker hworker).not_panicked fault
  exists_canMove hover := h.exists_canMove (Bool.eq_false_iff.1 hover)
  sender_unfinished id sender receiver hsender hreceiver hwaiting := by
    obtain ⟨hphase, hmailbox⟩ := Worker.isWaiting_iff.1 hwaiting
    exact h.sender_unfinished hsender hreceiver hphase hmailbox
  receiver_unfinished id sender receiver hsender hreceiver hcrossing hphase :=
    h.receiver_unfinished hcrossing hsender hphase hreceiver
  finished hover worker hmem := ⟨h.isOver_iff.1 hover worker hmem, h.mailbox_eq_nil hover hmem⟩
  reports hover := h.exists_total_eq hover
  returned hover := exists_retire_eq h hover
  ending hover := ending_finish h hover threads

section Runs

variable {s : Settings} {machine : Machine} {room : Nat} {store backing : Store}
  {events reports : List Event} {pool : Pool} {numbered : Bool}

theorem runWith_eq (hroom : headroom s.workload = .ok room)
    (hprovide : Store.provide s.pool room machine = .ok (store, events))
    (hbuild : (plan s).build 1 (some store) = ⟨.ok pool, some backing, numbered, reports⟩)
    (bursts : Nat → List Nat) :
    runWith s bursts machine = work s.workload bursts pool backing
      (Transcript.empty.reportAll .main (events ++ reports).toArray) := by
  rw [runWith, hroom]
  dsimp only
  rw [hprovide]
  dsimp only
  rw [hbuild]

theorem ending_runWith (hvalid : s.isValid = true) (hroom : headroom s.workload = .ok room)
    (hprovide : Store.provide s.pool room machine = .ok (store, events))
    (hbuild : (plan s).build 1 (some store) = ⟨.ok pool, some backing, numbered, reports⟩)
    {bursts : Nat → List Nat} (hbursts : s.workload.Draws bursts) :
    (runWith s bursts machine).ending = .ok () := by
  rw [runWith_eq hroom hprovide hbuild, work_eq]
  have hwf := wf_create hvalid hprovide hbuild hbursts
  obtain ⟨hlater, hover⟩ := (hwf _).run (Workshop.effort_create_le _ _ _ _ _)
  exact ending_finish hlater.wf hover _

/-- **Stress runs balance under every schedule.** For valid settings for which the backing and the
pool are built, on any machine, whatever its system refuses and wherever it puts chunks: whatever
bursts the workers draw and in whatever order they move, what `Balanced` says holds at every moment.
So the run ends well on any bursts, and on those drawn from any seed. -/
theorem schedules_balance (hvalid : s.isValid = true) (hroom : headroom s.workload = .ok room)
    (hprovide : Store.provide s.pool room machine = .ok (store, events))
    (hbuild : (plan s).build 1 (some store) = ⟨.ok pool, some backing, numbered, reports⟩) :
    (∀ bursts, s.workload.Draws bursts →
      (∀ transcript schedule, Balanced s.workload.threads
        ((Workshop.create ⟨pool, backing, #[]⟩ s.workload.threads bursts s.workload.crossCpuFree
          transcript).follow schedule)) ∧
        (runWith s bursts machine).ending = .ok ()) ∧
      ∀ seed, (run s seed machine).ending = .ok () := by
  refine ⟨fun bursts hbursts => ⟨fun transcript schedule => ?_, ?_⟩, fun seed => ?_⟩
  · have hwf := wf_create hvalid hprovide hbuild hbursts transcript
    exact balanced_of_wf (hwf.follow schedule) _
  · exact ending_runWith hvalid hroom hprovide hbuild hbursts
  · exact ending_runWith hvalid hroom hprovide hbuild (draws_burstsOf hvalid seed)

end Runs

/-- Two workers send their bursts to each other, on a heap that is exhausted before long. -/
def tightPair : Settings where
  pool := { localCapacity := 16, sharedCapacity := 64, preallocate := 0, backingLimit := some 3 }
  workload := { threads := 2, iterations := 2, burst := 2, crossCpuFree := true }

/-- A machine whose system refuses the second of every three requests. -/
def stingy : Machine := { Machine.single with refuses := fun _ n => n % 3 == 1 }

def tightHeap : Store := .heap ⟨⟨2048, 64⟩, some 3, 0, {}, fun n => n % 3 == 1, .untouched⟩

def tightBursts (id : Nat) : List Nat := [2, id + 1]

theorem schedules_balance_tightPair :
    tightPair.isValid = true ∧ headroom tightPair.workload = .ok 8 ∧
      Store.provide tightPair.pool 8 stingy = .ok (tightHeap, []) ∧
      (∃ pool backing numbered reports,
        (plan tightPair).build 1 (some tightHeap) = ⟨.ok pool, some backing, numbered, reports⟩ ∧
          Balanced 2 ((Workshop.create ⟨pool, backing, #[]⟩ 2 tightBursts true .empty).follow
            [0, 1, 1, 0, 1, 0])) ∧
      tightPair.workload.Draws tightBursts ∧ (runWith tightPair tightBursts stingy).ending = .ok () := by
  have hvalid : tightPair.isValid = true := by decide +kernel
  have hroom : headroom tightPair.workload = .ok 8 := by rfl
  have hprovide : Store.provide tightPair.pool 8 stingy = .ok (tightHeap, []) := by rfl
  have hbursts : tightPair.workload.Draws tightBursts := by
    unfold WorkloadSettings.Draws
    decide
  have hpool : ((plan tightPair).build 1 (some tightHeap)).pool.toOption.isSome = true := by
    decide +kernel
  have hbacking : ((plan tightPair).build 1 (some tightHeap)).backing.isSome = true := by
    decide +kernel
  rcases hbuild : (plan tightPair).build 1 (some tightHeap) with
    ⟨_ | pool, _ | backing, numbered, reports⟩
  · rw [hbuild] at hpool
    cases hpool
  · rw [hbuild] at hpool
    cases hpool
  · rw [hbuild] at hbacking
    cases hbacking
  obtain ⟨hbalanced, hending⟩ :=
    (schedules_balance hvalid hroom hprovide hbuild).1 tightBursts hbursts
  exact ⟨hvalid, hroom, hprovide, ⟨pool, backing, numbered, reports, rfl,
    hbalanced .empty [0, 1, 1, 0, 1, 0]⟩, hbursts, hending⟩

end Stress

end TieredPool
