import TieredPool.Run.Workshop
import TieredPool.Text.Column

/-!
# The stress run

Workers hammer one pool, each on a CPU of its own, with bursts drawn from the stream of their seed.
At the end their reports are added up, the pool is retired, and the backing must have everything
back.
-/

namespace TieredPool.Stress

/-- The elements that callers may hold at once: two bursts for each worker. -/
def headroom (w : WorkloadSettings) : Except Fault Nat := do
  Word.mul (← Word.mul w.threads w.burst) 2

/-- The pool of the run: one CPU at least for each worker. -/
def plan (s : Settings) : Plan where
  localSize := s.pool.localCapacity
  sharedSize := s.pool.sharedCapacity
  preallocate := s.pool.preallocate
  cpus := some (max s.pool.cpus s.workload.threads)

/-- The bursts of a worker, whose seed is that of the run and its number, as words that wrap. None
are drawn after one that the worker cannot make. -/
def burstsOf (w : WorkloadSettings) (seed : UInt64) (id : Nat) : List Nat :=
  Random.bursts Workshop.fits (seed + id.toUInt64) w.burst w.iterations

/-- What is reported when the run starts. -/
def openingEvent (w : WorkloadSettings) (store : Store) : Event :=
  .stressStarting w.threads w.iterations w.burst w.crossCpuFree store.kindName

/-! ## Lines -/

def totalLine (r : WorkerReport) : String :=
  s!"{r.allocated} allocations, {r.freed} frees, {r.failures} failures"

/-- The line of the pool's dealings with the backing. -/
def backingLine (s : PoolStatistics) : String :=
  s!"backing: {s.backingAllocs} allocs, {s.backingFrees} frees, " ++
    s!"{s.sharedRefills} shared refills, {s.backingDrains} drains"

def cpuLine (s : CpuStatistics) : String :=
  "cpu " ++ Text.Column.number 3 s.cpu ++
    s!": refills {s.refills} full {s.overflows} drains {s.drains} cached {s.localLength}"

/-! ## The run -/

/-- Retires the pool of a run and hands its last reports to the transcript. -/
def retire (world : World Store) (transcript : Transcript) :
    Except Fault Unit × Store × Transcript :=
  let (result, world) := world.retire
  (result, world.backing, transcript.reportAll .main world.events)

/-- The end of a run whose workers all finished. -/
def conclude (threads : Nat) (total : WorkerReport) (w : Workshop) : Run :=
  let transcript :=
    if total.failures = 0 then w.transcript
    else w.transcript.report .main (.allocationsFailed total.failures)
  let statistics := w.world.pool.statistics
  let cpuStatistics := w.world.pool.allCpuStatistics
  let gauges := Gauges.record {} statistics cpuStatistics
  let transcript := (transcript.printLine (totalLine total)).printLine (backingLine statistics)
  let transcript := (cpuStatistics.take threads).foldl
    (fun transcript s => transcript.printLine (cpuLine s)) transcript
  match retire w.world transcript with
  | (.error fault, _, transcript) => ⟨.error (.fault fault), transcript, gauges⟩
  | (.ok (), store, transcript) =>
    match store.tally.checkBalance with
    | .error failure => ⟨.error failure, transcript, gauges⟩
    | .ok () =>
      let report := .backingBalanced store.tally.allocations store.tally.deallocations
      ⟨.ok (), transcript.report .main report, gauges⟩

/-- The run over a pool that was built. -/
def work (workload : WorkloadSettings) (bursts : Nat → List Nat) (pool : Pool) (store : Store)
    (transcript : Transcript) : Run :=
  let world : World Store := ⟨pool, store, #[]⟩
  let transcript := transcript.report .main (openingEvent workload store)
  let w :=
    (Workshop.create world workload.threads bursts workload.crossCpuFree transcript).run
  match Workshop.total 0 {} w.workers.toList with
  | .ok total => conclude workload.threads total w
  | .error failure =>
    let (_, _, transcript) := retire w.world w.transcript
    ⟨.error failure, transcript, {}⟩

/-- The stress run on a machine, given the bursts of each worker. -/
def runWith (s : Settings) (bursts : Nat → List Nat) (machine : Machine := .single) : Run :=
  match headroom s.workload with
  | .error fault => ⟨.error (.fault fault), .empty, {}⟩
  | .ok headroom =>
    match Store.provide s.pool headroom machine with
    | .error (.error cause) => ⟨.error (.error (.backing cause)), .empty, {}⟩
    | .error (.fault fault) => ⟨.error (.fault fault), .empty, {}⟩
    | .ok (store, events) =>
      let outcome := (plan s).build 1 (some store)
      let transcript := Transcript.empty.reportAll .main (events ++ outcome.events).toArray
      match outcome.pool, outcome.backing with
      | .ok pool, some store => work s.workload bursts pool store transcript
      | .error (.error cause), _ => ⟨.error (.error (.create cause)), transcript, {}⟩
      | .error (.fault fault), _ => ⟨.error (.fault fault), transcript, {}⟩
      | .ok _, none => ⟨.error (.error (.create .missingBacking)), transcript, {}⟩

def run (s : Settings) (seed : UInt64) (machine : Machine := .single) : Run :=
  runWith s (burstsOf s.workload seed) machine

end TieredPool.Stress
