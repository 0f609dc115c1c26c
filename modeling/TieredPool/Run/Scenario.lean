import TieredPool.Backing.Store
import TieredPool.Metrics
import TieredPool.Pool.Lease
import TieredPool.Run.Error
import TieredPool.Settings
import TieredPool.Text.Column

/-!
# The scenario

A walk of a small pool with one CPU through all tiers: two waves of allocations, of which the first
is met from the preallocated elements and the second needs a refill, and then the frees, which
overflow the local queue and in the end the shared one. Each step prints how many elements the
backing gave and took, and how many each tier holds.
-/

namespace TieredPool.Scenario

/-- The pool of the walk. -/
def plan : Plan := { localSize := 16, sharedSize := 64, preallocate := 32, cpus := some 1 }

/-- Allocations met without the backing. -/
def firstWave : Nat := 32

/-- Allocations that need a refill. -/
def secondWave : Nat := 8

/-- A walk under way: the pool and its heap, the tally at the last step, and the transcript. -/
structure Walk where
  world : World Heap
  last : Tally := {}
  transcript : Transcript

abbrev Walking := ExceptT (Failure RunError) (StateM Walk)

/-! ## The table -/

/-- The head line of the table. -/
def header : String :=
  open Text.Column in
  left 28 "step" ++ " " ++ right 8 "allocs" ++ " " ++ right 8 "frees" ++ " " ++
    right 6 "local" ++ " " ++ right 7 "shared"

/-- A line of the table: what the backing gave and took since the last, and what the tiers hold. -/
def row (name : String) (last now : Tally) (localLength sharedLength : Nat) : String :=
  open Text.Column in
  left 28 name ++ " " ++ gain 8 (now.allocations - last.allocations) ++ " " ++
    gain 8 (now.deallocations - last.deallocations) ++ " " ++ number 6 localLength ++ " " ++
    number 7 sharedLength

/-- Moves what the pool reported into the transcript. -/
def Walk.settle (w : Walk) : Walk :=
  { w with
    world := { w.world with events := #[] }
    transcript := w.transcript.reportAll .main w.world.events }

/-- Prints a line of the table for a pool that holds so much. -/
def Walk.print (w : Walk) (name : String) (localLength sharedLength : Nat) : Walk :=
  let w := w.settle
  let now := w.world.backing.tally
  let text := row name w.last now localLength sharedLength
  { w with last := now, transcript := w.transcript.printLine text }

/-- Prints a line of the table for the pool as it is. -/
def Walk.printPool (w : Walk) (name : String) : Walk :=
  let pool := w.world.pool
  w.print name ((pool.localLength? 0).getD 0) pool.shared.length

/-! ## The walk -/

/-- Runs a routine of the pool. -/
def perform {α : Type} (r : Routine α) : Walking α := do
  let walk ← get
  let (result, world) := r.run walk.world
  set { walk with world }
  match result with
  | .ok a => pure a
  | .error fault => throw (.fault fault)

def allocate (lease : Pool.Lease) : (count : Nat) → Walking (List Element)
  | 0 => pure []
  | count + 1 => do
    match ← perform (lease.allocate .none) with
    | none => throw (.error .outOfMemory)
    | some element => return element :: (← allocate lease count)

def free (lease : Pool.Lease) : List Element → Walking Unit
  | [] => pure ()
  | element :: rest => do
    perform (lease.free element)
    free lease rest

/-- Both waves and the frees, with a line after each. -/
def exercise (lease : Pool.Lease) : Walking Unit := do
  let first ← allocate lease firstWave
  modify fun w => w.printPool "allocate 32 (cached)"
  let second ← allocate lease secondWave
  modify fun w => w.printPool "allocate 8 (refill)"
  free lease (first ++ second)
  modify fun w => w.printPool "free 40"

/-- The end of the walk: the pool is retired, and the backing must have everything back. -/
def conclude (walk : Walk) (gauges : Gauges) : Run :=
  let (retired, world) := walk.world.retire
  let walk := Walk.settle { walk with world }
  match retired with
  | .error fault => ⟨.error (.fault fault), walk.transcript, gauges⟩
  | .ok () =>
    let walk := walk.print "destroy" 0 0
    let tally := walk.world.backing.tally
    match tally.checkBalance with
    | .error failure => ⟨.error failure, walk.transcript, gauges⟩
    | .ok () =>
      let line := s!"backing totals: {tally.allocations} allocs, {tally.deallocations} frees"
      ⟨.ok (), walk.transcript.printLine line, gauges⟩

/-- A walk that failed: the pool is retired all the same. -/
def surrender (walk : Walk) (failure : Failure RunError) : Run :=
  let (_, world) := walk.world.retire
  ⟨.error failure, (Walk.settle { walk with world }).transcript, {}⟩

def leased (lease : Pool.Lease) (walk : Walk) : Run :=
  match (exercise lease).run walk with
  | (.error failure, walk) => surrender walk failure
  | (.ok (), walk) =>
    let pool := walk.world.pool.unlease lease.cpu
    let counts := (pool.cpuStatistics? lease.cpu).getD {}
    let line := s!"cpu 0: refills {counts.refills} full {counts.overflows} drains {counts.drains}"
    let walk :=
      { walk with world := { walk.world with pool }, transcript := walk.transcript.printLine line }
    conclude walk (Gauges.record {} pool.statistics pool.allCpuStatistics)

def built (pool : Pool) (heap : Heap) (transcript : Transcript) : Run :=
  let walk := Walk.printPool { world := ⟨pool, heap, #[]⟩, transcript } "create"
  match walk.world.pool.lease 0 with
  | (.error cause, pool) =>
    surrender { walk with world := { walk.world with pool } } (.error (.lease cause))
  | (.ok lease, pool) => leased lease { walk with world := { walk.world with pool } }

/-- The whole scenario, with elements of the configured size. -/
def run (settings : PoolSettings) (machine : Machine := .single) : Run :=
  match Heap.withSize settings.elementSize settings.elementAlign machine with
  | .error cause => ⟨.error (.error (.backing cause)), .empty, {}⟩
  | .ok heap =>
    let opening :=
      .scenarioRunning settings.elementSize plan.localSize plan.sharedSize plan.preallocate
    let transcript := (Transcript.empty.report .main opening).printLine header
    let outcome := plan.build 1 (some heap)
    let transcript := transcript.reportAll .main outcome.events.toArray
    match outcome.pool, outcome.backing with
    | .ok pool, some heap => built pool heap transcript
    | .error (.error cause), _ => ⟨.error (.error (.create cause)), transcript, {}⟩
    | .error (.fault fault), _ => ⟨.error (.fault fault), transcript, {}⟩
    | .ok _, none => ⟨.error (.error (.create .missingBacking)), transcript, {}⟩

end TieredPool.Scenario
