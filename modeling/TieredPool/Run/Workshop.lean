import TieredPool.Backing.Provision
import TieredPool.Pool.Lease
import TieredPool.Pool.World
import TieredPool.Random.Bursts
import TieredPool.Run.Error

/-!
# Workers on one pool

A workshop is a pool with workers, one to a CPU. Each worker leases its CPU and works off its bursts
in rounds: it allocates a burst, hands it over, takes a burst in return and frees it. Either it
keeps its own burst, or it puts it in the mailbox of the next worker and takes the oldest from its
own. A burst is cut short by the first allocation that fails; one that no list of elements has room
for is a fault. Every worker makes equally many rounds, so every burst that is sent is taken in the
end.

`Workshop.move` is one move of one worker: at most one allocation or free, or one call on a mailbox.
A worker that waits on an empty mailbox, or has finished, cannot move. Any order of moves is a
schedule (`Workshop.follow`); `Workshop.run` is the one in which each worker in turn moves for as
long as it can.
-/

namespace TieredPool

/-- Where a worker is in its round. -/
inductive Phase where
  /-- Before the first round. -/
  | starting
  /-- Between two rounds. -/
  | between
  /-- So many allocations of the burst are still to be made. -/
  | allocating (missing : Nat)
  /-- The burst is complete and about to be handed over. -/
  | handingOver
  /-- A burst is due in the mailbox. -/
  | receiving
  /-- These elements are still to be freed. -/
  | freeing (rest : List Element)
  | finished
  /-- The worker could not lease its CPU. -/
  | refused (error : Pool.LeaseError)
  /-- The worker stopped on a fault. -/
  | panicked (fault : Fault)
deriving DecidableEq, Repr

/-- A worker. -/
structure Worker where
  phase : Phase := .starting
  /-- The bursts of the rounds to come. -/
  bursts : List Nat
  /-- The elements of the burst, the latest first. -/
  held : List Element := []
  /-- The bursts sent to this worker, the oldest first. -/
  mailbox : List (List Element) := []
  report : WorkerReport := {}

namespace Worker

def begin (worker : Worker) (burst : List Element) : Worker :=
  { worker with
    phase := .freeing burst
    report := { worker.report with freed := worker.report.freed + burst.length } }

/-- Has the worker nothing left to do? -/
def hasStopped (worker : Worker) : Bool :=
  match worker.phase with
  | .finished | .refused _ | .panicked _ => true
  | _ => false

/-- Does the worker wait for a burst that is not there yet? -/
def isWaiting (worker : Worker) : Bool :=
  match worker.phase with
  | .receiving => worker.mailbox.isEmpty
  | _ => false

/-- Did the worker stop on a fault? -/
def hasPanicked (worker : Worker) : Bool :=
  match worker.phase with
  | .panicked _ => true
  | _ => false

def result (id : Nat) (worker : Worker) : Except (Failure RunError) WorkerReport :=
  match worker.phase with
  | .finished => .ok worker.report
  | .refused error => .error (.error (.lease error))
  | _ => .error (.error (.worker id))

end Worker

/-- A pool with its workers. -/
structure Workshop where
  world : World Store
  /-- The workers, by CPU. -/
  workers : Array Worker
  /-- Does each burst go to the next worker? -/
  crossCpuFree : Bool
  transcript : Transcript

namespace Workshop

/-- Workers that have not begun. -/
def create (world : World Store) (threads : Nat) (bursts : Nat → List Nat) (crossCpuFree : Bool)
    (transcript : Transcript) : Workshop :=
  let workers := Array.ofFn fun (id : Fin threads) => { bursts := bursts id }
  ⟨world, workers, crossCpuFree, transcript⟩

def nextOf (w : Workshop) (id : Nat) : Nat := (id + 1) % w.workers.size

/-- Puts a burst in a worker's mailbox. -/
def deliver (w : Workshop) (id : Nat) (burst : List Element) : Workshop :=
  { w with
    workers := w.workers.modify id fun worker =>
      { worker with mailbox := worker.mailbox ++ [burst] } }

def update (w : Workshop) (id : Nat) (worker : Worker) : Workshop :=
  { w with workers := w.workers.setIfInBounds id worker }

/-- Runs a routine on the lease of a worker's CPU. -/
def perform {α : Type} (w : Workshop) (id : Nat) (routine : Pool.Lease → Routine α) :
    Except Fault α × Workshop :=
  match w with
  | ⟨world, workers, crossCpuFree, transcript⟩ =>
    let lease : Pool.Lease := ⟨world.pool.id, id⟩
    let (result, world) := (routine lease).run world
    if world.events.isEmpty then (result, ⟨world, workers, crossCpuFree, transcript⟩)
    else
      let transcript := transcript.reportAll (.worker id) world.events
      (result, ⟨{ world with events := #[] }, workers, crossCpuFree, transcript⟩)

/-- The worker leases its CPU. -/
def start (w : Workshop) (id : Nat) (worker : Worker) : Workshop :=
  match w.world.pool.lease id with
  | (.error error, _) => w.update id { worker with phase := .refused error }
  | (.ok _, pool) =>
    { w with world := { w.world with pool } }.update id { worker with phase := .between }

/-- The bytes of an element in a list: its address and its pool. -/
def elementBytes : Nat := 16

/-- Can a list hold so many elements in any memory? -/
def fits (burst : Nat) : Bool := Layout.isValid (burst * elementBytes) 8

/-- The worker draws the next burst, or finishes. -/
def draw (w : Workshop) (id : Nat) (worker : Worker) : Workshop :=
  match worker.bursts with
  | [] =>
    let report := .workerFinished id id worker.report
    let pool := w.world.pool.unlease id
    { w with
      world := { w.world with pool }
      transcript := w.transcript.report (.worker id) report }.update id
        { worker with phase := .finished }
  | 0 :: _ => w.update id { worker with phase := .panicked .emptyRange }
  | burst :: rest =>
    if fits burst then
      w.update id { worker with phase := .allocating burst, bursts := rest, held := [] }
    else w.update id { worker with phase := .panicked .capacityOverflow }

def allocate (w : Workshop) (id : Nat) (worker : Worker) (missing : Nat) : Workshop :=
  match w.perform id fun lease => lease.allocate .noWarn with
  | (.error fault, w) => w.update id { worker with phase := .panicked fault }
  | (.ok none, w) =>
    let report := { worker.report with failures := worker.report.failures + 1 }
    w.update id { worker with phase := .handingOver, report }
  | (.ok (some element), w) =>
    let phase := if missing = 0 then .handingOver else .allocating missing
    w.update id { worker with phase, held := element :: worker.held }

/-- The worker hands its burst over, or keeps it. -/
def handOver (w : Workshop) (id : Nat) (worker : Worker) : Workshop :=
  let burst := worker.held.reverse
  let worker :=
    { worker with
      held := []
      report := { worker.report with allocated := worker.report.allocated + burst.length } }
  if w.crossCpuFree then
    (w.update id { worker with phase := .receiving }).deliver (w.nextOf id) burst
  else w.update id (worker.begin burst)

/-- The worker takes the oldest burst from its mailbox; if there is none, it waits. -/
def receive (w : Workshop) (id : Nat) (worker : Worker) : Workshop :=
  match worker.mailbox with
  | [] => w
  | burst :: mailbox => w.update id ({ worker with mailbox }.begin burst)

/-- The worker frees one element, or ends the round. -/
def free (w : Workshop) (id : Nat) (worker : Worker) : List Element → Workshop
  | [] => w.update id { worker with phase := .between }
  | element :: rest =>
    match w.perform id fun lease => lease.free element with
    | (.error fault, w) => w.update id { worker with phase := .panicked fault }
    | (.ok (), w) => w.update id { worker with phase := .freeing rest }

def canMove (w : Workshop) (id : Nat) : Bool :=
  match w.workers[id]? with
  | none => false
  | some worker => !worker.hasStopped && !worker.isWaiting

/-- One move of a worker; one that cannot move leaves everything as it is. -/
def move (w : Workshop) (id : Nat) : Workshop :=
  match w.workers[id]? with
  | none => w
  | some worker =>
    match worker.phase with
    | .starting => w.start id worker
    | .between => w.draw id worker
    | .allocating 0 => w.update id { worker with phase := .handingOver }
    | .allocating (missing + 1) => w.allocate id worker missing
    | .handingOver => w.handOver id worker
    | .receiving => w.receive id worker
    | .freeing rest => w.free id worker rest
    | .finished | .refused _ | .panicked _ => w

/-! ## Schedules -/

/-- The moves of a schedule, which names the worker of each. -/
def follow (w : Workshop) : (schedule : List Nat) → Workshop
  | [] => w
  | id :: rest => (w.move id).follow rest

/-- Moves a worker for as long as it can, but not more than `moves` times. -/
def turn (w : Workshop) (id : Nat) : (moves : Nat) → Workshop
  | 0 => w
  | moves + 1 => if w.canMove id then (w.move id).turn id moves else w

def turns (w : Workshop) (id moves : Nat) : (count : Nat) → Workshop
  | 0 => w
  | count + 1 => (w.turn id moves).turns (id + 1) moves count

/-- Does no worker have anything left to do? -/
def isOver (w : Workshop) : Bool := w.workers.all Worker.hasStopped

/-- Turns for all workers until nothing is left to do, but not more than so many times. -/
def passes (w : Workshop) (moves : Nat) : (count : Nat) → Workshop
  | 0 => w
  | count + 1 =>
    if w.isOver then w else (w.turns 0 moves w.workers.size).passes moves count

def allBursts (w : Workshop) : List Nat := w.workers.toList.flatMap Worker.bursts

/--
Enough moves for one turn: every element is allocated once and freed once, and a round has a few
moves beside.
-/
def enoughMoves (w : Workshop) : Nat :=
  2 * w.allBursts.foldl (· + ·) 0 + 6 * w.allBursts.length + 3 * w.workers.size + 3

/-- Enough passes: in each, every worker completes a round or finishes. -/
def enoughPasses (w : Workshop) : Nat := w.allBursts.length + 2

/-- Lets every worker move in turn, each for as long as it can, until nothing is left to do. -/
def run (w : Workshop) : Workshop := w.passes w.enoughMoves w.enoughPasses

/-! ## Results -/

/--
The sum of the reports of the workers from `id` on. The first worker that failed decides; a later
one that stopped on a fault is then left over and makes the whole run fault.
-/
def total (id : Nat) (sum : WorkerReport) : List Worker → Except (Failure RunError) WorkerReport
  | [] => .ok sum
  | worker :: rest =>
    match worker.result id with
    | .ok report => total (id + 1) (sum.add report) rest
    | .error failure =>
      if rest.any Worker.hasPanicked then .error (.fault .workerPanicked) else .error failure

end Workshop

end TieredPool
