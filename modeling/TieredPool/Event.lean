import TieredPool.Text.Quoted
import TieredPool.Text.Record

/-!
# Events

What the pool, its backings and the programs report while they work. An event says what happened;
its level, the part of the program it comes from, its message and its fields follow from that.
Events are outputs only: nothing is decided by them.
-/

namespace TieredPool

/-- How much an event matters, from the most severe on. -/
inductive Level where
  | error
  | warn
  | info
  | debug
  | trace
deriving DecidableEq, Repr

namespace Level

/-- The rank of a level: zero for the most severe. -/
def rank : Level → Nat
  | error => 0
  | warn => 1
  | info => 2
  | debug => 3
  | trace => 4

def name : Level → String
  | error => "ERROR"
  | warn => "WARN"
  | info => "INFO"
  | debug => "DEBUG"
  | trace => "TRACE"

/-- The level of the given lower-case name. -/
def ofName? : String → Option Level
  | "error" => some error
  | "warn" => some warn
  | "info" => some info
  | "debug" => some debug
  | "trace" => some trace
  | _ => none

/-- Is the level at least as severe as the other? -/
def within (l threshold : Level) : Bool := l.rank ≤ threshold.rank

end Level

/-- The value of an event's field. -/
inductive FieldValue where
  | number (n : Nat)
  | flag (b : Bool)
  | text (t : String)
  /-- A value shown as a record, in one line. -/
  | record (t : String)
deriving DecidableEq, Repr

/-- The field's value as it stands in a log line: only plain texts are quoted. -/
def FieldValue.written : FieldValue → String
  | .number n => toString n
  | .flag b => if b then "true" else "false"
  | .text t => Text.Quoted.encode t
  | .record t => t

/-- What a worker of a stress run did. -/
structure WorkerReport where
  allocated : Nat := 0
  freed : Nat := 0
  failures : Nat := 0
deriving DecidableEq, Repr, Inhabited

namespace WorkerReport

/-- What two workers did together. -/
def add (a b : WorkerReport) : WorkerReport :=
  ⟨a.allocated + b.allocated, a.freed + b.freed, a.failures + b.failures⟩

def record (r : WorkerReport) : Record :=
  .labelled "WorkerReport"
    [("allocated", .ofNat r.allocated), ("freed", .ofNat r.freed),
      ("failures", .ofNat r.failures)]

end WorkerReport

/-- Something worth reporting. -/
inductive Event where
  | heapLimitReached (limit : Option Nat)
  | chunksReserved (size align chunkSize capacity chunks : Nat)
  | localTooSmall (localSize : Nat)
  | sharedTooSmall (sharedSize : Nat)
  | sizesNotPowersOfTwo (localSize sharedSize : Nat)
  | preallocationTooLarge (preallocated sharedSize : Nat)
  | preallocationUneven (preallocated batch : Nat)
  | preallocationExhausted (allocated requested : Nat)
  | poolCreated (pool localSize sharedSize preallocated cpus : Nat)
  | poolDestroyed (pool allocs frees : Nat)
  | backingDepleted (pool : Nat)
  | refillCutShort (pool filled : Nat)
  | sharedEmpty (cpu : Nat)
  | sharedFull (cpu : Nat)
  | scenarioRunning (elementSize localSize sharedSize preallocated : Nat)
  | stressStarting (threads iterations burst : Nat) (crossCpuFree : Bool) (backing : String)
  | workerFinished (worker cpu : Nat) (report : WorkerReport)
  | allocationsFailed (failures : Nat)
  | backingBalanced (allocs frees : Nat)
  | defaultSettingsUsed
deriving DecidableEq, Repr

namespace Event

def level : Event → Level
  | localTooSmall .. | sharedTooSmall .. | sizesNotPowersOfTwo .. | preallocationTooLarge ..
  | preallocationExhausted .. | backingDepleted .. => .error
  | preallocationUneven .. | refillCutShort .. | allocationsFailed .. => .warn
  | scenarioRunning .. | stressStarting .. | backingBalanced .. | defaultSettingsUsed => .info
  | chunksReserved .. | poolCreated .. | poolDestroyed .. | workerFinished .. => .debug
  | heapLimitReached .. | sharedEmpty .. | sharedFull .. => .trace

/-- The part of the program the event comes from. -/
def target : Event → String
  | heapLimitReached .. => "qmempool_core::alloc::heap"
  | chunksReserved .. => "qmempool_core::alloc::chunk"
  | sharedEmpty .. | sharedFull .. => "qmempool_core::pool::lease"
  | scenarioRunning .. => "qmempool::scenario"
  | stressStarting .. | workerFinished .. | allocationsFailed .. | backingBalanced .. =>
    "qmempool::stress"
  | defaultSettingsUsed => "qmempool_config"
  | _ => "qmempool_core::pool"

def message : Event → String
  | heapLimitReached .. => "heap allocator limit reached"
  | chunksReserved .. => "chunk allocator reserved"
  | localTooSmall .. => "local queue too small for bulking"
  | sharedTooSmall .. => "shared queue too small for bulk refill"
  | sizesNotPowersOfTwo .. => "queue sizes must be power of two"
  | preallocationTooLarge .. => "preallocation does not fit shared queue"
  | preallocationUneven .. => "preallocation should be divisible by bulk size"
  | preallocationExhausted .. => "backing allocator out of memory during preallocation"
  | poolCreated .. => "pool created"
  | poolDestroyed .. => "pool destroyed"
  | backingDepleted .. => "backing allocator depleted"
  | refillCutShort .. => "backing allocator depleted during shared refill"
  | sharedEmpty .. => "shared queue empty, allocating from backing"
  | sharedFull .. => "shared queue full, draining to backing"
  | scenarioRunning .. => "running scenario"
  | stressStarting .. => "stress run starting"
  | workerFinished .. => "worker finished"
  | allocationsFailed .. => "allocations failed with backing exhausted"
  | backingBalanced .. => "backing allocator balanced"
  | defaultSettingsUsed => "config/qmempool.yaml not found, using default configuration"

/-- The event's fields, in the order they are written. -/
def fields : Event → List (String × FieldValue)
  | heapLimitReached limit => [("limit", .record (Record.ofOption Record.ofNat limit).inline)]
  | chunksReserved size align chunkSize capacity chunks =>
    [("size", .number size), ("align", .number align), ("chunk_size", .number chunkSize),
      ("capacity", .number capacity), ("num_chunks", .number chunks)]
  | localTooSmall localSize => [("local", .number localSize)]
  | sharedTooSmall sharedSize => [("shared", .number sharedSize)]
  | sizesNotPowersOfTwo localSize sharedSize =>
    [("local", .number localSize), ("shared", .number sharedSize)]
  | preallocationTooLarge preallocated sharedSize =>
    [("prealloc", .number preallocated), ("shared", .number sharedSize)]
  | preallocationUneven preallocated batch =>
    [("prealloc", .number preallocated), ("bulk", .number batch)]
  | preallocationExhausted allocated requested =>
    [("allocated", .number allocated), ("requested", .number requested)]
  | poolCreated pool localSize sharedSize preallocated cpus =>
    [("pool", .number pool), ("local", .number localSize), ("shared", .number sharedSize),
      ("prealloc", .number preallocated), ("cpus", .number cpus)]
  | poolDestroyed pool allocs frees =>
    [("pool", .number pool), ("backing_allocs", .number allocs),
      ("backing_frees", .number frees)]
  | backingDepleted pool => [("pool", .number pool)]
  | refillCutShort pool filled => [("pool", .number pool), ("filled", .number filled)]
  | sharedEmpty cpu => [("cpu", .number cpu)]
  | sharedFull cpu => [("cpu", .number cpu)]
  | scenarioRunning elementSize localSize sharedSize preallocated =>
    [("element_size", .number elementSize), ("local", .number localSize),
      ("shared", .number sharedSize), ("prealloc", .number preallocated)]
  | stressStarting threads iterations burst crossCpuFree backing =>
    [("threads", .number threads), ("iterations", .number iterations), ("burst", .number burst),
      ("cross_cpu_free", .flag crossCpuFree), ("backing", .text backing)]
  | workerFinished worker cpu report =>
    [("worker", .number worker), ("cpu", .number cpu), ("report", .record report.record.inline)]
  | allocationsFailed failures => [("failures", .number failures)]
  | backingBalanced allocs frees => [("allocs", .number allocs), ("frees", .number frees)]
  | defaultSettingsUsed => []

end Event

end TieredPool
