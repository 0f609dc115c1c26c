import TieredPool.AllocFlags
import TieredPool.Memory
import TieredPool.Ring

/-!
# Pools

A pool keeps elements of a backing in two tiers: a local queue for each CPU and a queue shared by
all of them. The local queues are reserved for one user, who must hold the CPU's lease; the shared
queue is open to many. This module has the state of a pool; what is done with it is in
`TieredPool.Pool.Lease`, `TieredPool.Pool.Build` and `TieredPool.Pool.Retirement`.
-/

namespace TieredPool

/-- Elements that move between tiers together. -/
def batch : Nat := 16

/-- Batches that move between the shared queue and the backing together. -/
def refillBatches : Nat := 2

/-- An element in a caller's hands, with the pool that handed it out. -/
structure Element where
  handle : Handle
  pool : Nat
deriving DecidableEq, Repr

/-- An allocation found every tier and the backing exhausted. -/
structure OutOfMemory where
deriving DecidableEq, Repr

/-- The text it is reported with. -/
def OutOfMemory.message : String := "Out of memory: backing allocator exhausted"

/-- The local tier of one CPU. -/
structure Cache where
  queue : Ring Handle
  /-- Refills from the shared queue. -/
  refills : Nat := 0
  /-- Frees that found the queue full. -/
  overflows : Nat := 0
  /-- Overflows that found the shared queue full as well. -/
  drains : Nat := 0
  /-- The CPU that leased the queue last. -/
  owner : Option Nat := none
  /-- Is the queue leased? -/
  leased : Bool := false

/-- An unused local tier. -/
def Cache.create (size : Nat) : Except (Failure Ring.InvalidSize) Cache := do
  return { queue := ← Ring.create size .spsc }

/-- Counts of a pool's dealings with its backing. -/
structure Traffic where
  /-- Elements obtained, the preallocated ones included. -/
  allocs : Nat := 0
  /-- Elements returned. -/
  frees : Nat := 0
  /-- Refills of the shared queue. -/
  refills : Nat := 0
  /-- Drains of overflowing queues. -/
  drains : Nat := 0
deriving DecidableEq, Repr, Inhabited

/-- A pool without its backing. -/
structure Pool where
  id : Nat
  /-- The flags of preallocation. -/
  flags : AllocFlags
  preallocated : Nat
  localSize : Nat
  shared : Ring Handle
  /-- The local tier of each CPU, by number. -/
  caches : Array Cache
  traffic : Traffic

/-! ## Statistics -/

/-- A pool's counts at one moment. -/
structure PoolStatistics where
  backingAllocs : Nat := 0
  backingFrees : Nat := 0
  sharedRefills : Nat := 0
  backingDrains : Nat := 0
  sharedLength : Nat := 0
  preallocated : Nat := 0
deriving DecidableEq, Repr, Inhabited

/-- Elements in the tiers or in callers' hands; zero if more went back than came. -/
def PoolStatistics.outstanding (s : PoolStatistics) : Nat := s.backingAllocs - s.backingFrees

/-- A local tier's counts at one moment. -/
structure CpuStatistics where
  cpu : Nat := 0
  owner : Option Nat := none
  refills : Nat := 0
  overflows : Nat := 0
  drains : Nat := 0
  localLength : Nat := 0
deriving DecidableEq, Repr, Inhabited

/-- The counts of the local tier of a CPU. -/
def Cache.statistics (c : Cache) (cpu : Nat) : CpuStatistics :=
  ⟨cpu, c.owner, c.refills, c.overflows, c.drains, c.queue.length⟩

namespace Pool

def cpus (p : Pool) : Nat := p.caches.size

def sharedSize (p : Pool) : Nat := p.shared.size

/-- Elements in the local queue of a CPU. -/
def localLength? (p : Pool) (cpu : Nat) : Option Nat :=
  p.caches[cpu]?.map fun cache => cache.queue.length

def statistics (p : Pool) : PoolStatistics :=
  ⟨p.traffic.allocs, p.traffic.frees, p.traffic.refills, p.traffic.drains, p.shared.length,
    p.preallocated⟩

/-- The counts of the local tier of a CPU. -/
def cpuStatistics? (p : Pool) (cpu : Nat) : Option CpuStatistics :=
  p.caches[cpu]?.map fun cache => cache.statistics cpu

/-- The counts of all local tiers, by CPU. -/
def allCpuStatistics (p : Pool) : List CpuStatistics :=
  p.caches.toList.mapIdx fun cpu cache => cache.statistics cpu

/-! ## Leases -/

/-- Why a CPU cannot be leased. -/
inductive LeaseError where
  | invalidCpu (cpu cpus : Nat)
  | busy (cpu : Nat)
deriving DecidableEq, Repr

/-- The text the error is reported with. -/
def LeaseError.message : LeaseError → String
  | .invalidCpu cpu cpus => s!"CPU {cpu} out of range (pool has {cpus} CPUs)"
  | .busy cpu => s!"CPU {cpu} is already leased"

def LeaseError.record : LeaseError → Record
  | .invalidCpu cpu cpus =>
    .labelled "InvalidCpu" [("cpu", .ofNat cpu), ("cpus", .ofNat cpus)]
  | .busy cpu => .tuple "Busy" [.ofNat cpu]

/-- The right to use the local queue of a CPU. -/
structure Lease where
  pool : Nat
  cpu : Nat
deriving DecidableEq, Repr

def Lease.record (l : Lease) : Record :=
  .labelled "CpuLease" [("pool", .ofNat l.pool), ("cpu", .ofNat l.cpu)]

/-- Leases a CPU that exists and is not leased. -/
def lease (cpu : Nat) (p : Pool) : Except LeaseError Lease × Pool :=
  match p.caches[cpu]? with
  | none => (.error (.invalidCpu cpu p.cpus), p)
  | some cache =>
    if cache.leased then (.error (.busy cpu), p)
    else
      let cache := { cache with leased := true, owner := some cpu }
      (.ok ⟨p.id, cpu⟩, { p with caches := p.caches.setIfInBounds cpu cache })

/-- Ends the lease of a CPU. -/
def unlease (cpu : Nat) (p : Pool) : Pool :=
  { p with caches := p.caches.modify cpu fun cache => { cache with leased := false } }

def leaseOf? (cpu : Nat) (p : Pool) : Option Lease :=
  match p.caches[cpu]? with
  | none => none
  | some cache => if cache.leased then some ⟨p.id, cpu⟩ else none

/-- The pool as a record: its shape, not its elements. -/
def record (p : Pool) : Record :=
  .labelled "Pool"
    [("id", .ofNat p.id), ("cpus", .ofNat p.cpus), ("local_capacity", .ofNat p.localSize),
      ("shared", p.shared.record), ("prealloc", .ofNat p.preallocated),
      ("flags", p.flags.record)]

end Pool

end TieredPool
