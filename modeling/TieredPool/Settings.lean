/-!
# Settings

What a run of the program is told: the shape of the pool and its backing, the synthetic workload,
and what is to be reported. Each section has its defaults. Two of them follow the number of CPUs of
the machine: `Settings.defaults` has them all, and `{}` is what they come to for a single CPU.
-/

namespace TieredPool

/-- Which backing feeds the pool. -/
inductive BackingKind where
  | heap
  | chunk
deriving DecidableEq, Repr

namespace BackingKind

def name : BackingKind → String
  | heap => "heap"
  | chunk => "chunk"

def ofName? : String → Option BackingKind
  | "heap" => some heap
  | "chunk" => some chunk
  | _ => none

end BackingKind

/-- The shape of the pool and its backing. -/
structure PoolSettings where
  localCapacity : Nat := 64
  sharedCapacity : Nat := 1024
  preallocate : Nat := 256
  /-- The CPUs that the pool is built for: one if nothing is said of the machine, and as many as it
  has in `Settings.defaults`. -/
  cpus : Nat := 1
  elementSize : Nat := 2048
  elementAlign : Nat := 64
  backing : BackingKind := .heap
  backingLimit : Option Nat := none
deriving DecidableEq, Repr, Inhabited

/-- The workload of a stress run. -/
structure WorkloadSettings where
  /-- The workers: one if nothing is said of the machine, and one for each of its CPUs in
  `Settings.defaults`, up to `Settings.defaultWorkers`. -/
  threads : Nat := 1
  iterations : Nat := 10000
  burst : Nat := 32
  crossCpuFree : Bool := false
deriving DecidableEq, Repr, Inhabited

/-- What is reported. -/
structure TelemetrySettings where
  logFilter : String := "info"
  metrics : Bool := false
deriving DecidableEq, Repr, Inhabited

/-- All settings of a run. -/
structure Settings where
  pool : PoolSettings := {}
  workload : WorkloadSettings := {}
  telemetry : TelemetrySettings := {}
deriving DecidableEq, Repr, Inhabited

namespace Settings

/-- The number of workers that a machine with more CPUs still starts by default. -/
def defaultWorkers : Nat := 8

/-- The defaults on a machine with so many CPUs. -/
def defaults (cpus : Nat) : Settings where
  pool := { cpus }
  workload := { threads := min cpus defaultWorkers }

end Settings

end TieredPool
