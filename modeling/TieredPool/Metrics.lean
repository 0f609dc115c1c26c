import TieredPool.Decimal.Shortest
import TieredPool.Pool

/-!
# Metrics

A board of gauges shows a pool's statistics as they were when they were last recorded. Gauges are
signed words, so larger counts show as the largest of them. The gauges of a CPU appear when that CPU
is first recorded and stay.

The text of a board lists the gauges in families in order of name. Each family has a help line, a
type line and its samples, those of CPUs in order of the label's text; a family without samples is
left out. Values are written as the decimal of the nearest binary64 number.
-/

namespace TieredPool

/-- The gauges of one CPU. -/
structure CpuGauges where
  refills : Nat
  overflows : Nat
  drains : Nat
  localLength : Nat
deriving DecidableEq, Repr

/-- The gauges of a pool. -/
structure Gauges where
  backingAllocs : Nat := 0
  backingFrees : Nat := 0
  outstanding : Nat := 0
  sharedRefills : Nat := 0
  backingDrains : Nat := 0
  sharedLength : Nat := 0
  /-- The gauges of each CPU recorded so far, each CPU once. -/
  cpus : List (Nat × CpuGauges) := []
deriving Repr

namespace Gauges

/-- The largest value of a gauge. -/
def largest : Nat := (1 <<< 63) - 1

/-- A count as a gauge shows it. -/
def clamp (n : Nat) : Nat := min n largest

def setCpu (cpu : Nat) (g : CpuGauges) : List (Nat × CpuGauges) → List (Nat × CpuGauges)
  | [] => [(cpu, g)]
  | (other, old) :: rest =>
    if other = cpu then (cpu, g) :: rest else (other, old) :: setCpu cpu g rest

def ofCpu (s : CpuStatistics) : CpuGauges :=
  ⟨clamp s.refills, clamp s.overflows, clamp s.drains, clamp s.localLength⟩

/-- Shows new statistics. -/
def record (g : Gauges) (pool : PoolStatistics) (cpus : List CpuStatistics) : Gauges where
  backingAllocs := clamp pool.backingAllocs
  backingFrees := clamp pool.backingFrees
  outstanding := clamp pool.outstanding
  sharedRefills := clamp pool.sharedRefills
  backingDrains := clamp pool.backingDrains
  sharedLength := clamp pool.sharedLength
  cpus := cpus.foldl (fun gauges s => setCpu s.cpu (ofCpu s) gauges) g.cpus

/-! ## Text -/

/-- The samples of a family: the pool's own, or one for each CPU. -/
inductive Samples where
  | pool (value : Nat)
  | cpus (values : List (Nat × Nat))

/-- Gauges of one name. -/
structure Family where
  name : String
  help : String
  samples : Samples

def perCpu (g : Gauges) (f : CpuGauges → Nat) : Samples :=
  .cpus (g.cpus.map fun (cpu, gauges) => (cpu, f gauges))

/-- All families, in order of name. -/
def families (g : Gauges) : List Family :=
  [⟨"qmempool_backing_allocs", "Elements obtained from the backing allocator",
      .pool g.backingAllocs⟩,
    ⟨"qmempool_backing_drains",
      "Overflow drains to the backing allocator, sum of qmempool_local_drains",
      .pool g.backingDrains⟩,
    ⟨"qmempool_backing_frees", "Elements returned to the backing allocator",
      .pool g.backingFrees⟩,
    ⟨"qmempool_local_drains", "Overflow drains to the backing allocator, by cpu",
      g.perCpu CpuGauges.drains⟩,
    ⟨"qmempool_local_full", "Frees that found the local queue full",
      g.perCpu CpuGauges.overflows⟩,
    ⟨"qmempool_local_len", "Elements in the local queue", g.perCpu CpuGauges.localLength⟩,
    ⟨"qmempool_local_refills", "Local queue refills from the shared queue",
      g.perCpu CpuGauges.refills⟩,
    ⟨"qmempool_outstanding_elements", "Backing elements currently cached or held by callers",
      .pool g.outstanding⟩,
    ⟨"qmempool_shared_len", "Elements in the shared queue", .pool g.sharedLength⟩,
    ⟨"qmempool_shared_refills", "Shared queue refills from the backing allocator",
      .pool g.sharedRefills⟩]

/-- A gauge's value as it is written. -/
def valueText (value : Nat) : String := (Binary64.ofNat value).toDecimal

def Family.sampleLines (f : Family) : List String :=
  match f.samples with
  | .pool value => [f.name ++ " " ++ valueText value ++ "\n"]
  | .cpus values =>
    let labelled := values.map fun (cpu, value) => (toString cpu, value)
    let ordered := labelled.mergeSort fun a b => !decide (b.1 < a.1)
    ordered.map fun (label, value) =>
      f.name ++ "\x7bcpu=\"" ++ label ++ "\"\x7d " ++ valueText value ++ "\n"

/-- The lines of a family, if it has samples. -/
def Family.text (f : Family) : String :=
  match f.sampleLines with
  | [] => ""
  | lines =>
    "# HELP " ++ f.name ++ " " ++ f.help ++ "\n# TYPE " ++ f.name ++ " gauge\n" ++
      String.join lines

def text (g : Gauges) : String := String.join (g.families.map Family.text)

end Gauges

end TieredPool
