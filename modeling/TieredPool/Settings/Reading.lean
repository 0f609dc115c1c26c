import TieredPool.Settings
import TieredPool.Settings.Value

/-!
# Reading settings off a value

The settings are read off the merged layers. Every setting has one type, and nothing is converted:
a number in quotes is a text. The first value of a wrong type is an error, which tells the value,
the path to it and where it was set; sections and the settings in them are looked at in the order
of their names. Keys of no setting are passed over.

A section may also be a list, whose items set its settings in the order in which the section
declares them. What a section does not set has its default.
-/

namespace TieredPool

/-- What is wrong with a value. -/
inductive Misfit.Problem where
  /-- A value of another type than the setting has. -/
  | wrongType (found expected : String)
  /-- A number below zero. -/
  | negative (i : Int)
  /-- The name of no kind of backing. -/
  | unknownKind (name : String)
deriving DecidableEq, Repr

/-- A value that does not fit its setting. -/
structure Misfit where
  problem : Misfit.Problem
  /-- Where the value was set. -/
  source : Source
  /-- The keys that lead to the value. -/
  path : List String
deriving DecidableEq, Repr

namespace Misfit

def Problem.message : Problem → String
  | wrongType found expected => s!"invalid type: found {found}, expected {expected}"
  | negative i => s!"invalid value signed int `{i}`, expected usize"
  | unknownKind name => s!"unknown variant: found `{name}`, expected ``heap` or `chunk``"

/-- The path as it is written where the value was set. -/
def key (m : Misfit) : String :=
  match m.source with
  | .environment => ".".intercalate (m.path.map String.toUpper)
  | _ => ".".intercalate ("default" :: m.path)

/-- The place where a value was set, in words. -/
def place? : Source → Option String
  | .defaults => some "defaults"
  | .file path => some (path ++ " YAML file")
  | .environment => some "`QMEMPOOL_` environment variable(s)"
  | .unknown => none

/-- The text the misfit is reported with. The key is told where the place is known. -/
def message (m : Misfit) : String :=
  match place? m.source with
  | some place => s!"{m.problem.message} for key {Text.Quoted.encode m.key} in {place}"
  | none => m.problem.message

/-- The misfit of a value that was found under a key. -/
def under (key : String) (m : Misfit) : Misfit := { m with path := key :: m.path }

/-- The misfit of a value of another type than the one expected. -/
def ofType (v : Value) (expected : String) : Misfit :=
  ⟨.wrongType v.found expected, v.source, []⟩

end Misfit

namespace Reading

/-- Reading something off a value. -/
abbrev Reader (α : Type) := Value → Except Misfit α

/-! ## Single settings -/

def count : Reader Nat
  | .scalar source (.natural n) =>
    if Scalar.fitsWord n then .ok n
    else .error (.ofType (.scalar source (.natural n)) "usize")
  | .scalar source (.signed i) =>
    if !Scalar.fitsSignedWord i then .error (.ofType (.scalar source (.signed i)) "usize")
    else if i < 0 then .error ⟨.negative i, source, []⟩
    else .ok i.toNat
  | v => .error (.ofType v "usize")

def optionalCount : Reader (Option Nat)
  | .scalar _ .null => .ok none
  | v => some <$> count v

/-- A truth value. -/
def flag : Reader Bool
  | .scalar _ (.bool b) => .ok b
  | v => .error (.ofType v "a boolean")

def text : Reader String
  | .scalar _ (.text t) => .ok t
  | .scalar _ (.letter c) => .ok (String.singleton c)
  | v => .error (.ofType v "a string")

/-- The kind of backing that a name in a value of the source stands for. -/
def kindOfName (source : Source) (name : String) : Except Misfit BackingKind :=
  match BackingKind.ofName? name with
  | some kind => .ok kind
  | none => .error ⟨.unknownKind name, source, []⟩

/-- A kind of backing: its name, or a map with the name as its least key and nothing under it. -/
def kind : Reader BackingKind
  | .scalar source (.text name) => kindOfName source name
  | .map source entries =>
    match Value.least? entries with
    | none => .error (.ofType (.map source entries) "enum")
    | some (name, v) => (do
        let kind ← kindOfName v.source name
        match v with
        | .scalar _ .null => .ok kind
        | v => .error (.ofType v "unit")).mapError (.under name)
  | v => .error (.ofType v "enum BackingKind")

/-! ## Sections -/

/-- The value of a key in a section, or the default. -/
def field {α : Type} (entries : List (String × Value)) (key : String) (default : α)
    (read : Reader α) : Except Misfit α :=
  match Value.lookup? key entries with
  | none => .ok default
  | some v => (read v).mapError (.under key)

/-- The value of an item in a section, or the default. -/
def item {α : Type} (items : List Value) (index : Nat) (default : α) (read : Reader α) :
    Except Misfit α :=
  match items[index]? with
  | none => .ok default
  | some v => (read v).mapError (.under (toString index))

def pool (d : PoolSettings) : Reader PoolSettings := fun v => do
  match v with
  | .map _ es =>
    let backing ← field es "backing" d.backing kind
    let backingLimit ← field es "backing_limit" d.backingLimit optionalCount
    let cpus ← field es "cpus" d.cpus count
    let elementAlign ← field es "element_align" d.elementAlign count
    let elementSize ← field es "element_size" d.elementSize count
    let localCapacity ← field es "local_capacity" d.localCapacity count
    let preallocate ← field es "preallocate" d.preallocate count
    let sharedCapacity ← field es "shared_capacity" d.sharedCapacity count
    return { localCapacity, sharedCapacity, preallocate, cpus, elementSize, elementAlign, backing,
             backingLimit }
  | .list _ vs =>
    let localCapacity ← item vs 0 d.localCapacity count
    let sharedCapacity ← item vs 1 d.sharedCapacity count
    let preallocate ← item vs 2 d.preallocate count
    let cpus ← item vs 3 d.cpus count
    let elementSize ← item vs 4 d.elementSize count
    let elementAlign ← item vs 5 d.elementAlign count
    let backing ← item vs 6 d.backing kind
    let backingLimit ← item vs 7 d.backingLimit optionalCount
    return { localCapacity, sharedCapacity, preallocate, cpus, elementSize, elementAlign, backing,
             backingLimit }
  | .scalar .. => throw (.ofType v "struct PoolConfig")

def workload (d : WorkloadSettings) : Reader WorkloadSettings := fun v => do
  match v with
  | .map _ es =>
    let burst ← field es "burst" d.burst count
    let crossCpuFree ← field es "cross_cpu_free" d.crossCpuFree flag
    let iterations ← field es "iterations" d.iterations count
    let threads ← field es "threads" d.threads count
    return { threads, iterations, burst, crossCpuFree }
  | .list _ vs =>
    let threads ← item vs 0 d.threads count
    let iterations ← item vs 1 d.iterations count
    let burst ← item vs 2 d.burst count
    let crossCpuFree ← item vs 3 d.crossCpuFree flag
    return { threads, iterations, burst, crossCpuFree }
  | .scalar .. => throw (.ofType v "struct WorkloadConfig")

def telemetry (d : TelemetrySettings) : Reader TelemetrySettings := fun v => do
  match v with
  | .map _ es =>
    let logFilter ← field es "log_filter" d.logFilter text
    let metrics ← field es "metrics" d.metrics flag
    return { logFilter, metrics }
  | .list _ vs =>
    let logFilter ← item vs 0 d.logFilter text
    let metrics ← item vs 1 d.metrics flag
    return { logFilter, metrics }
  | .scalar .. => throw (.ofType v "struct TelemetryConfig")

end Reading

/-- The settings of the merged layers, where they are set, and the defaults. -/
def Settings.ofValue (v : Value) (d : Settings := {}) : Except Misfit Settings := do
  match v with
  | .map _ es =>
    let pool ← Reading.field es "pool" d.pool (Reading.pool d.pool)
    let telemetry ← Reading.field es "telemetry" d.telemetry (Reading.telemetry d.telemetry)
    let workload ← Reading.field es "workload" d.workload (Reading.workload d.workload)
    return { pool, workload, telemetry }
  | v => throw (.ofType v "struct QmempoolConfig")

end TieredPool
