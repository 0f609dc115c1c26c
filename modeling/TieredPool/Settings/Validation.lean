import TieredPool.Settings
import TieredPool.Word

/-!
# Validation of settings

Every setting has rules of its own, and a section has a rule about its settings together, which is
only asked when each of them keeps its own. A report has a block for each setting that breaks a
rule, and for each section that breaks the section's. `Settings.violations` is the report of some
settings; settings without one are valid.
-/

namespace TieredPool

/-- A rule that settings can break. -/
inductive Rule where
  /-- The number lies outside its range. -/
  | range
  /-- The text is too short. -/
  | length
  | powerOfTwo
  /-- Preallocated elements must fit the shared queue, which keeps one slot free. -/
  | preallocation (preallocate sharedCapacity : Nat)
  /-- An element is as large as its alignment at least. -/
  | alignment
  /-- A burst that is freed elsewhere needs a second worker. -/
  | secondWorker
deriving DecidableEq, Repr

/-- The rule as it is named in a report. -/
def Rule.text : Rule → String
  | range => "range"
  | length => "length"
  | powerOfTwo => "must_be_power_of_two"
  | preallocation preallocate sharedCapacity =>
    s!"preallocate ({preallocate}) must be below shared_capacity ({sharedCapacity})"
  | alignment => "align_exceeds_size"
  | secondWorker => "cross_cpu_free_needs_two_threads"

/-- The rules that one setting or one section breaks. -/
structure Violation where
  path : String
  rules : List Rule
deriving DecidableEq, Repr

/-- The block of a report. -/
def Violation.text (v : Violation) : String :=
  "\n".intercalate (s!"Field '{v.path}':" :: v.rules.map fun rule => "  - " ++ rule.text)

namespace Validation

/-- A rule that is broken unless a condition holds. -/
def require (holds : Bool) (rule : Rule) : List Rule := if holds then [] else [rule]

/-- A number must lie in a range. -/
def within (low high n : Nat) : List Rule := require (low ≤ n && n ≤ high) .range

/-- A number must not be too small. -/
def atLeast (low n : Nat) : List Rule := require (low ≤ n) .range

def powerOfTwo (n : Nat) : List Rule := require (Word.isPowerOfTwo n) .powerOfTwo

/-- The report of a section: of its settings, or else of the section as a whole. -/
def report (name : String) (settings : List (String × List Rule)) (whole : List Rule) :
    List Violation :=
  let broken := settings.filter fun s => !s.2.isEmpty
  if broken.isEmpty then
    if whole.isEmpty then [] else [⟨name, whole⟩]
  else broken.map fun s => ⟨name ++ "." ++ s.1, s.2⟩

end Validation

open Validation

namespace PoolSettings

/-- The settings of the section, with the rules that each breaks. -/
def brokenRules (s : PoolSettings) : List (String × List Rule) :=
  [("local_capacity", within 16 65536 s.localCapacity ++ powerOfTwo s.localCapacity),
    ("shared_capacity", within 64 1048576 s.sharedCapacity ++ powerOfTwo s.sharedCapacity),
    ("preallocate", []),
    ("cpus", within 1 4096 s.cpus),
    ("element_size", within 1 1048576 s.elementSize),
    ("element_align", within 1 4096 s.elementAlign ++ powerOfTwo s.elementAlign),
    ("backing", []),
    ("backing_limit", match s.backingLimit with | none => [] | some limit => atLeast 1 limit)]

/-- The rule of the section, if it is broken: of two, the first one. -/
def brokenWhole (s : PoolSettings) : List Rule :=
  if s.sharedCapacity ≤ s.preallocate then [.preallocation s.preallocate s.sharedCapacity]
  else require (s.elementAlign ≤ s.elementSize) .alignment

def violations (s : PoolSettings) : List Violation := report "pool" s.brokenRules s.brokenWhole

end PoolSettings

namespace WorkloadSettings

/-- The settings of the section, with the rules that each breaks. -/
def brokenRules (s : WorkloadSettings) : List (String × List Rule) :=
  [("threads", within 1 4096 s.threads),
    ("iterations", atLeast 1 s.iterations),
    ("burst", within 1 65536 s.burst),
    ("cross_cpu_free", [])]

def brokenWhole (s : WorkloadSettings) : List Rule :=
  require (!s.crossCpuFree || 2 ≤ s.threads) .secondWorker

/-- The report of the section. -/
def violations (s : WorkloadSettings) : List Violation :=
  report "workload" s.brokenRules s.brokenWhole

end WorkloadSettings

namespace TelemetrySettings

/-- The settings of the section, with the rules that each breaks. -/
def brokenRules (s : TelemetrySettings) : List (String × List Rule) :=
  [("log_filter", require (!s.logFilter.isEmpty) .length), ("metrics", [])]

/-- The report of the section, which has no rule as a whole. -/
def violations (s : TelemetrySettings) : List Violation := report "telemetry" s.brokenRules []

end TelemetrySettings

namespace Settings

/-- The report of all sections. -/
def violations (s : Settings) : List Violation :=
  s.pool.violations ++ s.workload.violations ++ s.telemetry.violations

/-- Do the settings keep all rules? -/
def isValid (s : Settings) : Bool := s.violations.isEmpty

end Settings

end TieredPool
