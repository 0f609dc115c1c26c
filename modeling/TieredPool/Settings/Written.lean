import TieredPool.Settings
import TieredPool.Settings.Document
import TieredPool.Yaml.Written

/-!
# Written settings

Settings are written as a YAML text that reads back as the same settings: a section after the other,
each setting on a line of its own.
-/

namespace TieredPool.Settings

/-- A truth value as it is written. -/
def boolText (b : Bool) : String := if b then "true" else "false"

/-- A text as it is written in a section: plain only if it would be read as a text again. -/
def textText (t : String) : String :=
  let readsAsText := match Document.plain t with
    | .text _ => !Document.isZeroPadded t.toList
    | _ => false
  Yaml.Written.scalar (2 * Yaml.Written.step) readsAsText t

/-- The settings of each section as they are written. -/
def sections (s : Settings) : List (String × List (String × String)) :=
  [("pool",
      [("local_capacity", toString s.pool.localCapacity),
        ("shared_capacity", toString s.pool.sharedCapacity),
        ("preallocate", toString s.pool.preallocate),
        ("cpus", toString s.pool.cpus),
        ("element_size", toString s.pool.elementSize),
        ("element_align", toString s.pool.elementAlign),
        ("backing", s.pool.backing.name),
        ("backing_limit", match s.pool.backingLimit with
          | none => "null"
          | some limit => toString limit)]),
    ("workload",
      [("threads", toString s.workload.threads),
        ("iterations", toString s.workload.iterations),
        ("burst", toString s.workload.burst),
        ("cross_cpu_free", boolText s.workload.crossCpuFree)]),
    ("telemetry",
      [("log_filter", textText s.telemetry.logFilter),
        ("metrics", boolText s.telemetry.metrics)])]

/-- A line of a section. A value that ends its last line itself is not given another end. -/
def line (key value : String) : String :=
  let ended := value.toList.getLast?.any Yaml.isBreak
  "  " ++ key ++ ": " ++ value ++ if ended then "" else "\n"

def text (s : Settings) : String :=
  String.join (s.sections.map fun (name, lines) =>
    name ++ ":\n" ++ String.join (lines.map fun (key, value) => line key value))

end TieredPool.Settings
