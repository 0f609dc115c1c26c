import TieredPool.Event
import TieredPool.Settings.Document
import TieredPool.Settings.Environment
import TieredPool.Settings.Reading
import TieredPool.Settings.Validation

/-!
# Loading settings

Settings are loaded from layers, each over those before it: the defaults, files, the environment.
The files are one that is named, or the base file and the file of the stage the program runs in, as
far as they exist. A directory in the place of a file sets nothing.

Errors come in this order: a named file that is missing, texts that are not well formed, values that
do not fit, and settings that break a rule. A fault in a variable comes before what is wrong with
the files' texts.
-/

namespace TieredPool

/-- What a path leads to. -/
inductive Entry where
  | text (content : String)
  | directory
deriving DecidableEq, Repr

/-- The files that can be read: what each path leads to, if to anything. -/
abbrev Files := String → Option Entry

/-- The variables of the environment, in order. -/
abbrev Variables := List (String × String)

/-- Why settings could not be loaded. -/
inductive LoadError where
  | fileNotFound (path : String)
  /-- Files that are not well formed, the last one first. -/
  | malformed (problems : List Yaml.Problem)
  | misfit (m : Misfit)
  | invalid (violations : List Violation)
deriving DecidableEq, Repr

namespace LoadError

/-- The text the error is reported with. -/
def message : LoadError → String
  | fileNotFound path => s!"Configuration file not found: {path}"
  | malformed problems =>
    "Configuration parsing error: " ++ "\n".intercalate (problems.map (·.message))
  | misfit m => s!"Configuration parsing error: {m.message}"
  | invalid violations =>
    "Invalid configuration:\n" ++ String.join (violations.map fun v => v.text ++ "\n")

def record : LoadError → Record
  | fileNotFound path => .tuple "FileNotFound" [.atom (Text.Quoted.encode path)]
  | invalid violations =>
    .tuple "Validation" (violations.map fun v => .atom (Text.Quoted.encode v.text))
  | e => .tuple "Parsing" [.atom (Text.Quoted.encode e.message)]

end LoadError

namespace Settings

/-! ## Layers -/

def toValue (source : Source) (s : Settings) : Value :=
  let leaf (x : Scalar) : Value := .scalar source x
  .map source
    [("pool", .map source
        [("local_capacity", leaf (.natural s.pool.localCapacity)),
          ("shared_capacity", leaf (.natural s.pool.sharedCapacity)),
          ("preallocate", leaf (.natural s.pool.preallocate)),
          ("cpus", leaf (.natural s.pool.cpus)),
          ("element_size", leaf (.natural s.pool.elementSize)),
          ("element_align", leaf (.natural s.pool.elementAlign)),
          ("backing", leaf (.text s.pool.backing.name)),
          ("backing_limit", leaf (match s.pool.backingLimit with
            | none => .null
            | some limit => .natural limit))]),
      ("workload", .map source
        [("threads", leaf (.natural s.workload.threads)),
          ("iterations", leaf (.natural s.workload.iterations)),
          ("burst", leaf (.natural s.workload.burst)),
          ("cross_cpu_free", leaf (.bool s.workload.crossCpuFree))]),
      ("telemetry", .map source
        [("log_filter", leaf (.text s.telemetry.logFilter)),
          ("metrics", leaf (.bool s.telemetry.metrics))])]

/-- A path as it is shown: without parts that lead nowhere. -/
def shownPath (path : String) : String :=
  let parts := (path.splitOn "/").filter fun part => part != "" && part != "."
  (if path.startsWith "/" then "/" else "") ++ "/".intercalate parts

def fileLayer (files : Files) (path : String) : Except Yaml.Problem Value :=
  let source := .file (shownPath path)
  match files path with
  | some (.text content) => Document.layer source content
  | _ => .ok (.empty source)

/-- The layers of files, or what is wrong with those that are not well formed, the last first. -/
def fileLayers (files : Files) : List String → Except (List Yaml.Problem) (List Value)
  | [] => .ok []
  | path :: paths =>
    match fileLayer files path, fileLayers files paths with
    | .ok layer, .ok layers => .ok (layer :: layers)
    | .error problem, .ok _ => .error [problem]
    | .ok _, .error problems => .error problems
    | .error problem, .error problems => .error (problems ++ [problem])

/-- The settings of the defaults, layers of files and a layer of the environment, valid or not. -/
def ofLayers (files : Except (List Yaml.Problem) (List Value)) (environment : Value)
    (defaults : Settings := {}) : Except LoadError Settings := do
  let layers ← files.mapError .malformed
  let merged := Value.mergeAll (toValue .defaults defaults) (layers ++ [environment])
  (ofValue merged defaults).mapError .misfit

/-- Settings that break no rule. -/
def checked (s : Settings) : Except LoadError Settings :=
  if s.violations.isEmpty then .ok s else .error (.invalid s.violations)

/-- Valid settings of the defaults, files and the environment. -/
def ofFiles (files : Files) (vars : Variables) (paths : List String) (defaults : Settings := {}) :
    Except (Failure LoadError) Settings := do
  let environment ← (Environment.layer vars).mapError .fault
  (ofLayers (fileLayers files paths) environment defaults >>= checked).mapError .error

/-! ## Loading -/

def baseFile : String := "config/qmempool.yaml"

def stageVariable : String := "QMEMPOOL_ENV"

/-- The stage when none is named. -/
def defaultStage : String := "production"

def stageFile (vars : Variables) : String :=
  s!"config/{(vars.lookup stageVariable).getD defaultStage}.yaml"

/-- Loads the settings of a named file. -/
def loadFrom (files : Files) (vars : Variables) (path : String) (defaults : Settings := {}) :
    Except (Failure LoadError) Settings :=
  if (files path).isNone then .error (.error (.fileNotFound path))
  else ofFiles files vars [path] defaults

/-- Loads the settings of the base file and the stage's file, with what is reported. -/
def load (files : Files) (vars : Variables) (defaults : Settings := {}) :
    Except (Failure LoadError) Settings × List Event :=
  let paths := [baseFile, stageFile vars].filter fun path => (files path).isSome
  let events := if (files baseFile).isNone then [.defaultSettingsUsed] else []
  (ofFiles files vars paths defaults, events)

end Settings

end TieredPool
