import TieredPool.CommandLine
import TieredPool.Log.Line
import TieredPool.Run.Scenario
import TieredPool.Run.Stress
import TieredPool.Settings.Load
import TieredPool.Settings.Written

/-!
# The program

The program reads its command line, loads the settings, puts the options over them, and does what
the command says. Settings are checked when they are loaded and again under the options. What is
reported while the settings load is not logged, since the filter is among them.
-/

namespace TieredPool.Program

/-- The program's name and version. -/
def versionLine : String := "qmempool 0.1.0\n"

/-- The files that the settings of a command line may come from. -/
def paths (a : Arguments) (vars : Variables) : List String :=
  match a.config with
  | some path => [path]
  | none => [Settings.baseFile, Settings.stageFile vars]

/-- Loads the settings that a command line names and puts its options over them. -/
def settings (a : Arguments) (files : Files) (vars : Variables) (defaults : Settings := {}) :
    Except (Failure LoadError) Settings × List Event :=
  let (loaded, events) := match a.config with
    | some path => (Settings.loadFrom files vars path defaults, [])
    | none => Settings.load files vars defaults
  (loaded >>= fun s => (a.override s).checked.mapError .error, events)

/-- A run that succeeded is followed by its metrics, if they are asked for. -/
def withMetrics (asked : Bool) (run : Run) : Run :=
  match run.ending with
  | .ok () => if asked then { run with transcript := run.transcript.print run.gauges.text } else run
  | .error _ => run

/-- Does what a command says under some settings. -/
def execute (command : Command) (s : Settings) (machine : Machine := .single) : Run :=
  match command with
  | .scenario => withMetrics s.telemetry.metrics (Scenario.run s.pool machine)
  | .stress options =>
    withMetrics s.telemetry.metrics (Stress.run s options.seed.toUInt64 machine)
  | .config => ⟨.ok (), Transcript.empty.print s.text, {}⟩

/-- What became of the program. -/
inductive Outcome where
  /-- The command line asked for nothing to be run. -/
  | unused (reason : Usage)
  /-- The settings could not be loaded. -/
  | unloaded (cause : Failure LoadError) (events : List Event)
  /-- A command was run, under its settings. The events are those of loading them. -/
  | ran (command : Command) (settings : Settings) (run : Run) (events : List Event)

/-- The program as a whole, on a machine. -/
def run (words : List String) (files : Files) (vars : Variables) (machine : Machine := .single) :
    Outcome :=
  match CommandLine.parse words with
  | .error reason => .unused reason
  | .ok a =>
    match settings a files vars (.defaults machine.cpus) with
    | (.error cause, events) => .unloaded cause events
    | (.ok s, events) => .ran a.command s (execute a.command s machine) events

/-! ## Output -/

/-- The variable that a log filter comes from first. -/
def filterVariable : String := "RUST_LOG"

def filter (vars : Variables) (s : Settings) : Except Fault Log.Filter :=
  Log.Filter.choose ((vars.lookup filterVariable).toList ++ [s.telemetry.logFilter])

/-- What the program leaves behind. -/
structure Report where
  exitCode : Nat
  /-- What is printed, log lines included. There is none for a command line that runs nothing,
  except for the version. -/
  printed : Option String := none
  /-- The error that the program ends with. -/
  error : Option Record := none

namespace Report

/-- A program that ends without an error. -/
def success (printed : String) : Report := ⟨0, some printed, none⟩

/-- A program that ends with an error. -/
def failed (printed : String) (error : Record) : Report := ⟨1, some printed, some error⟩

/-- A program that a fault ends. -/
def stopped (printed : String) : Report := ⟨101, some printed, none⟩

end Report

/-- What the program leaves behind, its log lines with the stamp. The log is set up before the
command is run. -/
def Outcome.report (vars : Variables) (stamp : String) : Outcome → Report
  | unused .version => .success versionLine
  | unused reason => { exitCode := if reason.isAnswer then 0 else 2 }
  | unloaded (.error cause) _ => .failed "" cause.record
  | unloaded (.fault _) _ => .stopped ""
  | ran _ s run _ =>
    match filter vars s with
    | .error _ => .stopped ""
    | .ok filter =>
      let printed := Log.render filter stamp run.transcript
      match run.ending with
      | .ok () => .success printed
      | .error (.error cause) => .failed printed cause.record
      | .error (.fault _) => .stopped printed

end TieredPool.Program
