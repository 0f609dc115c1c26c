import TieredPool.Decimal.Reading
import TieredPool.Settings

/-!
# The command line

A command line is a command with options before and after it. Two options belong to every command:
the file with the settings and the metrics; the others belong to the stress run. An option's value
follows as a word of its own or after an equals sign; the file may also be told by one letter with
the value right after it.

An option that takes its value from the next word is pending until another option comes: its value is
only looked at then. `CommandLine.parse` is the whole reading, and what the command line says goes
over the settings by `Arguments.override`.
-/

namespace TieredPool

/-- What a stress run is told on the command line. -/
structure StressOptions where
  threads : Option Nat := none
  iterations : Option Nat := none
  burst : Option Nat := none
  crossCpuFree : Bool := false
  seed : Nat := 0
deriving DecidableEq, Repr, Inhabited

/-- What the program is to do. -/
inductive Command where
  | scenario
  | stress (options : StressOptions)
  | config
deriving DecidableEq, Repr

/-- A command line that was understood. -/
structure Arguments where
  /-- The file with the settings. -/
  config : Option String := none
  metrics : Bool := false
  command : Command
deriving DecidableEq, Repr

/-- Why a command line asks for nothing to be run. -/
inductive Usage where
  | help
  | version
  | empty
  /-- There are options but no command. -/
  | missingCommand
  | unknownCommand
  | unknownArgument
  /-- An option without its value. -/
  | missingValue
  /-- A value of the wrong form. -/
  | badValue
  /-- An option that was given before. -/
  | repeated
  /-- A value for an option that takes none. -/
  | surplusValue
deriving DecidableEq, Repr

namespace Usage

/-- Is this what was asked for, and no mistake? -/
def isAnswer : Usage → Bool
  | help | version => true
  | _ => false

/-- The reason in words. -/
def message : Usage → String
  | help => "help requested"
  | version => "version requested"
  | empty | missingCommand => "a command is required: scenario, stress or config"
  | unknownCommand => "unrecognized command"
  | unknownArgument => "unexpected argument"
  | missingValue => "a value is required for an option but none was supplied"
  | badValue => "invalid value for an option"
  | repeated => "an option cannot be used multiple times"
  | surplusValue => "unexpected value for an option that takes none"

end Usage

namespace CommandLine

/-- The options. -/
inductive Opt where
  | config
  | metrics
  | threads
  | iterations
  | burst
  | crossCpuFree
  | seed
  | help
  | version
deriving DecidableEq, Repr

/-- Where options stand: before the command, or after one. -/
inductive Scope where
  | program
  | scenario
  | stress
  | config
deriving DecidableEq, Repr

def Opt.takesValue : Opt → Bool
  | .config | .threads | .iterations | .burst | .seed => true
  | _ => false

namespace Scope

def long? (s : Scope) : String → Option Opt
  | "config" => some .config
  | "metrics" => some .metrics
  | "help" => some .help
  | "version" => if s = .program then some .version else none
  | "threads" => if s = .stress then some .threads else none
  | "iterations" => if s = .stress then some .iterations else none
  | "burst" => if s = .stress then some .burst else none
  | "cross-cpu-free" => if s = .stress then some .crossCpuFree else none
  | "seed" => if s = .stress then some .seed else none
  | _ => none

def short? (s : Scope) : Char → Option Opt
  | 'c' => some .config
  | 'h' => some .help
  | 'V' => if s = .program then some .version else none
  | _ => none

def ofCommand? : String → Option Scope
  | "scenario" => some .scenario
  | "stress" => some .stress
  | "config" => some .config
  | _ => none

end Scope

/-- The options given in one scope. -/
structure Given where
  config : Option String := none
  metrics : Bool := false
  threads : Option Nat := none
  iterations : Option Nat := none
  burst : Option Nat := none
  crossCpuFree : Bool := false
  seed : Option Nat := none
  /-- The option that is pending, and its value, if that has come. -/
  pending : Option (Opt × Option String) := none
deriving DecidableEq, Repr

/-- Sets an option that must not be set yet. -/
def once {α : Type} (old : Option α) (new : Except Usage α) : Except Usage (Option α) :=
  if old.isSome then .error .repeated else some <$> new

/-- Switches on an option that must not be on yet. -/
def onceOn (old : Bool) : Except Usage Bool := if old then .error .repeated else .ok true

def number (value : String) : Except Usage Nat :=
  match Decimal.unsigned? 10 value.toList with
  | some n => if n < 1 <<< 64 then .ok n else .error .badValue
  | none => .error .badValue

def path (value : String) : Except Usage String :=
  if value.isEmpty then .error .missingValue else .ok value

namespace Given

def set (g : Given) (o : Opt) (value : String) : Except Usage Given := do
  match o with
  | .config => return { g with config := ← once g.config (path value) }
  | .threads => return { g with threads := ← once g.threads (number value) }
  | .iterations => return { g with iterations := ← once g.iterations (number value) }
  | .burst => return { g with burst := ← once g.burst (number value) }
  | .seed => return { g with seed := ← once g.seed (number value) }
  | _ => throw .surplusValue

/-- Looks at the value of the option that is pending. -/
def settle (g : Given) : Except Usage Given :=
  match g.pending with
  | none => .ok g
  | some (_, none) => .error .missingValue
  | some (o, some value) => { g with pending := none }.set o value

/-- Does the pending option wait for its value? -/
def waits (g : Given) : Bool :=
  match g.pending with
  | some (_, none) => true
  | _ => false

/-- An option without a value. -/
def switch (g : Given) (o : Opt) : Except Usage Given := do
  let g ← g.settle
  match o with
  | .metrics => return { g with metrics := ← onceOn g.metrics }
  | .crossCpuFree => return { g with crossCpuFree := ← onceOn g.crossCpuFree }
  | .help => throw .help
  | .version => throw .version
  | o => return { g with pending := some (o, none) }

def attach (g : Given) (o : Opt) (value : String) : Except Usage Given := do
  if !o.takesValue then throw .surplusValue
  (← g.settle).set o value

/-- An option by its long name, with a value after an equals sign, if there is one. -/
def long (g : Given) (s : Scope) (text : List Char) : Except Usage Given :=
  let name := text.takeWhile (· != '=')
  match s.long? (String.ofList name), text.drop name.length with
  | none, _ => .error .unknownArgument
  | some o, [] => g.switch o
  | some o, _ :: value => g.attach o (String.ofList value)

/-- Options by their letters. What follows the letter of an option that takes a value is that. -/
def short (g : Given) (s : Scope) : List Char → Except Usage Given
  | [] => .ok g
  | c :: rest =>
    match s.short? c with
    | none => .error .unknownArgument
    | some o =>
      if o.takesValue && !rest.isEmpty then
        g.attach o (String.ofList (match rest with | '=' :: value => value | value => value))
      else do (← g.switch o).short s rest

end Given

/-- The words of a scope that were read, and the command that ends them, if one does. -/
structure Part where
  given : Given
  command : Option (Scope × List String) := none

/-- What was asked help about: commands only. -/
def helpAbout : List String → Usage
  | [] => .help
  | ["scenario"] | ["stress"] | ["config"] | ["help"] => .help
  | _ => .unknownCommand

/-- Is the word a command, or the request for help? -/
def isCommand (word : String) : Bool := (Scope.ofCommand? word).isSome || word == "help"

/-- A word after two dashes is never taken. Before the command it would have to be one, but a known
command is no better there. -/
def afterDashes (s : Scope) (word : String) : Usage :=
  if s = .program && !isCommand word then .unknownCommand else .unknownArgument

/-- Reads the words of a scope. After two dashes no option follows. -/
def read (s : Scope) (g : Given) (dashed : Bool) : List String → Except Usage Part
  | [] => .ok ⟨g, none⟩
  | word :: rest =>
    let command := if s = .program && !dashed && !g.waits then Scope.ofCommand? word else none
    match command, word.toList with
    | some inner, _ => .ok ⟨g, some (inner, rest)⟩
    | none, chars =>
      if dashed then .error (afterDashes s word)
      else if s = .program && word == "help" && !g.waits then .error (helpAbout rest)
      else
        match chars with
        | ['-', '-'] => read s g true rest
        | '-' :: '-' :: text => do read s (← g.long s text) false rest
        | '-' :: c :: letters => do read s (← g.short s (c :: letters)) false rest
        | _ =>
          match g.pending with
          | some (o, none) => read s { g with pending := some (o, some word) } false rest
          | _ => .error (if s = .program then .unknownCommand else .unknownArgument)

/-- The command of a scope, with the options given after it. -/
def commandOf (s : Scope) (g : Given) : Except Usage Command :=
  match s with
  | .program => .error .missingCommand
  | .scenario => .ok .scenario
  | .config => .ok .config
  | .stress =>
    .ok (.stress ⟨g.threads, g.iterations, g.burst, g.crossCpuFree, g.seed.getD 0⟩)

/-- Reads a command line. -/
def parse (words : List String) : Except Usage Arguments := do
  let ⟨outer, command⟩ ← read .program {} false words
  match command with
  | none =>
    let outer ← outer.settle
    throw (if outer = {} then .empty else .missingCommand)
  | some (scope, rest) =>
    let ⟨inner, _⟩ ← read scope {} false rest
    let inner ← inner.settle
    let outer ← outer.settle
    let command ← commandOf scope inner
    return ⟨inner.config.or outer.config, outer.metrics || inner.metrics, command⟩

end CommandLine

/-- What the command line says, over the settings. Flags can only be switched on. -/
def Arguments.override (a : Arguments) (s : Settings) : Settings :=
  let s := { s with telemetry := { s.telemetry with metrics := s.telemetry.metrics || a.metrics } }
  match a.command with
  | .stress o =>
    let w := s.workload
    { s with
      workload :=
        { threads := o.threads.getD w.threads
          iterations := o.iterations.getD w.iterations
          burst := o.burst.getD w.burst
          crossCpuFree := w.crossCpuFree || o.crossCpuFree } }
  | _ => s

end TieredPool
