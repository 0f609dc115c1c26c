import TieredPool.Program

/-!
# The program's outer layer

Reads the command line, the environment, the files that the settings may come from and the number of
CPUs, hands them to `Program.run`, and puts out what that says. Nothing is decided here.
-/

namespace TieredPool.Main

/-- The environment of the process, in order. There are no variables where they cannot be listed. -/
def environment : IO Variables := do
  let listing ← try IO.FS.readFile "/proc/self/environ" catch _ => pure ""
  return (listing.splitOn "\x00").filterMap fun entry =>
    match entry.splitOn "=" with
    | name :: part :: parts => some (name, "=".intercalate (part :: parts))
    | _ => none

def entry (path : String) : IO (Option Entry) := do
  try
    return some (.text (← IO.FS.readFile path))
  catch
    | .noFileOrDirectory .. => return none
    | .inappropriateType .. => return some .directory
    | problem => throw problem

def files (paths : List String) : IO Files := do
  let found ← paths.mapM fun path => return (path, ← entry path)
  return fun path => (found.lookup path).join

/-- The machine, with as many CPUs as the system lists. Where it lists none there is still one. -/
def machine : IO Machine := do
  let listing ← try IO.FS.readFile "/proc/cpuinfo" catch _ => pure ""
  let listed := (listing.splitOn "\n").countP (·.startsWith "processor")
  return { Machine.single with cpus := max 1 listed, cpus_pos := Nat.le_max_left 1 listed }

/-- The stamp of log lines: the machine's clock in milliseconds. -/
def stamp : IO String := return s!"{← IO.monoMsNow}ms"

/-- How the program is called. -/
def usageText : String :=
  "Usage: qmempool [OPTIONS] <COMMAND>\n\n" ++
  "Commands:\n" ++
  "  scenario  Walk one pool through refill, spill and return\n" ++
  "  stress    Run the synthetic workload\n" ++
  "  config    Print the settings\n\n" ++
  "Options:\n" ++
  "  -c, --config <PATH>  File with the settings\n" ++
  "      --metrics        Print metrics at the end\n" ++
  "  -h, --help           Print help\n" ++
  "  -V, --version        Print the version\n\n" ++
  "Options of stress:\n" ++
  "      --threads <N>    Number of workers\n" ++
  "      --iterations <N> Iterations of each worker\n" ++
  "      --burst <N>      Largest burst\n" ++
  "      --cross-cpu-free Return elements on another CPU\n" ++
  "      --seed <N>       Seed of the bursts\n"

end TieredPool.Main

open TieredPool in
def main (words : List String) : IO UInt32 := do
  let vars ← Main.environment
  let files ← match CommandLine.parse words with
    | .ok a => Main.files (Program.paths a vars)
    | .error _ => pure fun _ => none
  let outcome := Program.run words files vars (← Main.machine)
  let report := outcome.report vars (← Main.stamp)
  match outcome, report.printed with
  | _, some text => IO.print text
  | .unused reason, none =>
    if reason.isAnswer then IO.print Main.usageText
    else IO.eprint s!"error: {reason.message}\n\n{Main.usageText}"
  | _, none => pure ()
  if let some record := report.error then
    IO.eprintln s!"Error: {record.inline}"
  return report.exitCode.toUInt32
