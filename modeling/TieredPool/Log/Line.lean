import TieredPool.Log.Filter
import TieredPool.Run.Transcript
import TieredPool.Text.Column

/-!
# Log lines

An event is logged on a line of its own, between the texts that are printed: a stamp, the level, the
thread, the part of the program, and the event in words with its fields. The names of threads stand
in a column that is as wide as the longest name logged so far.
-/

namespace TieredPool.Log

/-- The line of an event, with the column of thread names so wide. -/
def line (stamp : String) (width : Nat) (thread : Thread) (e : Event) : String :=
  let fields := e.fields.map fun (name, value) => s!" {name}={value.written}"
  s!"{stamp} {Text.Column.right 5 e.level.name} {Text.Column.right width thread.name} " ++
    s!"{e.target}: {e.message}{String.join fields}\n"

/-- A log under way: the width of the column of thread names, and what was put out. -/
structure Progress where
  width : Nat := 0
  text : String := ""

/-- Puts out one output: a text as it is, an event if the filter admits it. -/
def Progress.put (filter : Filter) (stamp : String) (p : Progress) : Output → Progress
  | .printed text => { p with text := p.text ++ text }
  | .reported thread e =>
    if filter.admits e then
      let width := max p.width thread.name.length
      ⟨width, p.text ++ line stamp width thread e⟩
    else p

/-- A transcript with its events logged. -/
def render (filter : Filter) (stamp : String) (t : Transcript) : String :=
  (t.foldl (Progress.put filter stamp) {}).text

end TieredPool.Log
