import TieredPool.Event

/-!
# Transcripts

What a run puts out, in order: texts that it prints, and events that its threads report.
-/

namespace TieredPool

/-- The threads of a run. -/
inductive Thread where
  | main
  | worker (id : Nat)
deriving DecidableEq, Repr

def Thread.name : Thread → String
  | main => "main"
  | worker id => s!"worker-{id}"

/-- One output of a run. -/
inductive Output where
  | printed (text : String)
  | reported (thread : Thread) (event : Event)
deriving DecidableEq, Repr

/-- The outputs of a run, in order. -/
abbrev Transcript := Array Output

namespace Transcript

/-- Nothing was put out yet. -/
def empty : Transcript := #[]

def report (t : Transcript) (thread : Thread) (event : Event) : Transcript :=
  t.push (.reported thread event)

def print (t : Transcript) (text : String) : Transcript := t.push (.printed text)

def printLine (t : Transcript) (line : String) : Transcript := t.print (line ++ "\n")

def reportAll (t : Transcript) (thread : Thread) (events : Array Event) : Transcript :=
  events.foldl (fun t event => t.report thread event) t

def text (t : Transcript) : String :=
  t.foldl
    (fun text output => match output with
      | .printed line => text ++ line
      | .reported .. => text)
    ""

def events (t : Transcript) : List Event :=
  t.toList.filterMap fun output => match output with
    | .printed _ => none
    | .reported _ event => some event

end Transcript

end TieredPool
