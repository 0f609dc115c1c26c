import TieredPool.Log.Directive

/-!
# Filters of events

A filter is written as directives between commas. Of the directives about an event, the most
specific one decides whether the event is logged; an event that no directive is about is not. So a
filter without directives logs nothing.
-/

namespace TieredPool.Log

abbrev Filter := List Directive

namespace Filter

/-- The filter that logs what is worth knowing. -/
def informative : Filter := [⟨none, .events, some .info⟩]

/-- Reads a filter. Nothing between two commas is no directive. -/
def read (text : String) : Directive.Reading Filter :=
  ((text.splitOn ",").filter (· != "")).mapM fun part => Directive.read part.toList

/-- The directive that decides about an event: the most specific one, and of several that are
equally specific the last one. -/
def deciding? (f : Filter) (e : Event) : Option Directive :=
  f.foldl
    (fun best d => if d.applies e && best.all fun b => !b.overrules d then some d else best)
    none

def admits (f : Filter) (e : Event) : Bool :=
  (f.deciding? e).any fun d => d.threshold.any fun level => e.level.within level

/-- The filter that a run uses: the first of these texts that is a filter, or else that of events
worth knowing. -/
def choose : List String → Except Fault Filter
  | [] => .ok informative
  | text :: texts =>
    match read text with
    | .ok f => .ok f
    | .error (.fault fault) => .error fault
    | .error (.error _) => choose texts

end Filter

end TieredPool.Log
