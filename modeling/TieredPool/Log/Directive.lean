import TieredPool.Event
import TieredPool.Log.Pattern.Reading
import TieredPool.Text.Alphanumeric
import TieredPool.Text.Slice
import TieredPool.Text.Space

/-!
# Directives of log filters

A directive says how severe some events must be to be logged. It is written as a level, or as a
target with or without a level after an equals sign; the target may be followed by brackets that ask
for a span, and in them by braces that ask for a field. Where a directive's parts lie is told by the
text without white space at its ends, but the parts are cut out of the text as it is.
-/

namespace TieredPool.Log

/-- The least severe level that is logged, if any is. -/
abbrev Threshold := Option Level

/-- The threshold that a text names, in words of any case or as a number. -/
def threshold? (text : List Char) : Option Threshold :=
  match Decimal.unsigned? 10 text with
  | some 0 => some none
  | some 1 => some (some .error)
  | some 2 => some (some .warn)
  | some 3 => some (some .info)
  | some 4 => some (some .debug)
  | some 5 => some (some .trace)
  | some _ => none
  | none =>
    let lower := String.ofList (text.map Char.toLower)
    if lower == "off" then some none else (Level.ofName? lower).map some

/-- What a directive is about, within its target. -/
inductive Subject where
  | events
  | eventsWith (field : String)
  /-- What happens in some spans. The program has no spans. -/
  | spans
deriving DecidableEq, Repr

/-- The threshold for some events. -/
structure Directive where
  /-- How the parts of the program are named that the events come from. -/
  target : Option String
  subject : Subject
  threshold : Threshold
deriving DecidableEq, Repr

namespace Directive

/-! ## Meaning -/

/-- The name under which an event's words count as a field. -/
def messageField : String := "message"

def applies (d : Directive) (e : Event) : Bool :=
  d.target.all (·.isPrefixOf e.target) &&
    match d.subject with
    | .events => true
    | .eventsWith field => field == messageField || e.fields.any fun (name, _) => name == field
    | .spans => false

/-- Does the directive come before another one about the same event? One with a longer target does,
then one that asks for a field, then one whose field comes later in the order of texts. -/
def overrules (d other : Directive) : Bool :=
  let length (d : Directive) : Nat := match d.target with
    | none => 0
    | some target => target.length + 1
  if length d != length other then length other < length d
  else
    match d.subject, other.subject with
    | .eventsWith field, .eventsWith otherField => otherField < field
    | .eventsWith _, _ => true
    | _, _ => false

/-! ## Reading -/

/-- A text is no directive. -/
inductive Malformed where
  | malformed
deriving DecidableEq, Repr

/-- What is read, unless the text is no directive or a part starts or stops inside a character. -/
abbrev Reading (α : Type) := Except (Failure Malformed) α

/-- The text of a directive as it is. -/
abbrev Whole := List Char

/-- The part of the text from one byte up to another. -/
def Whole.part (whole : Whole) (first last : Nat) : Reading (List Char) :=
  (Text.slice first last whole).mapError .fault

def bytes (text : List Char) : Nat := text.foldl (fun n c => n + c.utf8Size) 0

def starts (c : Char) : Bool := c == '-' || c == ':' || c == '_' || Text.isAlphanumeric c

/-- Reads a level that starts at a byte. Nothing stands for all levels. -/
def readThreshold (whole : Whole) (at_ : Nat) : Reading Threshold := do
  let level ← (Text.sliceFrom at_ whole).mapError .fault
  if level.isEmpty then return some .trace
  match threshold? level with
  | some threshold => return threshold
  | none => throw (.error .malformed)

/-- Reads what follows the brackets, from a byte on: nothing, or a level. -/
def readRest (whole : Whole) (target : Option String) (subject : Subject) (at_ : Nat) :
    List Char → Reading Directive
  | [] => return ⟨target, subject, some .trace⟩
  | '=' :: _ => return ⟨target, subject, ← readThreshold whole (at_ + 1)⟩
  | _ => throw (.error .malformed)

/-- What a field in braces is about: a field of a name, or of a value, which only spans are looked
at for. -/
def subjectOf (inSpan : Bool) (field : List Char) : Reading Subject :=
  let name := field.takeWhile (· != '=')
  match field.drop name.length with
  | [] => return if inSpan then .spans else .eventsWith (String.ofList name)
  | _ :: rest =>
    let value := rest.takeWhile (· != '=')
    if (Decimal.number? value).isSome || Pattern.isWellFormed value then return .spans
    else throw (.error .malformed)

/-- Reads a field in braces, from a byte on, up to the end of the brackets. -/
def readField (whole : Whole) (target : Option String) (inSpan : Bool) (at_ : Nat)
    (text : List Char) : Reading Directive := do
  let inside := text.takeWhile (· != '\x7d')
  let stop := at_ + bytes inside
  match text.drop inside.length with
  | [] => throw (.error .malformed)
  | _ :: rest =>
    let field ← whole.part at_ stop
    if field.isEmpty then throw (.error .malformed)
    let subject ← subjectOf inSpan field
    match rest with
    | ']' :: rest => readRest whole target subject (stop + 2) rest
    | _ => throw (.error .malformed)

/-- Reads what stands in brackets, from a byte on: the name of a span, perhaps with a field. -/
def readSpan (whole : Whole) (target : Option String) (at_ : Nat) (text : List Char) :
    Reading Directive := do
  let inside := text.takeWhile fun c => c != ']' && c != '\x7b'
  let stop := at_ + bytes inside
  match text.drop inside.length with
  | [] => throw (.error .malformed)
  | mark :: rest =>
    let name ← whole.part at_ stop
    if mark == ']' then readRest whole target .spans (stop + 1) rest
    else readField whole target (!name.isEmpty) (stop + 1) rest

def read (whole : Whole) : Reading Directive := do
  match Text.trim whole with
  | [] => throw (.error .malformed)
  | '[' :: text => readSpan whole none 1 text
  | c :: text =>
    if !starts c then throw (.error .malformed)
    let inside := c :: text.takeWhile fun c => c != '=' && c != '['
    let stop := bytes inside
    match (c :: text).drop inside.length with
    | [] =>
      match threshold? whole with
      | some threshold => return ⟨none, .events, threshold⟩
      | none => return ⟨some (String.ofList whole), .events, some .trace⟩
    | mark :: rest =>
      let target := some (String.ofList (← whole.part 0 stop))
      if mark == '=' then return ⟨target, .events, ← readThreshold whole (stop + 1)⟩
      else readSpan whole target (stop + 1) rest

end Directive

end TieredPool.Log
