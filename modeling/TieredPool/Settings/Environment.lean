import TieredPool.Decimal.Reading
import TieredPool.Settings.Value
import TieredPool.Text.Slice
import TieredPool.Text.Space

/-!
# Settings from the environment

A variable whose name starts with the program's name sets a value: the rest of the name, split at
double underscores and points, is the path of keys to it. Its text is read as a value where it is
written like one: truth values, numbers, texts in quotes, lists in brackets and maps in braces.
Any other text stands for itself.
-/

namespace TieredPool.Environment

/-! ## Names -/

/-- How the names of settings start, in any case. -/
def start : String := "QMEMPOOL_"

/-- Splits at double underscores and at points. -/
def splitName : List Char → List (List Char)
  | '_' :: '_' :: rest => [] :: splitName rest
  | '.' :: rest => [] :: splitName rest
  | c :: rest =>
    match splitName rest with
    | [] => [[c]]
    | part :: parts => (c :: part) :: parts
  | [] => [[]]

/-- The path of keys that a variable sets, if it sets one. White space around the name and around
the path in it does not count. -/
def path? (name : String) : Option (List String) :=
  let chars := Text.trim name.toList
  let length := start.length
  if (chars.take length).map Char.toUpper != start.toList then none
  else
    let parts := splitName (Text.trim (chars.drop length))
    if parts.any List.isEmpty then none
    else some (parts.map fun part => String.ofList (part.map Char.toLower))

/-! ## Values -/

def isBlank (c : Char) : Bool :=
  c == ' ' || c == '\t' || c == '\n' || c == '\x0c' || c == '\r'

/-- The text without blanks at its start. -/
def skipBlanks (text : List Char) : List Char := text.dropWhile isBlank

/-- Does the character end a bare text? -/
def isMark (c : Char) : Bool := c == ',' || c == '\x7b' || c == '\x7d' || c == '[' || c == ']'

/-- Does the character belong to a bare key? -/
def isKeyCharacter (c : Char) : Bool :=
  ('a' ≤ c && c ≤ 'z') || ('A' ≤ c && c ≤ 'Z') || Decimal.isDigit c || c == '_' || c == '-'

/-- What a bare text stands for: a number where it is one, a text else. A number with a point is a
decimal one; other numbers must fit a word. -/
def bare (text : List Char) : Scalar :=
  let decimal := if text.contains '.' then Decimal.number? text else none
  match decimal, Decimal.unsigned? 10 text, Decimal.signed? 10 text with
  | some x, _, _ => .decimal x
  | none, some n, _ => if Scalar.fitsWord n then .natural n else .text (String.ofList text)
  | none, none, some i => if Scalar.fitsSignedWord i then .signed i else .text (String.ofList text)
  | none, none, none => .text (String.ofList text)

/-- The character that an escape of one letter stands for. -/
def escape? : Char → Option Char
  | '"' => some '"'
  | '\\' => some '\\'
  | 'b' => some '\x08'
  | 'f' => some '\x0c'
  | 'n' => some '\n'
  | 'r' => some '\r'
  | 't' => some '\t'
  | _ => none

/-- How many hexadecimal digits an escape of a character's number has. -/
def escapeDigits? : Char → Option Nat
  | 'u' => some 4
  | 'U' => some 8
  | _ => none

/-- The character whose number stands in so many hexadecimal digits at the start of a text. -/
def numbered? (digits : Nat) (text : List Char) : Option Char := do
  if text.length < digits then none
  let n ← Decimal.natural? 16 (text.take digits)
  if n.isValidChar then some (Char.ofNat n) else none

def standsInQuotes (c : Char) : Bool := c == '\t' || (' ' ≤ c && c != '\x7f')

/-- A text is not written like a value. -/
inductive Malformed where
  | malformed
deriving DecidableEq, Repr

/-- What is read, unless the text is no value or asks for a part of a character. -/
abbrev Reading (α : Type) := Except (Failure Malformed) α

def expected {α : Type} : Option α → Reading α
  | some a => .ok a
  | none => .error (.error .malformed)

/-- The text in quotes after the first of them, as it is written, and what follows the last one. -/
def quoted? : List Char → Option (List Char × List Char)
  | [] => none
  | '"' :: rest => some ([], rest)
  | '\\' :: c :: rest => (quoted? rest).map fun (written, rest) => ('\\' :: c :: written, rest)
  | c :: rest => (quoted? rest).map fun (written, rest) => (c :: written, rest)

/-- Reads the escapes of a text that was written in quotes. -/
def unescape (written : List Char) : Reading (List Char) :=
  match written with
  | [] => .ok []
  | '\\' :: c :: rest =>
    match escape? c, escapeDigits? c with
    | some d, _ => (unescape rest).map (d :: ·)
    | none, some digits =>
      match numbered? digits rest with
      | some d => (unescape (rest.drop digits)).map (d :: ·)
      | none => .error (.error .malformed)
    | none, none => .error (.error .malformed)
  | c :: rest =>
    if standsInQuotes c then (unescape rest).map (c :: ·) else .error (.error .malformed)
termination_by written.length
decreasing_by all_goals simp_wf <;> omega

/-- What a text says that was written in quotes. Before the first escape stand as many bytes of the
text as it has characters there. -/
def unquote (written : List Char) : Reading String := do
  let plain := written.takeWhile fun c => c != '\\'
  if !plain.all standsInQuotes then throw (.error .malformed)
  if plain.length = written.length then return String.ofList written
  let start ← (Text.slice 0 plain.length written).mapError .fault
  return String.ofList (start ++ (← unescape (written.drop plain.length)))

/-- Reads a text in quotes after the first of them. -/
def readQuoted (text : List Char) : Reading (String × List Char) := do
  let (written, rest) ← expected (quoted? text)
  return (← unquote written, rest)

/-- Reads a key, with the blanks around it and the equals sign after it. -/
def readKey (text : List Char) : Reading (String × List Char) := do
  let text := skipBlanks text
  let (key, rest) ← match text with
    | '"' :: rest => readQuoted rest
    | _ =>
      let key := text.takeWhile isKeyCharacter
      if key.isEmpty then throw (.error .malformed)
      pure (String.ofList key, text.drop key.length)
  match skipBlanks rest with
  | '=' :: rest => return (key, rest)
  | _ => throw (.error .malformed)

mutual

/-- Reads a value, with the blanks around it. -/
def readValue : (fuel : Nat) → List Char → Reading (Value × List Char)
  | 0, _ => throw (.error .malformed)
  | fuel + 1, text => do
    let text := skipBlanks text
    let leaf (s : Scalar) : Value := .scalar .environment s
    let (value, rest) ← match text with
      | 't' :: 'r' :: 'u' :: 'e' :: rest => pure (leaf (.bool true), rest)
      | 'f' :: 'a' :: 'l' :: 's' :: 'e' :: rest => pure (leaf (.bool false), rest)
      | '\x7b' :: rest => (readEntries fuel rest).map fun (es, rest) => (.map .environment es, rest)
      | '[' :: rest => (readItems fuel rest).map fun (vs, rest) => (.list .environment vs, rest)
      | '"' :: rest => (readQuoted rest).map fun (t, rest) => (leaf (.text t), rest)
      | '\'' :: c :: '\'' :: rest => pure (leaf (.letter c), rest)
      | '\'' :: _ => throw (.error .malformed)
      | _ =>
        let word := text.takeWhile fun c => !isMark c
        pure (leaf (bare (Text.trim word)), text.drop word.length)
    return (value, skipBlanks rest)
termination_by structural fuel => fuel

/-- Reads the items of a list up to its end. -/
def readItems : (fuel : Nat) → List Char → Reading (List Value × List Char)
  | 0, _ => throw (.error .malformed)
  | fuel + 1, text => do
    match text with
    | ']' :: rest => return ([], rest)
    | _ =>
      let (item, rest) ← readValue fuel text
      match rest with
      | ',' :: rest =>
        let (items, rest) ← readItems fuel rest
        return (item :: items, rest)
      | ']' :: rest => return ([item], rest)
      | _ => throw (.error .malformed)
termination_by structural fuel => fuel

/-- Reads the entries of a map up to its end; of entries with one key the last counts. -/
def readEntries : (fuel : Nat) → List Char → Reading (List (String × Value) × List Char)
  | 0, _ => throw (.error .malformed)
  | fuel + 1, text => do
    match text with
    | '\x7d' :: rest => return ([], rest)
    | _ =>
      let (key, rest) ← readKey text
      let (value, rest) ← readValue fuel rest
      let (entries, rest) ← match rest with
        | ',' :: rest => readEntries fuel rest
        | '\x7d' :: rest => pure ([], rest)
        | _ => throw (.error .malformed)
      match Value.lookup? key entries with
      | some _ => return (entries, rest)
      | none => return ((key, value) :: entries, rest)
termination_by structural fuel => fuel

end

/-- The value that a text stands for. A text that is not written like a value throughout stands for
itself, blanks and all. -/
def value (text : String) : Except Fault Value :=
  match readValue (2 * text.length + 2) text.toList with
  | .ok (v, []) => .ok v
  | .error (.fault fault) => .error fault
  | _ => .ok (.scalar .environment (.text text))

/-! ## The layer -/

/-- What a variable sets, if it sets anything. -/
def setting? (name text : String) : Except Fault (Option Value) :=
  match path? name with
  | none => .ok none
  | some path => return some (.nest .environment path (← value text))

/-- The layer that the variables make, later ones over earlier ones. -/
def layer (vars : List (String × String)) : Except Fault Value := do
  let settings ← vars.mapM fun (name, text) => setting? name text
  return Value.mergeAll (.empty .environment) (settings.filterMap id)

end TieredPool.Environment
