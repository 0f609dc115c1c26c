import TieredPool.Decimal.Reading
import TieredPool.Log.Pattern
import TieredPool.Text.Alphanumeric
import TieredPool.Text.Space

/-!
# Reading patterns

A pattern is read by recursive descent: alternatives between bars, each a sequence of characters,
classes and groups, any of which may be repeated. Braces never close here, since they end the field
that the pattern stands in; so nothing that needs them can be read.

`Pattern.ofText?` is the pattern of a text.
-/

namespace TieredPool.Log.Pattern

/-- What is left of a pattern. -/
structure Cursor where
  rest : List Char
  /-- Do white space and comments not count? -/
  spaced : Bool := false

/-- Reading a pattern, which may fail. -/
abbrev Reading := StateT Cursor Option

/-! ## Characters -/

/-- The text without white space and comments at its start. A comment goes from a number sign to the
end of the line. -/
def skipBlanks (inComment : Bool) : List Char → List Char
  | [] => []
  | c :: rest =>
    if inComment then skipBlanks (c != '\n') rest
    else if Text.isSpace c then skipBlanks false rest
    else if c == '#' then skipBlanks true rest
    else c :: rest

/-- Passes over what does not count. -/
def pass : Reading Unit :=
  modify fun s => if s.spaced then { s with rest := skipBlanks false s.rest } else s

def next? : Reading (Option Char) := do return (← get).rest.head?

/-- Takes the next character, which must be there. -/
def take : Reading Char := do
  match ← get with
  | ⟨c :: rest, spaced⟩ =>
    set (Cursor.mk rest spaced)
    return c
  | ⟨[], _⟩ => failure

/-- Takes a text if it comes next. -/
def takeIf (text : String) : Reading Bool := do
  let s ← get
  if !text.toList.isPrefixOf s.rest then return false
  set { s with rest := s.rest.drop text.length }
  return true

/-- Something must be left. -/
def more : Reading Unit := do if (← get).rest.isEmpty then failure

/-- The character after the next one, or where white space does not count, the first after it that
counts. There a number sign is passed over once, but no comment. -/
def afterNext? : Reading (Option Char) := do
  let s ← get
  let rest := s.rest.tail
  if !s.spaced then return rest.head?
  match rest.dropWhile Text.isSpace with
  | '#' :: comment => return ((comment.dropWhile Text.isSpace).head?).or rest.head?
  | counting => return counting.head?.or rest.head?

/-! ## Escapes -/

/-- Characters that mean something in patterns and stand for themselves after a backslash. -/
def isMark (c : Char) : Bool :=
  ['\\', '.', '+', '*', '?', '(', ')', '|', '[', ']', '\x7b', '\x7d', '^', '$', '#', '&', '-',
    '~'].contains c

/-- Other characters that stand for themselves after a backslash: those of ASCII, except letters,
digits and angle brackets. -/
def mayEscape (c : Char) : Bool := c.toNat < 0x80 && !c.isAlphanum && c != '<' && c != '>'

/-- The control character that a letter stands for after a backslash. -/
def control? : Char → Option Char
  | 'a' => some '\x07'
  | 'f' => some '\x0c'
  | 't' => some '\t'
  | 'n' => some '\n'
  | 'r' => some '\r'
  | 'v' => some '\x0b'
  | _ => none

/-- How many hexadecimal digits follow a letter that asks for a character by its number. -/
def numberDigits? : Char → Option Nat
  | 'x' => some 2
  | 'u' => some 4
  | 'U' => some 8
  | _ => none

/-- Reads so many hexadecimal digits, after those in `digits`, the latest first. -/
def readDigits (digits : List Char) : (count : Nat) → Reading (List Char)
  | 0 => return digits.reverse
  | count + 1 => do
    pass
    let c ← take
    if (Decimal.natural? 16 [c]).isNone then failure
    readDigits (c :: digits) count

def readNumbered (digits : Nat) : Reading Literal := do
  let some n := Decimal.natural? 16 (← readDigits [] digits) | failure
  if n.isValidChar then return ⟨Char.ofNat n, digits == 2⟩ else failure

/-- Reads what stands after a backslash. -/
def readEscape : Reading Pattern := do
  let c ← take
  match numberDigits? c, control? c with
  | some digits, _ => return .single (← readNumbered digits)
  | none, some control => return .single ⟨control, false⟩
  | none, none =>
    if isMark c || mayEscape c then return .single ⟨c, false⟩
    else if ['d', 's', 'w'].contains c then return .characters (.common false)
    else if ['D', 'S', 'W'].contains c then return .characters (.common true)
    else if ['p', 'P'].contains c then
      pass
      let category ← take
      if category == '\\' || category == '\x7b' then failure
      return .characters .category
    else if ['A', 'z'].contains c then return .edge
    else if ['b', 'B', '<', '>'].contains c then
      if c == 'b' && (← next?) == some '\x7b' then failure
      return .wordEdge
    else failure

/-! ## Classes -/

/-- The names of the classes of ASCII characters. -/
def asciiNames : List String :=
  ["alnum", "alpha", "ascii", "blank", "cntrl", "digit", "graph", "lower", "print", "punct",
    "space", "upper", "word", "xdigit"]

/-- Takes a class of ASCII characters, if one comes next: its name between colons and brackets. -/
def takeAscii? : Reading (Option Class) := do
  let s ← get
  match s.rest with
  | '[' :: ':' :: text =>
    let negated := text.head? == some '^'
    let text := if negated then text.tail else text
    let name := text.takeWhile (· != ':')
    match text.drop name.length with
    | ':' :: ']' :: rest =>
      if !asciiNames.contains (String.ofList name) then return none
      set { s with rest }
      return some (.ascii negated)
    | _ => return none
  | _ => return none

/-- Reads a character of a class, or a class after a backslash. -/
def readItem : Reading Pattern := do
  match ← take with
  | '\\' => readEscape
  | c => return .single ⟨c, false⟩

/-- Reads a part of a class: a character, a range of them, or a class after a backslash. -/
def readPart : Reading Class := do
  let first ← readItem
  pass
  more
  let after ← afterNext?
  if (← next?) != some '-' || after == some ']' || after == some '-' then
    match first with
    | .single c => return .single c
    | .characters c => return c
    | _ => failure
  let _ ← take
  pass
  let last ← readItem
  match first, last with
  | .single a, .single b => if a.char ≤ b.char then return .range a b else failure
  | _, _ => failure

/-- Takes the dashes at the start of a class, which stand for themselves there. -/
def readDashes : (fuel : Nat) → Reading (List Class)
  | 0 => failure
  | fuel + 1 => do
    pass
    more
    if (← next?) != some '-' then return []
    let _ ← take
    return .single ⟨'-', false⟩ :: (← readDashes fuel)

/-- A class with what an operator puts before it. -/
def combine (left : Option Class) (parts : List Class) : Class :=
  match left with
  | none => .ofParts parts.reverse
  | some left => .combined left (.ofParts parts.reverse)

mutual

/-- Reads a class after its opening bracket. -/
def readClass : (fuel : Nat) → Reading Class
  | 0 => failure
  | fuel + 1 => do
    pass
    let negated ← takeIf "^"
    let dashes ← readDashes fuel
    if dashes.isEmpty && (← takeIf "]") then
      return .bracketed negated (← readParts none [.single ⟨']', false⟩] fuel)
    return .bracketed negated (← readParts none dashes fuel)
termination_by structural fuel => fuel

/-- Reads the parts of a class up to its closing bracket, after an operator and the parts in
`parts`, the latest first. -/
def readParts (left : Option Class) (parts : List Class) : (fuel : Nat) → Reading Class
  | 0 => failure
  | fuel + 1 => do
    pass
    if let some ascii ← takeAscii? then
      readParts left (ascii :: parts) fuel
    else if ← takeIf "[" then
      let inner ← readClass fuel
      readParts left (inner :: parts) fuel
    else if ← takeIf "]" then
      return combine left parts
    else if (← takeIf "&&") || (← takeIf "--") || (← takeIf "~~") then
      readParts (some (combine left parts)) [] fuel
    else
      let part ← readPart
      readParts left (part :: parts) fuel
termination_by structural fuel => fuel

end

/-! ## Groups -/

def switch? : Char → Option Switch
  | 'i' => some .anyCase
  | 'm' => some .manyLines
  | 's' => some .dotIsAll
  | 'U' => some .reluctant
  | 'u' => some .unicode
  | 'R' => some .carriageReturns
  | 'x' => some .spaced
  | _ => none

/-- The switches of some letters. Those after a minus are turned off; there is one minus at most,
and not at the end. -/
def switches? (on : Bool) : List Char → Option Switches
  | [] => some []
  | '-' :: rest => if on && !rest.isEmpty then switches? false rest else none
  | c :: rest => do
    let switch ← switch? c
    let others ← switches? on rest
    if (others.of? switch).isSome then none else some ((switch, on) :: others)

/-- Is the text the name of a group? -/
def isName : List Char → Bool
  | [] => false
  | c :: rest =>
    (c == '_' || Text.isAlphabetic c) &&
      rest.all fun c => ['_', '.', '[', ']'].contains c || Text.isAlphanumeric c

/-- Reads the name of a group, up to the angle bracket after it. -/
def readName : Reading String := do
  let s ← get
  let name := s.rest.takeWhile (· != '>')
  if !isName name || s.rest.length == name.length then failure
  set { s with rest := s.rest.drop (name.length + 1) }
  return String.ofList name

/-- What the start of a group says. -/
inductive Opening where
  | group (name : Option String) (s : Switches)
  /-- Switches for the group around, and no group. -/
  | switches (s : Switches)

/-- Reads switches after a question mark. -/
def readSwitches : Reading Opening := do
  let s ← get
  let letters := s.rest.takeWhile fun c => c != ':' && c != ')'
  let some chosen := switches? true letters | failure
  match s.rest.drop letters.length with
  | ':' :: rest =>
    set { s with rest }
    return .group none chosen
  | ')' :: rest =>
    if chosen.isEmpty then failure
    set { s with rest }
    return .switches chosen
  | _ => failure

/-- Reads the start of a group after its parenthesis. Nothing looks ahead or behind. -/
def readOpening : Reading Opening := do
  pass
  if (← takeIf "?=") || (← takeIf "?!") || (← takeIf "?<=") || (← takeIf "?<!") then failure
  if (← takeIf "?P<") || (← takeIf "?<") then return .group (some (← readName)) []
  if ← takeIf "?" then readSwitches else return .group none []

/-! ## Patterns -/

/-- Repeats the latest pattern, which must be there and be no switches. -/
def repeatLatest : List Pattern → Option (List Pattern)
  | [] => none
  | .switches _ :: _ => none
  | p :: ps => some (.repeated p :: ps)

/-- Is white space passed over after some switches? -/
def turnSpaced (s : Switches) : Reading Unit :=
  modify fun c => { c with spaced := (s.of? .spaced).getD c.spaced }

mutual

/-- Reads alternatives up to the end of the group, after those in `done`, the latest first. -/
def readChoice (done : List Pattern) : (fuel : Nat) → Reading Pattern
  | 0 => failure
  | fuel + 1 => do
    let p ← readSequence [] fuel
    if ← takeIf "|" then readChoice (p :: done) fuel
    else return ofChoice (p :: done).reverse
termination_by structural fuel => fuel

/-- Reads a sequence up to a bar or the end of the group, after the patterns in `done`, the latest
first. -/
def readSequence (done : List Pattern) : (fuel : Nat) → Reading Pattern
  | 0 => failure
  | fuel + 1 => do
    pass
    match ← next? with
    | none | some '|' | some ')' => return ofSequence done.reverse
    | some c =>
      let _ ← take
      match c with
      | '(' =>
        match ← readOpening with
        | .switches s =>
          turnSpaced s
          readSequence (.switches s :: done) fuel
        | .group name s =>
          let outside := (← get).spaced
          turnSpaced s
          let p ← readChoice [] fuel
          if !(← takeIf ")") then failure
          modify fun c => { c with spaced := outside }
          readSequence (.group name s p :: done) fuel
      | '[' =>
        let inner ← readClass fuel
        readSequence (.characters inner :: done) fuel
      | '\x7b' => failure
      | '?' | '*' | '+' =>
        let some done := repeatLatest done | failure
        let _ ← takeIf "?"
        readSequence done fuel
      | '\\' =>
        let p ← readEscape
        readSequence (p :: done) fuel
      | '.' => readSequence (.dot :: done) fuel
      | '^' | '$' => readSequence (.edge :: done) fuel
      | c => readSequence (.single ⟨c, false⟩ :: done) fuel
termination_by structural fuel => fuel

end

/-- The pattern of a text. Every character takes two calls at most. -/
def ofText? (text : List Char) : Option Pattern := do
  let (p, s) ← (readChoice [] (2 * text.length + 4)).run { rest := text }
  if s.rest.isEmpty then some p else none

def isWellFormed (text : List Char) : Bool := (ofText? text).any isMeaningful

end TieredPool.Log.Pattern
