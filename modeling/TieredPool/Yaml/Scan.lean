import TieredPool.Yaml.Block
import TieredPool.Yaml.Directive

/-!
# Cutting YAML into tokens

Most tokens stand in the text. Two kinds do not. The starts and ends of collections written by
indentation follow from the columns in which their entries start, so the open collections are kept
by their columns. And whether a scalar or a flow collection is a key shows only at the colon after
it, so the place of a possible key is kept, one for each flow collection around it, and the tokens
of the key are put in there when the colon comes. A key stands on one line with its colon.

`Token.ofText` is the tokens of a text.
-/

namespace TieredPool.Yaml

/-- A token that may turn out to be the start of a key. -/
structure PossibleKey where
  /-- How many tokens stand before it. -/
  index : Nat
  place : Place
  /-- Does the place allow nothing but a key? -/
  required : Bool

/-- A scan under way. -/
structure Scan where
  rest : List Char
  place : Place := {}
  tokens : Array Token := #[]
  /-- The column of the innermost collection by indentation, or -1. -/
  indent : Int := -1
  /-- The columns of the collections around it. -/
  outerIndents : List Int := []
  /-- May a key start here? -/
  keyAllowed : Bool := true
  /-- The possible key of the innermost flow collection. -/
  key : Option PossibleKey := none
  /-- Those of the flow collections around it, and of the text outside them all. -/
  outerKeys : List (Option PossibleKey) := []

namespace Scan

/-- Does the scan stand inside a flow collection? -/
def inFlow (s : Scan) : Bool := !s.outerKeys.isEmpty

def push (s : Scan) (t : Token) : Scan := { s with tokens := s.tokens.push t }

/-- The scan with tokens put in before the token of an index. -/
def insert (s : Scan) (index : Nat) (ts : Array Token) : Scan :=
  { s with tokens := s.tokens.extract 0 index ++ ts ++ s.tokens.extract index s.tokens.size }

/-- The scan after so many characters of the line, of one byte each. -/
def skip (s : Scan) (n : Nat) : Scan :=
  { s with rest := s.rest.drop n, place := s.place.skip n }

/-! ## Indentation -/

/-- Opens a collection in a column, if it lies deeper than those open; its tokens go in before the
token of an index. -/
def openAt (s : Scan) (column index : Nat) (start : Token) : Scan :=
  if s.inFlow || (column : Int) ≤ s.indent then s
  else
    { s.insert index #[start] with
      indent := column
      outerIndents := s.indent :: s.outerIndents }

/-- Closes the collections that lie deeper than a column. -/
def closeFrom (column : Int) : Int → List Int → Array Token → Int × List Int × Array Token
  | indent, [], tokens => (indent, [], tokens)
  | indent, outer :: rest, tokens =>
    if column < indent then closeFrom column outer rest (tokens.push .blockEnd)
    else (indent, outer :: rest, tokens)

/-- The scan with the collections closed that lie deeper than a column. -/
def close (s : Scan) (column : Int) : Scan :=
  if s.inFlow then s
  else
    let (indent, outerIndents, tokens) := closeFrom column s.indent s.outerIndents s.tokens
    { s with indent, outerIndents, tokens }

/-! ## Possible keys -/

/-- Keys are no longer than this. -/
def keyLength : Nat := 1024

/-- Has the scan left behind the line of a possible key, or gone too far in it? -/
def isStale (s : Scan) (k : PossibleKey) : Bool :=
  k.place.line < s.place.line || k.place.offset + keyLength < s.place.offset

/-- A possible key, unless it is left behind; a key that had to be one is missed. -/
def fresh (s : Scan) : Option PossibleKey → Except Problem (Option PossibleKey)
  | none => .ok none
  | some k =>
    if s.isStale k then
      if k.required then .error .missingColon else .ok none
    else .ok (some k)

/-- Drops the possible keys that are left behind. -/
def dropStale (s : Scan) : Except Problem Scan := do
  let key ← s.fresh s.key
  let outerKeys ← s.outerKeys.mapM s.fresh
  return { s with key, outerKeys }

/-- Drops the innermost possible key. -/
def dropKey (s : Scan) : Except Problem Scan :=
  if s.key.any (·.required) then .error .missingColon else .ok { s with key := none }

/-- Notes that the next token may be a key, where one may be. -/
def noteKey (s : Scan) : Except Problem Scan := do
  if !s.keyAllowed then return s
  let required := !s.inFlow && s.indent == (s.place.column : Int)
  let s ← s.dropKey
  return { s with key := some ⟨s.tokens.size, s.place, required⟩ }

/-! ## Between tokens -/

/-- The comment at the start of a text. -/
def comment (rest : List Char) : List Char :=
  if rest.head? == some '#' then rest.takeWhile fun c => !isBreak c else []

/-- Skips blanks, comments and line ends. A new line may start with a key, but not inside a flow
collection; tabs are no blanks where a key may start. -/
def skipSpace (s : Scan) : (fuel : Nat) → Scan
  | 0 => s
  | fuel + 1 =>
    let s :=
      if s.place.column == 0 && s.rest.head? == some byteOrderMark then
        { s with rest := s.rest.tail, place := s.place.next byteOrderMark }
      else s
    let tabs := s.inFlow || !s.keyAllowed
    let s := s.skip (s.rest.takeWhile fun c => c == ' ' || (tabs && c == '\t')).length
    let comment := comment s.rest
    let s := { s with rest := s.rest.drop comment.length, place := s.place.past comment }
    let afterBreak (rest : List Char) (bytes : Nat) : Scan :=
      { s with
        rest
        place := s.place.nextLine bytes
        keyAllowed := s.keyAllowed || !s.inFlow }
    match s.rest with
    | '\r' :: '\n' :: rest => (afterBreak rest 2).skipSpace fuel
    | c :: rest => if isBreak c then (afterBreak rest c.utf8Size).skipSpace fuel else s
    | [] => s

/-! ## Tokens -/

def marker (s : Scan) (t : Token) : Except Problem Scan := do
  let s ← (s.close (-1)).dropKey
  return ({ s with keyAllowed := false }.skip 3).push t

/-- The start of a flow collection, which may be a key. -/
def flowStart (s : Scan) (t : Token) : Except Problem Scan := do
  let s ← s.noteKey
  let s := { s with keyAllowed := true, key := none, outerKeys := s.key :: s.outerKeys }
  return (s.skip 1).push t

def flowEnd (s : Scan) (t : Token) : Except Problem Scan := do
  let s ← s.dropKey
  let s := match s.outerKeys with
    | [] => s
    | key :: outerKeys => { s with key, outerKeys }
  return ({ s with keyAllowed := false }.skip 1).push t

def comma (s : Scan) : Except Problem Scan := do
  let s ← s.dropKey
  return ({ s with keyAllowed := true }.skip 1).push .separator

/-- A dash before an entry. -/
def dash (s : Scan) : Except Problem Scan := do
  if !s.inFlow && !s.keyAllowed then throw .misplacedEntry
  let s ← (s.openAt s.place.column s.tokens.size .blockSequenceStart).dropKey
  return ({ s with keyAllowed := true }.skip 1).push .entry

/-- A question mark before a key. -/
def questionMark (s : Scan) : Except Problem Scan := do
  if !s.inFlow && !s.keyAllowed then throw .misplacedKey
  let s ← (s.openAt s.place.column s.tokens.size .blockMappingStart).dropKey
  return ({ s with keyAllowed := !s.inFlow }.skip 1).push .key

/-- A colon after a key, or without one. -/
def colon (s : Scan) : Except Problem Scan := do
  match s.key with
  | some k =>
    let s := s.insert k.index #[.key]
    let s := s.openAt k.place.column k.index .blockMappingStart
    return ({ s with key := none, keyAllowed := false }.skip 1).push .value
  | none =>
    if !s.inFlow && !s.keyAllowed then throw .misplacedValue
    let s := s.openAt s.place.column s.tokens.size .blockMappingStart
    return ({ s with keyAllowed := !s.inFlow }.skip 1).push .value

def directive (s : Scan) : Except Problem Scan := do
  let s ← (s.close (-1)).dropKey
  let (token, rest) ← Directive.read s.rest.tail
  let line := s.rest.take (s.rest.length - rest.length)
  let (_, rest, place) := readLineEnd rest (s.place.past line)
  return { s with rest, place, keyAllowed := false }.push token

/-- May the character follow the name of an anchor at once? -/
def endsAnchor (c : Char) : Bool :=
  ['?', ':', ',', ']', '\x7d', '%', '@', '\x60'].contains c

/-- The name of an anchor, which may start a key. -/
def anchor (s : Scan) (token : String → Token) : Except Problem Scan := do
  let s ← s.noteKey
  let name := s.rest.tail.takeWhile isNameCharacter
  let rest := s.rest.drop (name.length + 1)
  if name.isEmpty || !(endsWord rest || rest.head?.any endsAnchor) then throw .badAnchor
  return ({ s with keyAllowed := false }.skip (name.length + 1)).push (token (String.ofList name))

/-- A tag, which may start a key. -/
def tag (s : Scan) : Except Problem Scan := do
  let s ← s.noteKey
  let (token, rest) ← Tag.read s.inFlow s.rest.tail
  return ({ s with keyAllowed := false }.skip (s.rest.length - rest.length)).push token

def scalar (s : Scan) (plain keyAllowed : Bool) (e : ScalarEnd) : Scan :=
  { s with rest := e.rest, place := e.place, keyAllowed }.push (.scalar e.text plain)

def plainScalar (s : Scan) : Except Problem Scan := do
  let s ← s.noteKey
  let e ← readPlain s.inFlow (s.indent + 1).toNat [] {} s.rest s.place
  return s.scalar true e.broken e

def quotedScalar (s : Scan) (read : List Char → Place → Except Problem ScalarEnd) :
    Except Problem Scan := do
  let s ← s.noteKey
  return s.scalar false false (← read s.rest.tail (s.place.skip 1))

def blockScalar (s : Scan) (folded : Bool) : Except Problem Scan := do
  let s ← s.dropKey
  return s.scalar false true (← readBlock folded s.indent s.rest.tail (s.place.skip 1))

def token (s : Scan) (c : Char) (rest : List Char) : Except Problem Scan :=
  let lineStart := s.place.column == 0
  let apart := s.inFlow || endsWord rest
  if lineStart && c == '%' then s.directive
  else if lineStart && startsMarker (c :: rest) then
    s.marker (if c == '-' then .documentStart else .documentEnd)
  else if c == '[' then s.flowStart .flowSequenceStart
  else if c == '\x7b' then s.flowStart .flowMappingStart
  else if c == ']' then s.flowEnd .flowSequenceEnd
  else if c == '\x7d' then s.flowEnd .flowMappingEnd
  else if c == ',' then s.comma
  else if c == '-' && endsWord rest then s.dash
  else if c == '?' && apart then s.questionMark
  else if c == ':' && apart then s.colon
  else if c == '*' then s.anchor .reference
  else if c == '&' then s.anchor .anchor
  else if c == '!' then s.tag
  else if c == '|' && !s.inFlow then s.blockScalar false
  else if c == '>' && !s.inFlow then s.blockScalar true
  else if c == '\'' then s.quotedScalar (readSingleQuoted [] {})
  else if c == '"' then s.quotedScalar (readDoubleQuoted [] {})
  else if !(isIndicator c || isBlank c || isBreak c) || c == '-' || c == '?' || c == ':' then
    s.plainScalar
  else .error .unexpectedCharacter

/-- Scans on to the end of the text. Each token takes a character at least. -/
def run (s : Scan) : (fuel : Nat) → Except Problem (Array Token)
  | 0 => .ok s.tokens
  | fuel + 1 => do
    let s ← (s.skipSpace (s.rest.length + 1)).dropStale
    let s := s.close s.place.column
    match s.rest with
    | [] => return ((← s.dropKey).close (-1)).tokens
    | c :: rest => (← s.token c rest).run fuel

end Scan

def Token.ofText (text : String) : Except Problem (List Token) := do
  let chars := text.toList
  if !chars.all isAllowed then throw .forbiddenCharacter
  let tokens ← Scan.run { rest := chars } (chars.length + 1)
  return tokens.toList

end TieredPool.Yaml
