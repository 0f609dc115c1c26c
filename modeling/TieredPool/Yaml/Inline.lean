import TieredPool.Yaml.Token
import TieredPool.Decimal.Reading

/-!
# Scalars of YAML in one line or several

Plain and quoted scalars may run over several lines. Blanks and line ends between two words are a
gap: blanks alone stay, and so do all line ends after the first, while a single line end becomes a
space.
-/

namespace TieredPool.Yaml

/-- What stands between two words of a scalar. -/
structure Gap where
  blanks : List Char := []
  /-- Did a line end? From then on blanks do not count. -/
  broken : Bool := false
  /-- The first line end, unless it was escaped. -/
  first : Option Char := none
  /-- The further line ends. -/
  more : List Char := []

namespace Gap

/-- A gap that starts with an escaped line end. -/
def escaped : Gap := { broken := true }

def blank (g : Gap) (c : Char) : Gap :=
  if g.broken then g else { g with blanks := g.blanks ++ [c] }

def lineEnd (g : Gap) (c : Char) : Gap :=
  if g.broken then { g with more := g.more ++ [breakText c] }
  else { broken := true, first := some (breakText c) }

/-- What the gap leaves in the scalar. -/
def text (g : Gap) : List Char :=
  if g.broken then
    match g.first with
    | some '\n' => if g.more.isEmpty then [' '] else g.more
    | some c => c :: g.more
    | none => g.more
  else g.blanks

end Gap

/-- A scalar that was read: its text, the rest, where that starts, and whether a line ended last. -/
structure ScalarEnd where
  text : String
  rest : List Char
  place : Place
  broken : Bool

/-! ## Plain scalars -/

/-- Ends a plain scalar whose words are given in reverse, with a gap after them. -/
def endPlain (words : List Char) (gap : Gap) (rest : List Char) (place : Place) : ScalarEnd :=
  ⟨String.ofList words.reverse, rest, place, gap.broken⟩

/-- Reads a plain scalar whose words so far are given in reverse. Outside flow collections its
lines are indented by `indent` columns at least. -/
def readPlain (inFlow : Bool) (indent : Nat) (words : List Char) (gap : Gap) :
    List Char → Place → Except Problem ScalarEnd
  | [], place => .ok (endPlain words gap [] place)
  | '\r' :: '\n' :: rest, place =>
    readPlain inFlow indent words (gap.lineEnd '\n') rest (place.nextLine 2)
  | c :: rest, place =>
    let inGap := gap.broken || !gap.blanks.isEmpty
    let outdented := !inFlow && gap.broken && place.column < indent
    if isBreak c then readPlain inFlow indent words (gap.lineEnd c) rest (place.nextLine c.utf8Size)
    else if isBlank c then
      if c == '\t' && gap.broken && place.column < indent then .error .tabIndentation
      else readPlain inFlow indent words (gap.blank c) rest (place.next c)
    else if outdented || (place.column == 0 && startsMarker (c :: rest)) || (c == '#' && inGap) then
      .ok (endPlain words gap (c :: rest) place)
    else if inFlow && c == ':' && (rest.head?.any fun d => d == '?' || isFlowMark d) then
      .error .unexpectedColon
    else if (c == ':' && endsWord rest) || (inFlow && isFlowMark c) then
      .ok (endPlain words gap (c :: rest) place)
    else readPlain inFlow indent (c :: (gap.text.reverse ++ words)) {} rest (place.next c)

/-! ## Quoted scalars -/

/-- Reads a scalar in single quotes, in which a quote is written twice. -/
def readSingleQuoted (words : List Char) (gap : Gap) :
    List Char → Place → Except Problem ScalarEnd
  | [], _ => .error .unclosedQuote
  | '\r' :: '\n' :: rest, place =>
    readSingleQuoted words (gap.lineEnd '\n') rest (place.nextLine 2)
  | '\'' :: '\'' :: rest, place =>
    readSingleQuoted ('\'' :: (gap.text.reverse ++ words)) {} rest (place.skip 2)
  | c :: rest, place =>
    if isBreak c then readSingleQuoted words (gap.lineEnd c) rest (place.nextLine c.utf8Size)
    else if isBlank c then readSingleQuoted words (gap.blank c) rest (place.next c)
    else if place.column == 0 && startsMarker (c :: rest) then .error .markerInQuote
    else if c == '\'' then
      .ok ⟨String.ofList (gap.text.reverse ++ words).reverse, rest, place.skip 1, false⟩
    else readSingleQuoted (c :: (gap.text.reverse ++ words)) {} rest (place.next c)

/-- The character that an escape of one letter stands for. -/
def escape? : Char → Option Char
  | '0' => some '\x00'
  | 'a' => some '\x07'
  | 'b' => some '\x08'
  | 't' => some '\t'
  | '\t' => some '\t'
  | 'n' => some '\n'
  | 'v' => some '\x0b'
  | 'f' => some '\x0c'
  | 'r' => some '\r'
  | 'e' => some '\x1b'
  | ' ' => some ' '
  | '"' => some '"'
  | '/' => some '/'
  | '\\' => some '\\'
  | 'N' => some '\x85'
  | '_' => some '\xa0'
  | 'L' => some '\u2028'
  | 'P' => some '\u2029'
  | _ => none

/-- How many hexadecimal digits an escape of a character's number has. -/
def escapeDigits? : Char → Option Nat
  | 'x' => some 2
  | 'u' => some 4
  | 'U' => some 8
  | _ => none

/-- The character of a number, unless the number is a surrogate or too large. -/
def character? (n : Nat) : Option Char := if n.isValidChar then some (Char.ofNat n) else none

/-- The character whose number the escape gives in so many hexadecimal digits. -/
def numbered? (digits : Nat) (text : List Char) : Option Char :=
  if text.length < digits then none
  else (Decimal.natural? 16 (text.take digits)).bind character?

/-- Reads a scalar in double quotes, in which a backslash starts an escape. -/
def readDoubleQuoted (words : List Char) (gap : Gap) (text : List Char) (place : Place) :
    Except Problem ScalarEnd :=
  match text with
  | [] => .error .unclosedQuote
  | '\r' :: '\n' :: rest => readDoubleQuoted words (gap.lineEnd '\n') rest (place.nextLine 2)
  | '\\' :: '\r' :: '\n' :: rest =>
    readDoubleQuoted (gap.text.reverse ++ words) .escaped rest ((place.skip 1).nextLine 2)
  | '\\' :: c :: rest =>
    if isBreak c then
      readDoubleQuoted (gap.text.reverse ++ words) .escaped rest
        ((place.skip 1).nextLine c.utf8Size)
    else
      let words := gap.text.reverse ++ words
      match escape? c, escapeDigits? c with
      | some d, _ => readDoubleQuoted (d :: words) {} rest (place.skip 2)
      | none, some digits =>
        match numbered? digits rest with
        | some d => readDoubleQuoted (d :: words) {} (rest.drop digits) (place.skip (2 + digits))
        | none => .error .badEscape
      | none, none => .error .badEscape
  | c :: rest =>
    if isBreak c then readDoubleQuoted words (gap.lineEnd c) rest (place.nextLine c.utf8Size)
    else if isBlank c then readDoubleQuoted words (gap.blank c) rest (place.next c)
    else if place.column == 0 && startsMarker (c :: rest) then .error .markerInQuote
    else if c == '"' then
      .ok ⟨String.ofList (gap.text.reverse ++ words).reverse, rest, place.skip 1, false⟩
    else readDoubleQuoted (c :: (gap.text.reverse ++ words)) {} rest (place.next c)
termination_by text.length
decreasing_by all_goals simp_wf <;> omega

end TieredPool.Yaml
