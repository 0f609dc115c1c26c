import TieredPool.Yaml.Token

/-!
# Written scalars of YAML

A text is written plain where a plain scalar reads back as the same text, and in single quotes
otherwise. A text that single quotes cannot hold stands in double quotes with escapes, and a text of
several lines in a literal block, whose lines are indented.
-/

namespace TieredPool.Yaml.Written

/-- How a text is written. -/
inductive Style where
  | plain
  | single
  | double
  | literal
deriving DecidableEq, Repr

/-! ## What a text allows -/

/-- May the text stand plain, as far as its characters before and after one another go? -/
def flowsPlain (afterBlank : Bool) : List Char → Bool
  | [] => true
  | c :: rest =>
    !(c == ':' && endsWord rest) && !(c == '#' && afterBlank) && !isBreak c &&
      flowsPlain (isBlank c) rest

/-- May a plain scalar start like the text? -/
def startsPlain : List Char → Bool
  | [] => false
  | '-' :: '-' :: '-' :: _ => false
  | '.' :: '.' :: '.' :: _ => false
  | c :: rest =>
    if c == '-' || c == '?' || c == ':' then !endsWord rest else c != ' ' && !isIndicator c

def allowsPlain (text : List Char) : Bool :=
  startsPlain text && flowsPlain true text && text.getLast? != some ' ' && text.all isPrintable

/-- Is there a space beside a line end? The flags say whether that before or after one counts. -/
def spaceAtBreak (before after : Bool) : List Char → Bool
  | c :: d :: rest =>
    (before && c == ' ' && isBreak d) || (after && isBreak c && d == ' ') ||
      spaceAtBreak before after (d :: rest)
  | _ => false

/-- May the text stand in single quotes? -/
def allowsSingle (text : List Char) : Bool :=
  text.all isPrintable && !spaceAtBreak true true text

/-- May the text stand in a literal block? -/
def allowsLiteral (text : List Char) : Bool :=
  text.all isPrintable && !spaceAtBreak true false text && text.getLast? != some ' '

/-- How the text is written, when a plain scalar like it would be a text or not. -/
def style (readsAsText : Bool) (text : List Char) : Style :=
  if text.contains '\n' then if allowsLiteral text then .literal else .double
  else if readsAsText && allowsPlain text then .plain
  else if allowsSingle text then .single
  else .double

/-! ## The styles -/

def spaces (n : Nat) : List Char := List.replicate n ' '

/-- A text in single quotes, where a quote is written twice. A line that starts inside the quotes
is indented. -/
def single (indent : Nat) (lineStart : Bool) : List Char → List Char
  | [] => if lineStart then spaces indent else []
  | c :: rest =>
    let start := if lineStart && !isBreak c then spaces indent else []
    start ++ (if c == '\'' then ['\'', '\''] else [c]) ++ single indent (isBreak c) rest

def hexDigit (n : Nat) : Char := (Nat.digitChar (n % 16)).toUpper

def hex : (digits : Nat) → Nat → List Char
  | 0, _ => []
  | digits + 1, n => hex digits (n / 16) ++ [hexDigit n]

def escapeLetter? (c : Char) : Option Char :=
  match c.toNat with
  | 0x00 => some '0'
  | 0x07 => some 'a'
  | 0x08 => some 'b'
  | 0x09 => some 't'
  | 0x0A => some 'n'
  | 0x0B => some 'v'
  | 0x0C => some 'f'
  | 0x0D => some 'r'
  | 0x1B => some 'e'
  | 0x22 => some '"'
  | 0x5C => some '\\'
  | 0x85 => some 'N'
  | 0xA0 => some '_'
  | 0x2028 => some 'L'
  | 0x2029 => some 'P'
  | _ => none

/-- A character as it stands in double quotes. -/
def doubleChar (c : Char) : List Char :=
  if isPrintable c && !isBreak c && c != '"' && c != '\\' then [c]
  else
    match escapeLetter? c with
    | some letter => ['\\', letter]
    | none =>
      let n := c.toNat
      if n ≤ 0xFF then '\\' :: 'x' :: hex 2 n
      else if n ≤ 0xFFFF then '\\' :: 'u' :: hex 4 n
      else '\\' :: 'U' :: hex 8 n

/-- The sign after the bar of a literal block that says what becomes of its last line end. -/
def chomping (text : List Char) : List Char :=
  match text.reverse with
  | [] => ['-']
  | [c] => if isBreak c then ['+'] else ['-']
  | c :: d :: _ => if !isBreak c then ['-'] else if isBreak d then ['+'] else []

def literalLines (indent : Nat) (lineStart : Bool) : List Char → List Char
  | [] => []
  | c :: rest =>
    let start := if lineStart && !isBreak c then spaces indent else []
    start ++ c :: literalLines indent (isBreak c) rest

/-- Scalars inside a collection are indented by so many columns more. -/
def step : Nat := 2

def literal (indent : Nat) (text : List Char) : List Char :=
  let told := if text.head?.any fun c => c == ' ' || isBreak c then Nat.toDigits 10 step else []
  '|' :: told ++ chomping text ++ '\n' :: literalLines indent true text

/-- The text as it is written, with its further lines indented. It ends a line of its own only where
it is a block that ends in one. -/
def scalar (indent : Nat) (readsAsText : Bool) (text : String) : String :=
  let chars := text.toList
  String.ofList <| match style readsAsText chars with
    | .plain => chars
    | .single => '\'' :: single indent false chars ++ ['\'']
    | .double => '"' :: chars.flatMap doubleChar ++ ['"']
    | .literal => literal indent chars

end TieredPool.Yaml.Written
