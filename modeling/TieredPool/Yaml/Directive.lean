import TieredPool.Yaml.Tag

/-!
# Directives of YAML

A directive stands before a document, on a line that starts with a percent sign: it tells the
version of the language, or what a handle stands for at the start of tags.
-/

namespace TieredPool.Yaml.Directive

/-- Numbers of a version have no more digits. -/
def digitLimit : Nat := 9

def readNumber (text : List Char) : Except Problem (Nat × List Char) := do
  let digits := text.takeWhile Decimal.isDigit
  let some n := Decimal.natural? 10 digits | throw .badDirective
  if digitLimit < digits.length then throw .badDirective
  return (n, text.drop digits.length)

/-- Reads a version: two numbers with a point between them. -/
def readVersion (text : List Char) : Except Problem (Token × List Char) := do
  let (major, rest) ← readNumber text
  match rest with
  | '.' :: rest =>
    let (minor, rest) ← readNumber rest
    return (.version major minor, rest)
  | _ => throw .badDirective

/-- Reads a handle: an exclamation mark, or a name between two. -/
def readHandleName (text : List Char) : Except Problem (String × List Char) := do
  match text with
  | '!' :: text =>
    let name := text.takeWhile isNameCharacter
    match text.drop name.length with
    | '!' :: rest => return ("!" ++ String.ofList name ++ "!", rest)
    | rest => if name.isEmpty then return (Tag.ownHandle, rest) else throw .badDirective
  | _ => throw .badDirective

/-- Reads a handle and the start of the tags that it stands for. -/
def readHandle (text : List Char) : Except Problem (Token × List Char) := do
  let (name, rest) ← readHandleName text
  if !rest.head?.any isBlank then throw .badDirective
  let (bytes, rest) ← Tag.readSomeBytes Tag.isFullTagCharacter (rest.dropWhile isBlank)
  if !endsWord rest then throw .badDirective
  return (.handle name (Tag.counted bytes), rest)

/-- Reads a directive after its percent sign, up to the end of its line. -/
def read (text : List Char) : Except Problem (Token × List Char) := do
  let name := text.takeWhile isNameCharacter
  let rest := text.drop name.length
  if !endsWord rest then throw .badDirective
  let (token, rest) ← match String.ofList name with
    | "YAML" => readVersion (rest.dropWhile isBlank)
    | "TAG" => readHandle (rest.dropWhile isBlank)
    | _ => throw .badDirective
  let rest := rest.dropWhile isBlank
  let rest := if rest.head? == some '#' then rest.dropWhile fun c => !isBreak c else rest
  if !rest.head?.all isBreak then throw .badDirective
  return (token, rest)

end TieredPool.Yaml.Directive
