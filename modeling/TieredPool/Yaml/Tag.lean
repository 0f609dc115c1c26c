import TieredPool.Yaml.Token
import TieredPool.Decimal.Reading

/-!
# Tags of YAML

A tag says of what type a node is. It is written after an exclamation mark: as it is between angle
brackets, or in short with a handle that stands for its start. Escapes in it give single bytes, so a
tag is a list of bytes; from a null byte on nothing counts. The exclamation mark is also the mark of
types of the document's own, at the start of their tags; alone it is the name of such a type.

`Tag.ofBytes` tells what a tag means for a settings file.
-/

namespace TieredPool.Yaml

/-- What a tag says about a node. -/
inductive Tag where
  | bool
  | integer
  | decimal
  | null
  /-- A type of the document's own. -/
  | own (name : String)
  /-- A type of the document's own whose name is no text. -/
  | garbled
  | other
deriving DecidableEq, Repr

namespace Tag

def bytesOf (text : String) : List UInt8 := text.toUTF8.toList

def commonStart : String := "tag:yaml.org,2002:"

/-- The mark at the start of tags of the document's own. -/
def ownMark : UInt8 := 0x21

def ofBytes (bytes : List UInt8) : Tag :=
  if bytes = bytesOf (commonStart ++ "bool") then .bool
  else if bytes = bytesOf (commonStart ++ "int") then .integer
  else if bytes = bytesOf (commonStart ++ "float") then .decimal
  else if bytes = bytesOf (commonStart ++ "null") then .null
  else
    match bytes with
    | [] => .other
    | mark :: rest =>
      if mark ≠ ownMark then .other
      else
        let name := if rest.isEmpty then [mark] else rest
        match String.fromUTF8? ⟨name.toArray⟩ with
        | some name => .own name
        | none => .garbled

/-! ## Written tags -/

/-- Does the character stand for itself in a tag? -/
def isTagCharacter (c : Char) : Bool :=
  isNameCharacter c ||
    [';', '/', '?', ':', '@', '&', '=', '+', '$', '.', '!', '~', '*', '\'', '(', ')'].contains c

/-- Does the character stand for itself in a tag that is written as it is? -/
def isFullTagCharacter (c : Char) : Bool :=
  isTagCharacter c || c == ',' || c == '[' || c == ']'

/-- How many bytes follow the first byte of a character. -/
def followers? (byte : Nat) : Option Nat :=
  if byte < 0x80 then some 0
  else if byte < 0xc0 then none
  else if byte < 0xe0 then some 1
  else if byte < 0xf0 then some 2
  else if byte < 0xf8 then some 3
  else none

/-- How many bytes of a character are still to come after another byte, of so many before it. -/
def missingAfter? (missing byte : Nat) : Option Nat :=
  match missing with
  | 0 => followers? byte
  | missing + 1 => if 0x80 ≤ byte && byte < 0xc0 then some missing else none

/-- Reads the bytes of a tag as far as its characters go. The bytes of a character are all escaped
or none is; `missing` is how many of them are still to come. -/
def readBytes (allowed : Char → Bool) (missing : Nat) :
    List Char → Except Problem (List UInt8 × List Char)
  | '%' :: high :: low :: rest => do
    let some byte := Decimal.natural? 16 [high, low] | throw .badTag
    let some missing := missingAfter? missing byte | throw .badTag
    let (bytes, rest) ← readBytes allowed missing rest
    return (byte.toUInt8 :: bytes, rest)
  | c :: rest => do
    if c == '%' || missing ≠ 0 then throw .badTag
    if !allowed c then return ([], c :: rest)
    let (bytes, rest) ← readBytes allowed 0 rest
    return (c.toNat.toUInt8 :: bytes, rest)
  | [] => if missing = 0 then return ([], []) else throw .badTag

/-- Reads the bytes of a tag, of which there must be some. -/
def readSomeBytes (allowed : Char → Bool) (text : List Char) :
    Except Problem (List UInt8 × List Char) := do
  let (bytes, rest) ← readBytes allowed 0 text
  if bytes.isEmpty then throw .badTag
  return (bytes, rest)

def counted (bytes : List UInt8) : List UInt8 := bytes.takeWhile (· ≠ 0)

/-- The handle that stands for nothing, that of the document's own tags, and that of the common
types. -/
def noHandle : String := ""

@[inherit_doc noHandle]
def ownHandle : String := "!"

@[inherit_doc noHandle]
def commonHandle : String := "!!"

/-- Reads a tag after its exclamation mark: the handle, and the bytes of the rest. -/
def readParts (text : List Char) : Except Problem (String × List UInt8 × List Char) := do
  match text with
  | '<' :: rest =>
    let (bytes, rest) ← readSomeBytes isFullTagCharacter rest
    match rest with
    | '>' :: rest => return (noHandle, counted bytes, rest)
    | _ => throw .badTag
  | _ =>
    let name := text.takeWhile isNameCharacter
    match text.drop name.length with
    | '!' :: rest =>
      let (bytes, rest) ← readSomeBytes isTagCharacter rest
      return ("!" ++ String.ofList name ++ "!", counted bytes, rest)
    | rest =>
      let (bytes, rest) ← readBytes isTagCharacter 0 rest
      match counted (bytesOf (String.ofList name) ++ bytes) with
      | [] => return (noHandle, [ownMark], rest)
      | bytes => return (ownHandle, bytes, rest)

/-- Reads a tag after its exclamation mark. A word must end there, or an entry inside a flow
collection. -/
def read (inFlow : Bool) (text : List Char) : Except Problem (Token × List Char) := do
  let (handle, bytes, rest) ← readParts text
  if !(endsWord rest || (inFlow && rest.head? == some ',')) then throw .badTag
  return (.tag handle bytes, rest)

/-! ## Handles -/

abbrev Handles := List (String × List UInt8)

/-- What handles stand for unless a directive says otherwise. -/
def commonHandles : Handles :=
  [(ownHandle, bytesOf ownHandle), (commonHandle, bytesOf commonStart)]

/-- The tag of a handle and the bytes of the rest. -/
def resolve (handles : Handles) (handle : String) (rest : List UInt8) : Except Problem Tag :=
  if handle = noHandle then .ok (ofBytes rest)
  else
    match handles.lookup handle with
    | some start => .ok (ofBytes (start ++ rest))
    | none => .error .unknownHandle

end Tag

end TieredPool.Yaml
