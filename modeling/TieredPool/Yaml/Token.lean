/-!
# Tokens of YAML

A YAML text is first cut into tokens: its scalars, the marks between them, and the starts and ends
of the collections that are written by indentation alone. This module holds the tokens, what can be
wrong with a text, and the character classes that tell tokens apart.
-/

namespace TieredPool.Yaml

/-- What a YAML text is made of. -/
inductive Token where
  /-- A directive that tells the version of the language. -/
  | version (major minor : Nat)
  /-- A directive that tells what a handle stands for at the start of tags. -/
  | handle (name : String) (start : List UInt8)
  | documentStart
  | documentEnd
  /-- A sequence or a mapping by indentation begins. -/
  | blockSequenceStart
  | blockMappingStart
  | blockEnd
  | flowSequenceStart
  | flowSequenceEnd
  | flowMappingStart
  | flowMappingEnd
  /-- A dash before an entry of a sequence. -/
  | entry
  /-- A comma between entries. -/
  | separator
  | key
  | value
  /-- A name for the node that follows. -/
  | anchor (name : String)
  /-- An alias: the name of a node in the place of one. -/
  | reference (name : String)
  /-- A tag of the node that follows: its handle, and the bytes of the rest. -/
  | tag (handle : String) (rest : List UInt8)
  /-- A scalar's text, and whether it stands without quotes. -/
  | scalar (text : String) (plain : Bool)
deriving DecidableEq, Repr

/-- What is wrong with a YAML text. -/
inductive Problem where
  | forbiddenCharacter
  | unexpectedCharacter
  | badDirective
  | repeatedDirective
  | wrongVersion
  | badAnchor
  | unknownAlias
  | tooManyAliases
  | badTag
  | unknownHandle
  /-- A scalar that is not written like its tag says. -/
  | wrongTag
  /-- What is no number of a place. -/
  | badPlace
  | unclosedQuote
  | markerInQuote
  | badEscape
  | badBlockHeader
  | tabIndentation
  | unexpectedColon
  | missingColon
  | misplacedEntry
  | misplacedKey
  | misplacedValue
  | expectedContent
  | expectedEntry
  | expectedKey
  | expectedSeparator
  | tooDeep
  | severalDocuments
  | compoundKey
  /-- The text as a whole is no mapping. -/
  | notMapping
deriving DecidableEq, Repr

def Problem.message : Problem → String
  | forbiddenCharacter => "control characters are not allowed"
  | unexpectedCharacter => "found a character that cannot start any token"
  | badDirective => "found an unknown or malformed directive"
  | repeatedDirective => "found a directive a second time"
  | wrongVersion => "found a document of another version"
  | badAnchor => "found a malformed name of an anchor"
  | unknownAlias => "found an alias of no anchor"
  | tooManyAliases => "aliases are followed too often"
  | badTag => "found a malformed tag"
  | unknownHandle => "found the handle of a tag that no directive defines"
  | wrongTag => "a scalar is not written like its tag says"
  | badPlace => "expected the number of a place"
  | unclosedQuote => "found unexpected end of a quoted scalar"
  | markerInQuote => "found a document marker inside a quoted scalar"
  | badEscape => "found an unknown or malformed escape"
  | badBlockHeader => "found a malformed header of a block scalar"
  | tabIndentation => "found a tab where indentation is expected"
  | unexpectedColon => "found an unexpected colon"
  | missingColon => "could not find the colon after a key"
  | misplacedEntry => "sequence entries are not allowed here"
  | misplacedKey => "mapping keys are not allowed here"
  | misplacedValue => "mapping values are not allowed here"
  | expectedContent => "did not find the expected content"
  | expectedEntry => "did not find the expected dash"
  | expectedKey => "did not find the expected key"
  | expectedSeparator => "did not find the expected comma or bracket"
  | tooDeep => "collections are nested too deeply"
  | severalDocuments => "found more than one document"
  | compoundKey => "a key must be a scalar"
  | notMapping => "expected a mapping"

/-! ## Characters -/

/-- Does the character end a line? -/
def isBreak (c : Char) : Bool :=
  c == '\n' || c == '\r' || c == '\x85' || c == '\u2028' || c == '\u2029'

/-- A line end as it stands in a scalar: all but the two separators become line feeds. -/
def breakText (c : Char) : Char := if c == '\u2028' || c == '\u2029' then c else '\n'

/-- A space or a tab. -/
def isBlank (c : Char) : Bool := c == ' ' || c == '\t'

/-- Does the character belong to the names of anchors, handles and directives? -/
def isNameCharacter (c : Char) : Bool := c.isAlphanum || c == '_' || c == '-'

/-- Does a word end before this text? -/
def endsWord : List Char → Bool
  | [] => true
  | c :: _ => isBlank c || isBreak c

def byteOrderMark : Char := '\ufeff'

/-- Characters that may stand in a YAML text at all. -/
def isAllowed (c : Char) : Bool :=
  let n := c.toNat
  c == '\t' || c == '\n' || c == '\r' || n == 0x85 || (0x20 ≤ n && n ≤ 0x7E) ||
    (0xA0 ≤ n && n ≤ 0xFFFD) || 0x10000 ≤ n

/-- Characters that show on their own, line feeds included. -/
def isPrintable (c : Char) : Bool :=
  isAllowed c && c != '\t' && c != '\r' && c.toNat != 0x85 && c != byteOrderMark

/-- Does a document marker start this text? -/
def startsMarker : List Char → Bool
  | '-' :: '-' :: '-' :: rest => endsWord rest
  | '.' :: '.' :: '.' :: rest => endsWord rest
  | _ => false

/-- Brackets, braces and the comma, which end a plain scalar inside a flow collection. -/
def isFlowMark (c : Char) : Bool :=
  c == ',' || c == '[' || c == ']' || c == '\x7b' || c == '\x7d'

/-- Characters that start no plain scalar, unless what follows says otherwise. -/
def isIndicator (c : Char) : Bool :=
  isFlowMark c || c == '-' || c == '?' || c == ':' || c == '#' || c == '&' || c == '*' ||
    c == '!' || c == '|' || c == '>' || c == '\'' || c == '"' || c == '%' || c == '@' || c == '\x60'

/-! ## Places -/

/-- A place in a text: its line, its column in characters, and how many bytes stand before it. -/
structure Place where
  line : Nat := 0
  column : Nat := 0
  offset : Nat := 0
deriving DecidableEq, Repr

namespace Place

/-- The place so many characters further on in the line, of one byte each. -/
def skip (p : Place) (n : Nat) : Place :=
  { p with column := p.column + n, offset := p.offset + n }

/-- The place after a character of the line. -/
def next (p : Place) (c : Char) : Place :=
  { p with column := p.column + 1, offset := p.offset + c.utf8Size }

/-- The place after a text in the line. -/
def past (p : Place) (text : List Char) : Place := text.foldl next p

/-- The start of the next line, after a line end of so many bytes. -/
def nextLine (p : Place) (bytes : Nat) : Place := ⟨p.line + 1, 0, p.offset + bytes⟩

end Place

end TieredPool.Yaml
