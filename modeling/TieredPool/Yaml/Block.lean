import TieredPool.Yaml.Inline

/-!
# Block scalars of YAML

A block scalar is written by indentation: its lines follow a header. A literal one keeps its line
ends, a folded one turns a single line end between two words into a space. The header may tell how
deep the lines are indented, and what happens to the line ends at the end: one is kept unless it
says otherwise.
-/

namespace TieredPool.Yaml

/-- What happens to the line ends at the end of a block scalar. -/
inductive Chomping where
  | strip
  | clip
  | keep
deriving DecidableEq, Repr

/-- The header of a block scalar. -/
structure BlockHeader where
  chomping : Chomping := .clip
  /-- The indentation beyond that of the surroundings, if told. -/
  indentation : Option Nat := none

namespace BlockHeader

def chomping? : Char → Option Chomping
  | '+' => some .keep
  | '-' => some .strip
  | _ => none

def readIndentation (text : List Char) : Except Problem (Option Nat × List Char) :=
  match text with
  | c :: rest =>
    match Decimal.digit? 10 c with
    | none => .ok (none, text)
    | some 0 => .error .badBlockHeader
    | some n => .ok (some n, rest)
  | [] => .ok (none, [])

/-- Reads a header: its two parts come in any order. -/
def read (text : List Char) : Except Problem (BlockHeader × List Char) := do
  match text.head?.bind chomping? with
  | some chomping =>
    let (indentation, rest) ← readIndentation text.tail
    return (⟨chomping, indentation⟩, rest)
  | none =>
    let (indentation, rest) ← readIndentation text
    match indentation, rest.head?.bind chomping? with
    | some _, some chomping => return (⟨chomping, indentation⟩, rest.tail)
    | _, _ => return (⟨.clip, indentation⟩, rest)

end BlockHeader

/-- The lines of a block scalar that were read. -/
structure BlockText where
  text : List Char := []
  /-- The line end after the last line that is not empty. -/
  last : List Char := []
  /-- The empty lines after it. -/
  empty : List Char := []
  /-- Does the last line that is not empty start with a blank? -/
  blankStart : Bool := false

namespace BlockText

/-- The text before a further line, which starts with a blank or not. -/
def joined (b : BlockText) (folded blankStart : Bool) : List Char :=
  let line :=
    if folded && b.last == ['\n'] && !b.blankStart && !blankStart then
      if b.empty.isEmpty then [' '] else []
    else b.last
  b.text ++ line ++ b.empty

/-- The scalar as a whole. -/
def finish (b : BlockText) : Chomping → String
  | .strip => String.ofList b.text
  | .clip => String.ofList (b.text ++ b.last)
  | .keep => String.ofList (b.text ++ b.last ++ b.empty)

end BlockText

/-- The empty lines at the start of a text: their line ends, the rest, where it starts, and the
deepest indentation seen. Spaces count as indentation up to the limit, if there is one. -/
def readEmptyLines (limit : Option Nat) (ends : List Char) (deepest : Nat) :
    List Char → Place → Except Problem (List Char × List Char × Place × Nat)
  | [], place => .ok (ends, [], place, max deepest place.column)
  | '\r' :: '\n' :: rest, place =>
    readEmptyLines limit (ends ++ ['\n']) (max deepest place.column) rest (place.nextLine 2)
  | c :: rest, place =>
    let indenting := limit.all fun n => place.column < n
    if c == ' ' && indenting then readEmptyLines limit ends deepest rest (place.skip 1)
    else if c == '\t' && indenting then .error .tabIndentation
    else if isBreak c then
      readEmptyLines limit (ends ++ [breakText c]) (max deepest place.column) rest
        (place.nextLine c.utf8Size)
    else .ok (ends, c :: rest, place, max deepest place.column)

/-- The line end at the start of a text, as it stands in a scalar, and what follows. -/
def readLineEnd (text : List Char) (place : Place) : List Char × List Char × Place :=
  match text with
  | '\r' :: '\n' :: rest => (['\n'], rest, place.nextLine 2)
  | c :: rest =>
    if isBreak c then ([breakText c], rest, place.nextLine c.utf8Size) else ([], text, place)
  | [] => ([], [], place)

/-- Reads the lines of a block scalar that are indented by so many columns. -/
def readBlockLines (folded : Bool) (indent : Nat) (b : BlockText) :
    (fuel : Nat) → List Char → Place → Except Problem (BlockText × List Char × Place)
  | 0, text, place => .ok (b, text, place)
  | fuel + 1, text, place => do
    if text.isEmpty || place.column != indent then return (b, text, place)
    let blankStart := text.head?.any isBlank
    let line := text.takeWhile fun c => !isBreak c
    let (last, rest, place) := readLineEnd (text.drop line.length) (place.past line)
    let (empty, rest, place, _) ← readEmptyLines (some indent) [] 0 rest place
    readBlockLines folded indent ⟨b.joined folded blankStart ++ line, last, empty, blankStart⟩
      fuel rest place

/-- Reads a block scalar after its first mark, inside a collection indented by `outer` columns,
which is -1 when there is none. -/
def readBlock (folded : Bool) (outer : Int) (text : List Char) (place : Place) :
    Except Problem ScalarEnd := do
  let (header, rest) ← BlockHeader.read text
  let afterHeader := rest.dropWhile isBlank
  let rest := if afterHeader.head? == some '#' then afterHeader.dropWhile fun c => !isBreak c
    else afterHeader
  if !(rest.isEmpty || rest.head?.any isBreak) then throw .badBlockHeader
  let place := place.past (text.take (text.length - rest.length))
  let (_, rest, place) := readLineEnd rest place
  let told := header.indentation.map fun n => (max outer 0).toNat + n
  let (empty, rest, place, deepest) ← readEmptyLines told [] 0 rest place
  let indent := told.getD (max deepest (max (outer + 1) 1).toNat)
  let (b, rest, place) ←
    readBlockLines folded indent { empty } (rest.length + 1) rest place
  return ⟨b.finish header.chomping, rest, place, true⟩

end TieredPool.Yaml
