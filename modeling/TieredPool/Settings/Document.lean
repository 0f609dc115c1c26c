import TieredPool.Decimal.Reading
import TieredPool.Settings.Value
import TieredPool.Yaml.Tree

/-!
# Settings from a YAML text

The scalars of a document become values. One in quotes is a text. One without quotes is null, a
truth value or a number where it is written like one, and a text else. A tag of one of these types
must be met, quotes or not; with a tag of any other type, but for the document's own, a scalar is a
text. A tag of the document's own puts the node under its name, as if that were the key to it;
points in it part several keys, and from a part that is empty on nothing counts.

The document must be a mapping; keys are the texts of their scalars, whatever their tags, and of
entries with one key the last counts. Inside the document a mapping may hold a value that stands for
it, and with that, the number of the place where the value was set.

Aliases stand for the nodes they name, wherever they come from. Collections are nested no deeper
than a limit, aliases followed, and so a node that names itself is refused. So is a document whose
aliases are followed too often for its length.
-/

namespace TieredPool.Document

/-! ## Plain scalars -/

def isNull (text : String) : Bool := ["~", "null", "Null", "NULL"].contains text

/-- The truth value of a text. -/
def bool? (text : String) : Option Bool :=
  if ["true", "True", "TRUE"].contains text then some true
  else if ["false", "False", "FALSE"].contains text then some false
  else none

/-- The text after a sign. -/
def unsigned : List Char → List Char
  | '+' :: rest => rest
  | '-' :: rest => rest
  | text => text

/-- Digits that start with a zero, perhaps after a sign: a text and no number. -/
def isZeroPadded (text : List Char) : Bool :=
  match unsigned text with
  | '0' :: d :: rest => Decimal.isDigit d && rest.all Decimal.isDigit
  | _ => false

/-- A natural number in decimal, or in another base after its mark. -/
def magnitude? : List Char → Option Nat
  | '0' :: 'x' :: digits => Decimal.natural? 16 digits
  | '0' :: 'o' :: digits => Decimal.natural? 8 digits
  | '0' :: 'b' :: digits => Decimal.natural? 2 digits
  | digits => Decimal.natural? 10 digits

/-- The integer of a text, unless it is beyond all words: of 128 bits at most. -/
def integer? (text : List Char) : Option Scalar :=
  if isZeroPadded text then none
  else
    match text with
    | '-' :: digits => do
      let n ← magnitude? digits
      if n ≤ 1 <<< 127 then some (.signed (-n)) else none
    | text => do
      let n ← magnitude? (match text with | '+' :: digits => digits | _ => text)
      if n < 1 <<< 128 then some (.natural n) else none

/-- The decimal number of a text, if it is finite or one of the words for those that are not. -/
def decimal? (text : List Char) : Option Binary64 :=
  let positive := match text with
    | '+' :: rest => rest
    | _ => text
  let word := String.ofList positive
  if text.head? == some '+' && (positive.head?.any fun c => c == '+' || c == '-') then none
  else if [".inf", ".Inf", ".INF"].contains word then some (.infinite false)
  else if ["-.inf", "-.Inf", "-.INF"].contains (String.ofList text) then some (.infinite true)
  else if [".nan", ".NaN", ".NAN"].contains (String.ofList text) then some .nan
  else (Decimal.number? positive).filter Binary64.isFinite

/-- What a scalar without quotes stands for. -/
def plain (text : String) : Scalar :=
  let decimal := if isZeroPadded text.toList then none else decimal? text.toList
  if text.isEmpty || isNull text then .null
  else
    match bool? text, integer? text.toList, decimal with
    | some b, _, _ => .bool b
    | none, some n, _ => n
    | none, none, some x => .decimal x
    | none, none, none => .text text

/-- What a scalar stands for that is written like its tag says. -/
def demanded (s : Option Scalar) : Except Yaml.Problem Scalar :=
  match s with
  | some s => .ok s
  | none => .error .wrongTag

def scalar (tag : Option Yaml.Tag) (text : String) (isPlain : Bool) : Except Yaml.Problem Scalar :=
  let untagged := if isPlain then plain text else .text text
  match tag with
  | none | some (.own _) | some .garbled => .ok untagged
  | some .bool => demanded ((bool? text).map .bool)
  | some .integer => demanded (integer? text.toList)
  | some .decimal => demanded ((decimal? text.toList).map .decimal)
  | some .null => demanded (if isNull text then some .null else none)
  | some .other => .ok (.text text)

/-! ## Trees -/

/-- Reading values off a tree, with how many aliases may still be followed. -/
abbrev Reading := StateT Nat (Except Yaml.Problem)

/-- The nodes that bear anchors. -/
abbrev Anchored := List (Nat × Yaml.Tree)

/-- The node that a tree is: that of its anchor if it is an alias. -/
def node (anchored : Anchored) : Yaml.Tree → Reading Yaml.Tree
  | .reference anchor => do
    let left + 1 ← get | throw .tooManyAliases
    set left
    match anchored.lookup anchor with
    | some node => return node
    | none => throw .unknownAlias
  | node => return node

/-- The keys that the name of a type stands for. -/
def keysOf (name : String) : List String := (name.splitOn ".").takeWhile (· != "")

/-- A node's value, under its name if its type is the document's own. -/
def named (source : Source) (p : Yaml.Properties) (v : Value) : Value :=
  match p.tag with
  | some (.own name) => v.nest source (keysOf name)
  | _ => v

/-- The key of the value that stands for a mapping. -/
def valueKey : String := "___figment_value_value"

/-- The key of the number of the place where that value was set. -/
def placeKey : String := "___figment_value_id"

/-- Numbers of places count up to this one, and then again. -/
def placeLimit : Nat := 1 <<< 62

/-- The number of a place: a word without a sign. -/
def place (anchored : Anchored) (tree : Yaml.Tree) : Reading Nat := do
  let .scalar p text isPlain ← node anchored tree | throw .badPlace
  if let some (.own _) := p.tag then throw .badPlace
  let .natural n ← scalar p.tag text isPlain | throw .badPlace
  if Scalar.fitsWord n then return n else throw .badPlace

def key (anchored : Anchored) (tree : Yaml.Tree) : Reading String := do
  match ← node anchored tree with
  | .scalar _ text _ => return text
  | _ => throw .compoundKey

/-- Entries without those that are followed by another one with their key. -/
def lastOfEach : List (String × Value) → List (String × Value)
  | [] => []
  | (key, value) :: rest =>
    let rest := lastOfEach rest
    if (Value.lookup? key rest).isSome then rest else (key, value) :: rest

/-- What an entry of a mapping says. -/
inductive Entry where
  | entry (key : String) (v : Value)
  /-- The value that stands for the mapping. -/
  | whole (v : Value)
  /-- The number of the place where that was set. -/
  | place (n : Nat)

namespace Entry

/-- The key and the value of an entry that is nothing else. -/
def entry? : Entry → Option (String × Value)
  | entry key v => some (key, v)
  | _ => none

/-- The value that the entry says stands for the mapping. -/
def whole? : Entry → Option Value
  | whole v => some v
  | _ => none

/-- The number of a place that the entry gives. -/
def place? : Entry → Option Nat
  | place n => some n
  | _ => none

end Entry

/-- The value of a mapping. A value that stands for it was set in the document, unless the number is
that of another place: no such place is known. -/
def ofEntries (source : Source) (entries : List Entry) : Value :=
  match (entries.filterMap Entry.whole?).getLast?, (entries.filterMap Entry.place?).getLast? with
  | none, _ => .map source (lastOfEach (entries.filterMap Entry.entry?))
  | some v, none => v
  | some v, some n => if n % placeLimit = 0 then v else v.moveTo .unknown

/-- The value of a tree, in which collections are nested so deep at most. -/
def value (source : Source) (anchored : Anchored) : (levels : Nat) → Yaml.Tree → Reading Value
  | 0, tree => do
    match ← node anchored tree with
    | .scalar p text isPlain =>
      return named source p (.scalar source (← scalar p.tag text isPlain))
    | _ => throw .tooDeep
  | levels + 1, tree => do
    match ← node anchored tree with
    | .scalar p text isPlain =>
      return named source p (.scalar source (← scalar p.tag text isPlain))
    | .sequence p items =>
      return named source p (.list source (← items.mapM (value source anchored levels)))
    | .mapping p entries =>
      let entries ← entries.mapM fun (k, v) => do
        let key ← key anchored k
        if key = placeKey then return .place (← place anchored v)
        let v ← value source anchored levels v
        return if key = valueKey then .whole v else .entry key v
      return named source p (ofEntries source entries)
    | .reference _ => throw .unknownAlias

/-- The entries of a document, whose keys are keys of settings and nothing else. -/
def topEntries (source : Source) (anchored : Anchored) (entries : List (Yaml.Tree × Yaml.Tree)) :
    Reading (List (String × Value)) :=
  entries.mapM fun (k, v) => do
    let key ← key anchored k
    return (key, ← value source anchored (Yaml.Tree.levelLimit - 1) v)

/-- How often the aliases of a document may be followed, for each of its marks. -/
def aliasLimit : Nat := 100

/-- The layer of a YAML text. A text without content sets nothing. -/
def layer (source : Source) (text : String) : Except Yaml.Problem Value := do
  match ← Yaml.Tree.ofText? text with
  | none => return .empty source
  | some (.scalar _ "" true) => return .empty source
  | some (.mapping p entries) =>
    -- A tag of the document as a whole says nothing.
    let nodes := (Yaml.Tree.mapping p entries).nodes
    let marks := nodes.foldl (fun n node => n + node.marks) 0
    let entries ← (topEntries source (Yaml.Tree.anchored nodes) entries).run' (aliasLimit * marks)
    return .map source (lastOfEach entries)
  | some _ => throw .notMapping

end TieredPool.Document
