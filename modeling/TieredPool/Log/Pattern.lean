/-!
# Patterns of field values

A directive may ask for the value of a field by a pattern, a regular expression. Nothing is ever
matched here: all that counts is whether the pattern has a meaning. A pattern is about characters,
or about bytes where Unicode is switched off. What would take tables of all scripts has no meaning:
characters in any case, the common classes and the ends of words, unless they are about bytes. About
bytes, nothing has a meaning that could match a part of a character.

`Pattern.isMeaningful` says so of a whole pattern, and that it is nested within limits and names
each of its groups differently.
-/

namespace TieredPool.Log

/-! ## Switches -/

/-- A switch of how a pattern is read and what it means. -/
inductive Switch where
  /-- Letters match in any case. -/
  | anyCase
  /-- The ends of lines count as ends. -/
  | manyLines
  /-- The dot matches line ends too. -/
  | dotIsAll
  /-- Repetitions match as little as they can. -/
  | reluctant
  /-- The pattern is about characters, and not about bytes. -/
  | unicode
  /-- Lines may end in a carriage return. -/
  | carriageReturns
  /-- White space and comments in the pattern do not count. -/
  | spaced
deriving DecidableEq, Repr

/-- Switches that are turned on or off, all of them different. -/
abbrev Switches := List (Switch × Bool)

/-- What a switch is turned to, if it is among those. -/
def Switches.of? (s : Switches) (switch : Switch) : Option Bool := s.lookup switch

/-- What patterns are about, and how letters are compared. -/
structure Mode where
  anyCase : Bool := false
  unicode : Bool := true
deriving DecidableEq, Repr

/-- The mode after some switches. -/
def Mode.turn (m : Mode) (s : Switches) : Mode where
  anyCase := (s.of? .anyCase).getD m.anyCase
  unicode := (s.of? .unicode).getD m.unicode

/-! ## Patterns -/

/-- A character of a pattern. -/
structure Literal where
  char : Char
  /-- Is it written as the number of a byte? -/
  isByte : Bool := false
deriving DecidableEq, Repr

/-- Is it one of the characters that are single bytes? -/
def Literal.isAscii (l : Literal) : Bool := l.char.toNat < 0x80

/-- A class of characters. -/
inductive Class where
  | nothing
  | single (c : Literal)
  | range (first last : Literal)
  /-- A class of ASCII characters, by its name. -/
  | ascii (negated : Bool)
  /-- The digits, the blanks or the characters of words. -/
  | common (negated : Bool)
  | category
  | bracketed (negated : Bool) (inside : Class)
  /-- Several classes together. -/
  | union (parts : List Class)
  /-- What an operation makes of two classes. -/
  | combined (left right : Class)

/-- A pattern. -/
inductive Pattern where
  | empty
  /-- Switches for what follows in the group. -/
  | switches (s : Switches)
  | single (c : Literal)
  | dot
  /-- The start or the end of a line or of the text. -/
  | edge
  /-- The start or the end of a word, or none. -/
  | wordEdge
  | characters (c : Class)
  | repeated (p : Pattern)
  | group (name : Option String) (s : Switches) (p : Pattern)
  | sequence (ps : List Pattern)
  | choice (ps : List Pattern)

namespace Class

def ofParts : List Class → Class
  | [] => nothing
  | [part] => part
  | parts => union parts

mutual

/-- How deep brackets, unions and operations are nested. -/
def depth : Class → Nat
  | bracketed _ inside => inside.depth + 1
  | union parts => depthOfParts parts + 1
  | combined left right => max left.depth right.depth + 1
  | nothing | single _ | range .. | ascii _ | common _ | category => 0

def depthOfParts : List Class → Nat
  | [] => 0
  | part :: parts => max part.depth (depthOfParts parts)

end

mutual

/-- Has the class a meaning? About characters in any case only a class of nothing has; about bytes
the class may hold no other than those of ASCII. -/
def isMeaningful (m : Mode) : Class → Bool
  | nothing => true
  | single c => if m.unicode then !m.anyCase else c.isAscii
  | range first last => if m.unicode then !m.anyCase else first.isAscii && last.isAscii
  | ascii negated => if m.unicode then !m.anyCase else !negated
  | common negated => !m.unicode && !negated
  | category => false
  | bracketed negated inside => (m.unicode || !negated) && inside.isMeaningful m
  | union parts => areMeaningful m parts
  | combined left right => left.isMeaningful m && right.isMeaningful m

def areMeaningful (m : Mode) : List Class → Bool
  | [] => true
  | part :: parts => part.isMeaningful m && areMeaningful m parts

end

end Class

namespace Pattern

/-- One pattern after another. -/
def ofSequence : List Pattern → Pattern
  | [] => empty
  | [p] => p
  | ps => sequence ps

def ofChoice : List Pattern → Pattern
  | [] => empty
  | [p] => p
  | ps => choice ps

mutual

/-- How deep a pattern is nested. -/
def depth : Pattern → Nat
  | repeated p => p.depth + 1
  | group _ _ p => p.depth + 1
  | sequence ps => depthOfParts ps + 1
  | choice ps => depthOfParts ps + 1
  | characters c => c.depth
  | empty | switches _ | single _ | dot | edge | wordEdge => 0

def depthOfParts : List Pattern → Nat
  | [] => 0
  | p :: ps => max p.depth (depthOfParts ps)

end

mutual

def names : Pattern → List String
  | group name _ p => name.toList ++ p.names
  | repeated p => p.names
  | sequence ps => namesOfParts ps
  | choice ps => namesOfParts ps
  | empty | switches _ | single _ | dot | edge | wordEdge | characters _ => []

def namesOfParts : List Pattern → List String
  | [] => []
  | p :: ps => p.names ++ namesOfParts ps

end

mutual

/-- The mode after a pattern that has a meaning in the mode before it. Switches hold up to the end
of their group. -/
def modeAfter? (m : Mode) : Pattern → Option Mode
  | empty | edge => some m
  | switches s => some (m.turn s)
  | single c => if (if m.unicode then m.anyCase else c.isByte && !c.isAscii) then none else some m
  | dot => if m.unicode then some m else none
  | wordEdge => if m.unicode then none else some m
  | characters c => if c.isMeaningful m then some m else none
  | repeated p => p.modeAfter? m
  | group _ s p => (p.modeAfter? (m.turn s)).map fun _ => m
  | sequence ps => modeAfterParts? m ps
  | choice ps => modeAfterParts? m ps

def modeAfterParts? (m : Mode) : List Pattern → Option Mode
  | [] => some m
  | p :: ps => (p.modeAfter? m).bind fun m => modeAfterParts? m ps

end

/-- Patterns are nested no deeper than this. -/
def depthLimit : Nat := 250

def isMeaningful (p : Pattern) : Bool :=
  p.depth ≤ depthLimit && decide p.names.Nodup && (p.modeAfter? {}).isSome

end Pattern

end TieredPool.Log
