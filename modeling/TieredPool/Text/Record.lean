/-!
# Record texts

Values are shown to a reader as records: a name with labelled members in braces, or a name with
members in round brackets. `Record.inline` writes a record on one line and `Record.indented` writes
one member per line, each level four columns deeper and each member closed by a comma.
-/

namespace TieredPool

/-- A value as it is shown: a text of its own, or a name with members. -/
inductive Record where
  | atom (text : String)
  | labelled (name : String) (members : List (String × Record))
  | tuple (name : String) (members : List Record)

namespace Record

/-- A number in decimal. -/
def ofNat (n : Nat) : Record := .atom (toString n)

/-- A truth value. -/
def ofBool (b : Bool) : Record := .atom (if b then "true" else "false")

/-- A value that may be absent. -/
def ofOption (show? : α → Record) : Option α → Record
  | none => .atom "None"
  | some a => .tuple "Some" [show? a]

mutual

def inline : Record → String
  | .atom text => text
  | .labelled name [] => name
  | .labelled name members =>
    name ++ " \x7b " ++ String.intercalate ", " (inlineLabelled members) ++ " \x7d"
  | .tuple name members => name ++ "(" ++ String.intercalate ", " (inlineMembers members) ++ ")"

/-- Labelled members, each on one line. -/
def inlineLabelled : List (String × Record) → List String
  | [] => []
  | (label, value) :: rest => (label ++ ": " ++ inline value) :: inlineLabelled rest

/-- Members without labels, each on one line. -/
def inlineMembers : List Record → List String
  | [] => []
  | value :: rest => inline value :: inlineMembers rest

end

/-- Spaces that open a line at a depth. -/
def margin (depth : Nat) : String := String.ofList (List.replicate (4 * depth) ' ')

mutual

/-- The record over several lines, its first line starting at the given depth. -/
def indentedFrom (depth : Nat) : Record → String
  | .atom text => text
  | .labelled name [] => name
  | .labelled name members =>
    name ++ " \x7b\n" ++ labelledLines (depth + 1) members ++ margin depth ++ "\x7d"
  | .tuple name members =>
    name ++ "(\n" ++ memberLines (depth + 1) members ++ margin depth ++ ")"

/-- One line per labelled member. -/
def labelledLines (depth : Nat) : List (String × Record) → String
  | [] => ""
  | (label, value) :: rest =>
    margin depth ++ label ++ ": " ++ indentedFrom depth value ++ ",\n" ++ labelledLines depth rest

def memberLines (depth : Nat) : List Record → String
  | [] => ""
  | value :: rest => margin depth ++ indentedFrom depth value ++ ",\n" ++ memberLines depth rest

end

/-- The record over several lines. -/
def indented (r : Record) : String := indentedFrom 0 r

end Record

end TieredPool
