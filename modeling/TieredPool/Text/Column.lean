/-!
# Columns

Texts aligned in columns of a fixed width. A text wider than its column stands as it is.
-/

namespace TieredPool.Text.Column

/-- Blanks that a text of this length leaves of a column. -/
def blanks (width : Nat) (text : String) : String :=
  String.ofList (List.replicate (width - text.length) ' ')

def left (width : Nat) (text : String) : String := text ++ blanks width text

def right (width : Nat) (text : String) : String := blanks width text ++ text

def number (width n : Nat) : String := right width (toString n)

/-- The number with its sign at the right of a column. -/
def gain (width n : Nat) : String := right width ("+" ++ toString n)

end TieredPool.Text.Column
