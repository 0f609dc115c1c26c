import TieredPool.Text.Printable

/-!
# Quoted texts

A text is quoted by double quotes around it. Inside, a double quote and a backslash are written
after a backslash, tab, line feed, carriage return and the null character have short forms, and a
character that does not show on its own is written by its number in hexadecimal, as in `\u{7f}`.
-/

namespace TieredPool.Text.Quoted

/-- One character as it stands inside quotes. -/
def encodeChar (c : Char) : List Char :=
  if c == '"' then ['\\', '"']
  else if c == '\\' then ['\\', '\\']
  else if c == '\t' then ['\\', 't']
  else if c == '\n' then ['\\', 'n']
  else if c == '\r' then ['\\', 'r']
  else if c.toNat == 0 then ['\\', '0']
  else if Printable.stands c then [c]
  else ['\\', 'u', '\x7b'] ++ Nat.toDigits 16 c.toNat ++ ['\x7d']

def encode (text : String) : String :=
  String.ofList ('"' :: text.toList.flatMap encodeChar ++ ['"'])

/-- A character in single quotes. A double quote needs no mark there, a single one does. -/
def encodeSingle (c : Char) : String :=
  let inside := if c == '"' then ['"'] else if c == '\'' then ['\\', '\''] else encodeChar c
  String.ofList ('\'' :: inside ++ ['\''])

end TieredPool.Text.Quoted
