import TieredPool.Fault

/-!
# Parts of a text by bytes

A part of a text may be named by the bytes of its UTF-8 encoding between which it lies. Both places
must lie between two characters; a place inside a character is a fault.
-/

namespace TieredPool.Text

/-- A place inside a character: the character, and how many of its bytes lie before the place. -/
structure Inside where
  character : Char
  bytes : Nat

/-- The text before a place and after it, so many bytes on. Places beyond the end are the end. -/
def cut (bytes : Nat) : List Char → Except Inside (List Char × List Char)
  | [] => .ok ([], [])
  | c :: rest =>
    if bytes = 0 then .ok ([], c :: rest)
    else if bytes < c.utf8Size then .error ⟨c, bytes⟩
    else (cut (bytes - c.utf8Size) rest).map fun (before, after) => (c :: before, after)

/-- Nothing is lost where a text is cut. -/
theorem append_of_cut {bytes : Nat} {text before after : List Char}
    (h : cut bytes text = .ok (before, after)) : before ++ after = text := by
  induction text generalizing bytes before after with
  | nil => cases h; rfl
  | cons c rest ih =>
    unfold cut at h
    split at h
    · cases h; rfl
    split at h
    · cases h
    · cases hr : cut (bytes - c.utf8Size) rest with
      | error inside => simp [hr, Except.map] at h
      | ok parts =>
        obtain ⟨b, a⟩ := parts
        simp only [hr, Except.map, Except.ok.injEq, Prod.mk.injEq] at h
        obtain ⟨rfl, rfl⟩ := h
        simp [ih hr]

/-- The text from one byte up to another. -/
def slice (first last : Nat) (text : List Char) : Except Fault (List Char) := do
  let fault (bound : Bound) (index : Nat) (inside : Inside) : Fault :=
    .insideCharacter bound index (index - inside.bytes) inside.character
  let (_, rest) ← (cut first text).mapError (fault .start first)
  let (part, _) ← (cut (last - first) rest).mapError (fault .stop last)
  return part

def sliceFrom (first : Nat) (text : List Char) : Except Fault (List Char) := do
  let fault (inside : Inside) : Fault :=
    .insideCharacter .start first (first - inside.bytes) inside.character
  return (← (cut first text).mapError fault).2

end TieredPool.Text
