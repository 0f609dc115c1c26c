import TieredPool.Text.Record

/-!
# Allocation flags

A set of flags is a 32-bit word. Two flags have a meaning here; the other bits are carried along, so
that a backing can give them one.
-/

namespace TieredPool

/-- A set of allocation flags. -/
structure AllocFlags where
  bits : UInt32
deriving DecidableEq, Repr

namespace AllocFlags

def none : AllocFlags := ⟨0⟩

/-- Fill the element with zero bytes. -/
def zero : AllocFlags := ⟨1⟩

/-- Do not report that the backing is exhausted. -/
def noWarn : AllocFlags := ⟨2⟩

instance : Inhabited AllocFlags := ⟨none⟩

/-- The flags with a meaning, by name, in order. -/
def known : List (String × AllocFlags) := [("ZERO", zero), ("NO_WARN", noWarn)]

def all : AllocFlags := ⟨3⟩

/-- Flags in either set. -/
def union (a b : AllocFlags) : AllocFlags := ⟨a.bits ||| b.bits⟩

/-- Flags in both sets. -/
def inter (a b : AllocFlags) : AllocFlags := ⟨a.bits &&& b.bits⟩

/-- Flags in exactly one set. -/
def symmDiff (a b : AllocFlags) : AllocFlags := ⟨a.bits ^^^ b.bits⟩

/-- Flags of the first set that are not in the second. -/
def diff (a b : AllocFlags) : AllocFlags := ⟨a.bits &&& ~~~ b.bits⟩

/-- The flags with a meaning that are not in the set. -/
def complement (a : AllocFlags) : AllocFlags := ⟨~~~ a.bits &&& all.bits⟩

/-- The flags of the set that have a meaning. -/
def truncate (a : AllocFlags) : AllocFlags := a.inter all

/-- The word as a set, if all its flags have a meaning. -/
def ofBits? (bits : UInt32) : Option AllocFlags :=
  if bits &&& ~~~ all.bits == 0 then some ⟨bits⟩ else .none

/-- Does the set hold no flag? -/
def isEmpty (a : AllocFlags) : Bool := a.bits == 0

/-- Does the set hold every flag of the other? -/
def contains (a b : AllocFlags) : Bool := a.bits &&& b.bits == b.bits

/-- Does the set hold every flag with a meaning? -/
def isAll (a : AllocFlags) : Bool := a.contains all

/-- Do the sets have a flag in common? -/
def intersects (a b : AllocFlags) : Bool := !(a.inter b).isEmpty

/-- The flags of the set that have a name, in order. -/
def named (a : AllocFlags) : List (String × AllocFlags) := known.filter fun (_, f) => a.contains f

/-- The set in parts: each named flag, then the other bits together if there are any. -/
def parts (a : AllocFlags) : List AllocFlags :=
  let rest := a.diff all
  a.named.map Prod.snd ++ (if rest.isEmpty then [] else [rest])

/-- A number in lower-case hexadecimal. -/
def hex (bits : UInt32) : String := "0x" ++ String.ofList (Nat.toDigits 16 bits.toNat)

/-- The set as a record: names, then the other bits in hexadecimal; `0x0` if it is empty. -/
def record (a : AllocFlags) : Record :=
  let rest := a.diff all
  let words := a.named.map Prod.fst ++ (if rest.isEmpty then [] else [hex rest.bits])
  .tuple "AllocFlags"
    [.atom (if words.isEmpty then hex 0 else String.intercalate " | " words)]

end AllocFlags

end TieredPool
