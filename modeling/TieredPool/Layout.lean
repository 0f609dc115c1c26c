import TieredPool.Word
import TieredPool.Text.Record

/-!
# Element layouts

A layout is the size of an element in bytes and the alignment of its address. Layouts are made by
`Layout.ofSizeAlign?`, which accepts those whose size still fits the address space after rounding up
to the alignment.
-/

namespace TieredPool

/-- Size and alignment of an element, in bytes. -/
structure Layout where
  size : Nat
  align : Nat
deriving DecidableEq, Repr

namespace Layout

/-- The bound on sizes: a size rounded up to its alignment stays below half the address space. -/
def sizeBound : Nat := 1 <<< 63

/-- Is this a layout that memory can be reserved for? -/
def isValid (size align : Nat) : Bool :=
  Word.isPowerOfTwo align && decide (size + align ≤ sizeBound)

/-- The layout of the given size and alignment, if it is valid. -/
def ofSizeAlign? (size align : Nat) : Option Layout :=
  if isValid size align then some ⟨size, align⟩ else none

/-- The size rounded up to the alignment: the distance between elements that lie side by side. -/
def stride (l : Layout) : Nat := Word.ceilDiv l.size l.align * l.align

/-- Is a list of so many entries of this layout one that memory can be reserved for? -/
def listFits (entry : Layout) (count : Nat) : Bool := isValid (count * entry.size) entry.align

def record (l : Layout) : Record :=
  .labelled "Layout"
    [("size", .ofNat l.size), ("align", .atom s!"{l.align} (1 << {l.align.log2})")]

end Layout

end TieredPool
