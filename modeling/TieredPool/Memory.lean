import Std.Data.HashMap

/-!
# Memory of elements

The bytes of an element are a function of the offset. Memory that has been reserved but never
written reads as a fixed pattern. A `Memory` keeps the contents of those elements that were written;
all others hold the pattern.
-/

namespace TieredPool

/-- The name of an element in its backing: a serial number or an address. -/
abbrev Handle := Nat

/-- The byte at each offset of an element. -/
abbrev Contents := Nat → UInt8

namespace Contents

/-- What reserved memory holds before it is written. -/
def pattern : UInt8 := 0xa5

/-- An element that was never written. -/
def untouched : Contents := fun _ => pattern

/-- Writes one byte to all offsets below `count`. -/
def fill (count : Nat) (byte : UInt8) (c : Contents) : Contents :=
  fun offset => if offset < count then byte else c offset

/-- The bytes below `count`, in order. -/
def take (count : Nat) (c : Contents) : List UInt8 := (List.range count).map c

end Contents

/-- The contents of the elements of a backing. -/
structure Memory where
  written : Std.HashMap Handle Contents

namespace Memory

/-- Memory that was never written. -/
def untouched : Memory := ⟨∅⟩

instance : Inhabited Memory := ⟨untouched⟩

/-- What an element holds. -/
def contents (m : Memory) (h : Handle) : Contents := m.written.getD h Contents.untouched

/-- Writes one byte to the offsets of an element below `count`. -/
def fill (m : Memory) (h : Handle) (count : Nat) (byte : UInt8) : Memory :=
  ⟨m.written.insert h ((m.contents h).fill count byte)⟩

/-- Gives an element's memory up: whoever holds it next finds it untouched. -/
def release (m : Memory) (h : Handle) : Memory := ⟨m.written.erase h⟩

end Memory

end TieredPool
