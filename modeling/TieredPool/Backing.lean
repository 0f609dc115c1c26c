import TieredPool.AllocFlags
import TieredPool.Event
import TieredPool.Layout
import TieredPool.Memory
import TieredPool.Tally

/-!
# Backings

A backing is where elements come from and where they go in the end. All its elements have one
layout. A request is met with the handle of an element or refused, and an element given back may be
handed out again. `Backing` is what the pool asks of a backing and all that it knows of one.
-/

namespace TieredPool

/-- A source and sink of elements. -/
class Backing (β : Type) where
  /-- The layout of every element. -/
  layout : β → Layout
  /-- Hands out an element, or refuses. -/
  alloc : AllocFlags → β → Option Handle × β
  /-- Takes an element back. -/
  free : Handle → β → Except Fault Unit × β
  /-- What the backing reports when it refuses a request in this state. -/
  refusalEvents : β → List Event

/-- Why a backing cannot be set up. -/
inductive Backing.Error where
  | zeroSized
  | zeroCapacity
  | invalidLayout
deriving DecidableEq, Repr

/-- The text the error is reported with. -/
def Backing.Error.message : Backing.Error → String
  | .zeroSized => "Element layout must have a non-zero size"
  | .zeroCapacity => "Allocator capacity must be greater than zero"
  | .invalidLayout =>
    "Invalid element layout: invalid parameters to Layout::from_size_align"

/-- Elements of size zero cannot be handed out. -/
def Layout.checkSize (l : Layout) : Except Backing.Error Layout :=
  if l.size == 0 then .error .zeroSized else .ok l

end TieredPool
