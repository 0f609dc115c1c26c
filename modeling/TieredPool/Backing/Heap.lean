import TieredPool.Backing
import TieredPool.Machine

/-!
# Heaps

A heap passes each request on to the system, and each element is memory of its own. It may be given
a limit on the elements that are out at one time; a request beyond the limit is refused before the
system sees it. The system may refuse as well, and then the place reserved below the limit is free
again.

Handles are serial numbers: the `n`-th request that is met gives element `n`, counted from zero. So
a handle is never handed out twice, whatever addresses the system reuses.
-/

namespace TieredPool

/-- A backing that asks the system for every element. -/
structure Heap where
  layout : Layout
  /-- How many elements may be out at one time. -/
  limit : Option Nat
  /-- How many elements are out. -/
  live : Nat
  tally : Tally
  /-- Whether the system refuses the request after so many others. -/
  systemRefuses : Nat → Bool
  memory : Memory

namespace Heap

/-- A heap for elements of a layout, without a limit, fed by the system of a machine. -/
def create (layout : Layout) (machine : Machine := .single) : Except Backing.Error Heap := do
  let layout ← layout.checkSize
  .ok ⟨layout, none, 0, {}, machine.refuses layout, .untouched⟩

/-- A heap for elements of a size and an alignment. -/
def withSize (size align : Nat) (machine : Machine := .single) : Except Backing.Error Heap :=
  match Layout.ofSizeAlign? size align with
  | none => .error .invalidLayout
  | some layout => create layout machine

/-- The heap with a limit on the elements that are out. -/
def withLimit (limit : Nat) (h : Heap) : Heap := { h with limit := some limit }

/-- Have as many elements gone out as the limit allows? -/
def atLimit (h : Heap) : Bool :=
  match h.limit with
  | none => false
  | some limit => limit ≤ h.live

/-- Takes one place below the limit. -/
def reserve? (h : Heap) : Option Heap :=
  if h.atLimit then none else some { h with live := h.live + 1 }

/-- Gives one place below the limit back. -/
def unreserve (h : Heap) : Heap := { h with live := h.live - 1 }

def requests (h : Heap) : Nat := h.tally.allocations + h.tally.failures

def refuse (h : Heap) : Option Handle × Heap := (none, { h with tally := h.tally.failed })

/-- Meets a request with the element of the next serial number. -/
def grant (flags : AllocFlags) (h : Heap) : Option Handle × Heap :=
  let handle := h.tally.allocations
  let memory :=
    if flags.contains .zero then h.memory.fill handle h.layout.size 0 else h.memory
  (some handle, { h with tally := h.tally.allocated, memory })

/-- Hands out an element, unless the limit is reached or the system refuses. -/
def alloc (flags : AllocFlags) (h : Heap) : Option Handle × Heap :=
  match h.reserve? with
  | none => h.refuse
  | some reserved =>
    if h.systemRefuses h.requests then reserved.unreserve.refuse else reserved.grant flags

/-- Takes an element back. -/
def free (handle : Handle) (h : Heap) : Heap :=
  { h with live := h.live - 1, tally := h.tally.deallocated, memory := h.memory.release handle }

/-- A heap that has reached its limit reports so. -/
def refusalEvents (h : Heap) : List Event :=
  if h.atLimit then [.heapLimitReached h.limit] else []

instance : Backing Heap where
  layout := layout
  alloc := alloc
  free handle h := (.ok (), h.free handle)
  refusalEvents := refusalEvents

def record (h : Heap) : Record :=
  .labelled "HeapAllocator"
    [("layout", h.layout.record), ("limit", Record.ofOption Record.ofNat h.limit),
      ("live", .ofNat h.live), ("stats", h.tally.record)]

end Heap

end TieredPool
