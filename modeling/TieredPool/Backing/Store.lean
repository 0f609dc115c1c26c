import TieredPool.Backing.Heap
import TieredPool.Backing.Chunks

/-!
# Stores

A store is a backing of either kind. `Recorded` is a backing that keeps a list of the calls it
received.
-/

namespace TieredPool

/-- A heap or a chunk allocator. -/
inductive Store where
  | heap (h : Heap)
  | chunks (c : Chunks)

namespace Store

/-- The layout of every element. -/
def layout : Store → Layout
  | heap h => h.layout
  | chunks c => c.layout

/-- The calls answered so far. -/
def tally : Store → Tally
  | heap h => h.tally
  | chunks c => c.tally

/-- What elements hold. -/
def memory : Store → Memory
  | heap h => h.memory
  | chunks c => c.memory

/-- The store with other contents of its elements. -/
def withMemory (memory : Memory) : Store → Store
  | heap h => heap { h with memory }
  | chunks c => chunks { c with memory }

/-- Elements that are out of a heap, or slots that are not out of a chunk allocator. -/
def gauge : Store → Nat
  | heap h => h.live
  | chunks c => c.available

/-- The number by which an element is known: its serial number or its slot. -/
def numberOf : Store → Handle → Nat
  | heap _, handle => handle
  | chunks c, handle => (c.slot? handle).getD 0

/-- Hands out an element, or refuses. -/
def alloc (flags : AllocFlags) : Store → Option Handle × Store
  | heap h => let (r, h) := h.alloc flags; (r, heap h)
  | chunks c => let (r, c) := c.alloc flags; (r, chunks c)

/-- Takes an element back. -/
def free (handle : Handle) : Store → Except Fault Unit × Store
  | heap h => (.ok (), heap (h.free handle))
  | chunks c => let (r, c) := c.free handle; (r, chunks c)

/-- What the store reports when it refuses a request in this state. -/
def refusalEvents : Store → List Event
  | heap h => h.refusalEvents
  | chunks _ => []

instance : Backing Store where
  layout := layout
  alloc := alloc
  free := free
  refusalEvents := refusalEvents

def kindName : Store → String
  | heap _ => "heap"
  | chunks _ => "chunk"

def record : Store → Record
  | heap h => h.record
  | chunks c => c.record

/-- How many bytes of an element are looked at or written from outside the pool. -/
def window (s : Store) : Nat := min s.layout.size 64

/-- The first bytes of an element. -/
def read (s : Store) (handle : Handle) : List UInt8 :=
  (s.memory.contents handle).take s.window

/-- Writes one byte all over the first bytes of an element. -/
def write (s : Store) (handle : Handle) (byte : UInt8) : Store :=
  s.withMemory (s.memory.fill handle s.window byte)

end Store

/-- A call as a backing received and answered it. -/
inductive BackingCall where
  | granted (flags : AllocFlags) (handle : Handle)
  | refused (flags : AllocFlags)
  | freed (handle : Handle)
deriving DecidableEq, Repr

/-- A backing with the calls it received, in order. -/
structure Recorded (β : Type) where
  backing : β
  calls : Array BackingCall := #[]

namespace Recorded

variable {β : Type} [Backing β]

/-- Hands out an element, or refuses, and notes which. -/
def alloc (flags : AllocFlags) : Recorded β → Option Handle × Recorded β
  | ⟨backing, calls⟩ =>
    match Backing.alloc flags backing with
    | (some handle, backing) => (some handle, ⟨backing, calls.push (.granted flags handle)⟩)
    | (none, backing) => (none, ⟨backing, calls.push (.refused flags)⟩)

/-- Takes an element back and notes it. -/
def free (handle : Handle) : Recorded β → Except Fault Unit × Recorded β
  | ⟨backing, calls⟩ =>
    let (r, backing) := Backing.free handle backing
    (r, ⟨backing, calls.push (.freed handle)⟩)

instance : Backing (Recorded β) where
  layout r := Backing.layout r.backing
  alloc := alloc
  free := free
  refusalEvents r := Backing.refusalEvents r.backing

end Recorded

end TieredPool
