import TieredPool.Fault
import TieredPool.Layout

/-!
# Rings

A ring is a bounded queue over an array whose size is a power of two. Each side has a pair of
counters: its `head` marks the positions it has reserved and its `tail` those it has published.
Counters are 64-bit words that wrap around, and a position's slot is the counter masked by the size,
which is the same as its remainder because the size divides `2 ^ 64`. One slot always stays free, so
that equal counters mean an empty ring.

Enqueues and dequeues take or give all of their items or none. Either side may be used through the
multi-user path, and through the single-user path if the ring's flags reserve that side for one
user. The view of a ring as a list, oldest item first, is `Ring.toList`.
-/

namespace TieredPool

namespace Ring

/-- Which sides of a ring are reserved for a single user. -/
structure Flags where
  singleProducer : Bool := false
  singleConsumer : Bool := false
deriving DecidableEq, Repr

namespace Flags

/-- Many producers, many consumers. -/
def mpmc : Flags := ⟨false, false⟩

/-- One producer, one consumer. -/
def spsc : Flags := ⟨true, true⟩

instance : Inhabited Flags := ⟨mpmc⟩

end Flags

/-- The path by which a side is used. -/
inductive Access where
  | single
  | multi
deriving DecidableEq, Repr

/-- The counters of one side: positions reserved and positions published. -/
structure Cursor where
  head : UInt64
  tail : UInt64
deriving DecidableEq, Repr

/-- Why a ring turned a call down. -/
inductive Refusal where
  /-- Not enough free slots for all items. -/
  | full
  /-- Not enough entries for all items. -/
  | empty
  /-- The single-user path of a side that many may use. -/
  | shared (side : Side)
deriving DecidableEq, Repr

/-- The text a refusal is reported with. -/
def Refusal.message : Refusal → String
  | .full => "Ring is full"
  | .empty => "Ring is empty"
  | .shared side => (Fault.sharedSide side).message

/-- A size that no ring can have. -/
structure InvalidSize where
  size : Nat
deriving DecidableEq, Repr

/-- The text an invalid size is reported with. -/
def InvalidSize.message (e : InvalidSize) : String :=
  s!"Invalid ring capacity {e.size} (must be a power of two >= 2)"

end Ring

/-- A bounded queue. A slot is `none` until it is first written, and keeps its last item after. -/
structure Ring (α : Type) where
  slots : Array (Option α)
  flags : Ring.Flags
  producer : Ring.Cursor
  consumer : Ring.Cursor

namespace Ring

variable {α : Type}

/-- An empty ring whose counters all start at `base`. -/
def startingAt (base : UInt64) (size : Nat) (flags : Flags) : Except InvalidSize (Ring α) :=
  if size < 2 || !Word.isPowerOfTwo size then .error ⟨size⟩
  else .ok ⟨Array.replicate size none, flags, ⟨base, base⟩, ⟨base, base⟩⟩

/-- The bytes of a slot, which holds one word. -/
def slotBytes : Nat := 8

/-- An empty ring of `size` slots. More slots than any memory has room for are a fault. -/
def create (size : Nat) (flags : Flags) : Except (Failure InvalidSize) (Ring α) :=
  if Word.isPowerOfTwo size && !Layout.isValid (size * slotBytes) slotBytes then
    .error (.fault .capacityOverflow)
  else (startingAt 0 size flags).mapError .error

def size (r : Ring α) : Nat := r.slots.size

/-- The largest number of items the ring can hold: one slot stays free. -/
def capacity (r : Ring α) : Nat := r.slots.size - 1

/-- The number of published items that have not been taken. -/
def length (r : Ring α) : Nat :=
  min (r.producer.tail - r.consumer.tail).toNat r.capacity

/-- The number of items that could still be added. -/
def freeCount (r : Ring α) : Nat := r.capacity - r.length

/-- Does the ring hold nothing? -/
def isEmpty (r : Ring α) : Bool := r.length == 0

def isFull (r : Ring α) : Bool := r.length == r.capacity

def slotOf (slots : Nat) (position : UInt64) : Nat :=
  (position &&& (slots - 1).toUInt64).toNat

/-- Writes items to the slots of consecutive positions. -/
def writeFrom (slots : Array (Option α)) (position : UInt64) : List α → Array (Option α)
  | [] => slots
  | x :: xs =>
    writeFrom (slots.setIfInBounds (slotOf slots.size position) (some x)) (position + 1) xs

/-- Reads the items in the slots of `n` consecutive positions. -/
def readFrom (slots : Array (Option α)) (position : UInt64) : Nat → List α
  | 0 => []
  | n + 1 =>
    match slots[slotOf slots.size position]? with
    | some (some x) => x :: readFrom slots (position + 1) n
    | _ => readFrom slots (position + 1) n

/-- The items of the ring, oldest first. -/
def toList (r : Ring α) : List α := readFrom r.slots r.consumer.tail r.length

/-- Free positions as a producer sees them before it reserves. -/
def room (r : Ring α) : Nat := (r.capacity.toUInt64 + r.consumer.tail - r.producer.head).toNat

/-- Published positions as a consumer sees them before it reserves. -/
def entries (r : Ring α) : Nat := (r.producer.tail - r.consumer.head).toNat

/-- Reserves the next positions, writes the items there and publishes them. -/
def publish (items : List α) : Ring α → Ring α
  | ⟨slots, flags, producer, consumer⟩ =>
    let next := producer.head + items.length.toUInt64
    ⟨writeFrom slots producer.head items, flags, ⟨next, next⟩, consumer⟩

/-- Reserves the `n` oldest positions and hands their slots back to the producers. -/
def consume (n : Nat) : Ring α → Ring α
  | ⟨slots, flags, producer, consumer⟩ =>
    let next := consumer.head + n.toUInt64
    ⟨slots, flags, producer, ⟨next, next⟩⟩

/-- Adds all items, in order, or none. -/
def enqueue (access : Access) (items : List α) (r : Ring α) : Except Refusal Unit × Ring α :=
  if access == .single && !r.flags.singleProducer then (.error (.shared .producer), r)
  else if items.length > r.room then (.error .full, r)
  else (.ok (), r.publish items)

/-- Takes the `n` oldest items, in order, or none. -/
def dequeue (access : Access) (n : Nat) (r : Ring α) : Except Refusal (List α) × Ring α :=
  if access == .single && !r.flags.singleConsumer then (.error (.shared .consumer), r)
  else if n > r.entries then (.error .empty, r)
  else (.ok (readFrom r.slots r.consumer.head n), r.consume n)

/-- Takes the oldest item, if there is one. -/
def dequeueOne (access : Access) (r : Ring α) : Except Refusal (Option α) × Ring α :=
  match r.dequeue access 1 with
  | (.ok items, r) => (.ok items.head?, r)
  | (.error .empty, r) => (.ok none, r)
  | (.error refusal, r) => (.error refusal, r)

/-! ## Texts -/

def Flags.record (flags : Flags) : Record :=
  .labelled "RingFlags"
    [("single_producer", .ofBool flags.singleProducer),
      ("single_consumer", .ofBool flags.singleConsumer)]

/-- The ring as a record: its size and fill, not its items. -/
def record (r : Ring α) : Record :=
  .labelled "Ring"
    [("capacity", .ofNat r.capacity), ("len", .ofNat r.length), ("flags", r.flags.record)]

end Ring

end TieredPool
