import TieredPool.Backing
import TieredPool.Machine

/-!
# Chunks

A chunk allocator reserves all its memory at the start, in chunks of equally many slots, and then
hands out slots. The capacity need not fill the last chunk. Slots are numbered through all chunks;
slot `i` lies in chunk `i / chunkSize`, and its address is that chunk's base plus a multiple of the
stride. Where the chunks lie is up to the machine, so the bases are a parameter.

Slots that came back are handed out again first, the latest first; after them follow the slots that
were never out, in order.
-/

namespace TieredPool

/-- A backing that hands out slots of chunks reserved at the start. -/
structure Chunks where
  layout : Layout
  /-- Slots per chunk. -/
  chunkSize : Nat
  capacity : Nat
  /-- The address at which each chunk starts. -/
  base : Nat → Nat
  /-- Slots that came back, the latest first. -/
  recycled : List Nat
  /-- The first slot that was never out. -/
  fresh : Nat
  tally : Tally
  memory : Memory

namespace Chunks

def chunkBytes (c : Chunks) : Nat := c.layout.stride * c.chunkSize

/-- How many chunks hold the slots. -/
def chunkCount (c : Chunks) : Nat := Word.ceilDiv c.capacity c.chunkSize

/-- Below the first chunk of spaced chunks there is nothing. -/
def outside : Handle := 0

/-- What a chunk takes in the list of chunks. -/
def chunkEntry : Layout := ⟨24, 8⟩

/-- What a slot takes in the list of the slots that are not out. -/
def slotEntry : Layout := ⟨8, 8⟩

/-- Can memory be reserved for the list of chunks and for the list of slots? -/
def listsFit (chunkSize capacity : Nat) : Bool :=
  chunkEntry.listFits (Word.ceilDiv capacity chunkSize) && slotEntry.listFits capacity

/--
Reserves `capacity` slots in chunks of `chunkSize` at the given bases. The bytes of a chunk must be
a word and make a valid layout. A list of chunks or of slots longer than any memory is a fault.
-/
def reserveAt (base : Layout → Nat → Nat → Nat) (layout : Layout) (chunkSize capacity : Nat) :
    Except (Failure Backing.Error) Chunks := do
  let layout ← layout.checkSize.mapError .error
  if chunkSize == 0 || capacity == 0 then throw (.error .zeroCapacity)
  let chunkBytes ← (Word.mul layout.stride chunkSize).mapError .fault
  if !Layout.isValid chunkBytes layout.align then throw (.error .invalidLayout)
  if !listsFit chunkSize capacity then throw (.fault .capacityOverflow)
  return ⟨layout, chunkSize, capacity, base layout chunkBytes, [], 0, {}, .untouched⟩

/-- Reserves `capacity` slots in chunks of `chunkSize` where the machine puts them. -/
def reserve (layout : Layout) (chunkSize capacity : Nat) (machine : Machine := .single) :
    Except (Failure Backing.Error) Chunks :=
  reserveAt machine.base layout chunkSize capacity

/-- What is reported once the chunks are reserved. -/
def reservedEvent (c : Chunks) : Event :=
  .chunksReserved c.layout.size c.layout.align c.chunkSize c.capacity c.chunkCount

/-- The slots that are not out, in the order they are handed out. -/
def freeSlots (c : Chunks) : List Nat :=
  c.recycled ++ (List.range (c.capacity - c.fresh)).map (c.fresh + ·)

/-- How many slots are not out. -/
def available (c : Chunks) : Nat := c.recycled.length + (c.capacity - c.fresh)

def slotAddress (c : Chunks) (slot : Nat) : Handle :=
  c.base (slot / c.chunkSize) + slot % c.chunkSize * c.layout.stride

/-- The slot of a chunk that starts at the address. -/
def slotIn? (c : Chunks) (address : Handle) (chunk : Nat) : Option Nat :=
  let start := c.base chunk
  if address < start then none
  else
    let offset := address - start
    if offset ≥ c.chunkBytes || offset % c.layout.stride != 0 then none
    else some (chunk * c.chunkSize + offset / c.layout.stride)

/-- The slot that starts at the address, looked for in `count` chunks from the given one on. -/
def slotFrom? (c : Chunks) (address : Handle) (chunk : Nat) : Nat → Option Nat
  | 0 => none
  | count + 1 =>
    match c.slotIn? address chunk with
    | some slot => some slot
    | none => slotFrom? c address (chunk + 1) count

/-- The slot that starts at the address; slots beyond the capacity in the last chunk count too. -/
def slot? (c : Chunks) (address : Handle) : Option Nat := c.slotFrom? address 0 c.chunkCount

/-- Takes the next slot from those that are not out. -/
def takeSlot? (c : Chunks) : Option (Nat × Chunks) :=
  match c.recycled with
  | slot :: rest => some (slot, { c with recycled := rest })
  | [] => if c.fresh < c.capacity then some (c.fresh, { c with fresh := c.fresh + 1 }) else none

/-- Hands out a slot, unless all are out. -/
def alloc (flags : AllocFlags) (c : Chunks) : Option Handle × Chunks :=
  match c.takeSlot? with
  | none => (none, { c with tally := c.tally.failed })
  | some (slot, c) =>
    let address := c.slotAddress slot
    let memory :=
      if flags.contains .zero then c.memory.fill address c.layout.size 0 else c.memory
    (some address, { c with tally := c.tally.allocated, memory })

/-- Takes a slot back, if the address is one. -/
def free (address : Handle) (c : Chunks) : Except Fault Unit × Chunks :=
  match c.slot? address with
  | none => (.error .foreignAddress, c)
  | some slot =>
    if slot < c.capacity then
      (.ok (), { c with recycled := slot :: c.recycled, tally := c.tally.deallocated })
    else (.error .foreignAddress, c)

instance : Backing Chunks where
  layout := layout
  alloc := alloc
  free := free
  refusalEvents _ := []

def record (c : Chunks) : Record :=
  .labelled "ChunkAllocator"
    [("layout", c.layout.record), ("chunk_size", .ofNat c.chunkSize),
      ("capacity", .ofNat c.capacity), ("available", .ofNat c.available)]

end Chunks

end TieredPool
