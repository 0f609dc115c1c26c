import TieredPool.Text.Quoted

/-!
# Faults

A fault is a broken assertion: the caller or the pool itself has left the protocol, and the call
stops where it stands. Faults are kept apart from errors, which are answers: an error says that a
request cannot be met, a fault says that the request should not have been made. What a faulting
call has done up to that point stays done.
-/

namespace TieredPool

/-- The word operations that are checked against 64 bits. -/
inductive Word.Operation where
  | add
  | multiply
deriving DecidableEq, Repr

/-- The two sides of a ring. -/
inductive Ring.Side where
  | producer
  | consumer
deriving DecidableEq, Repr

/-- The two ends of a part of a text. -/
inductive Text.Bound where
  | start
  | stop
deriving DecidableEq, Repr

def Text.Bound.name : Text.Bound → String
  | start => "start"
  | stop => "end"

/-- What went wrong when a call stops on a broken assertion. -/
inductive Fault where
  /-- A result does not fit 64 bits. -/
  | overflow (operation : Word.Operation)
  /-- A single-sided call on a ring whose flags reserve that side for many users. -/
  | sharedSide (side : Ring.Side)
  /-- An index at or beyond the length of what it indexes. -/
  | outOfRange (index length : Nat)
  /-- An address that is no slot of the chunk allocator it was freed to. -/
  | foreignAddress
  /-- An element freed to a pool that did not hand it out. -/
  | foreignElement (owner pool : Nat)
  /-- The shared queue had no room for a preallocated element. -/
  | preallocationRejected (position : Nat)
  /-- The shared queue had no room for a batch just obtained for it. -/
  | sharedRefillRejected (count : Nat)
  /-- A local queue seen empty had no room for a batch. -/
  | localRefillRejected (cpu : Nat)
  /-- A local queue seen full could not give up the rest of a batch. -/
  | overflowTooShort (cpu wanted : Nat)
  /-- A shared queue seen full could not give up a batch. -/
  | shrinkRanDry (round : Nat)
  /-- A queue still held elements after it had been drained. -/
  | notDrained (queue : String)
  /-- A choice from an empty range of numbers. -/
  | emptyRange
  /-- A list that is longer than any memory. -/
  | capacityOverflow
  /-- A part of a text that starts or stops inside the character whose first byte is given. -/
  | insideCharacter (bound : Text.Bound) (index first : Nat) (character : Char)
  /-- A worker stopped on a fault after another worker's failure had been reported. -/
  | workerPanicked
deriving DecidableEq, Repr

namespace Fault

/-- The text a fault is reported with. -/
def message : Fault → String
  | overflow .add => "attempt to add with overflow"
  | overflow .multiply => "attempt to multiply with overflow"
  | sharedSide .producer => "sp enqueue on a multi-producer ring"
  | sharedSide .consumer => "sc dequeue on a multi-consumer ring"
  | outOfRange index length =>
    s!"index out of bounds: the len is {length} but the index is {index}"
  | foreignAddress => "pointer PTR does not belong to this chunk allocator"
  | foreignElement owner pool => s!"element of pool {owner} released into pool {pool}"
  | preallocationRejected position =>
    s!"shared queue rejected preallocated element {position}"
  | sharedRefillRejected count =>
    s!"shared queue full while refilling {count} elements from backing"
  | localRefillRejected cpu =>
    s!"local queue of cpu {cpu} rejected a refill it was just observed empty for"
  | overflowTooShort cpu wanted =>
    s!"local queue of cpu {cpu} reported full with fewer than {wanted} elements"
  | shrinkRanDry round => s!"shared queue ran dry in shrink round {round} after reporting full"
  | notDrained queue => s!"{queue} queue not empty after drain"
  | emptyRange => "cannot sample empty range"
  | capacityOverflow => "capacity overflow"
  | insideCharacter bound index first c =>
    s!"{bound.name} byte index {index} is not a char boundary; it is inside " ++
      s!"{Text.Quoted.encodeSingle c} (bytes {first}..{first + c.utf8Size} of string)"
  | workerPanicked => "a scoped thread panicked"

end Fault

/-- Why an attempt failed: an error of its own kind, or a fault on the way. -/
inductive Failure (ε : Type) where
  | error (cause : ε)
  | fault (cause : Fault)
deriving DecidableEq, Repr

end TieredPool
