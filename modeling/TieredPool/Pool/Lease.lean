import TieredPool.Pool.Routine

/-!
# Allocating and freeing

The routines of a lease. An allocation takes an element from the CPU's local queue; if that is empty
it moves a batch from the shared queue to the local one; if the shared queue is short of a batch it
asks the backing, and refills the shared queue from there too. A free goes the other way: into the
local queue; if that is full a batch moves on to the shared queue; if the shared queue is full as
well the batch goes back to the backing, and with it further batches of the shared queue.

What one call saw of a queue is relied on some calls later. Where such reliance is broken the routine
stops on a fault.
-/

namespace TieredPool.Pool.Lease

/-! ## Allocating -/

/--
Asks the backing for up to `count` elements and stops at the first refusal. The elements come in the
order they were handed out, after those in `obtained`, the latest first.
-/
def gather (flags : AllocFlags) (obtained : List Handle) : (count : Nat) → Routine (List Handle)
  | 0 => pure obtained.reverse
  | count + 1 => do
    match ← Routine.request flags with
    | none => pure obtained.reverse
    | some handle => gather flags (handle :: obtained) count

/-- Moves so many batches from the backing to the shared queue; a batch cut short is the last. -/
def refillShared (l : Lease) (flags : AllocFlags) : (batches : Nat) → Routine Unit
  | 0 => pure ()
  | batches + 1 => do
    let items ← gather flags [] batch
    let filled := items.length
    let accepted ← Routine.push .shared .multi items
    Routine.ensure accepted (.sharedRefillRejected filled)
    if filled < batch then
      if flags.contains .noWarn then pure ()
      else Routine.report (.refillCutShort l.pool filled)
    else l.refillShared flags batches

/-- Takes an element from the backing and refills the shared queue. -/
def allocateFromBacking (l : Lease) (flags : AllocFlags) : Routine (Option Handle) := do
  match ← Routine.request flags with
  | none =>
    if flags.contains .noWarn then pure none
    else
      Routine.report (.backingDepleted l.pool)
      pure none
  | some handle =>
    Routine.count .sharedRefills
    l.refillShared flags refillBatches
    pure (some handle)

/-- Takes the first element of a batch of the shared queue and puts the others in the local queue. -/
def refillLocal (l : Lease) : Routine (Option Handle) := do
  match ← Routine.pull .shared .multi batch with
  | some (handle :: rest) =>
    let accepted ← Routine.push (.cache l.cpu) .single rest
    Routine.ensure accepted (.localRefillRejected l.cpu)
    Routine.count (.refills l.cpu)
    pure (some handle)
  | _ => pure none

/-- Takes one element from the first tier that has it; `none` if all are exhausted. -/
def allocate (l : Lease) (flags : AllocFlags) : Routine (Option Element) := do
  match ← Routine.pull (.cache l.cpu) .single 1 with
  | some (handle :: _) => pure (some ⟨handle, l.pool⟩)
  | _ =>
    match ← l.refillLocal with
    | some handle => pure (some ⟨handle, l.pool⟩)
    | none =>
      Routine.report (.sharedEmpty l.cpu)
      let handle? ← l.allocateFromBacking flags
      pure (handle?.map fun handle => ⟨handle, l.pool⟩)

/-! ## Freeing -/

/-- Moves so many batches from the shared queue to the backing. -/
def shrinkShared (l : Lease) (round : Nat) : (batches : Nat) → Routine Unit
  | 0 => pure ()
  | batches + 1 => do
    match ← Routine.pull .shared .multi batch with
    | none => .abort (.shrinkRanDry round)
    | some items =>
      Routine.giveBackAll items
      l.shrinkShared (round + 1) batches

/-- Gives a batch back to the backing and shrinks the shared queue. -/
def drain (l : Lease) (items : List Handle) : Routine Unit := do
  Routine.giveBackAll items
  l.shrinkShared 0 refillBatches
  Routine.count .backingDrains

/-- Sends an element that the local queue had no room for on, with a batch's worth of the queue. -/
def overflow (l : Lease) (handle : Handle) : Routine Unit := do
  Routine.count (.overflows l.cpu)
  match ← Routine.pull (.cache l.cpu) .single (batch - 1) with
  | none => .abort (.overflowTooShort l.cpu (batch - 1))
  | some rest =>
    let items := handle :: rest
    if ← Routine.push .shared .multi items then pure ()
    else
      Routine.report (.sharedFull l.cpu)
      l.drain items
      Routine.count (.drains l.cpu)

/-- Puts an element back; it must be one that the pool handed out. -/
def free (l : Lease) (e : Element) : Routine Unit := do
  Routine.ensure (e.pool == l.pool) (.foreignElement e.pool l.pool)
  if ← Routine.push (.cache l.cpu) .single [e.handle] then pure ()
  else l.overflow e.handle

end TieredPool.Pool.Lease
