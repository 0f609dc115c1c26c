import TieredPool.Pool.World

/-!
# Retiring a pool

A pool that is given up hands all its elements back to the backing: those of the local queues, CPU
by CPU, then those of the shared queue, each queue oldest first. Its leases must have ended.
-/

namespace TieredPool.Pool

/-- Empties a queue into the backing. A queue holds fewer elements than it has slots. -/
def drainQueue (queue : Queue) : (slots : Nat) → Routine Unit
  | 0 => pure ()
  | slots + 1 => do
    match ← Routine.pull queue .multi 1 with
    | none => pure ()
    | some items =>
      Routine.giveBackAll items
      drainQueue queue slots

/-- Empties a queue into the backing and makes sure that it is empty. -/
def emptyQueue (queue : Queue) (slots : Nat) (name : String) : Routine Unit := do
  drainQueue queue slots
  let remaining ← Routine.length queue
  Routine.ensure (remaining == 0) (.notDrained name)

/-- Empties the local queues of the CPUs from `cpu` on. -/
def emptyCaches (slots cpu : Nat) : (count : Nat) → Routine Unit
  | 0 => pure ()
  | count + 1 => do
    emptyQueue (.cache cpu) slots "local"
    emptyCaches slots (cpu + 1) count

/-- Empties all queues of a pool of this shape. -/
def emptyAll (cpus localSlots sharedSlots : Nat) : Routine Unit := do
  emptyCaches localSlots 0 cpus
  emptyQueue .shared sharedSlots "shared"

end Pool

/-- Hands all elements of the pool back to the backing. -/
def World.retire {β : Type} [Backing β] (w : World β) : Except Fault Unit × World β :=
  match (Pool.emptyAll w.pool.cpus w.pool.localSize w.pool.sharedSize).run w with
  | (.ok (), ⟨pool, backing, events⟩) =>
    let report := .poolDestroyed pool.id pool.traffic.allocs pool.traffic.frees
    (.ok (), ⟨pool, backing, events.push report⟩)
  | (.error fault, w) => (.error fault, w)

end TieredPool
