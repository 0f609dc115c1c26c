import TieredPool.Backing.Store
import TieredPool.Settings

/-!
# Setting up the backing of a run

The settings choose the kind of backing and its limit. A chunk allocator reserves as many slots as
the limit says; without a limit, as many as the configured pool can keep in its queues and a given
number of elements outside it, the headroom.
-/

namespace TieredPool.Store

def chunkSlots : Nat := 1024

/-- The elements that the configured pool can keep, and the headroom. -/
def cachedElements (pool : PoolSettings) (headroom : Nat) : Except Fault Nat := do
  let cached ← Word.mul pool.cpus pool.localCapacity
  let queued ← Word.add pool.sharedCapacity cached
  Word.add queued headroom

/-- Sets up the backing of a run on a machine, with what it reports. -/
def provide (pool : PoolSettings) (headroom : Nat) (machine : Machine := .single) :
    Except (Failure Backing.Error) (Store × List Event) :=
  match Layout.ofSizeAlign? pool.elementSize pool.elementAlign with
  | none => .error (.error .invalidLayout)
  | some layout =>
    match pool.backing with
    | .heap => do
      let heap ← (Heap.create layout machine).mapError .error
      let heap := match pool.backingLimit with
        | none => heap
        | some limit => heap.withLimit limit
      return (.heap heap, [])
    | .chunk => do
      -- The sum is taken even if the limit is used in its place.
      let cached ← (cachedElements pool headroom).mapError .fault
      let capacity := pool.backingLimit.getD cached
      let chunks ← Chunks.reserve layout (min chunkSlots capacity) capacity machine
      return (.chunks chunks, [chunks.reservedEvent])

end TieredPool.Store
