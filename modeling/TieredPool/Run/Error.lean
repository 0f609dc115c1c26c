import TieredPool.Backing
import TieredPool.Metrics
import TieredPool.Pool.Build
import TieredPool.Run.Transcript

/-!
# Runs and their errors

A run works through its transcript and either comes to its end or stops, on an error that it reports
or on a fault.
-/

namespace TieredPool

/-- Why a run stopped. -/
inductive RunError where
  | backing (cause : Backing.Error)
  | create (cause : CreateError)
  | lease (cause : Pool.LeaseError)
  | outOfMemory
  /-- A worker stopped on a fault. -/
  | worker (id : Nat)
  /-- Elements are still out of the backing after the pool is gone. -/
  | leak (live allocs frees : Nat)
deriving DecidableEq, Repr

namespace RunError

/-- The text the error is reported with. -/
def message : RunError → String
  | backing cause => s!"Backing allocator setup failed: {cause.message}"
  | create cause => s!"Pool creation failed: {cause.message}"
  | lease cause => s!"Lease failed: {cause.message}"
  | outOfMemory => OutOfMemory.message
  | worker id => s!"Worker {id} panicked"
  | leak live allocs frees =>
    s!"Backing allocator leaked {live} elements ({allocs} allocs, {frees} frees)"

def backingRecord : Backing.Error → Record
  | .zeroSized => .atom "ZeroSized"
  | .zeroCapacity => .atom "ZeroCapacity"
  | .invalidLayout => .tuple "Layout" [.atom "LayoutError"]

def record : RunError → Record
  | backing cause => .tuple "Backing" [backingRecord cause]
  | create cause => .tuple "Create" [cause.record]
  | lease cause => .tuple "Lease" [cause.record]
  | outOfMemory => .tuple "OutOfMemory" [.atom "OutOfMemory"]
  | worker id => .tuple "Worker" [.ofNat id]
  | leak live allocs frees =>
    .labelled "Leak"
      [("live", .ofNat live), ("allocs", .ofNat allocs), ("frees", .ofNat frees)]

end RunError

abbrev Ending := Except (Failure RunError) Unit

/-- A run that is over: how it ended, what it put out, and what the gauges show. -/
structure Run where
  ending : Ending
  transcript : Transcript
  gauges : Gauges

/-- Elements that are still out of a backing whose pool is gone are an error. -/
def Tally.checkBalance (t : Tally) : Ending :=
  if t.live == 0 then .ok () else .error (.error (.leak t.live t.allocations t.deallocations))

end TieredPool
