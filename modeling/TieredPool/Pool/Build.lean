import TieredPool.Pool.Retirement

/-!
# Building a pool

A `Plan` says how a pool is to be built. `Plan.check` looks at it before anything is done: it asks
for sizes that let every transfer between the tiers go through. Only then is a pool made, its number
taken, and the shared queue filled with the preallocated elements. If the backing is exhausted on
the way, all elements obtained so far go back; so they do if there is no room for a queue.
-/

namespace TieredPool

/-- How a pool is to be built. -/
structure Plan where
  localSize : Nat := 64
  sharedSize : Nat := 1024
  preallocate : Nat := 0
  /-- The number of CPUs; as many as the machine has if absent. -/
  cpus : Option Nat := none
  flags : AllocFlags := .none
  /-- The number of CPUs of the machine that the pool is built on: one if nothing is said of the
  machine. -/
  machineCpus : Nat := 1
  machineCpus_pos : 0 < machineCpus := by exact Nat.one_pos
deriving Repr

/-- Why a pool cannot be built. -/
inductive CreateError where
  | localTooSmall (localSize : Nat)
  | sharedTooSmall (sharedSize : Nat)
  | notPowerOfTwo (localSize sharedSize : Nat)
  | preallocTooLarge (preallocate sharedSize : Nat)
  | missingBacking
  | noCpus
  | preallocExhausted (allocated requested : Nat)
  | ring (cause : Ring.InvalidSize)
deriving DecidableEq, Repr

namespace CreateError

/-- The text the error is reported with. -/
def message : CreateError → String
  | localTooSmall localSize =>
    s!"Local queue size ({localSize}) too small for bulk transfer of {batch}"
  | sharedTooSmall sharedSize =>
    s!"Shared queue size ({sharedSize}) too small for bulk refill " ++
      s!"(must exceed {batch * refillBatches})"
  | notPowerOfTwo localSize sharedSize =>
    s!"Queue sizes ({localSize}/{sharedSize}) must be power of two"
  | preallocTooLarge preallocate sharedSize =>
    s!"Preallocation ({preallocate}) must be below shared queue size ({sharedSize})"
  | missingBacking => "Missing backing allocator"
  | noCpus => "At least one CPU shard is required"
  | preallocExhausted allocated requested =>
    s!"Backing allocator exhausted during preallocation ({allocated}/{requested})"
  | ring cause => s!"Ring creation failed: {cause.message}"

/-- Is the plan itself at fault, whatever the backing does? -/
def isConfig : CreateError → Bool
  | preallocExhausted .. | ring .. => false
  | _ => true

def record : CreateError → Record
  | localTooSmall localSize => .labelled "LocalTooSmall" [("local", .ofNat localSize)]
  | sharedTooSmall sharedSize => .labelled "SharedTooSmall" [("shared", .ofNat sharedSize)]
  | notPowerOfTwo localSize sharedSize =>
    .labelled "NotPowerOfTwo" [("local", .ofNat localSize), ("shared", .ofNat sharedSize)]
  | preallocTooLarge preallocate sharedSize =>
    .labelled "PreallocTooLarge"
      [("prealloc", .ofNat preallocate), ("shared", .ofNat sharedSize)]
  | missingBacking => .atom "MissingBacking"
  | noCpus => .atom "NoCpus"
  | preallocExhausted allocated requested =>
    .labelled "PreallocExhausted"
      [("allocated", .ofNat allocated), ("requested", .ofNat requested)]
  | ring cause => .tuple "Ring" [.tuple "InvalidCapacity" [.ofNat cause.size]]

end CreateError

namespace Plan

/-- The first of the plan's faults in its sizes, with the event that reports it. -/
def sizeFault? (p : Plan) : Option (CreateError × Event) :=
  if p.localSize < batch then
    some (.localTooSmall p.localSize, .localTooSmall p.localSize)
  else if p.sharedSize ≤ batch * refillBatches then
    some (.sharedTooSmall p.sharedSize, .sharedTooSmall p.sharedSize)
  else if !Word.isPowerOfTwo p.localSize || !Word.isPowerOfTwo p.sharedSize then
    some (.notPowerOfTwo p.localSize p.sharedSize, .sizesNotPowersOfTwo p.localSize p.sharedSize)
  else if p.sharedSize ≤ p.preallocate then
    some (.preallocTooLarge p.preallocate p.sharedSize,
      .preallocationTooLarge p.preallocate p.sharedSize)
  else none

/-- The number of CPUs of a sound plan, or what is wrong with it; and what is reported. -/
def check (p : Plan) (hasBacking : Bool) : Except CreateError Nat × List Event :=
  match p.sizeFault? with
  | some (error, event) => (.error error, [event])
  | none =>
    let reports :=
      if p.preallocate % batch == 0 then [] else [.preallocationUneven p.preallocate batch]
    let cpus := p.cpus.getD p.machineCpus
    if !hasBacking then (.error .missingBacking, reports)
    else if cpus == 0 then (.error .noCpus, reports)
    else (.ok cpus, reports)

/-- Puts so many elements in the shared queue; `none` once all are there. -/
def fillShared (p : Plan) : (missing : Nat) → Routine (Option CreateError)
  | 0 => pure none
  | missing + 1 => do
    let allocated := p.preallocate - (missing + 1)
    match ← Routine.request p.flags with
    | none =>
      Routine.report (.preallocationExhausted allocated p.preallocate)
      pure (some (.preallocExhausted allocated p.preallocate))
    | some handle =>
      let accepted ← Routine.push .shared .multi [handle]
      Routine.ensure accepted (.preallocationRejected allocated)
      p.fillShared missing

abbrev Construction := Except (Failure CreateError) Unit

/-- A ring that could not be made, as a failure of its pool. -/
def ringFailure : Failure Ring.InvalidSize → Failure CreateError
  | .error cause => .error (.ring cause)
  | .fault fault => .fault fault

/-- Gives up a pool under construction. -/
def abandon {β : Type} [Backing β] (failure : Failure CreateError) (w : World β) :
    Construction × World β :=
  match w.retire with
  | (.ok (), w) => (.error failure, w)
  | (.error fault, w) => (.error (.fault fault), w)

/-- Fills the shared queue and adds the local tiers. -/
def furnish {β : Type} [Backing β] (p : Plan) (cpus : Nat) (w : World β) :
    Construction × World β :=
  match (p.fillShared p.preallocate).run w with
  | (.error fault, w) => (.error (.fault fault), w)
  | (.ok (some error), w) => abandon (.error error) w
  | (.ok none, w) =>
    match Cache.create p.localSize with
    | .error failure => abandon (ringFailure failure) w
    | .ok cache =>
      let caches := Array.replicate cpus cache
      let report := .poolCreated w.pool.id p.localSize p.sharedSize p.preallocate cpus
      (.ok (), { w with pool := { w.pool with caches }, events := w.events.push report })

/-- Builds the pool of a checked plan over a backing. -/
def construct {β : Type} [Backing β] (p : Plan) (cpus id : Nat) (backing : β) :
    Except (Failure CreateError) Pool × β × Array Event :=
  match Ring.create p.sharedSize .mpmc with
  | .error failure => (.error (ringFailure failure), backing, #[])
  | .ok shared =>
    let pool : Pool :=
      { id, flags := p.flags, preallocated := p.preallocate, localSize := p.localSize, shared,
        caches := #[], traffic := {} }
    match p.furnish cpus ⟨pool, backing, #[]⟩ with
    | (.ok (), w) => (.ok w.pool, w.backing, w.events)
    | (.error failure, w) => (.error failure, w.backing, w.events)

/-- What became of a plan. -/
structure Built (β : Type) where
  pool : Except (Failure CreateError) Pool
  backing : Option β
  /-- Was a pool number taken? -/
  numbered : Bool
  events : List Event

/-- Checks the plan and builds the pool, with the given number. -/
def build {β : Type} [Backing β] (p : Plan) (id : Nat) (backing : Option β) : Built β :=
  let (checked, reports) := p.check backing.isSome
  match checked, backing with
  | .ok cpus, some backing =>
    let (pool, backing, events) := p.construct cpus id backing
    ⟨pool, some backing, true, reports ++ events.toList⟩
  | .ok _, none => ⟨.error (.error .missingBacking), none, false, reports⟩
  | .error error, backing => ⟨.error (.error error), backing, false, reports⟩

end Plan

end TieredPool
