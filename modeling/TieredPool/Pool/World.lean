import TieredPool.Pool.Routine

/-!
# Running routines

A `World` is what a routine works on: a pool, its backing, and the events reported so far.
`World.perform` answers a single call, and `Routine.run` answers the calls of a routine until it
ends. A call that faults ends the routine, and the world keeps what was done before.

States are taken apart and put together again rather than updated in place, so that a queue is never
held twice and its slots can be written without a copy.
-/

namespace TieredPool

namespace Cache

/-- Stands in for a local tier while it is worked on. -/
def vacant : Cache := { queue := ⟨#[], .spsc, ⟨0, 0⟩, ⟨0, 0⟩⟩ }

/-- Works on the queue of a local tier. -/
@[inline] def onQueue {τ : Type} (f : Ring Handle → τ × Ring Handle) : Cache → τ × Cache
  | ⟨queue, refills, overflows, drains, owner, leased⟩ =>
    let (result, queue) := f queue
    (result, ⟨queue, refills, overflows, drains, owner, leased⟩)

end Cache

namespace Pool

/-- Works on the shared queue. -/
@[inline] def onShared {τ : Type} (f : Ring Handle → τ × Ring Handle) : Pool → τ × Pool
  | ⟨id, flags, preallocated, localSize, shared, caches, traffic⟩ =>
    let (result, shared) := f shared
    (result, ⟨id, flags, preallocated, localSize, shared, caches, traffic⟩)

/-- Takes the local tier of a CPU out and leaves a vacant one. A call of its own, so that it comes
before the work on the tier. -/
@[noinline] def takeCache (caches : Array Cache) (cpu : Nat) (h : cpu < caches.size) :
    Cache × Array Cache :=
  caches.swapAt cpu Cache.vacant h

/-- Works on the local tier of a CPU, if the pool has that CPU. -/
@[inline] def onCache {τ : Type} (cpu : Nat) (f : Cache → τ × Cache) : Pool → Option τ × Pool
  | ⟨id, flags, preallocated, localSize, shared, caches, traffic⟩ =>
    if h : cpu < caches.size then
      let (cache, others) := takeCache caches cpu h
      let (result, cache) := f cache
      (some result,
        ⟨id, flags, preallocated, localSize, shared, others.setIfInBounds cpu cache, traffic⟩)
    else (none, ⟨id, flags, preallocated, localSize, shared, caches, traffic⟩)

/-- Works on the counts of dealings with the backing. -/
@[inline] def onTraffic (f : Traffic → Traffic) (p : Pool) : Pool :=
  { p with traffic := f p.traffic }

/-- Works on one of the queues; a CPU that the pool does not have is a fault. -/
@[inline] def onQueue {τ : Type} (queue : Queue) (f : Ring Handle → Except Fault τ × Ring Handle)
    (p : Pool) : Except Fault τ × Pool :=
  match queue with
  | .shared => p.onShared f
  | .cache cpu =>
    match p.onCache cpu (Cache.onQueue f) with
    | (some result, p) => (result, p)
    | (none, p) => (.error (.outOfRange cpu p.cpus), p)

def step (p : Pool) : Counter → Pool
  | .sharedRefills => p.onTraffic fun t => { t with refills := t.refills + 1 }
  | .backingDrains => p.onTraffic fun t => { t with drains := t.drains + 1 }
  | .refills cpu => (p.onCache cpu fun c => ((), { c with refills := c.refills + 1 })).2
  | .overflows cpu => (p.onCache cpu fun c => ((), { c with overflows := c.overflows + 1 })).2
  | .drains cpu => (p.onCache cpu fun c => ((), { c with drains := c.drains + 1 })).2

end Pool

namespace Ring

/-- Adds all items or none: was there room? -/
def tryEnqueue {α : Type} (access : Access) (items : List α) (r : Ring α) :
    Except Fault Bool × Ring α :=
  match r.enqueue access items with
  | (.ok (), r) => (.ok true, r)
  | (.error (.shared side), r) => (.error (.sharedSide side), r)
  | (.error _, r) => (.ok false, r)

/-- Takes so many items or none. -/
def tryDequeue {α : Type} (access : Access) (count : Nat) (r : Ring α) :
    Except Fault (Option (List α)) × Ring α :=
  match r.dequeue access count with
  | (.ok items, r) => (.ok (some items), r)
  | (.error (.shared side), r) => (.error (.sharedSide side), r)
  | (.error _, r) => (.ok none, r)

end Ring

/-- A pool with its backing. -/
structure World (β : Type) where
  pool : Pool
  backing : β
  /-- What was reported, in order. -/
  events : Array Event := #[]

namespace World

variable {β : Type} [Backing β]

/-- Asks the backing for an element and counts it. -/
def request (flags : AllocFlags) : World β → Option Handle × World β
  | ⟨pool, backing, events⟩ =>
    let reports := Backing.refusalEvents backing
    match Backing.alloc flags backing with
    | (some handle, backing) =>
      (some handle, ⟨pool.onTraffic fun t => { t with allocs := t.allocs + 1 }, backing, events⟩)
    | (none, backing) => (none, ⟨pool, backing, events ++ reports⟩)

/-- Gives an element back to the backing and counts it. -/
def giveBack (handle : Handle) : World β → Except Fault Unit × World β
  | ⟨pool, backing, events⟩ =>
    match Backing.free handle backing with
    | (.ok (), backing) =>
      (.ok (), ⟨pool.onTraffic fun t => { t with frees := t.frees + 1 }, backing, events⟩)
    | (.error fault, backing) => (.error fault, ⟨pool, backing, events⟩)

@[inline] def onQueue {τ : Type} (queue : Queue)
    (f : Ring Handle → Except Fault τ × Ring Handle) : World β → Except Fault τ × World β
  | ⟨pool, backing, events⟩ =>
    let (result, pool) := pool.onQueue queue f
    (result, ⟨pool, backing, events⟩)

def perform : (c : Call) → World β → Except Fault c.Answer × World β
  | .push queue access items, w => w.onQueue queue (Ring.tryEnqueue access items)
  | .pull queue access count, w => w.onQueue queue (Ring.tryDequeue access count)
  | .length queue, w => w.onQueue queue fun r => (.ok r.length, r)
  | .request flags, w => let (answer, w) := w.request flags; (.ok answer, w)
  | .giveBack handle, w => w.giveBack handle
  | .count counter, ⟨pool, backing, events⟩ => (.ok (), ⟨pool.step counter, backing, events⟩)
  | .report event, ⟨pool, backing, events⟩ => (.ok (), ⟨pool, backing, events.push event⟩)

end World

/-- Answers all calls of a routine, one after the other. -/
def Routine.run {α β : Type} [Backing β] : Routine α → World β → Except Fault α × World β
  | done result, w => (.ok result, w)
  | abort fault, w => (.error fault, w)
  | call c next, w =>
    match w.perform c with
    | (.ok answer, w) => (next answer).run w
    | (.error fault, w) => (.error fault, w)

end TieredPool
