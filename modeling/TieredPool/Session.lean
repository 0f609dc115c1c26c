import TieredPool.Pool.Build
import TieredPool.Pool.Lease

/-!
# Sessions

A session is a caller's dealings with any number of pools over any number of backings; several pools
may share a backing. The caller builds pools, leases CPUs, allocates and frees elements, forgets
elements and destroys pools, one step after the other. The elements in the caller's hands are one
list over all pools, in the order they were allocated, and stay there when their pool is destroyed.

An element that the caller forgets, or that a faulting free took, is lost: it stays out of its
backing for good.
-/

namespace TieredPool

/-- A pool of a session and the place of its backing. -/
structure Tenant where
  pool : Pool
  backing : Nat

/-- An element in the caller's hands and the place of its backing. -/
structure Holding where
  element : Element
  backing : Nat
deriving DecidableEq, Repr

/-- A caller's pools, backings and elements. -/
structure Session (β : Type) where
  backings : Array β
  /-- The pools by the order in which they were built; destroyed pools leave their place empty. -/
  pools : Array (Option Tenant) := #[]
  held : List Holding := []
  lost : List Holding := []
  /-- The number of the next pool. -/
  nextId : Nat := 1
  /-- What was reported since the reports were last taken. -/
  events : Array Event := #[]

/-- Why a step of a session failed. -/
inductive Session.Problem where
  /-- There is no such pool, or it was destroyed. -/
  | noPool
  /-- The CPU is not leased. -/
  | noLease
  /-- No element is in the caller's hands. -/
  | noneHeld
  | create (error : CreateError)
  | lease (error : Pool.LeaseError)
  | outOfMemory
  | fault (fault : Fault)
deriving DecidableEq, Repr

/-- Which of the elements in the caller's hands is meant. -/
inductive Pick where
  | first
  | middle
  | last
  /-- The place counted from the start, and again from the start after the last. -/
  | nth (place : Nat)
deriving DecidableEq, Repr

/-- The place meant, among so many. -/
def Pick.place (length : Nat) : Pick → Nat
  | first => 0
  | middle => length / 2
  | last => length - 1
  | nth place => place % length

namespace Session

variable {β : Type} [Backing β]

/-- What a step comes to: a result or a problem, and the session after it. -/
abbrev Step (β τ : Type) := Except Problem τ × Session β

/-- Hands the reports over. -/
def takeEvents (s : Session β) : List Event × Session β :=
  (s.events.toList, { s with events := #[] })

def tenant? (s : Session β) (place : Nat) : Option Tenant := s.pools[place]?.join

def onBacking (s : Session β) (place : Nat) (f : β → β) : Session β :=
  { s with backings := s.backings.modify place f }

/-- Lets a pool and its backing work. -/
def onWorld {τ : Type} (s : Session β) (place : Nat)
    (f : World β → Except Problem τ × World β) : Step β τ :=
  match s.tenant? place with
  | none => (.error .noPool, s)
  | some ⟨pool, at_⟩ =>
    match s.backings[at_]? with
    | none => (.error .noPool, s)
    | some backing =>
      let pools := s.pools.setIfInBounds place none
      let (result, ⟨pool, backing, events⟩) := f ⟨pool, backing, s.events⟩
      (result,
        { s with
          pools := pools.setIfInBounds place (some ⟨pool, at_⟩)
          backings := s.backings.setIfInBounds at_ backing
          events })

/-! ## Pools and leases -/

/-- Builds a pool over the backing at a place, if one is given, and answers the pool's place. -/
def build (s : Session β) (plan : Plan) (backing : Option Nat) : Step β Nat :=
  let source := backing.bind fun at_ => s.backings[at_]?
  let built := plan.build s.nextId source
  let s :=
    { s with
      nextId := if built.numbered then s.nextId + 1 else s.nextId
      events := s.events ++ built.events
      backings :=
        match backing, built.backing with
        | some at_, some b => s.backings.setIfInBounds at_ b
        | _, _ => s.backings }
  match built.pool with
  | .error (.error error) => (.error (.create error), s)
  | .error (.fault fault) => (.error (.fault fault), s)
  | .ok pool =>
    (.ok s.pools.size, { s with pools := s.pools.push (some ⟨pool, backing.getD 0⟩) })

def lease (s : Session β) (place cpu : Nat) : Step β Pool.Lease :=
  s.onWorld place fun ⟨pool, backing, events⟩ =>
    match pool.lease cpu with
    | (.ok lease, pool) => (.ok lease, ⟨pool, backing, events⟩)
    | (.error error, pool) => (.error (.lease error), ⟨pool, backing, events⟩)

def onLease {τ : Type} (s : Session β) (place cpu : Nat) (f : Pool.Lease → Routine τ) :
    Step β τ :=
  s.onWorld place fun w =>
    match w.pool.leaseOf? cpu with
    | none => (.error .noLease, w)
    | some lease =>
      match (f lease).run w with
      | (.ok result, w) => (.ok result, w)
      | (.error fault, w) => (.error (.fault fault), w)

/-- Ends the lease of a CPU. -/
def unlease (s : Session β) (place cpu : Nat) : Step β Unit :=
  s.onWorld place fun ⟨pool, backing, events⟩ =>
    match pool.leaseOf? cpu with
    | none => (.error .noLease, ⟨pool, backing, events⟩)
    | some _ => (.ok (), ⟨pool.unlease cpu, backing, events⟩)

/-- Ends the pool's leases and hands all its elements back to the backing. -/
def destroy (s : Session β) (place : Nat) : Step β Unit :=
  let (result, s) := s.onWorld place fun ⟨pool, backing, events⟩ =>
    let pool := (List.range pool.cpus).foldl (fun pool cpu => pool.unlease cpu) pool
    match World.retire ⟨pool, backing, events⟩ with
    | (.ok (), w) => (.ok (), w)
    | (.error fault, w) => (.error (.fault fault), w)
  (result, { s with pools := s.pools.setIfInBounds place none })

def destroyFrom (s : Session β) (place : Nat) : (count : Nat) → Session β
  | 0 => s
  | count + 1 => (s.destroy place).2.destroyFrom (place + 1) count

/-- Destroys all pools that are left, in the order in which they were built. -/
def finish (s : Session β) : Session β := s.destroyFrom 0 s.pools.size

/-! ## Elements -/

def allocate (s : Session β) (place cpu : Nat) (flags : AllocFlags) : Step β Element :=
  match s.onLease place cpu fun lease => lease.allocate flags with
  | (.error problem, s) => (.error problem, s)
  | (.ok none, s) => (.error .outOfMemory, s)
  | (.ok (some element), s) =>
    match s.tenant? place with
    | none => (.error .noPool, s)
    | some tenant => (.ok element, { s with held := s.held ++ [⟨element, tenant.backing⟩] })

/-- The element that is meant, with its place. -/
def picked? (s : Session β) (pick : Pick) : Option (Nat × Holding) :=
  let place := pick.place s.held.length
  s.held[place]?.map fun holding => (place, holding)

/-- Frees the element that is meant on the lease of a CPU. A free that faults loses the element. -/
def free (s : Session β) (place cpu : Nat) (pick : Pick) : Step β Holding :=
  match s.tenant? place with
  | none => (.error .noPool, s)
  | some tenant =>
    match tenant.pool.leaseOf? cpu with
    | none => (.error .noLease, s)
    | some _ =>
      match s.picked? pick with
      | none => (.error .noneHeld, s)
      | some (at_, holding) =>
        let s := { s with held := s.held.eraseIdx at_ }
        match s.onLease place cpu fun lease => lease.free holding.element with
        | (.ok (), s) => (.ok holding, s)
        | (.error problem, s) => (.error problem, { s with lost := s.lost ++ [holding] })

/-- Forgets the element that is meant. -/
def forget (s : Session β) (pick : Pick) : Step β Holding :=
  match s.picked? pick with
  | none => (.error .noneHeld, s)
  | some (at_, holding) =>
    (.ok holding, { s with held := s.held.eraseIdx at_, lost := s.lost ++ [holding] })

/-! ## Repeated steps -/

/-- What a repeated step comes to: the results so far, and the problem that ended it, if any. -/
structure Repeated (τ : Type) where
  results : Array τ := #[]
  problem : Option Problem := none

/-- Is the CPU of the pool leased? Repeated steps ask this first, even if they repeat nothing. -/
def leased (s : Session β) (place cpu : Nat) : Except Problem Unit :=
  match s.tenant? place with
  | none => .error .noPool
  | some tenant => if (tenant.pool.leaseOf? cpu).isSome then .ok () else .error .noLease

/-- Allocates so many elements after those in `results`, up to the first problem. -/
def allocateFrom (s : Session β) (place cpu : Nat) (flags : AllocFlags) (results : Array Element) :
    (count : Nat) → Repeated Element × Session β
  | 0 => (⟨results, none⟩, s)
  | count + 1 =>
    match s.allocate place cpu flags with
    | (.error problem, s) => (⟨results, some problem⟩, s)
    | (.ok element, s) => s.allocateFrom place cpu flags (results.push element) count

/-- Allocates so many elements, up to the first problem. -/
def allocateMany (s : Session β) (place cpu : Nat) (flags : AllocFlags) (count : Nat) :
    Step β (Repeated Element) :=
  match s.leased place cpu with
  | .error problem => (.error problem, s)
  | .ok () => let (repeated, s) := s.allocateFrom place cpu flags #[] count; (.ok repeated, s)

/--
Frees so many elements after those in `results`, up to the first problem. An element that is lost on
the way counts as freed.
-/
def freeFrom (s : Session β) (place cpu : Nat) (pick : Pick) (results : Array Holding) :
    (count : Nat) → Repeated Holding × Session β
  | 0 => (⟨results, none⟩, s)
  | count + 1 =>
    match s.picked? pick, s.free place cpu pick with
    | _, (.ok holding, s) => s.freeFrom place cpu pick (results.push holding) count
    | some (_, holding), (.error (.fault fault), s) =>
      (⟨results.push holding, some (.fault fault)⟩, s)
    | _, (.error problem, s) => (⟨results, some problem⟩, s)

/-- Frees so many elements, up to the first problem. -/
def freeMany (s : Session β) (place cpu : Nat) (pick : Pick) (count : Nat) :
    Step β (Repeated Holding) :=
  match s.leased place cpu with
  | .error problem => (.error problem, s)
  | .ok () => let (repeated, s) := s.freeFrom place cpu pick #[] count; (.ok repeated, s)

end Session

end TieredPool
