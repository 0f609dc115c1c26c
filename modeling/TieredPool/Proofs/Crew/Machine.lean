import TieredPool.Pool.Lease
import TieredPool.Pool.World

/-!
# Leases at work together

A `Crew` is a pool whose leases work at the same time. A move takes or ends a lease, begins an
allocation or a free on one, or makes the next single call of one that is at work; between any two
calls of a routine the others may make as many as they like. Every order of moves is a run
(`Crew.follow`). Elements are allocated and freed across CPUs: those in callers' hands are one list.

A member keeps count of what the others do to the shared queue behind its back: what they have added
since the queue was last short of a batch when the member asked for one, and what they have removed
since it last had no room for a batch of the member's.
-/

namespace TieredPool

/-- What the lease of a CPU is at. -/
inductive Task where
  | idle
  /-- In the middle of a routine; an allocation that succeeds answers an element. -/
  | working (rest : Routine (Option Element))
  | stopped (fault : Fault)

/-- The lease of a CPU, or the place for one. -/
structure Member where
  task : Task := .idle
  /-- Elements that others added since the shared queue was last short of a batch. -/
  added : Nat := 0
  /-- Elements that others removed since the shared queue last had no room for a batch. -/
  removed : Nat := 0

namespace Member

def fault? (m : Member) : Option Fault :=
  match m.task with
  | .stopped fault => some fault
  | _ => none

/-- Another member has changed the length of the shared queue. -/
def notice (m : Member) (before after : Nat) : Member :=
  { m with added := m.added + (after - before), removed := m.removed + (before - after) }

theorem notice_self (m : Member) (n : Nat) : m.notice n n = m := by
  rw [notice, Nat.sub_self, Nat.add_zero, Nat.add_zero]

/-- The member's own call was answered. -/
def hear (m : Member) : (c : Call) → c.Answer → Member
  | .push .shared _ _, false => { m with removed := 0 }
  | .pull .shared _ _, none => { m with added := 0 }
  | _, _ => m

end Member

/-- A pool with its leases at work. -/
structure Crew (β : Type) where
  world : World β
  members : List Member
  held : List Element

namespace Crew

/-- A move of a crew. -/
inductive Move where
  | lease (cpu : Nat)
  | unlease (cpu : Nat)
  | allocate (cpu : Nat) (flags : AllocFlags)
  /-- Begins to free the element at a place among those held. -/
  | free (cpu place : Nat)
  | advance (cpu : Nat)

/-- Nobody is at work on the pool, and callers hold these elements. -/
def create {β : Type} (world : World β) (held : List Element) : Crew β :=
  ⟨world, List.replicate world.pool.cpus {}, held⟩

section Moves

variable {β : Type}

def setTask (c : Crew β) (cpu : Nat) (task : Task) : Crew β :=
  { c with members := c.members.modify cpu fun m => { m with task } }

/-- Lets a member go on with the rest of a routine, which ends if there are no calls left in it. -/
def settle (c : Crew β) (cpu : Nat) : (rest : Routine (Option Element)) → Crew β
  | .done answer => { c.setTask cpu .idle with held := c.held ++ answer.toList }
  | .abort fault => c.setTask cpu (.stopped fault)
  | .call call next => c.setTask cpu (.working (.call call next))

/-- The members after one of them has made a call. -/
def informed (members : List Member) (cpu before after : Nat) (c : Call) (answer : c.Answer) :
    List Member :=
  members.mapIdx fun i m => if i = cpu then m.hear c answer else m.notice before after

@[simp] theorem setTask_world (c : Crew β) (cpu : Nat) (task : Task) :
    (c.setTask cpu task).world = c.world := rfl

theorem getElem?_setTask (c : Crew β) (cpu i : Nat) (task : Task) :
    (c.setTask cpu task).members[i]? =
      c.members[i]?.map fun m => if i = cpu then { m with task } else m := by
  rw [setTask, List.getElem?_modify]
  by_cases hi : cpu = i
  · simp [hi]
  · simp [hi, Ne.symm hi]

theorem getElem?_informed (members : List Member) (cpu before after : Nat) (c : Call)
    (answer : c.Answer) (i : Nat) :
    (informed members cpu before after c answer)[i]? = members[i]?.map fun m =>
      if i = cpu then m.hear c answer else m.notice before after :=
  List.getElem?_mapIdx

variable [Backing β]

/-- Makes the next call of a member that is at work. -/
def advance (c : Crew β) (cpu : Nat) : Crew β :=
  match c.members[cpu]? with
  | some ⟨.working (.call call next), _, _⟩ =>
    match c.world.perform call with
    | (.ok answer, world) =>
      let before := c.world.pool.shared.length
      let after := world.pool.shared.length
      settle { c with world, members := informed c.members cpu before after call answer } cpu
        (next answer)
    | (.error fault, world) => setTask { c with world } cpu (.stopped fault)
  | _ => c

/-- Makes a move; one that is not possible leaves the crew as it is. -/
def move (c : Crew β) : Move → Crew β
  | .lease cpu =>
    match c.world.pool.lease cpu with
    | (.ok _, pool) => { c with world := { c.world with pool } }
    | (.error _, _) => c
  | .unlease cpu =>
    match c.members[cpu]? with
    | none | some ⟨.working _, _, _⟩ => c
    | some _ =>
      setTask { c with world := { c.world with pool := c.world.pool.unlease cpu } } cpu .idle
  | .allocate cpu flags =>
    match c.world.pool.leaseOf? cpu, c.members[cpu]? with
    | some lease, some ⟨.idle, _, _⟩ => c.settle cpu (lease.allocate flags)
    | _, _ => c
  | .free cpu place =>
    match c.world.pool.leaseOf? cpu, c.members[cpu]?, c.held[place]? with
    | some lease, some ⟨.idle, _, _⟩, some e =>
      settle { c with held := c.held.eraseIdx place } cpu do
        lease.free e
        pure none
    | _, _, _ => c
  | .advance cpu => c.advance cpu

def follow (c : Crew β) : List Move → Crew β
  | [] => c
  | m :: rest => (c.move m).follow rest

end Moves

end Crew

end TieredPool
