import TieredPool.Backing
import TieredPool.Pool

/-!
# Routines

What a pool does is written as a routine: a program that makes one call after another and goes on
with each answer. A call is a single ring operation, a single request to the backing, one step of a
counter or one report. A routine holds no state, so the same routine can be run in one go
(`Routine.run`) or one call at a time between the calls of others.
-/

namespace TieredPool

/-- The queues of a pool. -/
inductive Queue where
  | shared
  | cache (cpu : Nat)
deriving DecidableEq, Repr

/-- The counters that a routine steps by itself. -/
inductive Counter where
  /-- Refills of the shared queue from the backing. -/
  | sharedRefills
  /-- Drains to the backing. -/
  | backingDrains
  /-- Refills of a local queue. -/
  | refills (cpu : Nat)
  /-- Frees that found a local queue full. -/
  | overflows (cpu : Nat)
  /-- Overflows that went on to the backing. -/
  | drains (cpu : Nat)
deriving DecidableEq, Repr

/-- The calls a routine can make. -/
inductive Call where
  /-- Adds all the elements to a queue, or none. -/
  | push (queue : Queue) (access : Ring.Access) (items : List Handle)
  /-- Takes so many elements from a queue, or none. -/
  | pull (queue : Queue) (access : Ring.Access) (count : Nat)
  /-- Asks how many elements a queue holds. -/
  | length (queue : Queue)
  /-- Asks the backing for an element. -/
  | request (flags : AllocFlags)
  /-- Gives an element back to the backing. -/
  | giveBack (handle : Handle)
  | count (counter : Counter)
  | report (event : Event)

@[reducible] def Call.Answer : Call → Type
  | push .. => Bool
  | pull .. => Option (List Handle)
  | length .. => Nat
  | request .. => Option Handle
  | giveBack .. | count .. | report .. => Unit

/-- A program of calls. -/
inductive Routine (α : Type) where
  | done (result : α)
  | abort (fault : Fault)
  | call (c : Call) (next : c.Answer → Routine α)

namespace Routine

/-- One routine after another. -/
def bind {α β : Type} (first : Routine α) (second : α → Routine β) : Routine β :=
  match first with
  | done result => second result
  | abort fault => abort fault
  | call c next => call c fun answer => (next answer).bind second

instance : Monad Routine where
  pure := done
  bind := bind

def ask (c : Call) : Routine c.Answer := call c done

/-- Stops on a fault unless the condition holds. -/
def ensure (condition : Bool) (fault : Fault) : Routine Unit :=
  if condition then done () else abort fault

/-- Adds all the elements to a queue, or none. -/
def push (queue : Queue) (access : Ring.Access) (items : List Handle) : Routine Bool :=
  ask (.push queue access items)

/-- Takes so many elements from a queue, or none. -/
def pull (queue : Queue) (access : Ring.Access) (count : Nat) : Routine (Option (List Handle)) :=
  ask (.pull queue access count)

/-- Asks how many elements a queue holds. -/
def length (queue : Queue) : Routine Nat := ask (.length queue)

/-- Asks the backing for an element. -/
def request (flags : AllocFlags) : Routine (Option Handle) := ask (.request flags)

def giveBack (handle : Handle) : Routine Unit := ask (.giveBack handle)

/-- Gives elements back to the backing, in order. -/
def giveBackAll : List Handle → Routine Unit
  | [] => done ()
  | handle :: rest => do
    giveBack handle
    giveBackAll rest

def count (counter : Counter) : Routine Unit := ask (.count counter)

def report (event : Event) : Routine Unit := ask (.report event)

end Routine

end TieredPool
