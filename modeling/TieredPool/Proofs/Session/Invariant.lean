import Mathlib.Data.List.Perm.Basic
import TieredPool.Session
import TieredPool.Proofs.Pool.Building
import TieredPool.Proofs.Pool.Dealing

/-!
# The invariant of a session

An `Action` is one step of a session, and `Session.follow` takes step after step. The invariant
(`Session.WF`) ties the parts of a session together: every pool is in use and keeps its accounts,
pools have numbers of their own, and the elements out of a backing are those in the queues of the
pools on it and those that callers took from it.
-/

namespace TieredPool

/-- The pool is in use, its sizes let every transfer through, and its counters agree. -/
structure Tenant.WF (tenant : Tenant) : Prop where
  pool : tenant.pool.WF
  sound : tenant.pool.stock.Sound
  flow : tenant.pool.stock.Flow

namespace Session

/-! ## Steps -/

inductive Action where
  | build (plan : Plan) (backing : Option Nat)
  | lease (place cpu : Nat)
  | unlease (place cpu : Nat)
  | allocate (place cpu : Nat) (flags : AllocFlags)
  | free (place cpu : Nat) (pick : Pick)
  | forget (pick : Pick)
  | destroy (place : Nat)

/-- The place of the pool that a caller deals with in a step. One that is built has none yet. -/
def Action.place? : Action → Option Nat
  | .build .. | .forget _ => none
  | .lease place _ | .unlease place _ | .allocate place .. | .free place .. | .destroy place =>
    some place

def problem? {τ : Type} : Except Problem τ → Option Problem
  | .ok _ => none
  | .error problem => some problem

section Steps

variable {β : Type} [Backing β]

/-- Takes a step: the problem that it ran into, if any, and the session after it. -/
def act (s : Session β) : Action → Option Problem × Session β
  | .build plan backing => let (result, s) := s.build plan backing; (problem? result, s)
  | .lease place cpu => let (result, s) := s.lease place cpu; (problem? result, s)
  | .unlease place cpu => let (result, s) := s.unlease place cpu; (problem? result, s)
  | .allocate place cpu flags =>
    let (result, s) := s.allocate place cpu flags; (problem? result, s)
  | .free place cpu pick => let (result, s) := s.free place cpu pick; (problem? result, s)
  | .forget pick => let (result, s) := s.forget pick; (problem? result, s)
  | .destroy place => let (result, s) := s.destroy place; (problem? result, s)

def follow (s : Session β) : List Action → Session β
  | [] => s
  | a :: rest => (s.act a).2.follow rest

/-- A session over these backings after these steps. -/
def after (backings : Array β) (actions : List Action) : Session β :=
  ({ backings } : Session β).follow actions

end Steps

/-! ## Where elements are -/

section Places

variable {β : Type}

/-- The elements that callers have or have lost. -/
def strays (s : Session β) : Multiset Holding := ↑s.held + ↑s.lost

/-- How many elements of a pool callers have or have lost. -/
def strayCount (s : Session β) (id : Nat) : Nat :=
  s.strays.countP fun holding => holding.element.pool = id

/-- The elements of a backing among these. -/
def handlesOn (k : Nat) (holdings : Multiset Holding) : Multiset Handle :=
  (holdings.filter fun holding => holding.backing = k).map fun holding => holding.element.handle

/-- The elements in the queues of a pool, if there is a pool and it is on this backing. -/
def elementsAt (k : Nat) : Option Tenant → Multiset Handle
  | some tenant => if tenant.backing = k then tenant.pool.stock.elements else 0
  | none => 0

/-- The elements of a backing in the queues of pools and with callers. -/
def elementsOn (s : Session β) (k : Nat) : Multiset Handle :=
  (s.pools.toList.map (elementsAt k)).sum + handlesOn k s.strays

/-- Elements of a pool in the hands of callers. -/
def holdings (tenant : Tenant) (handles : List Handle) : Multiset Holding :=
  ↑(handles.map fun handle => (⟨⟨handle, tenant.pool.id⟩, tenant.backing⟩ : Holding))

theorem tenant?_eq_some {s : Session β} {place : Nat} {tenant : Tenant} :
    s.tenant? place = some tenant ↔ s.pools[place]? = some (some tenant) := by
  rw [tenant?, Option.join_eq_some_iff]

theorem tenant?_of_set {s s' : Session β} {place : Nat} {tenant : Tenant} {other : Option Tenant}
    (hpools : s'.pools = s.pools.setIfInBounds place other)
    (htenant : s.tenant? place = some tenant)
    (place' : Nat) : s'.tenant? place' = if place = place' then other else s.tenant? place' := by
  obtain ⟨hplace, -⟩ := Array.getElem?_eq_some_iff.1 (tenant?_eq_some.1 htenant)
  rw [tenant?, hpools, Array.getElem?_setIfInBounds]
  by_cases h : place = place'
  · rw [if_pos h, if_pos h, if_pos (h ▸ hplace)]
    rfl
  · rw [if_neg h, if_neg h]
    rfl

theorem tenant?_of_push {s s' : Session β} {tenant : Tenant}
    (hpools : s'.pools = s.pools.push (some tenant)) (place : Nat) :
    s'.tenant? place = if place = s.pools.size then some tenant else s.tenant? place := by
  rw [tenant?, hpools, Array.getElem?_push]
  split
  · rfl
  · rfl

theorem held_eq_of_picked {s : Session β} {pick : Pick} {at_ : Nat} {holding : Holding}
    (hpicked : s.picked? pick = some (at_, holding)) :
    (s.held : Multiset Holding) = {holding} + ↑(s.held.eraseIdx at_) := by
  simp only [picked?, Option.map_eq_some_iff, Prod.mk.injEq] at hpicked
  obtain ⟨holding, hget, rfl, rfl⟩ := hpicked
  obtain ⟨hlt, rfl⟩ := List.getElem?_eq_some_iff.1 hget
  rw [Multiset.singleton_add, Multiset.cons_coe, Multiset.coe_eq_coe]
  exact (List.getElem_cons_eraseIdx_perm hlt).symm

/-- An element that a caller loses is still astray. -/
theorem strays_lose {s : Session β} {pick : Pick} {at_ : Nat} {holding : Holding}
    (hpicked : s.picked? pick = some (at_, holding)) :
    (s.held.eraseIdx at_ : Multiset Holding) + ↑(s.lost ++ [holding]) = s.strays := by
  rw [strays, held_eq_of_picked hpicked, ← Multiset.coe_add, Multiset.coe_singleton]
  abel

theorem mem_strays_of_picked {s : Session β} {pick : Pick} {at_ : Nat} {holding : Holding}
    (hpicked : s.picked? pick = some (at_, holding)) : holding ∈ s.strays := by
  rw [strays, held_eq_of_picked hpicked]
  simp

theorem handlesOn_add (k : Nat) (first second : Multiset Holding) :
    handlesOn k (first + second) = handlesOn k first + handlesOn k second := by
  rw [handlesOn, Multiset.filter_add, Multiset.map_add]
  rfl

theorem handlesOn_holdings (tenant : Tenant) (handles : List Handle) :
    handlesOn tenant.backing (holdings tenant handles) = handles := by
  rw [handlesOn, holdings, Multiset.filter_eq_self.2]
  · simp [Function.comp_def]
  · intro holding hmem
    obtain ⟨handle, -, rfl⟩ := List.mem_map.1 (Multiset.mem_coe.1 hmem)
    rfl

theorem handlesOn_holdings_of_ne {k : Nat} {tenant : Tenant} (hk : tenant.backing ≠ k)
    (handles : List Handle) : handlesOn k (holdings tenant handles) = 0 := by
  rw [handlesOn, holdings, Multiset.filter_eq_nil.2, Multiset.map_zero]
  intro holding hmem
  obtain ⟨handle, -, rfl⟩ := List.mem_map.1 (Multiset.mem_coe.1 hmem)
  exact hk

/-- A caller who parts with nothing keeps all that is held. -/
theorem held_eq (s : Session β) (tenant : Tenant) :
    (s.held : Multiset Holding) = holdings tenant [] + ↑s.held :=
  (zero_add _).symm

/-- Changing one pool leaves the elements of the others. -/
theorem exists_sum_elementsAt {s : Session β} {place : Nat} {tenant : Tenant} (k : Nat)
    (htenant : s.tenant? place = some tenant) :
    ∃ rest, (s.pools.toList.map (elementsAt k)).sum = elementsAt k (some tenant) + rest ∧
      ∀ other, ((s.pools.setIfInBounds place other).toList.map (elementsAt k)).sum =
        elementsAt k other + rest := by
  have hget : s.pools.toList[place]? = some (some tenant) := by
    rw [Array.getElem?_toList]
    exact tenant?_eq_some.1 htenant
  obtain ⟨rest, hsum, hmodify⟩ := exists_sum_map_modify (elementsAt k) hget
  refine ⟨rest, hsum, fun other => ?_⟩
  rw [Array.toList_setIfInBounds, List.set_eq_modify, hmodify]

end Places

structure WF {β : Type} [Backing β] [LawfulBacking β] (s : Session β) : Prop where
  tenant {place : Nat} {tenant : Tenant} : s.tenant? place = some tenant → tenant.WF
  backing_lt {place : Nat} {tenant : Tenant} :
    s.tenant? place = some tenant → tenant.backing < s.backings.size
  id_lt {place : Nat} {tenant : Tenant} : s.tenant? place = some tenant → tenant.pool.id < s.nextId
  id_inj {place place' : Nat} {tenant tenant' : Tenant} :
    s.tenant? place = some tenant → s.tenant? place' = some tenant' →
      tenant.pool.id = tenant'.pool.id → place = place'
  stray_lt {holding : Holding} : holding ∈ s.strays → holding.element.pool < s.nextId
  /-- An element of a pool that is still there is one of its backing. -/
  stray_home {holding : Holding} {place : Nat} {tenant : Tenant} :
    holding ∈ s.strays → s.tenant? place = some tenant → holding.element.pool = tenant.pool.id →
      holding.backing = tenant.backing
  accounts {place : Nat} {tenant : Tenant} :
    s.tenant? place = some tenant → tenant.pool.stock.Accounts (s.strayCount tenant.pool.id)
  out {k : Nat} {b : β} : s.backings[k]? = some b → LawfulBacking.Out b (s.elementsOn k)

end Session

end TieredPool
