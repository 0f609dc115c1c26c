import TieredPool.Proofs.Backing.Calls
import TieredPool.Proofs.Session.Run

/-!
# What a pool asks of its backing

Each step of a session is the work of at most one pool: the one that the caller deals with, or the
one that is built. The calls that backings receive in the steps of a pool, from its construction on,
are the calls that it issues (`Session.issued`). Several pools may share a backing, so these are
fewer than the calls that its backing receives.

A pool counts its dealings with the backing itself. `Session.Ledger` says that it counts right: what
it says to have obtained and returned are the grants and the returns among the calls it issued. A
ledger is kept by every transition, and so by every run (`Session.Ledger.follow`).
-/

namespace TieredPool

open BackingCall (grants returns)

/-! ## Calls in the dealings of a pool -/

section Dealings

variable {β : Type} [Backing β] {cpu : Nat} {d d' : Depot (Recorded β)}

theorem Allocation.exists_calls {flags : AllocFlags} {answer : Option Handle}
    (h : Allocation cpu flags d answer d') :
    ∃ calls, d'.backing.calls.toList = d.backing.calls.toList ++ calls ∧
      d'.stock.traffic.allocs = d.stock.traffic.allocs + grants calls ∧
      d'.stock.traffic.frees = d.stock.traffic.frees + returns calls := by
  cases h with
  | cached => exact ⟨[], (List.append_nil _).symm, rfl, rfl⟩
  | shared => exact ⟨[], (List.append_nil _).symm, rfl, rfl⟩
  | @supplied shelf x xs backing hshelf hempty hshort hsupply =>
    obtain ⟨calls, hcalls, hgrants, hreturns⟩ :=
      Recorded.exists_calls_supply flags (1 + batch * refillBatches) d.backing
    rw [hsupply] at hcalls hgrants
    refine ⟨calls, hcalls, ?_, ?_⟩
    · rw [hgrants, List.length_cons, Nat.add_comm xs.length]
    · rw [hreturns]
      rfl
  | @refused shelf backing hshelf hempty hshort halloc =>
    have hcalls := Recorded.calls_alloc flags d.backing
    rw [halloc] at hcalls
    exact ⟨_, hcalls, rfl, rfl⟩

theorem Release.exists_calls {x : Handle} (h : Release cpu x d d') :
    ∃ calls, d'.backing.calls.toList = d.backing.calls.toList ++ calls ∧
      d'.stock.traffic.allocs = d.stock.traffic.allocs + grants calls ∧
      d'.stock.traffic.frees = d.stock.traffic.frees + returns calls := by
  cases h with
  | cached => exact ⟨[], (List.append_nil _).symm, rfl, rfl⟩
  | overflowed => exact ⟨[], (List.append_nil _).symm, rfl, rfl⟩
  | @drained shelf xs rest ys kept backing hshelf hfull hitems hlen hnoroom hshared hys hreclaim =>
    have hcount : (x :: xs ++ ys).length = batch * (1 + refillBatches) := by
      rw [List.length_append, List.length_cons, hlen, hys]
      rfl
    refine ⟨_, Recorded.calls_reclaim hreclaim, ?_, ?_⟩
    · rw [BackingCall.grants_freed]
      rfl
    · rw [BackingCall.returns_freed, hcount]
      rfl

/-- The counts of a pool follow the calls that it makes. -/
theorem Dealing.exists_calls {taken given : List Handle} (h : Dealing cpu d taken given d') :
    ∃ calls, d'.backing.calls.toList = d.backing.calls.toList ++ calls ∧
      d'.stock.traffic.allocs = d.stock.traffic.allocs + grants calls ∧
      d'.stock.traffic.frees = d.stock.traffic.frees + returns calls := by
  cases h with
  | leased => exact ⟨[], (List.append_nil _).symm, rfl, rfl⟩
  | unleased => exact ⟨[], (List.append_nil _).symm, rfl, rfl⟩
  | allocated h => exact h.exists_calls
  | released h => exact h.exists_calls

end Dealings

namespace Session

/-! ## Issued calls -/

/-- The place of the pool at work in a step: the one that is dealt with, or the one that was built,
which is the next. -/
def Action.worker? (a : Action) (next : Nat) (problem : Option Problem) : Option Nat :=
  match a with
  | .build .. => if problem.isNone then some next else none
  | _ => a.place?

theorem Action.worker?_of_place? {a : Action} {place : Nat} (h : a.place? = some place) (next : Nat)
    (problem : Option Problem) : a.worker? next problem = some place := by
  cases a with
  | build => cases h
  | _ => exact h

section Issued

variable {β : Type}

/-- The calls that a backing received between two of its states. -/
def callsSince (r r' : Recorded β) : List BackingCall :=
  r'.calls.toList.drop r.calls.toList.length

/-- The calls that backings received between two states of a session, backing by backing. -/
def received (s s' : Session (Recorded β)) : List BackingCall :=
  (List.zipWith callsSince s.backings.toList s'.backings.toList).flatten

/-- The calls that the pool at a place makes in these steps. -/
def issued [Backing β] (place : Nat) : Session (Recorded β) → List Action → List BackingCall
  | _, [] => []
  | s, a :: rest =>
    (if a.worker? s.pools.size (s.act a).1 = some place then s.received (s.act a).2 else []) ++
      issued place (s.act a).2 rest

theorem flatten_zipWith_self {α γ : Type} {f : α → α → List γ} (hf : ∀ x, f x x = [])
    (xs : List α) : (List.zipWith f xs xs).flatten = [] := by
  induction xs with
  | nil => rfl
  | cons x xs ih => rw [List.zipWith_cons_cons, List.flatten_cons, hf, ih, List.nil_append]

theorem flatten_zipWith_set {α γ : Type} {f : α → α → List γ} (hf : ∀ x, f x x = []) {xs : List α}
    {k : Nat} {x : α} (hx : xs[k]? = some x) (y : α) :
    (List.zipWith f xs (xs.set k y)).flatten = f x y := by
  induction xs generalizing k with
  | nil => cases hx
  | cons z xs ih =>
    cases k with
    | zero =>
      cases hx
      rw [List.set_cons_zero, List.zipWith_cons_cons, List.flatten_cons, flatten_zipWith_self hf,
        List.append_nil]
    | succ k =>
      rw [List.set_cons_succ, List.zipWith_cons_cons, List.flatten_cons, hf, List.nil_append]
      exact ih hx

variable {s s' : Session (Recorded β)}

theorem callsSince_self (r : Recorded β) : callsSince r r = [] := List.drop_length

theorem received_self (h : s'.backings = s.backings) : s.received s' = [] := by
  rw [received, h, flatten_zipWith_self callsSince_self]

theorem received_set {k : Nat} {r r' : Recorded β} {calls : List BackingCall}
    (hget : s.backings[k]? = some r) (hcalls : r'.calls.toList = r.calls.toList ++ calls)
    (hset : s'.backings = s.backings.setIfInBounds k r') : s.received s' = calls := by
  rw [← Array.getElem?_toList] at hget
  rw [received, hset, Array.toList_setIfInBounds,
    flatten_zipWith_set callsSince_self hget, callsSince, hcalls, List.drop_left]

theorem issued_append [Backing β] (place : Nat) (s : Session (Recorded β))
    (first second : List Action) :
    issued place s (first ++ second) =
      issued place s first ++ issued place (s.follow first) second := by
  induction first generalizing s with
  | nil => rfl
  | cons a first ih => rw [List.cons_append, issued, issued, ih, List.append_assoc]; rfl

end Issued

/-! ## Ledgers -/

/-- These are all the calls that the pool at a place has made, and it has counted them. -/
structure Ledger {β : Type} (s : Session (Recorded β)) (place : Nat) (calls : List BackingCall) :
    Prop where
  fresh : s.pools.size ≤ place → calls = []
  counts {tenant : Tenant} : s.tenant? place = some tenant →
    tenant.pool.traffic.allocs = grants calls ∧ tenant.pool.traffic.frees = returns calls

namespace Ledger

variable {β : Type} {s s' : Session (Recorded β)} {place : Nat} {calls : List BackingCall}

/-- A step in which the pool made no calls. -/
theorem same (h : s.Ledger place calls) (hsize : s.pools.size ≤ s'.pools.size)
    (htenant : ∀ tenant, s'.tenant? place = some tenant → s.tenant? place = some tenant) :
    s'.Ledger place calls :=
  ⟨fun hle => h.fresh (Nat.le_trans hsize hle), fun ht => h.counts (htenant _ ht)⟩

/-- A step in which no pool made calls. -/
theorem quiet (h : s.Ledger place calls) (hpools : s'.pools = s.pools)
    (hbackings : s'.backings = s.backings) (worker? : Option Nat) :
    s'.Ledger place (calls ++ if worker? = some place then s.received s' else []) := by
  rw [received_self hbackings, ite_self, List.append_nil]
  refine h.same (Nat.le_of_eq (congrArg Array.size hpools.symm)) fun t ht => ?_
  rwa [tenant?, hpools] at ht

/-- A step that changes or removes the pool at one place, and in which it made these calls. -/
theorem set (h : s.Ledger place calls) {at_ : Nat} {tenant : Tenant} {other : Option Tenant}
    (htenant : s.tenant? at_ = some tenant) (hpools : s'.pools = s.pools.setIfInBounds at_ other)
    {more : List BackingCall}
    (hother : ∀ t, other = some t →
      t.pool.traffic.allocs = tenant.pool.traffic.allocs + grants more ∧
        t.pool.traffic.frees = tenant.pool.traffic.frees + returns more) :
    s'.Ledger place (calls ++ if some at_ = some place then more else []) := by
  obtain ⟨hlt, -⟩ := Array.getElem?_eq_some_iff.1 (tenant?_eq_some.1 htenant)
  have hsize : s'.pools.size = s.pools.size := by rw [hpools, Array.size_setIfInBounds]
  by_cases hplace : at_ = place
  · subst hplace
    rw [if_pos rfl]
    refine ⟨fun hle => absurd hlt (by omega), fun {t} ht => ?_⟩
    rw [tenant?_of_set hpools htenant, if_pos rfl] at ht
    obtain ⟨hallocs, hfrees⟩ := hother t ht
    obtain ⟨hallocs', hfrees'⟩ := h.counts htenant
    rw [BackingCall.grants_append, BackingCall.returns_append, hallocs, hfrees, hallocs', hfrees']
    exact ⟨rfl, rfl⟩
  · rw [if_neg fun heq => hplace (Option.some.inj heq), List.append_nil]
    refine h.same (Nat.le_of_eq hsize.symm) fun t ht => ?_
    rwa [tenant?_of_set hpools htenant, if_neg hplace] at ht

/-- A new pool that made these calls while it was built. -/
theorem push (h : s.Ledger place calls) {tenant : Tenant}
    (hpools : s'.pools = s.pools.push (some tenant)) {more : List BackingCall}
    (hallocs : tenant.pool.traffic.allocs = grants more)
    (hfrees : tenant.pool.traffic.frees = returns more) :
    s'.Ledger place (calls ++ if some s.pools.size = some place then more else []) := by
  have hsize : s'.pools.size = s.pools.size + 1 := by rw [hpools, Array.size_push]
  by_cases hplace : s.pools.size = place
  · rw [if_pos (congrArg some hplace), h.fresh (Nat.le_of_eq hplace), List.nil_append]
    refine ⟨fun hle => by omega, fun {t} ht => ?_⟩
    rw [tenant?_of_push hpools, if_pos hplace.symm] at ht
    cases ht
    exact ⟨hallocs, hfrees⟩
  · rw [if_neg fun heq => hplace (Option.some.inj heq), List.append_nil]
    refine h.same (by omega) fun t ht => ?_
    rwa [tenant?_of_push hpools, if_neg (Ne.symm hplace)] at ht

variable [Backing β]

/-- **One step** keeps a ledger, with the calls of the step added if it is the work of the pool. -/
theorem transition (h : s.Ledger place calls) {a : Action} {problem : Option Problem}
    (ht : s.Transition a problem s') :
    s'.Ledger place
      (calls ++ if a.worker? s.pools.size problem = some place then s.received s' else []) := by
  cases ht with
  | idle => exact h.quiet (by exact rfl) (by exact rfl) _
  | forgot => exact h.quiet (by exact rfl) (by exact rfl) _
  | misfreed => exact h.quiet (by exact rfl) (by exact rfl) _
  | abandoned =>
    rw [if_neg (by simp [Action.worker?]), List.append_nil]
    exact h.same (Nat.le_refl _) fun _ ht => ht
  | @dealt _ _ at_ cpu tenant b b' pool taken given held rest events htenant hbacking _ hdeal _ _ _
      hplace =>
    obtain ⟨more, hcalls, hallocs, hfrees⟩ := hdeal.exists_calls
    rw [Action.worker?_of_place? hplace, received_set hbacking hcalls rfl]
    refine h.set htenant rfl fun t ht => ?_
    cases ht
    exact ⟨hallocs, hfrees⟩
  | @built plan k cpus b b' pool events hbacking hplan hbuilt =>
    cases hbuilt with
    | @built items _ _ hsupply _ _ hstock =>
      obtain ⟨more, hcalls, hgrants, hreturns⟩ :=
        Recorded.exists_calls_supply plan.flags plan.preallocate b
      rw [hsupply] at hcalls hgrants
      have htraffic : pool.traffic = { allocs := items.length } := congrArg Stock.traffic hstock
      rw [Action.worker?, Option.isNone_none, if_pos rfl, received_set hbacking hcalls rfl]
      refine h.push rfl ?_ ?_
      · rw [htraffic, hgrants]
      · rw [htraffic, hreturns]
  | @destroyed at_ tenant b b' events htenant hbacking hreclaim =>
    rw [Action.worker?_of_place? rfl, received_set hbacking (Recorded.calls_reclaim hreclaim) rfl]
    exact h.set htenant rfl fun t ht => by cases ht

/-- **A run** keeps a ledger, with the calls that the pool issues in it added. -/
theorem follow [LawfulBacking (Recorded β)] (h : s.Ledger place calls) (hs : s.WF)
    (actions : List Action) :
    (s.follow actions).Ledger place (calls ++ issued place s actions) := by
  induction actions generalizing s calls with
  | nil =>
    rw [issued, List.append_nil]
    exact h
  | cons a actions ih =>
    rw [issued, ← List.append_assoc]
    exact ih (h.transition (hs.act a)) (hs.act_wf a)

end Ledger

end Session

end TieredPool
