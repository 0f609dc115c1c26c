import Mathlib.Algebra.Order.Group.Multiset
import TieredPool.Pool.Lease

/-!
# What a lease relies on

Between two calls of a routine other leases may work, so what a call saw of the shared queue need
not be so at the next. A `View` is what remains true: the local queue is the lease's own, the
elements on their way are in its hands, and the shared queue is known up to what others have added
and removed since it last refused the lease a batch. `Routine.Guarded` says that a routine whose
view is right makes only calls that are in order, and stops on a fault only where others could have
brought it about. The routines of a lease are guarded from their start
(`Pool.Lease.allocate_guarded`, `Pool.Lease.free_guarded`).
-/

namespace TieredPool

/-- A lease with the sizes of the queues that it uses. -/
structure Seat extends Pool.Lease where
  localSize : Nat
  sharedSize : Nat

/-- The sizes let every transfer through. -/
structure Seat.Sound (seat : Seat) : Prop where
  localSize_ge : batch ≤ seat.localSize
  sharedSize_ge : batch * (refillBatches + 2) ≤ seat.sharedSize

/-- What a routine knows of its pool between two calls. -/
structure View where
  own : Nat
  /-- The shared queue holds no fewer, but for what others removed since it was last full. -/
  least : Nat
  /-- The shared queue holds no more, but for what others added since it was last short. -/
  most : Nat
  /-- Elements on their way from one place to another. -/
  carried : Multiset Handle
  /-- A batch was refused that there was room for, but for what others added. -/
  crowded : Bool := false
  /-- A batch was missing that was there, but for what others removed. -/
  starved : Bool := false

/-- The batches that one routine moves between the shared queue and the backing, less one element:
what the shared queue may hold when a refill ends that began with less than a batch. -/
def slack : Nat := batch * (refillBatches + 1) - 1

/-- A fault that the routine is not to blame for. -/
inductive Excused (seat : Seat) (v : View) : Fault → Prop
  | foreign {owner : Nat} (h : owner ≠ seat.pool) : Excused seat v (.foreignElement owner seat.pool)
  | crowded (filled : Nat) (h : v.crowded = true) : Excused seat v (.sharedRefillRejected filled)
  | starved (round : Nat) (h : v.starved = true) : Excused seat v (.shrinkRanDry round)

/-- The call is in order, and whatever its answer, `Q` holds of the answer and the view after it. -/
def Call.After (seat : Seat) : (c : Call) → View → (c.Answer → View → Prop) → Prop
  | .push (.cache cpu) .single items, v, Q =>
    cpu = seat.cpu ∧ ∃ rest, v.carried = ↑items + rest ∧
      (v.own + items.length < seat.localSize →
        Q true { v with own := v.own + items.length, carried := rest }) ∧
      (seat.localSize ≤ v.own + items.length → Q false v)
  | .push .shared .multi items, v, Q =>
    ∃ rest, v.carried = ↑items + rest ∧
      Q true
        { v with
          least := v.least + items.length, most := v.most + items.length, carried := rest } ∧
      Q false
        { v with
          least := seat.sharedSize - items.length
          crowded := decide (v.most + items.length ≤ slack)
          starved := false }
  | .pull (.cache cpu) .single n, v, Q =>
    cpu = seat.cpu ∧
      (n ≤ v.own → ∀ items : List Handle, items.length = n →
        Q (some items) { v with own := v.own - n, carried := ↑items + v.carried }) ∧
      (v.own < n → Q none v)
  | .pull .shared .multi n, v, Q =>
    (∀ items : List Handle, items.length = n →
      Q (some items)
        { v with
          least := v.least - n, most := v.most - n, carried := ↑items + v.carried }) ∧
    Q none
      { v with
        most := n - 1
        crowded := false
        starved := decide (seat.sharedSize + n ≤ v.least + slack + 1) }
  | .request _, v, Q =>
    ∀ answer : Option Handle, Q answer { v with carried := ↑answer.toList + v.carried }
  | .giveBack handle, v, Q =>
    ∃ rest, v.carried = handle ::ₘ rest ∧ Q () { v with carried := rest }
  | .count _, v, Q => Q () v
  | .report _, v, Q => Q () v
  | _, _, _ => False

/-- From this view the routine makes calls in order only, ends in `Q`, and stops on excused faults
only. -/
def Routine.Guarded {α : Type} (seat : Seat) : Routine α → View → (α → View → Prop) → Prop
  | done result, v, Q => Q result v
  | abort fault, v, _ => Excused seat v fault
  | call c next, v, Q => c.After seat v fun answer v => (next answer).Guarded seat v Q

variable {seat : Seat} {α γ : Type}

theorem Call.After.mono {c : Call} {v : View} {Q R : c.Answer → View → Prop}
    (h : c.After seat v Q) (hQ : ∀ answer v, Q answer v → R answer v) : c.After seat v R := by
  cases c with
  | push queue access items =>
    cases queue <;> cases access <;> simp only [After] at h ⊢
    · obtain ⟨rest, hcarried, htrue, hfalse⟩ := h
      exact ⟨rest, hcarried, hQ _ _ htrue, hQ _ _ hfalse⟩
    · obtain ⟨hcpu, rest, hcarried, htrue, hfalse⟩ := h
      exact ⟨hcpu, rest, hcarried, fun hroom => hQ _ _ (htrue hroom),
        fun hfull => hQ _ _ (hfalse hfull)⟩
  | pull queue access count =>
    cases queue <;> cases access <;> simp only [After] at h ⊢
    · exact ⟨fun items hlen => hQ _ _ (h.1 items hlen), hQ _ _ h.2⟩
    · exact ⟨h.1, fun hcount items hlen => hQ _ _ (h.2.1 hcount items hlen),
        fun hshort => hQ _ _ (h.2.2 hshort)⟩
  | length queue => exact h
  | request flags => exact fun answer => hQ _ _ (h answer)
  | giveBack handle =>
    obtain ⟨rest, hcarried, hrest⟩ := h
    exact ⟨rest, hcarried, hQ _ _ hrest⟩
  | count counter => exact hQ _ _ h
  | report event => exact hQ _ _ h

namespace Routine

/-- A guarded routine may go on with one that is guarded from wherever the first one ends. -/
theorem Guarded.bind {r : Routine α} {k : α → Routine γ} {v : View} {Q : α → View → Prop}
    {R : γ → View → Prop} (h : r.Guarded seat v Q)
    (hk : ∀ a v, Q a v → (k a).Guarded seat v R) : (r >>= k).Guarded seat v R := by
  induction r generalizing v with
  | done a => exact hk a v h
  | abort fault => exact h
  | call c next ih => exact Call.After.mono h fun answer v hnext => ih answer hnext

theorem Guarded.andThen {r : Routine α} {k : α → Routine γ} {v : View} {R : γ → View → Prop}
    (h : r.Guarded seat v fun a v => (k a).Guarded seat v R) : (r >>= k).Guarded seat v R :=
  h.bind fun _ _ hk => hk

theorem Guarded.ask {c : Call} {k : c.Answer → Routine γ} {v : View} {R : γ → View → Prop}
    (h : c.After seat v fun answer v => (k answer).Guarded seat v R) :
    (Routine.ask c >>= k).Guarded seat v R := h

theorem giveBackAll_guarded {items : List Handle} {v : View} (rest : Multiset Handle)
    {Q : Unit → View → Prop} (hcarried : v.carried = ↑items + rest)
    (hQ : Q () { v with carried := rest }) : (giveBackAll items).Guarded seat v Q := by
  induction items generalizing v with
  | nil =>
    obtain rfl : v.carried = rest := by rw [hcarried, Multiset.coe_nil, zero_add]
    exact hQ
  | cons x items ih =>
    rw [← Multiset.cons_coe, Multiset.cons_add] at hcarried
    exact ⟨_, hcarried, ih (v := { v with carried := ↑items + rest }) rfl hQ⟩

end Routine

namespace Pool.Lease

variable {v : View}

/-! ## Allocating -/

theorem gather_guarded (flags : AllocFlags) (count : Nat) {obtained : List Handle}
    {rest : Multiset Handle} {Q : List Handle → View → Prop}
    (hcarried : v.carried = ↑obtained + rest)
    (hQ : ∀ items : List Handle, items.length ≤ obtained.length + count →
      Q items { v with carried := ↑items + rest }) :
    (gather flags obtained count).Guarded seat v Q := by
  -- the elements come the latest first
  have hstop : ∀ {v : View} {obtained : List Handle}, v.carried = ↑obtained + rest →
      Q obtained.reverse { v with carried := ↑obtained.reverse + rest } →
      (pure obtained.reverse : Routine (List Handle)).Guarded seat v Q := by
    intro v obtained hcarried hobtained
    rwa [Multiset.coe_reverse, ← hcarried] at hobtained
  induction count generalizing obtained v with
  | zero => exact hstop hcarried (hQ _ (by rw [List.length_reverse]; exact Nat.le_refl _))
  | succ count ih =>
    rw [gather]
    refine Routine.Guarded.ask (c := .request flags) ?_
    rintro (_ | x)
    · have hsame :
          ({ v with carried := ↑(none : Option Handle).toList + v.carried } : View) = v := by
        simp
      rw [hsame]
      exact hstop hcarried (hQ _ (by rw [List.length_reverse]; exact Nat.le_add_right _ _))
    · have hmore : ↑(some x).toList + v.carried = ↑(x :: obtained) + rest := by
        rw [hcarried, Option.toList_some, Multiset.coe_singleton, ← Multiset.cons_coe,
          Multiset.singleton_add, Multiset.cons_add]
      refine ih (v := { v with carried := ↑(some x).toList + v.carried }) hmore
        fun items hlen => hQ items ?_
      · rw [List.length_cons] at hlen
        omega

/-- Refilling is guarded from a view that leaves room for the batches. -/
theorem refillShared_guarded (l : Lease) (flags : AllocFlags) (batches : Nat)
    {Q : Unit → View → Prop} (hroom : v.most + batch * batches ≤ slack)
    (hQ : ∀ v', v'.carried = v.carried → Q () v') :
    (l.refillShared flags batches).Guarded seat v Q := by
  induction batches generalizing v with
  | zero => exact hQ v rfl
  | succ batches ih =>
    rw [Nat.mul_succ] at hroom
    have hnone : v.carried = ↑([] : List Handle) + v.carried := (zero_add _).symm
    refine .andThen (gather_guarded flags batch hnone fun items hlen => ?_)
    rw [List.length_nil, Nat.zero_add] at hlen
    refine Routine.Guarded.ask (c := .push .shared .multi items) ⟨v.carried, rfl, ?_, ?_⟩
    · by_cases hshort : items.length < batch
      · simp only [Routine.ensure, hshort, ↓reduceIte]
        cases flags.contains .noWarn with
        | true => exact hQ _ rfl
        | false => exact hQ _ rfl
      · simp only [Routine.ensure, hshort, ↓reduceIte]
        exact ih (by dsimp only; omega) hQ
    · exact .crowded _ (decide_eq_true (by dsimp only; omega))

theorem allocateFromBacking_guarded (l : Lease) (flags : AllocFlags)
    {Q : Option Handle → View → Prop} (hmost : v.most < batch)
    (hQ : ∀ answer v', v'.carried = ↑answer.toList + v.carried → Q answer v') :
    (l.allocateFromBacking flags).Guarded seat v Q := by
  refine Routine.Guarded.ask (c := .request flags) ?_
  rintro (_ | x)
  · cases flags.contains .noWarn with
    | true => exact hQ none _ rfl
    | false => exact hQ none _ rfl
  · refine Routine.Guarded.ask (c := .count .sharedRefills) ?_
    refine .andThen (refillShared_guarded l flags refillBatches ?_ fun v' hcarried => ?_)
    · simp only [slack, batch, refillBatches] at hmost ⊢
      omega
    · exact hQ (some x) v' hcarried

/-- Refilling an empty local queue is guarded, and if it fails the shared queue was short of a
batch. -/
theorem refillLocal_guarded (hseat : seat.Sound) {Q : Option Handle → View → Prop}
    (hown : v.own = 0) (hsome : ∀ x v', v'.carried = {x} + v.carried → Q (some x) v')
    (hnone : ∀ v', v'.most < batch → v'.carried = v.carried → Q none v') :
    (seat.refillLocal).Guarded seat v Q := by
  refine Routine.Guarded.ask (c := .pull .shared .multi batch) ⟨fun items hlen => ?_, ?_⟩
  · obtain _ | ⟨x, rest⟩ := items
    · cases hlen
    · rw [List.length_cons] at hlen
      have hroom : v.own + rest.length < seat.localSize := by
        have := hseat.localSize_ge
        omega
      refine Routine.Guarded.ask (c := .push (.cache seat.cpu) .single rest)
        ⟨rfl, {x} + v.carried, ?_, fun _ => ?_, fun hfull => ?_⟩
      · rw [← Multiset.cons_coe, Multiset.singleton_add, Multiset.cons_add, Multiset.add_cons]
      · exact hsome x _ rfl
      · exact absurd hroom (Nat.not_lt_of_le hfull)
  · exact hnone _ (show batch - 1 < batch by decide) rfl

/-- **An allocation is guarded** while its lease has nothing in its hands, and ends with the element
that it answers in them. -/
theorem allocate_guarded (hseat : seat.Sound) (flags : AllocFlags)
    {Q : Option Element → View → Prop} (hcarried : v.carried = 0)
    (hnone : ∀ v', v'.carried = 0 → Q none v')
    (hsome : ∀ x v', v'.carried = {x} → Q (some ⟨x, seat.pool⟩) v') :
    (seat.allocate flags).Guarded seat v Q := by
  refine Routine.Guarded.ask (c := .pull (.cache seat.cpu) .single 1)
    ⟨rfl, fun _ items hlen => ?_, fun hempty => ?_⟩
  · obtain ⟨x, rfl⟩ := List.length_eq_one_iff.1 hlen
    exact hsome x _ (by simp [hcarried])
  · refine (refillLocal_guarded hseat (Q := fun answer v' =>
      v'.carried = ↑answer.toList ∧ (answer = none → v'.most < batch)) (Nat.lt_one_iff.1 hempty)
      (fun x v' hv => ⟨by simp [hv, hcarried], nofun⟩)
      (fun v' hmost hv => ⟨by simp [hv, hcarried], fun _ => hmost⟩)).bind ?_
    rintro (_ | x) v' ⟨hv, hmost⟩
    · refine Routine.Guarded.ask (c := .report (.sharedEmpty seat.cpu)) ?_
      refine (allocateFromBacking_guarded seat.toLease flags (Q := fun answer v' =>
        v'.carried = ↑answer.toList) (hmost rfl) fun answer v'' hv'' => ?_).bind ?_
      · rw [hv'', hv]
        simp
      · rintro (_ | x) v'' hv''
        · exact hnone v'' hv''
        · exact hsome x v'' hv''
    · exact hsome x v' hv

/-! ## Freeing -/

/-- Shrinking is guarded from a view in which the shared queue has the batches. -/
theorem shrinkShared_guarded (l : Lease) (hseat : seat.Sound) (round batches : Nat)
    {Q : Unit → View → Prop} (hleast : seat.sharedSize + batch * batches ≤ v.least + slack + 1)
    (hQ : ∀ v', v'.carried = v.carried → Q () v') :
    (l.shrinkShared round batches).Guarded seat v Q := by
  induction batches generalizing round v with
  | zero => exact hQ v rfl
  | succ batches ih =>
    rw [Nat.mul_succ] at hleast
    refine Routine.Guarded.ask (c := .pull .shared .multi batch) ⟨fun items hlen => ?_, ?_⟩
    · refine .andThen (Routine.giveBackAll_guarded v.carried rfl ?_)
      refine ih (round + 1) ?_ hQ
      have := hseat.sharedSize_ge
      simp only [slack, batch, refillBatches] at this hleast ⊢
      omega
    · exact .starved round (decide_eq_true (by omega))

theorem drain_guarded (l : Lease) (hseat : seat.Sound) {items : List Handle}
    {Q : Unit → View → Prop}
    (hcarried : v.carried = ↑items) (hleast : v.least = seat.sharedSize - batch)
    (hQ : ∀ v', v'.carried = 0 → Q () v') : (l.drain items).Guarded seat v Q := by
  refine .andThen (Routine.giveBackAll_guarded 0 (by rw [hcarried, add_zero]) ?_)
  refine .andThen (shrinkShared_guarded l hseat 0 refillBatches ?_ fun v' hv => ?_)
  · have := hseat.sharedSize_ge
    simp only [slack, batch, refillBatches] at this hleast ⊢
    omega
  · exact hQ v' hv

theorem overflow_guarded (hseat : seat.Sound) {x : Handle} {Q : Unit → View → Prop}
    (hcarried : v.carried = {x}) (hfull : seat.localSize ≤ v.own + 1)
    (hQ : ∀ v', v'.carried = 0 → Q () v') : (seat.overflow x).Guarded seat v Q := by
  refine Routine.Guarded.ask (c := .count (.overflows seat.cpu)) ?_
  refine Routine.Guarded.ask (c := .pull (.cache seat.cpu) .single (batch - 1))
    ⟨rfl, fun _ rest hlen => ?_, fun hshort => ?_⟩
  · have hitems : ↑rest + v.carried = ↑(x :: rest) + 0 := by
      rw [hcarried, add_zero, ← Multiset.cons_coe, ← Multiset.singleton_add, add_comm]
    refine Routine.Guarded.ask (c := .push .shared .multi (x :: rest)) ⟨0, hitems, hQ _ rfl, ?_⟩
    refine Routine.Guarded.ask (c := .report (.sharedFull seat.cpu)) ?_
    refine .andThen (drain_guarded seat.toLease hseat (hitems.trans (add_zero _)) ?_
      fun v' hv => ?_)
    · dsimp only
      rw [List.length_cons, hlen]
      rfl
    · exact hQ v' hv
  · have := hseat.localSize_ge
    simp only [batch] at this hshort
    omega

/-- **A free is guarded** while its lease has the element in its hands, if it is one of the pool;
and ends with nothing in them. -/
theorem free_guarded (hseat : seat.Sound) (e : Element) {Q : Unit → View → Prop}
    (hcarried : e.pool = seat.pool → v.carried = {e.handle})
    (hQ : ∀ v', v'.carried = 0 → Q () v') : (seat.free e).Guarded seat v Q := by
  by_cases howner : e.pool = seat.pool
  · rw [free, Routine.ensure, if_pos (by simpa using howner)]
    refine Routine.Guarded.ask (c := .push (.cache seat.cpu) .single [e.handle])
      ⟨rfl, 0, by rw [hcarried howner, Multiset.coe_singleton, add_zero], fun _ => ?_,
        fun hfull => ?_⟩
    · exact hQ _ rfl
    · exact overflow_guarded hseat (hcarried howner) hfull hQ
  · rw [free, Routine.ensure, if_neg (by simpa using howner)]
    exact .foreign howner

end Pool.Lease

end TieredPool
