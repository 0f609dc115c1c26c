import TieredPool.Proofs.Backing.Slots

/-!
# What a heap counts

A heap keeps two accounts of what is out. One is the number that is held against its limit: it is
raised before the system is asked and lowered again if the system refuses. The other is the tally,
which is written when a request is answered. After any requests in which only elements that are out
come back, both agree with the calls (`Heap.Accounted`), and the number is within the limit.

A refusal leaves nothing reserved, so requests that the system meets are met until the limit is
reached, whatever was refused before (`Heap.length_supply_eq`).
-/

namespace TieredPool

open Backing (Request)
open BackingCall (grants returns)

/-! ## Requests of a recorded backing -/

namespace BackingCall

def isRefusal : BackingCall → Bool
  | refused _ => true
  | _ => false

/-- How many requests were refused in these calls. -/
def refusals (calls : List BackingCall) : Nat := calls.countP isRefusal

/-- What was asked in a call. -/
def request : BackingCall → Request
  | granted flags _ => .alloc flags
  | refused flags => .alloc flags
  | freed x => .free x

@[simp] theorem refusals_append (first second : List BackingCall) :
    refusals (first ++ second) = refusals first + refusals second :=
  List.countP_append

end BackingCall

namespace Recorded

variable {β : Type} [Backing β]

/-- An element that is given back is out. -/
def Allows (r : Recorded β) : Request → Prop
  | .alloc _ => True
  | .free x => x ∈ r.out?.getD []

/-- Each of the requests is allowed when it is made. -/
def Permits (r : Recorded β) : List Request → Prop
  | [] => True
  | request :: requests => r.Allows request ∧ (Backing.serve r request).Permits requests

instance (r : Recorded β) : (request : Request) → Decidable (r.Allows request)
  | .alloc _ => inferInstanceAs (Decidable True)
  | .free x => inferInstanceAs (Decidable (x ∈ r.out?.getD []))

instance instDecidablePermits : (r : Recorded β) → (requests : List Request) →
    Decidable (r.Permits requests)
  | _, [] => inferInstanceAs (Decidable True)
  | r, request :: requests =>
    have := instDecidablePermits (Backing.serve r request) requests
    inferInstanceAs (Decidable (r.Allows request ∧ _))

theorem calls_free (x : Handle) (r : Recorded β) :
    (Backing.free x r).2.calls.toList = r.calls.toList ++ [.freed x] :=
  Array.toList_push

/-- Each request adds the call in which it was answered. -/
theorem exists_calls_serve (r : Recorded β) (request : Request) :
    ∃ call, (Backing.serve r request).calls.toList = r.calls.toList ++ [call] ∧
      call.request = request := by
  cases request with
  | alloc flags =>
    refine ⟨_, calls_alloc flags r, ?_⟩
    cases (Backing.alloc flags r).1 <;> rfl
  | free x => exact ⟨_, calls_free x r, rfl⟩

end Recorded

/-! ## Requests of a heap -/

namespace Heap

/-- The heap refuses the next request: its limit is reached, or the system refuses. -/
def Refuses (h : Heap) : Prop := h.atLimit = true ∨ h.systemRefuses h.requests = true

instance (h : Heap) : Decidable h.Refuses := inferInstanceAs (Decidable (_ ∨ _))

theorem atLimit_eq_true_iff {h : Heap} :
    h.atLimit = true ↔ ∃ limit, h.limit = some limit ∧ limit ≤ h.live := by
  unfold atLimit
  cases h.limit <;> simp

/-- **What an allocation comes to.** The place that is reserved before the system refuses is free
again afterwards. -/
theorem alloc_eq (h : Heap) (flags : AllocFlags) :
    h.alloc flags =
      if h.Refuses then h.refuse else Heap.grant flags { h with live := h.live + 1 } := by
  unfold alloc reserve? Refuses
  by_cases hlimit : h.atLimit = true
  · simp [hlimit]
  · by_cases hsystem : h.systemRefuses h.requests = true
    · simp [hlimit, hsystem, unreserve, refuse]
    · simp [hlimit, hsystem]

theorem alloc_fst_eq_none_iff (h : Heap) (flags : AllocFlags) :
    (h.alloc flags).1 = none ↔ h.Refuses := by
  rw [alloc_eq]
  by_cases hrefuses : h.Refuses
  · simp [hrefuses, refuse]
  · simp [hrefuses, grant]

/-- A request that is refused counts as a failure and changes nothing else. -/
theorem alloc_snd_of_none {h : Heap} {flags : AllocFlags} (hnone : (h.alloc flags).1 = none) :
    (h.alloc flags).2 = { h with tally := h.tally.failed } := by
  rw [alloc_fst_eq_none_iff] at hnone
  rw [alloc_eq, if_pos hnone]
  rfl

/-- **Requests that the system meets** are met as long as there is room below the limit. -/
theorem length_supply_eq (flags : AllocFlags) {count : Nat} {h : Heap}
    (hsystem : ∀ i < count, h.systemRefuses (h.requests + i) = false)
    (hroom : ∀ limit, h.limit = some limit → h.live + count ≤ limit) :
    (Backing.supply flags count h).1.length = count := by
  induction count generalizing h with
  | zero => rfl
  | succ count ih =>
    have hmeets : ¬h.Refuses := by
      rintro (hlimit | hrefuses)
      · obtain ⟨limit, hsome, hle⟩ := atLimit_eq_true_iff.1 hlimit
        have := hroom limit hsome
        omega
      · rw [show h.systemRefuses h.requests = false from hsystem 0 (Nat.succ_pos count)] at hrefuses
        cases hrefuses
    have halloc : Backing.alloc flags h = Heap.grant flags { h with live := h.live + 1 } :=
      (h.alloc_eq flags).trans (if_neg hmeets)
    rw [Backing.supply, halloc]
    simp only [grant, List.length_cons, Nat.add_right_cancel_iff]
    apply ih
    · intro i hi
      have hlater := hsystem (i + 1) (Nat.succ_lt_succ hi)
      simp only [requests, Tally.allocated] at hlater ⊢
      rwa [show h.tally.allocations + 1 + h.tally.failures + i =
        h.tally.allocations + h.tally.failures + (i + 1) by omega]
    · intro limit hsome
      have := hroom limit hsome
      simp only
      omega

instance : LawfulBacking Heap where
  Out := Out
  nodup := Out.nodup
  alloc := Out.alloc
  free hout := ⟨_, rfl, hout.free⟩

/-! ## The account -/

/-- These elements are out of a recorded heap. Its tally counts its calls by their answers, and no
more is out than the limit says. -/
structure Accounted (r : Recorded Heap) (m : Multiset Handle) : Prop where
  out : r.Out m
  tally_eq : r.backing.tally =
    ⟨grants r.calls.toList, returns r.calls.toList, BackingCall.refusals r.calls.toList⟩
  live_le {limit : Nat} : r.backing.limit = some limit → r.backing.live ≤ limit

namespace Accounted

variable {r : Recorded Heap} {m : Multiset Handle}

theorem of_new (layout : Layout) {limit : Option Nat} {systemRefuses : Nat → Bool}
    {memory : Memory} :
    Accounted { backing := ⟨layout, limit, 0, {}, systemRefuses, memory⟩ } 0 := by
  refine ⟨⟨⟨rfl, Multiset.nodup_zero, ?_⟩, [], rfl, rfl⟩, rfl, fun _ => Nat.zero_le _⟩
  intro x hx
  exact absurd hx (Multiset.notMem_zero x)

/-- The elements held are known from the calls, and the tally has their number. -/
theorem exists_held (h : Accounted r m) :
    ∃ held, r.out? = some held ∧ (held : Multiset Handle) = m ∧ held.Nodup ∧
      r.backing.live = held.length ∧
      r.backing.tally.allocations = r.backing.tally.deallocations + held.length := by
  obtain ⟨⟨hout, held, hcalls, rfl⟩, htally, -⟩ := h
  refine ⟨held, hcalls, rfl, ?_, hout.live_eq, ?_⟩
  · exact Multiset.coe_nodup.1 hout.nodup
  · have hlength := BackingCall.length_foldlM_account hcalls
    rw [htally]
    simp only [List.length_nil] at hlength ⊢
    omega

theorem alloc (h : Accounted r m) (flags : AllocFlags) :
    Accounted (Backing.alloc flags r).2 (↑(Backing.alloc flags r).1.toList + m) := by
  refine ⟨Recorded.Out.alloc h.out flags, ?_, ?_⟩
  · have hcalls := Recorded.calls_alloc flags r
    rw [hcalls]
    obtain ⟨backing, calls⟩ := r
    have htally := h.tally_eq
    simp only [Backing.alloc, Recorded.alloc, alloc_eq] at hcalls htally ⊢
    by_cases hrefuses : backing.Refuses
    · simp [hrefuses, refuse, htally, Tally.failed, grants, returns, BackingCall.refusals,
        BackingCall.isGrant, BackingCall.isReturn, BackingCall.isRefusal]
    · simp [hrefuses, grant, htally, Tally.allocated, grants, returns, BackingCall.refusals,
        BackingCall.isGrant, BackingCall.isReturn, BackingCall.isRefusal]
  · intro limit
    obtain ⟨backing, calls⟩ := r
    have hlive : backing.limit = some limit → backing.live ≤ limit := h.live_le
    simp only [Backing.alloc, Recorded.alloc, alloc_eq] at hlive ⊢
    by_cases hrefuses : backing.Refuses
    · simpa [hrefuses, refuse] using hlive
    · intro hsome
      simp only [hrefuses, grant, ↓reduceIte] at hsome ⊢
      -- the limit was not reached before
      apply Nat.lt_of_not_le
      intro hle
      exact hrefuses (.inl (atLimit_eq_true_iff.2 ⟨limit, hsome, hle⟩))

theorem free {x : Handle} (h : Accounted r (x ::ₘ m)) : Accounted (Backing.free x r).2 m := by
  obtain ⟨r', hfree, hout⟩ := Recorded.Out.free h.out
  have hr' : (Backing.free x r).2 = r' := congrArg Prod.snd hfree
  refine ⟨hr' ▸ hout, ?_, ?_⟩
  · rw [Recorded.calls_free]
    have htally := h.tally_eq
    show r.backing.tally.deallocated = _
    simp [htally, Tally.deallocated, grants, returns, BackingCall.refusals,
      BackingCall.isGrant, BackingCall.isReturn, BackingCall.isRefusal]
  · intro limit hsome
    exact Nat.le_trans (Nat.sub_le _ _) (h.live_le hsome)

theorem serve (h : Accounted r m) {request : Request} (hallows : r.Allows request) :
    ∃ m', Accounted (Backing.serve r request) m' := by
  cases request with
  | alloc flags => exact ⟨_, h.alloc flags⟩
  | free x =>
    obtain ⟨held, hcalls, rfl, -⟩ := h.exists_held
    rw [Recorded.Allows, hcalls, Option.getD_some] at hallows
    refine ⟨↑(held.erase x), free ?_⟩
    rw [Multiset.cons_coe, Multiset.coe_eq_coe.2 (List.perm_cons_erase hallows).symm]
    exact h

/-- **Any requests** of callers who give back only what is out keep the account. -/
theorem serveAll (h : Accounted r m) {requests : List Request} (hpermits : r.Permits requests) :
    ∃ m', Accounted (Backing.serveAll r requests) m' := by
  induction requests generalizing r m with
  | nil => exact ⟨m, h⟩
  | cons request requests ih =>
    obtain ⟨m', hfirst⟩ := h.serve hpermits.1
    exact ih hfirst hpermits.2

end Accounted

/-- No call changes the limit or what the system refuses. -/
theorem keeps_fixed (limit : Option Nat) (systemRefuses : Nat → Bool) :
    Backing.Keeps fun h : Heap => h.limit = limit ∧ h.systemRefuses = systemRefuses := by
  refine ⟨?_, ?_⟩
  · intro h flags hfixed
    obtain ⟨hlimit, hsystem⟩ := h.alloc_fixed flags
    exact ⟨hlimit.trans hfixed.1, hsystem.trans hfixed.2⟩
  · intro h x hfixed
    exact hfixed

end Heap

end TieredPool
