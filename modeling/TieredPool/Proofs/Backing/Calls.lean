import TieredPool.Proofs.Backing.Store

/-!
# Calls and tallies

What a recorded backing lists, and what a store counts, follow the elements. A run of requests adds
the elements it brings, in order, and a refusal if it was cut short (`Recorded.calls_supply`); a run
of returns adds its elements, in order (`Recorded.calls_reclaim`). And the tally of a store in
use is ahead of its returns by just the elements that are out (`Store.Audited`), so what it counts
as live are those.

`LawfulBacking` asks nothing of a tally. The audit is a stronger account of the same backing, and
what is proved for all lawful backings is read for it through `Store.auditing`.
-/

namespace TieredPool

/-! ## Calls by kind -/

namespace BackingCall

def isGrant : BackingCall → Bool
  | granted .. => true
  | _ => false

def isReturn : BackingCall → Bool
  | freed _ => true
  | _ => false

/-- How many elements went out in these calls. -/
def grants (calls : List BackingCall) : Nat := calls.countP isGrant

/-- How many elements came back in these calls. -/
def returns (calls : List BackingCall) : Nat := calls.countP isReturn

@[simp] theorem grants_append (first second : List BackingCall) :
    grants (first ++ second) = grants first + grants second :=
  List.countP_append

@[simp] theorem returns_append (first second : List BackingCall) :
    returns (first ++ second) = returns first + returns second :=
  List.countP_append

@[simp] theorem grants_freed (items : List Handle) : grants (items.map freed) = 0 := by
  simp [grants, List.countP_map, Function.comp_def, isGrant]

@[simp] theorem returns_freed (items : List Handle) : returns (items.map freed) = items.length := by
  simp [returns, List.countP_map, Function.comp_def, isReturn]

@[simp] theorem grants_granted (flags : AllocFlags) (items : List Handle) :
    grants (items.map (granted flags)) = items.length := by
  simp [grants, List.countP_map, Function.comp_def, isGrant]

@[simp] theorem returns_granted (flags : AllocFlags) (items : List Handle) :
    returns (items.map (granted flags)) = 0 := by
  simp [returns, List.countP_map, Function.comp_def, isReturn]

end BackingCall

open BackingCall (grants returns)

namespace Recorded

variable {β : Type} [Backing β]

/-- A request adds one call, which says whether it was met. -/
theorem calls_alloc (flags : AllocFlags) (r : Recorded β) :
    (Backing.alloc flags r).2.calls.toList = r.calls.toList ++
      [match (Backing.alloc flags r).1 with
        | some x => .granted flags x
        | none => .refused flags] := by
  obtain ⟨backing, calls⟩ := r
  simp only [Backing.alloc, Recorded.alloc]
  rcases Backing.alloc flags backing with ⟨_ | x, backing'⟩ <;> simp

/-- **A run of requests** adds its elements to the calls, in order, and a refusal if it was cut
short. -/
theorem calls_supply (flags : AllocFlags) (count : Nat) (r : Recorded β) :
    (Backing.supply flags count r).2.calls.toList =
      r.calls.toList ++ (Backing.supply flags count r).1.map (.granted flags) ++
        if (Backing.supply flags count r).1.length < count then [.refused flags] else [] := by
  induction count generalizing r with
  | zero => simp [Backing.supply]
  | succ count ih =>
    have hcalls := calls_alloc flags r
    rw [Backing.supply]
    rcases halloc : Backing.alloc flags r with ⟨_ | x, r'⟩ <;> rw [halloc] at hcalls
    · simpa using hcalls
    · dsimp only at hcalls ⊢
      rw [ih r', hcalls]
      simp only [List.map_cons, List.length_cons, Nat.add_lt_add_iff_right, List.append_assoc,
        List.cons_append, List.nil_append]

theorem exists_calls_supply (flags : AllocFlags) (count : Nat) (r : Recorded β) :
    ∃ calls, (Backing.supply flags count r).2.calls.toList = r.calls.toList ++ calls ∧
      grants calls = (Backing.supply flags count r).1.length ∧ returns calls = 0 := by
  rw [calls_supply, List.append_assoc]
  refine ⟨_, rfl, ?_, ?_⟩
  · rw [BackingCall.grants_append, BackingCall.grants_granted]
    split <;> rfl
  · rw [BackingCall.returns_append, BackingCall.returns_granted]
    split <;> rfl

/-- **A run of returns** adds its elements to the calls, in order. -/
theorem calls_reclaim {items : List Handle} {r r' : Recorded β}
    (h : Backing.reclaim items r = (.ok (), r')) :
    r'.calls.toList = r.calls.toList ++ items.map .freed := by
  induction items generalizing r with
  | nil =>
    cases h
    exact (List.append_nil _).symm
  | cons x items ih =>
    have hcalls : (Backing.free x r).2.calls.toList = r.calls.toList ++ [.freed x] :=
      Array.toList_push
    rw [Backing.reclaim] at h
    rcases hfree : Backing.free x r with ⟨fault | _, middle⟩ <;> rw [hfree] at h hcalls
    · cases h
    · rw [ih h, hcalls, List.append_assoc]
      rfl

end Recorded

/-! ## Audited stores -/

namespace Store

theorem tally_alloc (s : Store) (flags : AllocFlags) :
    (s.alloc flags).2.tally =
      if (s.alloc flags).1.isSome then s.tally.allocated else s.tally.failed := by
  cases s with
  | heap h =>
    simp only [alloc, Heap.alloc, Heap.reserve?]
    by_cases hlimit : h.atLimit = true
    · simp [hlimit, Heap.refuse, tally]
    · by_cases hsystem : h.systemRefuses h.requests = true
      · simp [hlimit, hsystem, Heap.refuse, Heap.unreserve, tally]
      · simp [hlimit, hsystem, Heap.grant, tally]
  | chunks c =>
    rcases htake : c.takeSlot? with _ | ⟨slot, c'⟩
    · simp [alloc, Chunks.alloc, htake, tally]
    · obtain ⟨recycled, fresh, rfl⟩ := Chunks.exists_of_takeSlot? htake
      simp [alloc, Chunks.alloc, htake, tally]

theorem tally_free {s s' : Store} {x : Handle} (h : s.free x = (.ok (), s')) :
    s'.tally = s.tally.deallocated := by
  cases s with
  | heap a =>
    cases h
    rfl
  | chunks c =>
    simp only [free, Chunks.free] at h
    split at h
    · cases h
    · split at h
      · cases h
        rfl
      · cases h

/-- These elements are out of the store, and its tally says how many. -/
structure Audited (s : Store) (m : Multiset Handle) : Prop where
  out : s.Out m
  balanced : s.tally.allocations = s.tally.deallocations + m.card

namespace Audited

variable {s : Store} {m : Multiset Handle}

theorem live_eq (h : s.Audited m) : s.tally.live = m.card := by
  rw [Tally.live, h.balanced, Nat.add_sub_cancel_left]

theorem alloc (h : s.Audited m) (flags : AllocFlags) :
    (s.alloc flags).2.Audited (↑(s.alloc flags).1.toList + m) := by
  refine ⟨h.out.alloc flags, ?_⟩
  have hbalanced := h.balanced
  rw [tally_alloc]
  rcases (s.alloc flags).1 with _ | x
  · simpa [Tally.failed] using hbalanced
  · simp [Tally.allocated, hbalanced, Nat.add_assoc]

theorem free {x : Handle} (h : s.Audited (x ::ₘ m)) :
    ∃ s', s.free x = (.ok (), s') ∧ s'.Audited m := by
  obtain ⟨s', hfree, hout⟩ := h.out.free
  refine ⟨s', hfree, hout, ?_⟩
  have hbalanced := h.balanced
  rw [Multiset.card_cons] at hbalanced
  rw [tally_free hfree]
  simp only [Tally.deallocated, hbalanced]
  omega

end Audited

theorem IsNew.audited {s : Store} (h : s.IsNew) : s.Audited 0 := by
  refine ⟨h.out, ?_⟩
  cases h with
  | heap => rfl
  | chunks hreserve _ =>
    obtain ⟨-, -, rfl⟩ := Chunks.reserveAt_eq_ok hreserve
    rfl

/-- A store under audit is lawful. -/
@[reducible] def auditing : LawfulBacking Store where
  Out := Audited
  nodup h := h.out.nodup
  alloc := Audited.alloc
  free := Audited.free

end Store

namespace Recorded

/-- A recorded store under audit is lawful. -/
@[reducible] def auditing : LawfulBacking (Recorded Store) :=
  @instLawfulBacking Store _ Store.auditing

theorem IsNew.audited {r : Recorded Store} (h : r.IsNew) : auditing.Out r 0 :=
  ⟨h.2.audited, [], by rw [out?, h.1]; rfl, rfl⟩

end Recorded

end TieredPool
