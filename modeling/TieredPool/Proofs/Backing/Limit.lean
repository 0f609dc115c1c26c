import TieredPool.Proofs.Backing.Calls

/-!
# Limits

A store over a system that refuses nothing refuses a request only because of its limit: a heap may
have been given one, and the limit of a chunk allocator is its capacity. It then refuses exactly
when as many elements are out as the limit says (`Store.alloc_eq_none_iff`). No call changes a limit;
a property that no call changes is one that `Backing.Keeps`.

How many elements were out at the most is read off the calls, which are listed in order
(`Recorded.Peak`).
-/

namespace TieredPool

/-! ## What no call changes -/

/-- No call to a backing changes the property. -/
structure Backing.Keeps {β : Type} [Backing β] (P : β → Prop) : Prop where
  alloc {b : β} (flags : AllocFlags) : P b → P (Backing.alloc flags b).2
  free {b : β} (handle : Handle) : P b → P (Backing.free handle b).2

namespace Backing.Keeps

variable {β : Type} [Backing β] {P : β → Prop}

theorem supply (hP : Keeps P) (flags : AllocFlags) (count : Nat) {b : β} (h : P b) :
    P (Backing.supply flags count b).2 := by
  induction count generalizing b with
  | zero => exact h
  | succ count ih =>
    have hfirst := hP.alloc flags h
    rw [Backing.supply]
    rcases halloc : Backing.alloc flags b with ⟨_ | x, b'⟩ <;> rw [halloc] at hfirst
    · exact hfirst
    · exact ih hfirst

theorem reclaim (hP : Keeps P) (items : List Handle) {b : β} (h : P b) :
    P (Backing.reclaim items b).2 := by
  induction items generalizing b with
  | nil => exact h
  | cons x items ih =>
    have hfirst := hP.free x h
    rw [Backing.reclaim]
    rcases hfree : Backing.free x b with ⟨fault | _, b'⟩ <;> rw [hfree] at hfirst
    · exact hfirst
    · exact ih hfirst

/-- A record changes nothing of the backing. -/
theorem recorded (hP : Keeps P) : Keeps fun r : Recorded β => P r.backing := by
  refine ⟨fun {r} flags h => ?_, fun {r} x h => hP.free x h⟩
  have hfirst := hP.alloc flags h
  obtain ⟨backing, calls⟩ := r
  simp only [Backing.alloc, Recorded.alloc] at hfirst ⊢
  rcases halloc : Backing.alloc flags backing with ⟨_ | x, b'⟩ <;> rw [halloc] at hfirst
  · exact hfirst
  · exact hfirst

end Backing.Keeps

/-! ## Refusals -/

namespace Chunks

theorem takeSlot?_eq_none_iff {c : Chunks} : c.takeSlot? = none ↔ c.freeSlots = [] := by
  rw [takeSlot?, freeSlots]
  rcases hrecycled : c.recycled with _ | ⟨slot, rest⟩
  · simp only [List.nil_append, List.map_eq_nil_iff, List.range_eq_nil]
    split <;> simp <;> omega
  · simp

theorem alloc_eq_none_iff {c : Chunks} {m : Multiset Handle} (h : c.Out m) (flags : AllocFlags) :
    (c.alloc flags).1 = none ↔ c.capacity ≤ m.card := by
  obtain ⟨-, slots, rfl, hslots⟩ := h
  have hcard := congrArg Multiset.card hslots
  rw [Multiset.card_add, Multiset.coe_card, Multiset.card_range] at hcard
  have hnone : (c.alloc flags).1 = none ↔ c.takeSlot? = none := by
    rw [alloc]
    cases c.takeSlot? <;> simp
  rw [hnone, takeSlot?_eq_none_iff, ← List.length_eq_zero_iff, Multiset.card_map]
  omega

theorem capacity_alloc (c : Chunks) (flags : AllocFlags) :
    (c.alloc flags).2.capacity = c.capacity := by
  unfold alloc
  rcases htake : c.takeSlot? with _ | ⟨slot, c'⟩
  · rfl
  · obtain ⟨recycled, fresh, rfl⟩ := exists_of_takeSlot? htake
    rfl

theorem capacity_free (c : Chunks) (handle : Handle) :
    (c.free handle).2.capacity = c.capacity := by
  rw [free]
  split
  · rfl
  · split <;> rfl

end Chunks

namespace Heap

theorem atLimit_iff {h : Heap} {m : Multiset Handle} (hout : h.Out m) :
    h.atLimit = true ↔ ∃ limit, h.limit = some limit ∧ limit ≤ m.card := by
  rw [atLimit, hout.live_eq]
  cases h.limit <;> simp

theorem alloc_eq_none_iff {h : Heap} (hsystem : ∀ n, h.systemRefuses n = false)
    (flags : AllocFlags) : (h.alloc flags).1 = none ↔ h.atLimit = true := by
  rw [alloc, reserve?]
  by_cases hlimit : h.atLimit = true
  · simp [hlimit, refuse]
  · simp [hlimit, hsystem, grant]

theorem alloc_fixed (h : Heap) (flags : AllocFlags) :
    (h.alloc flags).2.limit = h.limit ∧ (h.alloc flags).2.systemRefuses = h.systemRefuses := by
  rw [alloc, reserve?]
  by_cases hlimit : h.atLimit = true
  · simp [hlimit, refuse]
  · by_cases hsystem : h.systemRefuses h.requests = true
    · simp [hlimit, hsystem, refuse, unreserve]
    · simp [hlimit, hsystem, grant]

end Heap

namespace Store

/-- How many elements may be out at one time, if that is limited. -/
def limit? : Store → Option Nat
  | heap h => h.limit
  | chunks c => some c.capacity

/-- The system refuses no request. -/
def SystemGrants : Store → Prop
  | heap h => ∀ n, h.systemRefuses n = false
  | chunks _ => True

/-- **A limit is met exactly**: a request is refused when so many elements are out, and only
then. -/
theorem alloc_eq_none_iff {s : Store} {m : Multiset Handle} (h : s.Out m) (hsystem : s.SystemGrants)
    (flags : AllocFlags) :
    (s.alloc flags).1 = none ↔ ∃ limit, s.limit? = some limit ∧ limit ≤ m.card := by
  cases s with
  | heap a => exact (Heap.alloc_eq_none_iff hsystem flags).trans (Heap.atLimit_iff h)
  | chunks c =>
    refine (Chunks.alloc_eq_none_iff h flags).trans ⟨fun hle => ⟨_, rfl, hle⟩, ?_⟩
    rintro ⟨limit, hlimit, hle⟩
    cases hlimit
    exact hle

/-- The store is over a system that refuses nothing and has this limit, or none. -/
structure Limited (limit : Option Nat) (s : Store) : Prop where
  limit_eq : s.limit? = limit
  system : s.SystemGrants

theorem keeps_limited (limit : Option Nat) : Backing.Keeps (Limited limit) := by
  refine ⟨fun {s} flags h => ?_, fun {s} handle h => ?_⟩
  · obtain ⟨hlimit, hsystem⟩ := h
    cases s with
    | heap a =>
      obtain ⟨hlimit', hsystem'⟩ := a.alloc_fixed flags
      refine ⟨hlimit'.trans hlimit, fun n => ?_⟩
      exact (congrFun hsystem' n).trans (hsystem n)
    | chunks c => exact ⟨(congrArg some (c.capacity_alloc flags)).trans hlimit, trivial⟩
  · obtain ⟨hlimit, hsystem⟩ := h
    cases s with
    | heap a => exact ⟨hlimit, hsystem⟩
    | chunks c => exact ⟨(congrArg some (c.capacity_free handle)).trans hlimit, trivial⟩

/-- A store without room below its limit is the only one that refuses. -/
theorem Limited.exists_le_of_refused {limit : Option Nat} {s s' : Store} {m : Multiset Handle}
    {flags : AllocFlags} (h : s.Limited limit) (hout : s.Out m)
    (halloc : Backing.alloc flags s = (none, s')) : ∃ n, limit = some n ∧ n ≤ m.card := by
  have hnone : (s.alloc flags).1 = none := congrArg Prod.fst halloc
  obtain ⟨n, hn, hle⟩ := (alloc_eq_none_iff hout h.system flags).1 hnone
  exact ⟨n, h.limit_eq.symm.trans hn, hle⟩

/-- **A run of requests** brings as many elements as there is room for below the limit. -/
theorem Limited.length_supply_eq {limit : Option Nat} {s : Store} {m : Multiset Handle}
    (h : s.Limited limit) (hout : s.Out m) (flags : AllocFlags) (count : Nat) :
    (Backing.supply flags count s).1.length =
      limit.elim count fun n => min count (n - m.card) := by
  induction count generalizing s m with
  | zero => cases limit <;> simp [Backing.supply]
  | succ count ih =>
    have hkept := (keeps_limited limit).alloc flags h
    have hmore := hout.alloc flags
    rw [Backing.supply]
    rcases halloc : Backing.alloc flags s with ⟨_ | x, s'⟩
    · obtain ⟨n, rfl, hle⟩ := h.exists_le_of_refused hout halloc
      rw [Option.elim_some, Nat.sub_eq_zero_of_le hle, Nat.min_zero]
      rfl
    · have hroom : ∀ n, limit = some n → m.card < n := by
        intro n hn
        apply Nat.lt_of_not_le
        intro hle
        have hnone := (alloc_eq_none_iff hout h.system flags).2 ⟨n, h.limit_eq.trans hn, hle⟩
        rw [show s.alloc flags = (some x, s') from halloc] at hnone
        cases hnone
      rw [halloc] at hkept
      rw [show s.alloc flags = (some x, s') from halloc] at hmore
      dsimp only at hkept hmore ⊢
      rw [List.length_cons, ih hkept hmore, Option.toList_some, Multiset.card_add,
        Multiset.coe_card, List.length_singleton]
      cases limit with
      | none => rfl
      | some n =>
        have hlt := hroom n rfl
        simp only [Option.elim_some]
        omega

end Store

theorem Recorded.exists_le_of_refused {limit : Option Nat} {r r' : Recorded Store}
    {m : Multiset Handle} {flags : AllocFlags} (h : r.backing.Limited limit)
    (hout : r.backing.Out m) (halloc : Backing.alloc flags r = (none, r')) :
    ∃ n, limit = some n ∧ n ≤ m.card := by
  obtain ⟨backing, calls⟩ := r
  simp only [Backing.alloc, Recorded.alloc] at halloc
  split at halloc
  · cases halloc
  · next store hstore => exact h.exists_le_of_refused hout hstore

/-! ## Peaks -/

open BackingCall (grants returns)

/-- What is out follows the grants and the returns. -/
theorem BackingCall.length_foldlM_account {calls : List BackingCall} {out out' : List Handle}
    (h : calls.foldlM account out = some out') :
    out'.length + returns calls = out.length + grants calls := by
  induction calls generalizing out with
  | nil =>
    cases h
    rfl
  | cons c calls ih =>
    rw [List.foldlM_cons] at h
    obtain ⟨middle, hfirst, hrest⟩ := Option.bind_eq_some_iff.1 h
    have hlength := ih hrest
    cases c with
    | granted flags x =>
      have hgrants : grants (.granted flags x :: calls) = grants calls + 1 :=
        List.countP_cons_of_pos rfl
      have hreturns : returns (.granted flags x :: calls) = returns calls :=
        List.countP_cons_of_neg Bool.false_ne_true
      rw [account] at hfirst
      split at hfirst
      · cases hfirst
      · cases hfirst
        rw [List.length_cons] at hlength
        omega
    | refused flags =>
      have hgrants : grants (.refused flags :: calls) = grants calls :=
        List.countP_cons_of_neg Bool.false_ne_true
      have hreturns : returns (.refused flags :: calls) = returns calls :=
        List.countP_cons_of_neg Bool.false_ne_true
      cases hfirst
      omega
    | freed x =>
      have hgrants : grants (.freed x :: calls) = grants calls :=
        List.countP_cons_of_neg Bool.false_ne_true
      have hreturns : returns (.freed x :: calls) = returns calls + 1 :=
        List.countP_cons_of_pos rfl
      rw [account] at hfirst
      split at hfirst
      · next hmem =>
        cases hfirst
        have hpos := List.length_pos_of_mem hmem
        rw [List.length_erase_of_mem hmem] at hlength
        omega
      · cases hfirst

namespace Recorded

variable {β : Type}

/-- At every moment in the calls of a backing, at most so many elements are out. -/
def Peak (bound : Nat) (r : Recorded β) : Prop :=
  ∀ calls, calls <+: r.calls.toList →
    ∃ out, calls.foldlM BackingCall.account [] = some out ∧ out.length ≤ bound

/-- Further calls are within the bound if none of them is a grant, or none of them a return and the
bound is not exceeded in the end. -/
theorem Peak.append {bound : Nat} {r r' : Recorded β} {calls : List BackingCall}
    {out : List Handle} (h : r.Peak bound) (hcalls : r'.calls.toList = r.calls.toList ++ calls)
    (hout : r'.out? = some out)
    (hside : grants calls = 0 ∨ returns calls = 0 ∧ out.length ≤ bound) : r'.Peak bound := by
  rintro front ⟨back, hsplit⟩
  rw [hcalls] at hsplit
  obtain ⟨more, hold, -⟩ | ⟨begun, rfl, rfl⟩ := List.append_eq_append_iff.1 hsplit
  · exact h front ⟨more, hold.symm⟩
  · -- the moment lies in the further calls
    obtain ⟨old, hold, hle⟩ := h _ (List.prefix_refl _)
    rw [out?, hcalls, ← List.append_assoc, List.foldlM_append] at hout
    obtain ⟨now, hnow, hrest⟩ := Option.bind_eq_some_iff.1 hout
    have hmoment := hnow
    rw [List.foldlM_append, hold] at hmoment
    have hlength := BackingCall.length_foldlM_account (show begun.foldlM _ old = _ from hmoment)
    have hlength' := BackingCall.length_foldlM_account hrest
    rw [BackingCall.grants_append, BackingCall.returns_append] at hside
    exact ⟨now, hnow, by omega⟩

theorem peak_of_new {bound : Nat} {r : Recorded β} (hcalls : r.calls = #[]) : r.Peak bound := by
  intro calls hgrow
  rw [hcalls] at hgrow
  obtain rfl := List.prefix_nil.1 hgrow
  exact ⟨[], rfl, Nat.zero_le _⟩

end Recorded

end TieredPool
