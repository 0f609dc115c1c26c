import Mathlib.Data.ENat.Lattice
import TieredPool.Proofs.Pool.Exactness

/-!
# How many requests a backing meets

A backing may refuse any of the requests that it receives. `Backing.grantsAhead` counts those in a
row that it meets from here on, before the first that it refuses, and a run of requests brings as
many elements as that, or as were asked for (`Backing.length_supply_eq_min`). A backing may be known
to meet the next so many requests, whatever their flags (`Backing.MeetsNext`).
-/

namespace TieredPool.Backing

variable {β : Type} [Backing β]

/-! ## Before the first refusal -/

/-- How many requests in a row the backing meets from here on; infinitely many if it refuses
none. -/
noncomputable def grantsAhead (flags : AllocFlags) (b : β) : ℕ∞ :=
  ⨅ (k : ℕ) (_ : RefusesAfter flags k b), (k : ℕ∞)

/-- The first refusal comes after one number of grants. -/
theorem RefusesAfter.unique {flags : AllocFlags} {j k : Nat} {b : β} (hj : RefusesAfter flags j b)
    (hk : RefusesAfter flags k b) : j = k := by
  have hj' : j < max j k + 1 := by omega
  have hk' : k < max j k + 1 := by omega
  rw [← (length_supply_eq_iff hj' b).2 hj, (length_supply_eq_iff hk' b).2 hk]

theorem grantsAhead_eq {flags : AllocFlags} {k : Nat} {b : β} (h : RefusesAfter flags k b) :
    grantsAhead flags b = k := by
  refine le_antisymm (iInf₂_le k h) (le_iInf₂ fun j hj => ?_)
  rw [h.unique hj]

theorem grantsAhead_eq_top {flags : AllocFlags} {b : β} (h : ∀ k, ¬RefusesAfter flags k b) :
    grantsAhead flags b = ⊤ :=
  top_unique (le_iInf₂ fun k hk => absurd hk (h k))

/-- **A run of requests** ends with the first refusal, or when all elements are there. -/
theorem length_supply_eq_min (flags : AllocFlags) (count : Nat) (b : β) :
    ((supply flags count b).1.length : ℕ∞) = min (grantsAhead flags b) count := by
  have hle := length_supply_le flags count b
  by_cases hrefuses : ∃ k, RefusesAfter flags k b
  · obtain ⟨k, hk⟩ := hrefuses
    rw [grantsAhead_eq hk]
    rcases Nat.lt_or_ge k count with hlt | hge
    · rw [(length_supply_eq_iff hlt b).2 hk, min_eq_left (Nat.cast_le.2 (Nat.le_of_lt hlt))]
    · rw [min_eq_right (Nat.cast_le.2 hge), Nat.cast_inj]
      refine Nat.le_antisymm hle (Nat.le_of_not_lt fun hshort => ?_)
      -- a run cut short would be refused earlier
      have hearly := (length_supply_eq_iff hshort b).1 rfl
      have hsame := hk.unique hearly
      omega
  · have hnone : ∀ k, ¬RefusesAfter flags k b := fun k hk => hrefuses ⟨k, hk⟩
    rw [grantsAhead_eq_top hnone, min_eq_right le_top, Nat.cast_inj]
    exact Nat.le_antisymm hle
      (Nat.le_of_not_lt fun hshort => hnone _ ((length_supply_eq_iff hshort b).1 rfl))

theorem supply_eq_nil_iff {flags : AllocFlags} {count : Nat} (hcount : 0 < count) (b : β) :
    (supply flags count b).1 = [] ↔ grantsAhead flags b = 0 := by
  have hlength := length_supply_eq_min flags count b
  rw [← List.length_eq_zero_iff]
  constructor
  · intro hnone
    rw [hnone] at hlength
    rcases min_choice (grantsAhead flags b) count with hmin | hmin <;> rw [hmin] at hlength
    · exact hlength.symm
    · exact absurd (Nat.cast_inj.1 hlength) (Nat.ne_of_lt hcount)
  · intro hzero
    rw [hzero, zero_min] at hlength
    exact Nat.cast_eq_zero.1 hlength

/-- A run of requests makes one call for each element, and one more if it is refused. -/
theorem length_requests_eq_min (flags : AllocFlags) (count : Nat) (b : β) :
    (((supply flags count b).1.length +
        if (supply flags count b).1.length < count then 1 else 0 : ℕ) : ℕ∞) =
      min (grantsAhead flags b + 1) count := by
  have hlength := length_supply_eq_min flags count b
  have hcast : ∀ m n : ℕ, ((min m n : ℕ) : ℕ∞) = min (m : ℕ∞) n := fun _ _ => Nat.mono_cast.map_min
  generalize (supply flags count b).1.length = length at hlength ⊢
  generalize grantsAhead flags b = ahead at hlength ⊢
  cases ahead with
  | top =>
    rw [min_eq_right le_top, Nat.cast_inj] at hlength
    rw [top_add, min_eq_right le_top, hlength, if_neg (Nat.lt_irrefl count), Nat.add_zero]
  | coe grants =>
    rw [← hcast, Nat.cast_inj] at hlength
    rw [← Nat.cast_succ, ← hcast, Nat.cast_inj]
    split <;> omega

/-! ## Backings that do not refuse -/

/-- The backing meets so many requests in a row, whatever their flags. -/
def MeetsNext : (requests : Nat) → β → Prop
  | 0, _ => True
  | requests + 1, b =>
    ∀ flags, (Backing.alloc flags b).1 ≠ none ∧ MeetsNext requests (Backing.alloc flags b).2

theorem MeetsNext.mono {m n : Nat} {b : β} (h : MeetsNext n b) (hle : m ≤ n) : MeetsNext m b := by
  induction n generalizing m b with
  | zero =>
    obtain rfl := Nat.le_zero.1 hle
    trivial
  | succ n ih =>
    cases m with
    | zero => trivial
    | succ m => exact fun flags => ⟨(h flags).1, ih (h flags).2 (Nat.le_of_succ_le_succ hle)⟩

theorem MeetsNext.alloc_ne_none {requests : Nat} {b : β} (h : MeetsNext requests b)
    (hpos : 0 < requests) (flags : AllocFlags) : (Backing.alloc flags b).1 ≠ none := by
  cases requests with
  | zero => cases hpos
  | succ requests => exact (h flags).1

/-- Some of the requests that are met bring as many elements, and the others are met after that. -/
theorem MeetsNext.supply {m n : Nat} {b : β} (h : MeetsNext (m + n) b) (flags : AllocFlags) :
    (Backing.supply flags m b).1.length = m ∧ MeetsNext n (Backing.supply flags m b).2 := by
  induction m generalizing b with
  | zero =>
    rw [Nat.zero_add] at h
    exact ⟨rfl, h⟩
  | succ m ih =>
    rw [Nat.succ_add] at h
    obtain ⟨hmet, hrest⟩ := h flags
    rw [Backing.supply]
    rcases halloc : Backing.alloc flags b with ⟨_ | x, b'⟩ <;> rw [halloc] at hmet hrest
    · exact absurd rfl hmet
    · obtain ⟨hlength, hleft⟩ := ih hrest
      exact ⟨congrArg Nat.succ hlength, hleft⟩

/-- A property that no call changes, and with which no request is refused. -/
theorem Keeps.meetsNext {P : β → Prop} (hP : Keeps P)
    (hmeets : ∀ b, P b → ∀ flags, (Backing.alloc flags b).1 ≠ none) (requests : Nat) {b : β}
    (h : P b) : MeetsNext requests b := by
  induction requests generalizing b with
  | zero => trivial
  | succ requests ih => exact fun flags => ⟨hmeets b h flags, ih (hP.alloc flags h)⟩

/-- A record refuses what its backing refuses. -/
theorem MeetsNext.recorded {requests : Nat} {r : Recorded β} (h : MeetsNext requests r.backing) :
    MeetsNext requests r := by
  induction requests generalizing r with
  | zero => trivial
  | succ requests ih =>
    intro flags
    obtain ⟨hmet, hrest⟩ := h flags
    obtain ⟨backing, calls⟩ := r
    simp only [Backing.alloc, Recorded.alloc] at hmet hrest ⊢
    rcases halloc : Backing.alloc flags backing with ⟨_ | x, b'⟩ <;> rw [halloc] at hmet hrest
    · exact absurd rfl hmet
    · exact ⟨Option.some_ne_none x, ih hrest⟩

end TieredPool.Backing

namespace TieredPool

/-- A store without a limit, over a system that refuses nothing, refuses nothing. -/
theorem Store.Limited.meetsNext {s : Store} (h : s.Limited none) (requests : Nat) :
    Backing.MeetsNext requests s := by
  refine (keeps_limited none).meetsNext (fun s hs flags hnone => ?_) requests h
  cases s with
  | heap a =>
    have hlimit := (Heap.alloc_eq_none_iff hs.system flags).1 hnone
    have hunlimited : a.limit = none := hs.limit_eq
    rw [Heap.atLimit, hunlimited] at hlimit
    cases hlimit
  | chunks c => cases hs.limit_eq

end TieredPool
