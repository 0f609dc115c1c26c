import Mathlib.Algebra.Order.Group.Multiset
import TieredPool.Backing

/-!
# Lawful backings

A pool relies on two things that a backing does, and on nothing else: an element that is handed out
is not out already, and an element that is out is taken back. A `LawfulBacking` does both. Requests
may be refused at any time. Runs of requests and of returns (`Backing.supply`, `Backing.reclaim`)
then move exactly their elements out and in, and returns of elements that are out never fault.
-/

namespace TieredPool

namespace Backing

variable {β : Type} [Backing β]

/-- Asks for up to so many elements and stops at the first refusal. -/
def supply (flags : AllocFlags) : (count : Nat) → β → List Handle × β
  | 0, backing => ([], backing)
  | count + 1, backing =>
    match Backing.alloc flags backing with
    | (none, backing) => ([], backing)
    | (some handle, backing) =>
      let (handles, backing) := supply flags count backing
      (handle :: handles, backing)

/-- Gives elements back one after the other, up to the first fault. -/
def reclaim : List Handle → β → Except Fault Unit × β
  | [], backing => (.ok (), backing)
  | handle :: handles, backing =>
    match Backing.free handle backing with
    | (.ok (), backing) => reclaim handles backing
    | (.error fault, backing) => (.error fault, backing)

theorem length_supply_le (flags : AllocFlags) (count : Nat) (backing : β) :
    (supply flags count backing).1.length ≤ count := by
  induction count generalizing backing with
  | zero => exact Nat.le_refl 0
  | succ count ih =>
    rw [supply]
    split
    · exact Nat.zero_le _
    · exact Nat.succ_le_succ (ih _)

/-- Asking again goes on where the first asking stopped, unless that was refused. -/
theorem supply_add (flags : AllocFlags) (m n : Nat) (backing : β) :
    supply flags (m + n) backing =
      if (supply flags m backing).1.length < m then supply flags m backing
      else ((supply flags m backing).1 ++ (supply flags n (supply flags m backing).2).1,
        (supply flags n (supply flags m backing).2).2) := by
  induction m generalizing backing with
  | zero => simp [supply]
  | succ m ih =>
    rw [Nat.succ_add, supply, supply]
    rcases Backing.alloc flags backing with ⟨_ | handle, backing⟩
    · rfl
    · simp only [ih, List.length_cons, Nat.add_lt_add_iff_right]
      split <;> rfl

theorem reclaim_append (first second : List Handle) (backing : β) :
    reclaim (first ++ second) backing =
      match reclaim first backing with
      | (.ok (), backing) => reclaim second backing
      | (.error fault, backing) => (.error fault, backing) := by
  induction first generalizing backing with
  | nil => rfl
  | cons handle first ih =>
    rw [List.cons_append, reclaim, reclaim]
    rcases Backing.free handle backing with ⟨fault | _, backing⟩
    · rfl
    · exact ih backing

theorem exists_of_reclaim_append {first second : List Handle} {backing final : β}
    (h : reclaim (first ++ second) backing = (.ok (), final)) :
    ∃ middle, reclaim first backing = (.ok (), middle) ∧
      reclaim second middle = (.ok (), final) := by
  rw [reclaim_append] at h
  rcases hfirst : reclaim first backing with ⟨fault | _, middle⟩ <;> rw [hfirst] at h
  · cases h
  · exact ⟨middle, rfl, h⟩

end Backing

/-- A backing whose elements are out or not: `Out b m` says that after all that was done to it the
elements `m` are out of `b`. -/
class LawfulBacking (β : Type) [Backing β] where
  Out : β → Multiset Handle → Prop
  /-- No element is out twice. -/
  nodup {b : β} {m : Multiset Handle} : Out b m → m.Nodup
  /-- An element handed out is out, and a refusal changes nothing. -/
  alloc {b : β} {m : Multiset Handle} (h : Out b m) (flags : AllocFlags) :
    Out (Backing.alloc flags b).2 (↑(Backing.alloc flags b).1.toList + m)
  /-- An element that is out is taken back. -/
  free {b : β} {m : Multiset Handle} {x : Handle} :
    Out b (x ::ₘ m) → ∃ b', Backing.free x b = (.ok (), b') ∧ Out b' m

namespace LawfulBacking

variable {β : Type} [Backing β] [LawfulBacking β]

theorem alloc_some {b b' : β} {m : Multiset Handle} {flags : AllocFlags} {x : Handle} (h : Out b m)
    (halloc : Backing.alloc flags b = (some x, b')) : Out b' (x ::ₘ m) := by
  have hout := alloc h flags
  rw [halloc] at hout
  simpa using hout

theorem alloc_none {b b' : β} {m : Multiset Handle} {flags : AllocFlags} (h : Out b m)
    (halloc : Backing.alloc flags b = (none, b')) : Out b' m := by
  have hout := alloc h flags
  rw [halloc] at hout
  simpa using hout

theorem out_supply {b : β} {m : Multiset Handle} (h : Out b m) (flags : AllocFlags) (count : Nat) :
    Out (Backing.supply flags count b).2 (↑(Backing.supply flags count b).1 + m) := by
  induction count generalizing b m with
  | zero => simpa [Backing.supply] using h
  | succ count ih =>
    rw [Backing.supply]
    rcases halloc : Backing.alloc flags b with ⟨_ | x, b'⟩
    · simpa using alloc_none h halloc
    · have hrest := ih (alloc_some h halloc)
      dsimp only
      rwa [← Multiset.cons_coe, Multiset.cons_add, ← Multiset.add_cons]

theorem out_reclaim {b : β} {m : Multiset Handle} {items : List Handle} (h : Out b (↑items + m)) :
    ∃ b', Backing.reclaim items b = (.ok (), b') ∧ Out b' m := by
  induction items generalizing b with
  | nil => exact ⟨b, rfl, by simpa using h⟩
  | cons x items ih =>
    rw [← Multiset.cons_coe, Multiset.cons_add] at h
    obtain ⟨middle, hfree, hmiddle⟩ := free h
    obtain ⟨b', hrest, hout⟩ := ih hmiddle
    exact ⟨b', by simp only [Backing.reclaim, hfree, hrest], hout⟩

end LawfulBacking

end TieredPool
