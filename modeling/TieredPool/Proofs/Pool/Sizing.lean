import Mathlib.Algebra.Order.BigOperators.Group.List
import Mathlib.Algebra.Order.Ring.Nat
import TieredPool.Proofs.Backing.Limit
import TieredPool.Proofs.Pool.Building
import TieredPool.Proofs.Pool.Dealing

/-!
# What a pool strands

An allocation asks the backing only if its CPU's queue is empty and the shared queue is short of a
batch. The elements that the pool holds at that moment are out of reach: fewer than a batch in the
shared queue, and what the other CPUs have. A refill adds two batches to them at most. These bounds
hold whenever the backing is asked (`Allocation.card_of_supplied`, `Allocation.card_of_refused`).
-/

namespace TieredPool

theorem sum_map_le_of_getElem? {α : Type} {f : α → Nat} {l : List α} {bound i : Nat} {x : α}
    (hle : ∀ y ∈ l, f y ≤ bound) (hx : l[i]? = some x) :
    (l.map f).sum ≤ f x + (l.length - 1) * bound := by
  induction l generalizing i with
  | nil => cases hx
  | cons y l ih =>
    have htail : ∀ y ∈ l, f y ≤ bound := fun y hmem => hle y (List.mem_cons_of_mem _ hmem)
    have hall := List.sum_le_card_nsmul (l.map f) bound fun n hmem => by
      obtain ⟨y, hy, rfl⟩ := List.mem_map.1 hmem
      exact htail y hy
    rw [List.length_map, Nat.nsmul_eq_mul] at hall
    rw [List.map_cons, List.sum_cons, List.length_cons, Nat.add_sub_cancel]
    cases i with
    | zero =>
      cases hx
      exact Nat.add_le_add_left hall _
    | succ i =>
      have hrest := ih htail (List.getElem?_cons_succ.symm.trans hx)
      have hhead := hle y List.mem_cons_self
      have hlength : l.length = l.length - 1 + 1 := by
        rcases l with _ | ⟨z, l⟩
        · cases hx
        · rfl
      rw [hlength, Nat.succ_mul]
      omega

namespace Stock

/-- The most that the local queues of the other CPUs can hold. -/
def aside (s : Stock) : Nat := (s.shelves.length - 1) * (s.localSize - 1)

/-- Beside the shared queue and one local queue there are those of the other CPUs. -/
theorem Sound.card_elements_le {s : Stock} (hs : s.Sound) {cpu : Nat} {shelf : Shelf}
    (hshelf : s.shelves[cpu]? = some shelf) :
    s.elements.card ≤ s.shared.length + shelf.items.length + s.aside := by
  have hle : ∀ shelf ∈ s.shelves, shelf.items.length ≤ s.localSize - 1 := fun shelf hmem =>
    Nat.le_sub_one_of_lt (hs.items_lt shelf hmem)
  have hsum := sum_map_le_of_getElem? hle hshelf
  rw [card_elements, aside]
  omega

end Stock

variable {β : Type} [Backing β] {cpu : Nat} {d d' : Depot β}

/-! ## Dealings and the backing -/

theorem Dealing.keeps {taken given : List Handle} {P : β → Prop} (hP : Backing.Keeps P)
    (h : Dealing cpu d taken given d') (hd : P d.backing) : P d'.backing := by
  cases h with
  | leased => exact hd
  | unleased => exact hd
  | @allocated flags answer d' h =>
    cases h with
    | cached => exact hd
    | shared => exact hd
    | supplied hshelf hempty hshort hsupply =>
      have hkept := hP.supply flags (1 + batch * refillBatches) hd
      rwa [hsupply] at hkept
    | refused hshelf hempty hshort halloc =>
      have hkept := hP.alloc flags hd
      rwa [halloc] at hkept
  | @released x d' h =>
    cases h with
    | cached => exact hd
    | overflowed => exact hd
    | @drained shelf xs rest ys kept backing hshelf hfull hitems hlen hnoroom hshared hys hreclaim =>
      have hkept := hP.reclaim (x :: xs ++ ys) hd
      rwa [hreclaim] at hkept

theorem Plan.Constructed.keeps {p : Plan} {id cpus : Nat} {b b' : β}
    {result : Except (Failure CreateError) Pool} {P : β → Prop} (hP : Backing.Keeps P)
    (h : p.Constructed id cpus b result b') (hb : P b) : P b' := by
  have hfilled := hP.supply p.flags p.preallocate hb
  have hback : ∀ items middle, Backing.supply p.flags p.preallocate b = (items, middle) →
      Backing.reclaim items middle = (.ok (), b') → P b' := by
    intro items middle hsupply hreclaim
    rw [hsupply] at hfilled
    have hkept := hP.reclaim items hfilled
    rwa [hreclaim] at hkept
  cases h with
  | built hsupply =>
    rw [hsupply] at hfilled
    exact hfilled
  | noShared => exact hb
  | noLocal hsupply hall hreclaim => exact hback _ _ hsupply hreclaim
  | exhausted hsupply hshort hreclaim => exact hback _ _ hsupply hreclaim

theorem Dealing.length_shelves_eq {taken given : List Handle} (h : Dealing cpu d taken given d') :
    d'.stock.shelves.length = d.stock.shelves.length := by
  cases h with
  | leased => exact List.length_modify ..
  | unleased => exact List.length_modify ..
  | allocated h =>
    cases h with
    | cached => exact List.length_modify ..
    | shared => exact List.length_modify ..
    | supplied => rfl
    | refused => rfl
  | released h => cases h <;> exact List.length_modify ..

theorem Dealing.aside_eq {taken given : List Handle} (h : Dealing cpu d taken given d') :
    d'.stock.aside = d.stock.aside := by
  obtain ⟨-, -, hlocal, -⟩ := h.shape_eq
  rw [Stock.aside, Stock.aside, h.length_shelves_eq, hlocal]

/-! ## Asking the backing -/

/-- **A refusal** finds no more in the pool than the other CPUs have and less than a batch. -/
theorem Allocation.card_of_refused {flags : AllocFlags} (hs : d.stock.Sound)
    (h : Allocation cpu flags d none d') :
    d.stock.elements.card ≤ batch - 1 + d.stock.aside ∧
      Backing.alloc flags d.backing = (none, d'.backing) := by
  cases h with
  | refused hshelf hempty hshort halloc =>
    have hle := hs.card_elements_le hshelf
    rw [hempty, List.length_nil] at hle
    exact ⟨by omega, halloc⟩

/-- **A refill** leaves two batches more than that at most. -/
theorem Allocation.card_of_supplied {flags : AllocFlags} {shelf : Shelf} {x : Handle}
    {xs : List Handle} {backing : β} (hs : d.stock.Sound)
    (hshelf : d.stock.shelves[cpu]? = some shelf) (hempty : shelf.items = [])
    (hshort : d.stock.shared.length < batch)
    (hsupply : Backing.supply flags (1 + batch * refillBatches) d.backing = (x :: xs, backing)) :
    ({ d.stock with shared := d.stock.shared ++ xs } : Stock).elements.card ≤
      batch - 1 + batch * refillBatches + d.stock.aside := by
  have hle := hs.card_elements_le hshelf
  have hcount := Backing.length_supply_le flags (1 + batch * refillBatches) d.backing
  rw [hsupply, List.length_cons] at hcount
  rw [Stock.card_elements] at hle ⊢
  rw [hempty, List.length_nil] at hle
  rw [List.length_append]
  dsimp only at hcount hle ⊢
  omega

section Calls

open BackingCall (grants returns)

variable {d d' : Depot (Recorded β)}

/-- A pool does not both obtain and return elements in one dealing. If it obtains some, it holds few
afterwards. -/
theorem Dealing.exists_calls_one_way {taken given : List Handle}
    (h : Dealing cpu d taken given d') (hs : d.stock.Sound) :
    ∃ calls, d'.backing.calls.toList = d.backing.calls.toList ++ calls ∧
      (grants calls = 0 ∨ returns calls = 0 ∧
        d'.stock.elements.card ≤ batch - 1 + batch * refillBatches + d'.stock.aside) := by
  cases h with
  | leased => exact ⟨[], (List.append_nil _).symm, .inl rfl⟩
  | unleased => exact ⟨[], (List.append_nil _).symm, .inl rfl⟩
  | @allocated flags answer d' h =>
    cases h with
    | cached => exact ⟨[], (List.append_nil _).symm, .inl rfl⟩
    | shared => exact ⟨[], (List.append_nil _).symm, .inl rfl⟩
    | @supplied shelf x xs backing hshelf hempty hshort hsupply =>
      obtain ⟨calls, hcalls, -, hreturns⟩ :=
        Recorded.exists_calls_supply flags (1 + batch * refillBatches) d.backing
      rw [hsupply] at hcalls
      exact ⟨calls, hcalls, .inr ⟨hreturns,
        Allocation.card_of_supplied hs hshelf hempty hshort hsupply⟩⟩
    | @refused shelf backing hshelf hempty hshort halloc =>
      have hcalls := Recorded.calls_alloc flags d.backing
      rw [halloc] at hcalls
      exact ⟨_, hcalls, .inl rfl⟩
  | released h =>
    cases h with
    | cached => exact ⟨[], (List.append_nil _).symm, .inl rfl⟩
    | overflowed => exact ⟨[], (List.append_nil _).symm, .inl rfl⟩
    | drained hshelf hfull hitems hlen hnoroom hshared hys hreclaim =>
      exact ⟨_, Recorded.calls_reclaim hreclaim, .inl (BackingCall.grants_freed _)⟩

end Calls

end TieredPool
