import TieredPool.Proofs.Pool.Flow
import TieredPool.Proofs.Pool.Retirement

/-!
# Dealings of a caller with a pool

Whatever a caller does on a CPU of a pool is a `Dealing`: taking or ending the lease, allocating or
freeing. It says which elements the caller parted with and which the caller got. Each invariant of a
stock is kept by every dealing.
-/

namespace TieredPool

variable {β : Type} [Backing β]

/-- What a caller did on a CPU, with the elements that the caller parted with and got. -/
inductive Dealing (cpu : Nat) (d : Depot β) : List Handle → List Handle → Depot β → Prop
  | leased {shelf : Shelf} (hshelf : d.stock.shelves[cpu]? = some shelf) :
    Dealing cpu d [] []
      { d with
        stock := d.stock.onShelf cpu fun shelf => { shelf with leased := true, owner := some cpu } }
  | unleased {shelf : Shelf} (hshelf : d.stock.shelves[cpu]? = some shelf) :
    Dealing cpu d [] []
      { d with stock := d.stock.onShelf cpu fun shelf => { shelf with leased := false } }
  | allocated {flags : AllocFlags} {answer : Option Handle} {d' : Depot β}
      (h : Allocation cpu flags d answer d') : Dealing cpu d [] answer.toList d'
  | released {x : Handle} {d' : Depot β} (h : Release cpu x d d') : Dealing cpu d [x] [] d'

namespace Dealing

variable {cpu : Nat} {d d' : Depot β} {taken given : List Handle}

/-- What a pool is does not change. -/
theorem shape_eq (h : Dealing cpu d taken given d') :
    d'.stock.id = d.stock.id ∧ d'.stock.preallocated = d.stock.preallocated ∧
      d'.stock.localSize = d.stock.localSize ∧ d'.stock.sharedSize = d.stock.sharedSize := by
  cases h with
  | leased => exact ⟨rfl, rfl, rfl, rfl⟩
  | unleased => exact ⟨rfl, rfl, rfl, rfl⟩
  | allocated h => cases h <;> exact ⟨rfl, rfl, rfl, rfl⟩
  | released h => cases h <;> exact ⟨rfl, rfl, rfl, rfl⟩

theorem sound (h : Dealing cpu d taken given d') (hs : d.stock.Sound) : d'.stock.Sound := by
  cases h with
  | leased => exact hs.onShelf fun shelf hshelf => hs.items_lt shelf (List.mem_of_getElem? hshelf)
  | unleased => exact hs.onShelf fun shelf hshelf => hs.items_lt shelf (List.mem_of_getElem? hshelf)
  | allocated h => exact h.sound hs
  | released h => exact h.sound hs

theorem flow (h : Dealing cpu d taken given d') (hf : d.stock.Flow) : d'.stock.Flow := by
  cases h with
  | leased hshelf =>
    exact hf.move (r := 0) (o := 0) (n := 0) hshelf rfl (fun _ => rfl) (fun _ => rfl) (fun _ => rfl)
      (Nat.le_refl 0) rfl rfl rfl
  | unleased hshelf =>
    exact hf.move (r := 0) (o := 0) (n := 0) hshelf rfl (fun _ => rfl) (fun _ => rfl) (fun _ => rfl)
      (Nat.le_refl 0) rfl rfl rfl
  | allocated h => exact h.flow hf
  | released h => exact h.flow hf

theorem elements_onShelf (s : Stock) (cpu : Nat) {f : Shelf → Shelf}
    (hf : ∀ shelf, (f shelf).items = shelf.items) : (s.onShelf cpu f).elements = s.elements := by
  rw [← Stock.coe_contents, Stock.contents_onShelf s cpu hf, Stock.coe_contents]

/-- The pool's account stays right: elements that the caller parted with are no longer out, and
those that the caller got are. -/
theorem accounts [LawfulBacking β] (h : Dealing cpu d taken given d') {n : Nat}
    (ha : d.stock.Accounts (n + taken.length)) : d'.stock.Accounts (n + given.length) := by
  cases h with
  | leased =>
    rw [Stock.Accounts, elements_onShelf _ _ (by exact fun _ => rfl)]
    exact ha
  | unleased =>
    rw [Stock.Accounts, elements_onShelf _ _ (by exact fun _ => rfl)]
    exact ha
  | @allocated flags answer d' h =>
    obtain ⟨got, helements, hallocs, hfrees, -⟩ := h.conserves
    have hcard := congrArg Multiset.card helements
    simp only [Multiset.card_add, Multiset.coe_card] at hcard
    simp only [Stock.Accounts, List.length_nil] at ha ⊢
    omega
  | @released x d' h =>
    obtain ⟨back, helements, hallocs, hfrees, -⟩ := h.conserves
    have hcard := congrArg Multiset.card helements
    simp only [Multiset.card_add, Multiset.coe_card, Multiset.card_singleton] at hcard
    simp only [Stock.Accounts, List.length_nil, List.length_singleton] at ha ⊢
    omega

/-- The elements out of the backing stay those that the pool holds, those that the caller has from
it, and the others. -/
theorem out [LawfulBacking β] (h : Dealing cpu d taken given d') {m : Multiset Handle}
    (hout : LawfulBacking.Out d.backing (d.stock.elements + ↑taken + m)) :
    LawfulBacking.Out d'.backing (d'.stock.elements + ↑given + m) := by
  cases h with
  | leased => rwa [elements_onShelf _ _ (by exact fun _ => rfl)]
  | unleased => rwa [elements_onShelf _ _ (by exact fun _ => rfl)]
  | allocated h =>
    obtain ⟨got, helements, -, -, hmove⟩ := h.conserves
    rw [helements, add_comm d.stock.elements, add_assoc]
    rw [Multiset.coe_nil, add_zero] at hout
    exact hmove _ hout
  | @released x d' h =>
    obtain ⟨back, helements, -, -, hmove⟩ := h.conserves
    rw [Multiset.coe_nil, add_zero]
    rw [Multiset.coe_singleton, ← helements, add_comm d'.stock.elements, add_assoc] at hout
    exact hmove _ hout

end Dealing

/-! ## Leases -/

/-- Which CPUs are leased, by number. -/
def Stock.leases (s : Stock) : List Bool := s.shelves.map Shelf.leased

theorem Stock.leases_getElem?_eq_some {s : Stock} {cpu : Nat} {leased : Bool} :
    s.leases[cpu]? = some leased ↔
      ∃ shelf, s.shelves[cpu]? = some shelf ∧ shelf.leased = leased := by
  rw [leases, List.getElem?_map, Option.map_eq_some_iff]

theorem Pool.leases_getElem? (p : Pool) (cpu : Nat) :
    p.stock.leases[cpu]? = p.caches[cpu]?.map Cache.leased := by
  rw [Stock.leases, List.getElem?_map, stock_shelves_getElem?, Option.map_map]
  rfl

theorem Pool.length_leases (p : Pool) : p.stock.leases.length = p.cpus := by
  rw [Stock.leases, List.length_map, stock, List.length_map, Array.length_toList]
  rfl

theorem Pool.leaseOf?_eq (p : Pool) (cpu : Nat) :
    p.leaseOf? cpu = if p.stock.leases[cpu]? = some true then some ⟨p.id, cpu⟩ else none := by
  rw [leases_getElem?, leaseOf?]
  rcases p.caches[cpu]? with _ | cache
  · rfl
  · simp

theorem Pool.isSome_leaseOf? {p : Pool} {cpu : Nat} {leased : Bool}
    (h : p.stock.leases[cpu]? = some leased) : (p.leaseOf? cpu).isSome = leased := by
  rw [leaseOf?_eq, h]
  cases leased <;> rfl

/-- Whether a CPU can be leased depends on the leases alone. -/
theorem Pool.lease_answer (p : Pool) (cpu : Nat) :
    (p.lease cpu).1 = match p.stock.leases[cpu]? with
      | none => .error (.invalidCpu cpu p.cpus)
      | some true => .error (.busy cpu)
      | some false => .ok ⟨p.id, cpu⟩ := by
  rw [leases_getElem?, lease]
  rcases p.caches[cpu]? with _ | cache
  · rfl
  · rcases hleased : cache.leased with _ | _ <;> simp [hleased]

theorem Stock.leases_onShelf (s : Stock) (cpu : Nat) {f : Shelf → Shelf}
    (hf : ∀ shelf, (f shelf).leased = shelf.leased) : (s.onShelf cpu f).leases = s.leases :=
  map_modify_of_eq cpu hf s.shelves

theorem Stock.leases_set {s : Stock} {cpu : Nat} {shelf : Shelf} {f : Shelf → Shelf}
    (hshelf : s.shelves[cpu]? = some shelf) :
    (s.onShelf cpu f).leases = s.leases.set cpu (f shelf).leased := by
  obtain ⟨hcpu, rfl⟩ := List.getElem?_eq_some_iff.1 hshelf
  rw [leases, onShelf, List.modify_eq_set_get f hcpu, List.map_set]
  rfl

theorem Allocation.leases_eq {cpu : Nat} {flags : AllocFlags} {answer : Option Handle}
    {d d' : Depot β} (h : Allocation cpu flags d answer d') : d'.stock.leases = d.stock.leases := by
  cases h with
  | cached => exact Stock.leases_onShelf _ _ fun _ => rfl
  | shared => exact Stock.leases_onShelf _ _ fun _ => rfl
  | supplied => rfl
  | refused => rfl

theorem Release.leases_eq {cpu : Nat} {x : Handle} {d d' : Depot β} (h : Release cpu x d d') :
    d'.stock.leases = d.stock.leases := by
  cases h <;> exact Stock.leases_onShelf _ _ fun _ => rfl

end TieredPool
