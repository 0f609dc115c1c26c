import Mathlib.Algebra.BigOperators.Group.Multiset.Basic
import Mathlib.Tactic.Abel
import TieredPool.Proofs.Pool.Exchange

/-!
# What an exchange conserves

Every element that an allocation or a free moves leaves one place for another: a queue, the backing
or the caller's hands. So the elements of a stock change by what came from the backing, what went
back to it and what changed hands (`Allocation.conserves`, `Release.conserves`), and the counts of
dealings with the backing change by as much.
-/

namespace TieredPool

section Sums

variable {α M : Type} [AddCommMonoid M]

theorem exists_sum_map_modify (f : α → M) {l : List α} {i : Nat} {x : α} (h : l[i]? = some x) :
    ∃ rest, (l.map f).sum = f x + rest ∧
      ∀ g : α → α, ((l.modify i g).map f).sum = f (g x) + rest := by
  induction l generalizing i with
  | nil => cases h
  | cons y l ih =>
    cases i with
    | zero =>
      cases h
      exact ⟨(l.map f).sum, List.sum_cons, fun g => List.sum_cons⟩
    | succ i =>
      obtain ⟨rest, hsum, hmodify⟩ := ih (List.getElem?_cons_succ.symm.trans h)
      refine ⟨f y + rest, ?_, fun g => ?_⟩
      · rw [List.map_cons, List.sum_cons, hsum, add_left_comm]
      · rw [List.modify_succ_cons, List.map_cons, List.sum_cons, hmodify, add_left_comm]

/-- Changing one member changes the sum by the new value less the old. -/
theorem sum_map_modify (f : α → M) (g : α → α) {l : List α} {i : Nat} {x : α}
    (h : l[i]? = some x) : ((l.modify i g).map f).sum + f x = (l.map f).sum + f (g x) := by
  obtain ⟨rest, hsum, hmodify⟩ := exists_sum_map_modify f h
  rw [hsum, hmodify]
  abel

/-- Changing a member in another respect changes nothing in this one. -/
theorem map_modify_of_eq {α γ : Type} {g : α → γ} {f : α → α} (i : Nat)
    (hf : ∀ x, g (f x) = g x) (l : List α) : (l.modify i f).map g = l.map g := by
  apply List.ext_getElem?
  intro j
  rw [List.getElem?_map, List.getElem?_map, List.getElem?_modify]
  cases l[j]? with
  | none => rfl
  | some x => by_cases hj : i = j <;> simp [hj, hf]

theorem coe_flatMap {α γ : Type} (l : List α) (f : α → List γ) :
    (l.flatMap f : Multiset γ) = (l.map fun x => (f x : Multiset γ)).sum := by
  induction l with
  | nil => rfl
  | cons x l ih => rw [List.flatMap_cons, ← Multiset.coe_add, ih, List.map_cons, List.sum_cons]

end Sums

namespace Stock

def elements (s : Stock) : Multiset Handle :=
  (s.shelves.map fun shelf => (shelf.items : Multiset Handle)).sum + s.shared

/-- The elements in the queues, in the order in which the pool gives them up. -/
def contents (s : Stock) : List Handle := s.shelves.flatMap Shelf.items ++ s.shared

theorem coe_contents (s : Stock) : (s.contents : Multiset Handle) = s.elements := by
  rw [contents, elements, ← Multiset.coe_add, coe_flatMap]

theorem card_elements (s : Stock) :
    s.elements.card = s.shared.length + (s.shelves.map fun shelf => shelf.items.length).sum := by
  rw [← coe_contents, Multiset.coe_card, contents, List.length_append, List.length_flatMap,
    Nat.add_comm]

/-- The elements on one shelf, those in the shared queue, and the others. -/
theorem exists_elements_eq {s : Stock} {cpu : Nat} {shelf : Shelf}
    (h : s.shelves[cpu]? = some shelf) :
    ∃ rest : Multiset Handle, s.elements = ↑shelf.items + ↑s.shared + rest := by
  obtain ⟨rest, hsum, -⟩ :=
    exists_sum_map_modify (fun shelf : Shelf => (shelf.items : Multiset Handle)) h
  refine ⟨rest, ?_⟩
  rw [elements, hsum]
  abel

theorem elements_onShelf {s : Stock} {cpu : Nat} {shelf : Shelf} {f : Shelf → Shelf}
    (h : s.shelves[cpu]? = some shelf) :
    (s.onShelf cpu f).elements + shelf.items = s.elements + (f shelf).items := by
  have hsum := sum_map_modify (fun shelf : Shelf => (shelf.items : Multiset Handle)) f h
  simp only [elements, onShelf]
  rw [add_right_comm, hsum, add_right_comm]

theorem contents_onShelf (s : Stock) (cpu : Nat) {f : Shelf → Shelf}
    (hf : ∀ shelf, (f shelf).items = shelf.items) : (s.onShelf cpu f).contents = s.contents := by
  rw [contents, onShelf, List.flatMap_def, map_modify_of_eq cpu hf, ← List.flatMap_def]
  rfl

theorem elements_refilled (s : Stock) (xs : List Handle) (traffic : Traffic) :
    ({ s with shared := s.shared ++ xs, traffic } : Stock).elements = s.elements + ↑xs := by
  simp only [elements, ← Multiset.coe_add, add_assoc]

/-- The first items of a local queue and of the shared one go, and an element with them that was in
neither. -/
theorem elements_drained {s : Stock} {cpu : Nat} {shelf : Shelf} {xs rest ys kept : List Handle}
    (x : Handle) (traffic : Traffic) (hshelf : s.shelves[cpu]? = some shelf)
    (hitems : shelf.items = xs ++ rest) (hshared : s.shared = ys ++ kept) {f : Shelf → Shelf}
    (hf : (f shelf).items = rest) :
    (({ s with shared := kept, traffic } : Stock).onShelf cpu f).elements + ↑(x :: xs ++ ys) =
      s.elements + {x} := by
  refine add_right_cancel (b := (shelf.items : Multiset Handle)) ?_
  rw [add_right_comm, elements_onShelf (by exact hshelf), hf, hitems]
  simp only [elements, hshared, ← Multiset.coe_add, ← Multiset.cons_coe, ← Multiset.singleton_add,
    List.cons_append]
  abel

/-- A stock keeps account of `n` elements of its own outside its queues: what it obtained is what it
returned, what it holds, and those. -/
def Accounts (s : Stock) (n : Nat) : Prop :=
  s.traffic.allocs = s.traffic.frees + s.elements.card + n

end Stock

variable {β : Type} [Backing β] [LawfulBacking β] {cpu : Nat} {d d' : Depot β}

/-- A backing takes back what the queues of a pool on it hold, and one element more. -/
theorem Stock.exists_reclaim {s : Stock} {shelf : Shelf} {b : β} {x : Handle} {m : Multiset Handle}
    (hout : LawfulBacking.Out b (s.elements + ↑[x] + m)) (hshelf : s.shelves[cpu]? = some shelf)
    (xs rest ys kept : List Handle) (hitems : shelf.items = xs ++ rest)
    (hshared : s.shared = ys ++ kept) :
    ∃ b', Backing.reclaim (x :: xs ++ ys) b = (.ok (), b') := by
  obtain ⟨others, helements⟩ := Stock.exists_elements_eq hshelf
  have hsplit : s.elements + ↑[x] + m = ↑(x :: xs ++ ys) + (↑rest + ↑kept + others + m) := by
    rw [helements, hitems, hshared, List.cons_append]
    simp only [← Multiset.coe_add, ← Multiset.cons_coe, ← Multiset.singleton_add,
      Multiset.coe_nil]
    abel
  rw [hsplit] at hout
  obtain ⟨b', hreclaim, -⟩ := LawfulBacking.out_reclaim hout
  exact ⟨b', hreclaim⟩

/-- **An allocation conserves elements**: those in the queues and the one handed out are those that
were in the queues and those that came from the backing, each of them counted. -/
theorem Allocation.conserves {flags : AllocFlags} {answer : Option Handle}
    (h : Allocation cpu flags d answer d') :
    ∃ got : List Handle,
      d'.stock.elements + ↑answer.toList = d.stock.elements + ↑got ∧
      d'.stock.traffic.allocs = d.stock.traffic.allocs + got.length ∧
      d'.stock.traffic.frees = d.stock.traffic.frees ∧
      ∀ m, LawfulBacking.Out d.backing m → LawfulBacking.Out d'.backing (↑got + m) := by
  cases h with
  | @cached shelf x rest hshelf hitems =>
    refine ⟨[], ?_, rfl, rfl, fun m hm => by simpa using hm⟩
    have hsum := Stock.elements_onShelf (f := fun s => { s with items := rest }) hshelf
    rw [hitems, ← List.singleton_append, ← Multiset.coe_add, ← add_assoc] at hsum
    simpa using add_right_cancel hsum
  | @shared shelf x xs rest hshelf hempty hshared hlen =>
    refine ⟨[], ?_, rfl, rfl, fun m hm => by simpa using hm⟩
    have hsum := Stock.elements_onShelf (s := { d.stock with shared := rest })
      (f := fun s => { s with items := xs, refills := s.refills + 1 }) hshelf
    rw [hempty, Multiset.coe_nil, add_zero] at hsum
    rw [hsum]
    simp only [Stock.elements, hshared, Option.toList_some, ← Multiset.cons_coe,
      ← Multiset.coe_add, Multiset.coe_nil, ← Multiset.singleton_add]
    abel
  | @supplied shelf x xs backing hshelf hempty hshort hsupply =>
    refine ⟨x :: xs, ?_, ?_, rfl, fun m hm => ?_⟩
    · rw [Stock.elements_refilled, Option.toList_some, Multiset.coe_singleton, ← Multiset.cons_coe,
        ← Multiset.singleton_add]
      abel
    · rw [List.length_cons, Nat.add_comm xs.length]
    · have hout := LawfulBacking.out_supply hm flags (1 + batch * refillBatches)
      rwa [hsupply] at hout
  | @refused shelf backing hshelf hempty hshort halloc =>
    refine ⟨[], rfl, rfl, rfl, fun m hm => ?_⟩
    simpa using LawfulBacking.alloc_none hm halloc

/-- **A free conserves elements**: those in the queues and those that went to the backing, each of
them counted, are those that were in the queues and the one that was freed. -/
theorem Release.conserves {x : Handle} (h : Release cpu x d d') :
    ∃ given : List Handle,
      d'.stock.elements + ↑given = d.stock.elements + {x} ∧
      d'.stock.traffic.allocs = d.stock.traffic.allocs ∧
      d'.stock.traffic.frees = d.stock.traffic.frees + given.length ∧
      ∀ m, LawfulBacking.Out d.backing (↑given + m) → LawfulBacking.Out d'.backing m := by
  cases h with
  | @cached shelf hshelf hroom =>
    refine ⟨[], ?_, rfl, rfl, fun m hm => by simpa using hm⟩
    have hsum := Stock.elements_onShelf
      (f := fun s => { s with items := shelf.items ++ [x] }) hshelf
    rw [← Multiset.coe_add, add_comm (shelf.items : Multiset Handle), ← add_assoc] at hsum
    simpa using add_right_cancel hsum
  | @overflowed shelf xs rest hshelf hfull hitems hlen hroom =>
    refine ⟨[], ?_, rfl, rfl, fun m hm => by simpa using hm⟩
    refine add_right_cancel (b := (shelf.items : Multiset Handle)) ?_
    rw [Multiset.coe_nil, add_zero, Stock.elements_onShelf (by exact hshelf), hitems]
    simp only [Stock.elements, ← Multiset.coe_add, ← Multiset.cons_coe, ← Multiset.singleton_add]
    abel
  | @drained shelf xs rest ys kept backing hshelf hfull hitems hlen hnoroom hshared hys hreclaim =>
    refine ⟨x :: xs ++ ys, ?_, rfl, ?_, fun m hm => ?_⟩
    · exact Stock.elements_drained x _ hshelf hitems hshared rfl
    · have hcount : (x :: xs ++ ys).length = batch * (1 + refillBatches) := by
        rw [List.length_append, List.length_cons, hlen, hys]
        rfl
      rw [hcount]
      rfl
    · obtain ⟨b, hback, hout⟩ := LawfulBacking.out_reclaim hm
      rw [hreclaim] at hback
      cases hback
      exact hout

end TieredPool
