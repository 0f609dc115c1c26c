import Mathlib.Data.List.Forall2
import TieredPool.Proofs.Backing.Limit

/-!
# Backings that answer alike

A heap names its elements by serial numbers. Another store, which names them in its own way, answers
alike if it has the same limit, no system refuses, and it had the same requests and returns
(`Recorded.Twins`). The `n`-th element that it handed out stands for the element with serial number
`n` (`Serial`); it may hand out the same name again later, and then that stands for another element.
Requests and returns keep such stores alike (`Recorded.Twins.alloc`, `Recorded.Twins.free`).
-/

namespace TieredPool

/-- In a list of the elements that were handed out, this one has a serial number. -/
def Serial (names : List Handle) (number name : Handle) : Prop := names[number]? = some name

theorem Serial.append {names : List Handle} {number name : Handle} (h : Serial names number name)
    (more : List Handle) : Serial (names ++ more) number name := by
  unfold Serial at h ⊢
  obtain ⟨hlt, -⟩ := List.getElem?_eq_some_iff.1 h
  rw [List.getElem?_append_left hlt, h]

theorem Serial.mono {names names' : List Handle} {number name : Handle}
    (h : Serial names number name) (hgrow : names <+: names') : Serial names' number name := by
  obtain ⟨more, rfl⟩ := hgrow
  exact h.append more

/-- The calls are of one kind, with elements that stand for each other. -/
inductive BackingCall.Twins (names : List Handle) : BackingCall → BackingCall → Prop
  | granted (flags : AllocFlags) {number name : Handle} (h : Serial names number name) :
    Twins names (.granted flags number) (.granted flags name)
  | refused (flags : AllocFlags) : Twins names (.refused flags) (.refused flags)
  | freed {number name : Handle} (h : Serial names number name) :
    Twins names (.freed number) (.freed name)

theorem BackingCall.Twins.mono {names names' : List Handle} {c c' : BackingCall}
    (h : Twins names c c') (hgrow : names <+: names') : Twins names' c c' := by
  cases h with
  | granted flags h => exact .granted flags (h.mono hgrow)
  | refused flags => exact .refused flags
  | freed h => exact .freed (h.mono hgrow)

def BackingCall.granted? : BackingCall → Option Handle
  | granted _ handle => some handle
  | _ => none

namespace Recorded

/-- The elements that a backing has handed out, in order. Those that came back are among them. -/
def handedOut {β : Type} (r : Recorded β) : List Handle :=
  r.calls.toList.filterMap BackingCall.granted?

/-- A heap and another store that answered the same requests and returns, under the same limit. -/
structure Twins (names : List Handle) (r r' : Recorded Store) : Prop where
  heap : ∃ h, r.backing = .heap h
  limited : ∃ limit, r.backing.Limited (some limit) ∧ r'.backing.Limited (some limit)
  tally_eq : r'.backing.tally = r.backing.tally
  handedOut_eq : r'.handedOut = names
  length_eq : names.length = r.backing.tally.allocations
  calls : List.Forall₂ (BackingCall.Twins names) r.calls.toList r'.calls.toList

end Recorded

/-- The element that a heap hands out has the next serial number. -/
theorem Heap.alloc_eq_some {h h' : Heap} {flags : AllocFlags} {x : Handle}
    (halloc : h.alloc flags = (some x, h')) : x = h.tally.allocations := by
  rw [alloc, reserve?] at halloc
  by_cases hlimit : h.atLimit = true
  · simp [hlimit, refuse] at halloc
  · by_cases hsystem : h.systemRefuses h.requests = true
    · simp [hlimit, hsystem, refuse] at halloc
    · simp only [hlimit, hsystem, grant, Bool.false_eq_true, ↓reduceIte, Prod.mk.injEq,
        Option.some.injEq] at halloc
      exact halloc.1.symm

namespace Recorded.Twins

variable {names : List Handle} {r r' s s' : Recorded Store} {m m' : Multiset Handle}

theorem card_eq (h : Twins names r r') (hout : r.backing.Audited m)
    (hout' : r'.backing.Audited m') : m'.card = m.card := by
  have hbalanced := hout.balanced
  have hbalanced' := hout'.balanced
  rw [h.tally_eq] at hbalanced'
  omega

/-- **A request** is met by both or refused by both. -/
theorem alloc (h : Twins names r r') (hout : auditing.Out r m) (hout' : auditing.Out r' m')
    (flags : AllocFlags) :
    (∃ s s', Backing.alloc flags r = (none, s) ∧ Backing.alloc flags r' = (none, s') ∧
      Twins names s s') ∨
    ∃ name s s', Backing.alloc flags r = (some names.length, s) ∧
      Backing.alloc flags r' = (some name, s') ∧ Twins (names ++ [name]) s s' := by
  have hcard := h.card_eq hout.1 hout'.1
  obtain ⟨⟨heap, hheap⟩, ⟨limit, hlimited, hlimited'⟩, htally, hnames, hlength, hcalls⟩ := h
  obtain ⟨store, calls⟩ := r
  obtain ⟨store', calls'⟩ := r'
  dsimp only at hheap hlimited hlimited' htally hlength hcalls
  subst hheap
  -- both refuse if so many elements are out as the limit says
  have hrefuses : ((Store.heap heap).alloc flags).1 = none ↔ limit ≤ m.card := by
    rw [Store.alloc_eq_none_iff hout.1.out hlimited.system, hlimited.limit_eq]
    simp
  have hrefuses' : (store'.alloc flags).1 = none ↔ limit ≤ m.card := by
    rw [Store.alloc_eq_none_iff hout'.1.out hlimited'.system, hlimited'.limit_eq, hcard]
    simp
  have hkept := (Store.keeps_limited (some limit)).alloc flags hlimited
  have hkept' := (Store.keeps_limited (some limit)).alloc flags hlimited'
  have hcounts := Store.tally_alloc (.heap heap) flags
  have hcounts' := Store.tally_alloc store' flags
  have hheap : ∃ h, ((Store.heap heap).alloc flags).2 = .heap h := ⟨_, rfl⟩
  have hserial : ∀ x, ((Store.heap heap).alloc flags).1 = some x → x = names.length := by
    intro x hx
    rw [hlength]
    exact Heap.alloc_eq_some (Prod.ext hx rfl)
  simp only [Backing.alloc, Recorded.alloc] at hkept hkept' ⊢
  rcases halloc : (Store.heap heap).alloc flags with ⟨_ | x, b⟩ <;>
    rcases halloc' : store'.alloc flags with ⟨_ | name, b'⟩ <;>
    simp only [halloc, halloc'] at *
  · refine .inl ⟨_, _, rfl, rfl, hheap, ⟨limit, hkept, hkept'⟩, ?_, ?_, ?_, ?_⟩
    · simp only [hcounts, hcounts', htally, Option.isSome_none, Bool.false_eq_true, ↓reduceIte]
    · rw [handedOut, Array.toList_push, List.filterMap_append]
      exact (List.append_nil _).trans hnames
    · rw [hlength, hcounts]
      rfl
    · rw [Array.toList_push, Array.toList_push]
      exact List.rel_append hcalls (.cons (.refused flags) .nil)
  · exact absurd (hrefuses'.2 (hrefuses.1 trivial)) (by simp)
  · exact absurd (hrefuses.2 (hrefuses'.1 trivial)) (by simp)
  · obtain rfl := hserial x rfl
    have hgrow : names <+: names ++ [name] := ⟨_, rfl⟩
    refine .inr ⟨name, _, _, rfl, rfl, hheap, ⟨limit, hkept, hkept'⟩, ?_, ?_, ?_, ?_⟩
    · simp only [hcounts, hcounts', htally, Option.isSome_some, ↓reduceIte]
    · rw [handedOut, Array.toList_push, List.filterMap_append]
      exact congrArg (· ++ [name]) hnames
    · rw [List.length_append, hlength, hcounts]
      rfl
    · rw [Array.toList_push, Array.toList_push]
      refine List.rel_append (hcalls.imp fun _ _ hc => hc.mono hgrow) (.cons (.granted flags ?_) .nil)
      rw [Serial, List.getElem?_append_right (Nat.le_refl _), Nat.sub_self]
      rfl

/-- **A return** of elements that stand for each other keeps both alike. -/
theorem free (h : Twins names r r') {number name : Handle}
    (hserial : Serial names number name) (hfree : Backing.free number r = (.ok (), s))
    (hfree' : Backing.free name r' = (.ok (), s')) : Twins names s s' := by
  obtain ⟨⟨heap, hheap⟩, ⟨limit, hlimited, hlimited'⟩, htally, hnames, hlength, hcalls⟩ := h
  obtain ⟨store, calls⟩ := r
  obtain ⟨store', calls'⟩ := r'
  dsimp only at hheap hlimited hlimited' htally hlength hcalls
  subst hheap
  have hkept := (Store.keeps_limited (some limit)).free number hlimited
  have hkept' := (Store.keeps_limited (some limit)).free name hlimited'
  simp only [Backing.free, Recorded.free] at hkept hkept' hfree hfree'
  rcases hstore' : store'.free name with ⟨_ | _, b'⟩ <;> rw [hstore'] at hkept' hfree'
  · cases hfree'
  cases hfree
  cases hfree'
  refine ⟨⟨_, rfl⟩, ⟨limit, hkept, hkept'⟩, ?_, ?_, hlength, ?_⟩
  · rw [Store.tally_free hstore', htally]
    rfl
  · rw [handedOut, Array.toList_push, List.filterMap_append]
    exact (List.append_nil _).trans hnames
  · rw [Array.toList_push, Array.toList_push]
    exact List.rel_append hcalls (.cons (.freed hserial) .nil)

/-- **A run of requests** brings as many elements, which stand for each other. -/
theorem supply (h : Twins names r r') (hout : auditing.Out r m) (hout' : auditing.Out r' m')
    (flags : AllocFlags) (count : Nat) :
    ∃ more, List.Forall₂ (Serial (names ++ more)) (Backing.supply flags count r).1
        (Backing.supply flags count r').1 ∧
      Twins (names ++ more) (Backing.supply flags count r).2
        (Backing.supply flags count r').2 := by
  let _ := auditing
  induction count generalizing names r r' m m' with
  | zero => exact ⟨[], .nil, by rwa [List.append_nil]⟩
  | succ count ih =>
    rw [Backing.supply, Backing.supply]
    rcases h.alloc hout hout' flags with ⟨s, s', halloc, halloc', htwins⟩ |
      ⟨name, s, s', halloc, halloc', htwins⟩
    · rw [halloc, halloc']
      exact ⟨[], .nil, by rwa [List.append_nil]⟩
    · obtain ⟨more, hitems, hrest⟩ := ih htwins (LawfulBacking.alloc_some hout halloc)
        (LawfulBacking.alloc_some hout' halloc')
      rw [halloc, halloc']
      refine ⟨name :: more, ?_, ?_⟩
      · rw [List.append_cons]
        refine .cons (Serial.append ?_ more) hitems
        rw [Serial, List.getElem?_append_right (Nat.le_refl _), Nat.sub_self]
        rfl
      · rw [List.append_cons]
        exact hrest

/-- **A run of returns** of elements that stand for each other keeps both alike. -/
theorem reclaim (h : Twins names r r') {items items' : List Handle}
    (hitems : List.Forall₂ (Serial names) items items')
    (hreclaim : Backing.reclaim items r = (.ok (), s))
    (hreclaim' : Backing.reclaim items' r' = (.ok (), s')) : Twins names s s' := by
  induction hitems generalizing r r' with
  | nil =>
    cases hreclaim
    cases hreclaim'
    exact h
  | @cons x x' items items' hserial hrest ih =>
    rw [Backing.reclaim] at hreclaim hreclaim'
    rcases hfree : Backing.free x r with ⟨_ | _, t⟩ <;> rw [hfree] at hreclaim
    · cases hreclaim
    rcases hfree' : Backing.free x' r' with ⟨_ | _, t'⟩ <;> rw [hfree'] at hreclaim'
    · cases hreclaim'
    exact ih (h.free hserial hfree hfree') hreclaim hreclaim'

end Recorded.Twins

end TieredPool
