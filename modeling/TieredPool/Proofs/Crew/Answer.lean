import TieredPool.Proofs.Crew.Machine
import TieredPool.Proofs.Crew.Reliance
import TieredPool.Proofs.Pool.Conservation

/-!
# Answers to a lease's calls

`View.Holds` ties a view to the pool that it is a view of. A call in order is answered without a
fault, and the view after it holds of the pool after it (`Call.After.answer`). What another member
sees of it is a change in the length of the shared queue, and its view holds on
(`View.Holds.notice`).
-/

namespace TieredPool

namespace Stock

def seat (s : Stock) (cpu : Nat) : Seat := ⟨⟨s.id, cpu⟩, s.localSize, s.sharedSize⟩

theorem Sound.seat {s : Stock} (h : s.Sound) (cpu : Nat) : (s.seat cpu).Sound :=
  ⟨h.localSize_ge, h.sharedSize_ge⟩

def localLength? (s : Stock) (cpu : Nat) : Option Nat :=
  s.shelves[cpu]?.map fun shelf => shelf.items.length

theorem localLength?_eq_some {s : Stock} {cpu n : Nat} (h : s.localLength? cpu = some n) :
    ∃ shelf, s.shelves[cpu]? = some shelf ∧ shelf.items.length = n :=
  Option.map_eq_some_iff.1 h

theorem localLength?_onShelf {s : Stock} {cpu : Nat} {shelf : Shelf} {f : Shelf → Shelf}
    (h : s.shelves[cpu]? = some shelf) :
    (s.onShelf cpu f).localLength? cpu = some (f shelf).items.length := by
  rw [localLength?, onShelf, List.getElem?_modify_eq, h]
  rfl

theorem localLength?_onShelf_of_ne {s : Stock} {cpu i : Nat} {f : Shelf → Shelf} (h : i ≠ cpu) :
    (s.onShelf cpu f).localLength? i = s.localLength? i := by
  simp only [localLength?, onShelf, List.getElem?_modify, if_neg (Ne.symm h)]
  cases s.shelves[i]? <;> rfl

theorem localLength?_onShelf_of_items (s : Stock) (cpu i : Nat) {f : Shelf → Shelf}
    (hf : ∀ shelf, (f shelf).items = shelf.items) :
    (s.onShelf cpu f).localLength? i = s.localLength? i := by
  rw [localLength?, onShelf, List.getElem?_modify, localLength?]
  cases s.shelves[i]? with
  | none => rfl
  | some shelf => by_cases hi : cpu = i <;> simp [hi, hf]

end Stock

/-- The view is right about the pool, given what the member has noticed of the others. -/
structure View.Holds (v : View) (s : Stock) (cpu : Nat) (m : Member) : Prop where
  own : s.localLength? cpu = some v.own
  least_le : v.least ≤ s.shared.length + m.removed
  le_most : s.shared.length ≤ v.most + m.added
  crowded : v.crowded = true → s.sharedSize ≤ m.added + slack
  starved : v.starved = true → s.sharedSize ≤ m.removed + slack

/-- Others may change all but the member's own queue. -/
theorem View.Holds.notice {v : View} {s s' : Stock} {cpu : Nat} {m : Member}
    (h : v.Holds s cpu m) (hown : s'.localLength? cpu = s.localLength? cpu)
    (hsize : s'.sharedSize = s.sharedSize) :
    v.Holds s' cpu (m.notice s.shared.length s'.shared.length) := by
  have hleast := h.least_le
  have hmost := h.le_most
  refine ⟨hown.trans h.own, ?_, ?_, fun hc => ?_, fun hs => ?_⟩
  · simp only [Member.notice]
    omega
  · simp only [Member.notice]
    omega
  · have := h.crowded hc
    simp only [Member.notice]
    omega
  · have := h.starved hs
    simp only [Member.notice]
    omega

variable {β : Type} [Backing β] [LawfulBacking β]

/-- What a member's call has done: the pool is sound and has its shape, the other local queues are
untouched, the view after the call holds, and every element out is accounted for. -/
structure Call.Answered (cpu : Nat) (c : Call) (answer : c.Answer) (m : Member)
    (others : Multiset Handle) (d d' : Depot β) (v' : View) : Prop where
  sound : d'.stock.Sound
  seat_eq : d'.stock.seat = d.stock.seat
  localLength_eq {i : Nat} : i ≠ cpu → d'.stock.localLength? i = d.stock.localLength? i
  holds : v'.Holds d'.stock cpu (m.hear c answer)
  out : LawfulBacking.Out d'.backing (d'.stock.elements + v'.carried + others)

namespace Call

variable {cpu : Nat} {m : Member} {others : Multiset Handle} {d : Depot β} {v : View} {c : Call}
  {answer : c.Answer}

/-- The call has put other items on the member's shelf. -/
theorem answered_onShelf {shelf : Shelf} {items : List Handle} {carried : Multiset Handle}
    (hs : d.stock.Sound) (hv : v.Holds d.stock cpu m) (hhear : m.hear c answer = m)
    (hshelf : d.stock.shelves[cpu]? = some shelf) (hlt : items.length < d.stock.localSize)
    (hcarried : ↑shelf.items + v.carried = ↑items + carried)
    (hout : LawfulBacking.Out d.backing (d.stock.elements + v.carried + others)) :
    c.Answered cpu answer m others d
      { d with stock := d.stock.onShelf cpu fun shelf => { shelf with items } }
      { v with own := items.length, carried } := by
  refine ⟨hs.onShelf fun _ _ => hlt, rfl, Stock.localLength?_onShelf_of_ne, ?_, ?_⟩
  · rw [hhear]
    exact ⟨Stock.localLength?_onShelf hshelf, hv.least_le, hv.le_most, hv.crowded, hv.starved⟩
  · have hsum := Stock.elements_onShelf (f := fun shelf => { shelf with items }) hshelf
    have hsame : d.stock.elements + v.carried =
        (d.stock.onShelf cpu fun shelf => { shelf with items }).elements + carried := by
      refine add_right_cancel (b := (shelf.items : Multiset Handle)) ?_
      rw [add_right_comm _ carried, hsum, add_assoc, add_assoc, add_comm v.carried, hcarried]
    rwa [hsame] at hout

/-- The call has put other items in the shared queue. -/
theorem answered_shared (items : List Handle) {v' : View} (hs : d.stock.Sound)
    (hown : d.stock.localLength? cpu = some v'.own) (hlt : items.length < d.stock.sharedSize)
    (hleast : v'.least ≤ items.length + (m.hear c answer).removed)
    (hmost : items.length ≤ v'.most + (m.hear c answer).added)
    (hcrowded : v'.crowded = true → d.stock.sharedSize ≤ (m.hear c answer).added + slack)
    (hstarved : v'.starved = true → d.stock.sharedSize ≤ (m.hear c answer).removed + slack)
    (hcarried : ↑d.stock.shared + v.carried = ↑items + v'.carried)
    (hout : LawfulBacking.Out d.backing (d.stock.elements + v.carried + others)) :
    c.Answered cpu answer m others d { d with stock := { d.stock with shared := items } } v' := by
  refine ⟨hs.setShared hlt, rfl, fun _ => rfl, ⟨hown, hleast, hmost, hcrowded, hstarved⟩, ?_⟩
  rw [Stock.elements, add_assoc _ _ v.carried, hcarried] at hout
  rwa [Stock.elements, add_assoc _ _ v'.carried]

/-- The call has left all queues as they are. -/
theorem answered_aside {d' : Depot β} {carried : Multiset Handle} (hv : v.Holds d.stock cpu m)
    (hhear : m.hear c answer = m) (hs : d'.stock.Sound) (hseat : d'.stock.seat = d.stock.seat)
    (hlocal : ∀ i, d'.stock.localLength? i = d.stock.localLength? i)
    (hshared : d'.stock.shared = d.stock.shared)
    (hout : LawfulBacking.Out d'.backing (d'.stock.elements + carried + others)) :
    c.Answered cpu answer m others d d' { v with carried } := by
  have hsize : d'.stock.sharedSize = d.stock.sharedSize :=
    congrArg (fun seat => (seat cpu).sharedSize) hseat
  refine ⟨hs, hseat, fun _ => hlocal _, ?_, hout⟩
  rw [hhear]
  refine ⟨(hlocal cpu).trans hv.own, ?_, ?_, fun hc => ?_, fun hst => ?_⟩
  · rw [hshared]
    exact hv.least_le
  · rw [hshared]
    exact hv.le_most
  · rw [hsize]
    exact hv.crowded hc
  · rw [hsize]
    exact hv.starved hst

/-- The call is answered without a fault, as `Q` has it. -/
def Meets (c : Call) (Q : c.Answer → View → Prop) (cpu : Nat) (m : Member)
    (others : Multiset Handle) (d : Depot β) : Prop :=
  ∃ answer d' v', d.perform c = (.ok answer, d') ∧ Q answer v' ∧
    c.Answered cpu answer m others d d' v'

theorem After.meets_push {queue : Queue} {access : Ring.Access} {items : List Handle}
    {Q : Bool → View → Prop} (h : (push queue access items).After (d.stock.seat cpu) v Q)
    (hs : d.stock.Sound) (hv : v.Holds d.stock cpu m)
    (hout : LawfulBacking.Out d.backing (d.stock.elements + v.carried + others)) :
    (push queue access items).Meets Q cpu m others d := by
  cases queue <;> cases access <;> simp only [After] at h
  · obtain ⟨rest, hcarried, htrue, hfalse⟩ := h
    have hleast := hv.least_le
    have hmost := hv.le_most
    by_cases hfit : d.stock.shared.length + items.length < d.stock.sharedSize
    · have hpush := Routine.runOn_push_shared items hfit
      refine ⟨true, _, _, (Routine.runOn_ask _ d).symm.trans hpush, htrue,
        answered_shared _ hs hv.own ?_ ?_ ?_ hv.crowded hv.starved ?_ hout⟩
      · rwa [List.length_append]
      · simp only [List.length_append, Member.hear]
        omega
      · simp only [List.length_append, Member.hear]
        omega
      · rw [hcarried, ← Multiset.coe_add, add_assoc]
    · have hpush := Routine.runOn_push_shared_false items (Nat.le_of_not_lt hfit)
      refine ⟨false, _, _, (Routine.runOn_ask _ d).symm.trans hpush, hfalse,
        answered_shared d.stock.shared hs hv.own hs.shared_lt ?_ hmost ?_ (fun h => by cases h) rfl
          hout⟩
      · simp only [Stock.seat, Member.hear]
        omega
      · intro hcrowded
        have := of_decide_eq_true hcrowded
        simp only [Member.hear]
        omega
  · obtain ⟨rfl, rest, hcarried, htrue, hfalse⟩ := h
    obtain ⟨shelf, hshelf, hown⟩ := Stock.localLength?_eq_some hv.own
    by_cases hfit : shelf.items.length + items.length < d.stock.localSize
    · have hpush := Routine.runOn_push_cache hshelf items hfit
      rw [← hown, ← List.length_append] at htrue
      refine ⟨true, _, _, (Routine.runOn_ask _ d).symm.trans hpush, htrue ?_,
        answered_onShelf hs hv rfl hshelf ?_ ?_ hout⟩
      · rwa [List.length_append]
      · rwa [List.length_append]
      · rw [hcarried, ← Multiset.coe_add, add_assoc]
    · have hpush := Routine.runOn_push_cache_false hshelf items (Nat.le_of_not_lt hfit)
      refine ⟨false, _, _, (Routine.runOn_ask _ d).symm.trans hpush, hfalse ?_,
        answered_aside hv rfl hs rfl (fun _ => rfl) rfl hout⟩
      rw [← hown]
      exact Nat.le_of_not_lt hfit

theorem After.meets_pull {queue : Queue} {access : Ring.Access} {n : Nat}
    {Q : Option (List Handle) → View → Prop}
    (h : (pull queue access n).After (d.stock.seat cpu) v Q)
    (hs : d.stock.Sound) (hv : v.Holds d.stock cpu m)
    (hout : LawfulBacking.Out d.backing (d.stock.elements + v.carried + others)) :
    (pull queue access n).Meets Q cpu m others d := by
  cases queue <;> cases access <;> simp only [After] at h
  · have hleast := hv.least_le
    have hmost := hv.le_most
    by_cases hthere : n ≤ d.stock.shared.length
    · obtain ⟨items, rest, hshared, rfl⟩ := exists_front hthere
      have hpull := Routine.runOn_pull_shared hshared
      have hlt := hs.shared_lt
      rw [hshared, List.length_append] at hleast hmost hlt
      refine ⟨some items, _, _, (Routine.runOn_ask _ d).symm.trans hpull, h.1 items rfl,
        answered_shared _ hs hv.own ?_ ?_ ?_ hv.crowded hv.starved ?_ hout⟩
      · omega
      · simp only [Member.hear]
        omega
      · simp only [Member.hear]
        omega
      · rw [hshared, ← Multiset.coe_add, add_comm (items : Multiset Handle), add_assoc]
    · have hpull := Routine.runOn_pull_shared_none (Nat.lt_of_not_le hthere)
      refine ⟨none, _, _, (Routine.runOn_ask _ d).symm.trans hpull, h.2,
        answered_shared d.stock.shared hs hv.own hs.shared_lt hleast ?_ (fun h => by cases h) ?_ rfl
          hout⟩
      · simp only [Member.hear]
        omega
      · intro hstarved
        have := of_decide_eq_true hstarved
        simp only [Stock.seat, Member.hear] at this ⊢
        omega
  · obtain ⟨rfl, hsome, hnone⟩ := h
    obtain ⟨shelf, hshelf, hown⟩ := Stock.localLength?_eq_some hv.own
    by_cases hthere : n ≤ shelf.items.length
    · obtain ⟨items, rest, hsplit, rfl⟩ := exists_front hthere
      have hpull := Routine.runOn_pull_cache hshelf hsplit
      have hlt := hs.items_lt_of_getElem? hshelf
      rw [hsplit, List.length_append] at hlt hown
      have hrest : v.own - items.length = rest.length := by omega
      have hanswer := hsome (by omega) items rfl
      rw [hrest] at hanswer
      refine ⟨some items, _, _, (Routine.runOn_ask _ d).symm.trans hpull, hanswer,
        answered_onShelf hs hv rfl hshelf (by omega) ?_ hout⟩
      rw [hsplit, ← Multiset.coe_add, add_comm (items : Multiset Handle), add_assoc]
    · have hpull := Routine.runOn_pull_cache_none hshelf (Nat.lt_of_not_le hthere)
      refine ⟨none, _, _, (Routine.runOn_ask _ d).symm.trans hpull, hnone ?_,
        answered_aside hv rfl hs rfl (fun _ => rfl) rfl hout⟩
      rw [← hown]
      exact Nat.lt_of_not_le hthere

theorem After.meets_request {flags : AllocFlags} {Q : Option Handle → View → Prop}
    (h : (request flags).After (d.stock.seat cpu) v Q) (hs : d.stock.Sound)
    (hv : v.Holds d.stock cpu m)
    (hout : LawfulBacking.Out d.backing (d.stock.elements + v.carried + others)) :
    (request flags).Meets Q cpu m others d := by
  have hgot := LawfulBacking.alloc hout flags
  rw [add_comm _ (d.stock.elements + v.carried + others), add_right_comm,
    add_assoc d.stock.elements, add_comm v.carried] at hgot
  rcases halloc : Backing.alloc flags d.backing with ⟨_ | x, b⟩ <;> rw [halloc] at hgot
  · exact ⟨none, ⟨d.stock, b⟩, _, by rw [Depot.perform, halloc], h none,
      answered_aside hv rfl hs rfl (fun _ => rfl) rfl hgot⟩
  · exact ⟨some x, ⟨d.stock.countAllocs 1, b⟩, _, by rw [Depot.perform, halloc], h (some x),
      answered_aside hv rfl ⟨hs.localSize_ge, hs.sharedSize_ge, hs.shared_lt, hs.items_lt⟩ rfl
        (fun _ => rfl) rfl hgot⟩

theorem After.meets_giveBack {x : Handle} {Q : Unit → View → Prop}
    (h : (giveBack x).After (d.stock.seat cpu) v Q) (hs : d.stock.Sound)
    (hv : v.Holds d.stock cpu m)
    (hout : LawfulBacking.Out d.backing (d.stock.elements + v.carried + others)) :
    (giveBack x).Meets Q cpu m others d := by
  obtain ⟨rest, hcarried, hrest⟩ := h
  rw [hcarried, Multiset.add_cons, Multiset.cons_add] at hout
  obtain ⟨b, hfree, hback⟩ := LawfulBacking.free hout
  exact ⟨(), ⟨d.stock.countFrees 1, b⟩, _, by rw [Depot.perform, hfree], hrest,
    answered_aside hv rfl ⟨hs.localSize_ge, hs.sharedSize_ge, hs.shared_lt, hs.items_lt⟩ rfl
      (fun _ => rfl) rfl hback⟩

theorem After.meets_count {counter : Counter} {Q : Unit → View → Prop}
    (h : (count counter).After (d.stock.seat cpu) v Q) (hs : d.stock.Sound)
    (hv : v.Holds d.stock cpu m)
    (hout : LawfulBacking.Out d.backing (d.stock.elements + v.carried + others)) :
    (count counter).Meets Q cpu m others d := by
  -- a counter on a shelf leaves its items as they are
  have hshelf : ∀ (k : Nat) (f : Shelf → Shelf), (∀ shelf, (f shelf).items = shelf.items) →
      (count counter).Answered cpu () m others d { d with stock := d.stock.onShelf k f } v := by
    intro k f hf
    refine answered_aside hv rfl ?_ rfl (fun i => d.stock.localLength?_onShelf_of_items k i hf)
      rfl ?_
    · refine hs.onShelf fun shelf hshelf => ?_
      rw [hf]
      exact hs.items_lt_of_getElem? hshelf
    · rwa [← Stock.coe_contents, Stock.contents_onShelf _ _ hf, Stock.coe_contents]
  have htraffic : ∀ traffic, (count counter).Answered cpu () m others d
      { d with stock := { d.stock with traffic } } v := fun traffic =>
    answered_aside hv rfl ⟨hs.localSize_ge, hs.sharedSize_ge, hs.shared_lt, hs.items_lt⟩ rfl
      (fun _ => rfl) rfl hout
  refine ⟨(), { d with stock := d.stock.step counter }, v, rfl, h, ?_⟩
  cases counter with
  | sharedRefills => exact htraffic _
  | backingDrains => exact htraffic _
  | refills k => exact hshelf k _ fun _ => rfl
  | overflows k => exact hshelf k _ fun _ => rfl
  | drains k => exact hshelf k _ fun _ => rfl

/-- **A call in order** is answered without a fault. -/
theorem After.meets {Q : c.Answer → View → Prop} (h : c.After (d.stock.seat cpu) v Q)
    (hs : d.stock.Sound) (hv : v.Holds d.stock cpu m)
    (hout : LawfulBacking.Out d.backing (d.stock.elements + v.carried + others)) :
    c.Meets Q cpu m others d := by
  cases c with
  | push => exact h.meets_push hs hv hout
  | pull => exact h.meets_pull hs hv hout
  | length => exact h.elim
  | request => exact After.meets_request h hs hv hout
  | giveBack => exact After.meets_giveBack h hs hv hout
  | count => exact After.meets_count h hs hv hout
  | report =>
    exact ⟨(), d, v, rfl, h, answered_aside hv rfl hs rfl (fun _ => rfl) rfl hout⟩

end Call

end TieredPool
