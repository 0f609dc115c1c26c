import TieredPool.Proofs.Crew.Answer

/-!
# The invariant of a crew

A crew is in order (`Crew.WF`) if its pool is in use and sound, every member that is at work has a
view that holds and is guarded from there on, and every element out of the backing is in a queue, in
a member's hands, with a caller, or with others. `Crew.WF.change` is the step that all moves share:
one member's task and hands change, and the others notice what it did to the shared queue.
-/

namespace TieredPool

/-- The elements of a pool among those that callers hold. -/
def handlesOf (pool : Nat) (held : List Element) : Multiset Handle :=
  ↑((held.filter fun e => e.pool = pool).map Element.handle)

theorem handlesOf_singleton {e : Element} {pool : Nat} (h : e.pool = pool) :
    handlesOf pool [e] = {e.handle} := by
  simp [handlesOf, h]

theorem handlesOf_append (pool : Nat) (first second : List Element) :
    handlesOf pool (first ++ second) = handlesOf pool first + handlesOf pool second := by
  rw [handlesOf, List.filter_append, List.map_append, ← Multiset.coe_add]
  rfl

theorem handlesOf_eraseIdx (pool : Nat) {held : List Element} {place : Nat} {e : Element}
    (h : held[place]? = some e) :
    handlesOf pool held = handlesOf pool [e] + handlesOf pool (held.eraseIdx place) := by
  obtain ⟨hlt, rfl⟩ := List.getElem?_eq_some_iff.1 h
  rw [← handlesOf_append, List.singleton_append, handlesOf, handlesOf, Multiset.coe_eq_coe]
  exact ((List.getElem_cons_eraseIdx_perm hlt).symm.filter _).map _

/-- A fault that a member is not to blame for: it was given an element of another pool, or others
added to the shared queue or removed from it as much as its size leaves room for. -/
inductive Blameless (seat : Seat) (added removed : Nat) : Fault → Prop
  | foreign {owner : Nat} (h : owner ≠ seat.pool) :
    Blameless seat added removed (.foreignElement owner seat.pool)
  | crowded (filled : Nat) (h : seat.sharedSize ≤ added + slack) :
    Blameless seat added removed (.sharedRefillRejected filled)
  | starved (round : Nat) (h : seat.sharedSize ≤ removed + slack) :
    Blameless seat added removed (.shrinkRanDry round)

theorem Blameless.mono {seat : Seat} {added removed added' removed' : Nat} {fault : Fault}
    (h : Blameless seat added removed fault) (hadded : added ≤ added')
    (hremoved : removed ≤ removed') : Blameless seat added' removed' fault := by
  cases h with
  | foreign howner => exact .foreign howner
  | crowded filled hcrowded =>
    exact .crowded filled (Nat.le_trans hcrowded (Nat.add_le_add_right hadded _))
  | starved round hstarved =>
    exact .starved round (Nat.le_trans hstarved (Nat.add_le_add_right hremoved _))

theorem Excused.blameless {m : Member} {s : Stock} {cpu : Nat} {v : View} {fault : Fault}
    (h : Excused (s.seat cpu) v fault) (hv : v.Holds s cpu m) :
    Blameless (s.seat cpu) m.added m.removed fault := by
  cases h with
  | foreign howner => exact .foreign howner
  | crowded filled hcrowded => exact .crowded filled (hv.crowded hcrowded)
  | starved round hstarved => exact .starved round (hv.starved hstarved)

namespace Member

/-- The routine ends with the element that it answers in its hands. -/
def Ends (pool : Nat) (answer : Option Element) (v : View) : Prop :=
  v.carried = handlesOf pool answer.toList

/-- The member is as it should be, with these elements in its hands. -/
inductive Safe (m : Member) (s : Stock) (cpu : Nat) (hands : Multiset Handle) : Prop
  | idle (htask : m.task = .idle) (hhands : hands = 0)
  | working {rest : Routine (Option Element)} {v : View} (htask : m.task = .working rest)
    (hhands : v.carried = hands) (hv : v.Holds s cpu m)
    (hrest : rest.Guarded (s.seat cpu) v (Ends s.id))
  | stopped {fault : Fault} (htask : m.task = .stopped fault) (hhands : hands = 0)
    (hfault : Blameless (s.seat cpu) m.added m.removed fault)

/-- A member stays as it should be while others work. -/
theorem Safe.notice {m : Member} {s s' : Stock} {cpu : Nat} {hands : Multiset Handle}
    (h : m.Safe s cpu hands) (hseat : s'.seat = s.seat)
    (hown : s'.localLength? cpu = s.localLength? cpu) :
    (m.notice s.shared.length s'.shared.length).Safe s' cpu hands := by
  have hid : s'.id = s.id := congrArg (fun seat => (seat 0).pool) hseat
  have hsize : s'.sharedSize = s.sharedSize := congrArg (fun seat => (seat 0).sharedSize) hseat
  cases h with
  | idle htask hhands => exact .idle htask hhands
  | working htask hhands hv hrest =>
    refine .working htask hhands (hv.notice hown hsize) ?_
    rwa [hseat, hid]
  | stopped htask hhands hfault =>
    refine .stopped htask hhands ?_
    rw [hseat]
    exact hfault.mono (Nat.le_add_right _ _) (Nat.le_add_right _ _)

end Member

namespace Crew

variable {β : Type} [Backing β] [LawfulBacking β]

/-- A crew is in order, with these elements in its members' hands and these with others. -/
structure WF (seat : Nat → Seat) (c : Crew β) (hands : List (Multiset Handle))
    (others : Multiset Handle) : Prop where
  pool : c.world.pool.WF
  sound : c.world.pool.stock.Sound
  seat_eq : c.world.pool.stock.seat = seat
  length_eq : hands.length = c.members.length
  safe {cpu : Nat} {m : Member} {own : Multiset Handle} :
    c.members[cpu]? = some m → hands[cpu]? = some own → m.Safe c.world.pool.stock cpu own
  out : LawfulBacking.Out c.world.backing
    (c.world.pool.stock.elements + hands.sum + handlesOf c.world.pool.stock.id c.held + others)

variable {seat : Nat → Seat} {c c' : Crew β} {hands : List (Multiset Handle)}
  {others : Multiset Handle}

theorem exists_sum_set {cpu : Nat} {own : Multiset Handle} (h : hands[cpu]? = some own) :
    ∃ rest, hands.sum = own + rest ∧ ∀ own', (hands.set cpu own').sum = own' + rest := by
  obtain ⟨rest, hsum, hmodify⟩ := exists_sum_map_modify (fun own : Multiset Handle => own) h
  rw [List.map_id'] at hsum
  refine ⟨rest, hsum, fun own' => ?_⟩
  have hset := hmodify fun _ => own'
  rwa [← List.set_eq_modify, List.map_id'] at hset

theorem WF.exists_hands (h : c.WF seat hands others) {cpu : Nat} {m : Member}
    (hm : c.members[cpu]? = some m) :
    ∃ own, hands[cpu]? = some own ∧ m.Safe c.world.pool.stock cpu own := by
  have hlt : cpu < hands.length := by
    rw [h.length_eq]
    exact (List.getElem?_eq_some_iff.1 hm).1
  exact ⟨_, List.getElem?_eq_getElem hlt, h.safe hm (List.getElem?_eq_getElem hlt)⟩

/-- **One member changes**, and the others notice what it did to the shared queue. -/
theorem WF.change (h : c.WF seat hands others) {cpu : Nat} {m m' : Member}
    {own own' rest others' : Multiset Handle} (hm : c.members[cpu]? = some m)
    (hown : hands[cpu]? = some own) (hset : (hands.set cpu own').sum = own' + rest)
    (hpool : c'.world.pool.WF) (hsound : c'.world.pool.stock.Sound)
    (hseat : c'.world.pool.stock.seat = c.world.pool.stock.seat)
    (hlocal : ∀ i, i ≠ cpu →
      c'.world.pool.stock.localLength? i = c.world.pool.stock.localLength? i)
    (hmembers : ∀ i, c'.members[i]? = c.members[i]?.map fun old => if i = cpu then m' else
      old.notice c.world.pool.stock.shared.length c'.world.pool.stock.shared.length)
    (hsafe : m'.Safe c'.world.pool.stock cpu own')
    (hout : LawfulBacking.Out c'.world.backing (c'.world.pool.stock.elements + (own' + rest) +
      handlesOf c'.world.pool.stock.id c'.held + others')) :
    c'.WF seat (hands.set cpu own') others' := by
  have hlength : c'.members.length = c.members.length := by
    have hnone : ∀ i, c'.members.length ≤ i ↔ c.members.length ≤ i := fun i => by
      rw [← List.getElem?_eq_none_iff, ← List.getElem?_eq_none_iff, hmembers,
        Option.map_eq_none_iff]
    exact Nat.le_antisymm ((hnone _).2 (Nat.le_refl _)) ((hnone _).1 (Nat.le_refl _))
  have hlt : cpu < hands.length := (List.getElem?_eq_some_iff.1 hown).1
  refine ⟨hpool, hsound, hseat.trans h.seat_eq, ?_, fun {i old own} hold hi => ?_, ?_⟩
  · rw [List.length_set, hlength, h.length_eq]
  · rw [hmembers, Option.map_eq_some_iff] at hold
    obtain ⟨old, hget, rfl⟩ := hold
    by_cases hcpu : i = cpu
    · subst hcpu
      rw [List.getElem?_set_self hlt] at hi
      cases hi
      rwa [if_pos rfl]
    · rw [List.getElem?_set_ne (Ne.symm hcpu)] at hi
      rw [if_neg hcpu]
      exact (h.safe hget hi).notice hseat (hlocal i hcpu)
  · rwa [hset]

theorem WF.mark (h : c.WF seat hands others) {pool : Pool} (hpool : pool.WF) {cpu : Nat}
    {f : Shelf → Shelf} (hstock : pool.stock = c.world.pool.stock.onShelf cpu f)
    (hf : ∀ shelf, (f shelf).items = shelf.items) :
    WF seat { c with world := { c.world with pool } } hands others := by
  have hlocal : ∀ i, pool.stock.localLength? i = c.world.pool.stock.localLength? i := fun i => by
    rw [hstock, Stock.localLength?_onShelf_of_items _ _ _ hf]
  have helements : pool.stock.elements = c.world.pool.stock.elements := by
    rw [hstock, ← Stock.coe_contents, Stock.contents_onShelf _ _ hf, Stock.coe_contents]
  have hseat : pool.stock.seat = c.world.pool.stock.seat := by
    rw [hstock]
    rfl
  have hid : pool.stock.id = c.world.pool.stock.id := congrArg (fun seat => (seat 0).pool) hseat
  have hshared : pool.stock.shared = c.world.pool.stock.shared := by
    rw [hstock]
    rfl
  refine ⟨hpool, ?_, hseat.trans h.seat_eq, h.length_eq, fun {i m own} hm hown => ?_, ?_⟩
  · dsimp only
    rw [hstock]
    refine h.sound.onShelf fun shelf hshelf => ?_
    rw [hf]
    exact h.sound.items_lt_of_getElem? hshelf
  · have hnotice := (h.safe hm hown).notice hseat (hlocal i)
    rwa [hshared, Member.notice_self] at hnotice
  · dsimp only
    rw [helements, hid]
    exact h.out

/-- A crew in which nobody is at work is in order. -/
theorem WF.create {w : World β} {held : List Element} (hpool : w.pool.WF)
    (hsound : w.pool.stock.Sound) (hheld : ∀ e ∈ held, e.pool ≠ w.pool.id)
    (hout : LawfulBacking.Out w.backing (w.pool.stock.elements + others)) :
    (create w held).WF w.pool.stock.seat (List.replicate w.pool.cpus 0) others := by
  refine ⟨hpool, hsound, rfl, ?_, fun {i m own} hm hown => ?_, ?_⟩
  · rw [Crew.create, List.length_replicate, List.length_replicate]
  · obtain rfl := List.eq_of_mem_replicate (List.mem_of_getElem? hm)
    exact .idle rfl (List.eq_of_mem_replicate (List.mem_of_getElem? hown))
  · have hnone : handlesOf w.pool.id held = 0 := by
      rw [handlesOf, List.filter_eq_nil_iff.2]
      · rfl
      · intro e hmem
        simpa using hheld e hmem
    have hidle : (List.replicate w.pool.cpus (0 : Multiset Handle)).sum = 0 := by simp
    have hid : w.pool.stock.id = w.pool.id := rfl
    simp only [Crew.create, hidle, hid, hnone, add_zero]
    exact hout

end Crew

end TieredPool
