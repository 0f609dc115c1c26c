import TieredPool.Proofs.Crew.Invariant
import TieredPool.Proofs.Pool.Retirement

/-!
# Runs of a crew

Every move keeps a crew in order (`Crew.InOrder.move`), and so does every run
(`Crew.InOrder.follow`).
-/

namespace TieredPool

namespace Crew

variable {β : Type} [Backing β] [LawfulBacking β]

/-- A crew is in order, whatever is in its members' hands and with others. -/
def InOrder (seat : Nat → Seat) (c : Crew β) : Prop := ∃ hands others, c.WF seat hands others

variable {seat : Nat → Seat} {c : Crew β} {cpu : Nat} {m : Member}

/-- A member changes its task and what is in its hands, and callers may hold other elements. -/
theorem WF.setTask {hands : List (Multiset Handle)} {others others' own own' : Multiset Handle}
    (h : c.WF seat hands others) (hm : c.members[cpu]? = some m) (hown : hands[cpu]? = some own)
    (task : Task) {held : List Element}
    (hsafe : Member.Safe { m with task } c.world.pool.stock cpu own')
    (hsame : own + handlesOf c.world.pool.stock.id c.held + others =
      own' + handlesOf c.world.pool.stock.id held + others') :
    (Crew.setTask { c with held } cpu task).WF seat (hands.set cpu own') others' := by
  obtain ⟨rest, hsum, hset⟩ := exists_sum_set hown
  refine h.change hm hown (hset own') h.pool h.sound rfl (fun _ _ => rfl) (fun i => ?_) hsafe ?_
  · show _ = c.members[i]?.map fun old => if i = cpu then { m with task } else
      old.notice c.world.pool.stock.shared.length c.world.pool.stock.shared.length
    rw [getElem?_setTask]
    simp only [Member.notice_self]
    by_cases hi : i = cpu
    · subst hi
      simp [hm]
    · simp [hi]
  · have hall := h.out
    have hsplit : c.world.pool.stock.elements + hands.sum +
        handlesOf c.world.pool.stock.id c.held + others =
          c.world.pool.stock.elements + (own' + rest) +
            handlesOf c.world.pool.stock.id held + others' := by
      calc _ = c.world.pool.stock.elements + rest +
            (own + handlesOf c.world.pool.stock.id c.held + others) := by rw [hsum]; abel
        _ = _ := by rw [hsame]; abel
    rwa [hsplit] at hall

/-- A member's call was answered, and it goes on with the rest of its routine. -/
theorem WF.informed {hands : List (Multiset Handle)} {others own elsewhere : Multiset Handle}
    (h : c.WF seat hands others) (hm : c.members[cpu]? = some m) (hown : hands[cpu]? = some own)
    {call : Call} {answer : call.Answer} {world : World β} {v : View}
    (hset : (hands.set cpu v.carried).sum = v.carried + elsewhere) (hpool : world.pool.WF)
    (hdone : call.Answered cpu answer m
      (elsewhere + handlesOf c.world.pool.stock.id c.held + others) c.world.depot world.depot v)
    {rest : Routine (Option Element)} (hrest : rest.Guarded (c.world.pool.stock.seat cpu) v
      (Member.Ends c.world.pool.stock.id)) :
    (Crew.setTask ⟨world, Crew.informed c.members cpu c.world.pool.shared.length
      world.pool.shared.length call answer, c.held⟩ cpu (.working rest)).WF seat
      (hands.set cpu v.carried) others := by
  have hseat : world.pool.stock.seat = c.world.pool.stock.seat := hdone.seat_eq
  have hid : world.pool.stock.id = c.world.pool.stock.id :=
    congrArg (fun seat => (seat 0).pool) hseat
  have hbefore : c.world.pool.stock.shared.length = c.world.pool.shared.length :=
    h.pool.shared.length_toList
  have hafter : world.pool.stock.shared.length = world.pool.shared.length :=
    hpool.shared.length_toList
  have hsafe : Member.Safe { m.hear call answer with task := .working rest } world.pool.stock cpu
      v.carried := by
    refine .working rfl rfl ⟨hdone.holds.own, hdone.holds.least_le, hdone.holds.le_most,
      hdone.holds.crowded, hdone.holds.starved⟩ ?_
    rwa [hseat, hid]
  refine h.change hm hown hset hpool hdone.sound hseat (fun _ => hdone.localLength_eq)
    (fun i => ?_) hsafe ?_
  · rw [getElem?_setTask, getElem?_informed, Option.map_map, setTask_world, hbefore, hafter]
    by_cases hi : i = cpu
    · subst hi
      simp [hm]
    · simp [hi, Function.comp_def]
  · have hout := hdone.out
    rw [← hid, ← add_assoc, ← add_assoc, add_assoc _ _ elsewhere] at hout
    exact hout

namespace InOrder

/-- A member that has a guarded routine before it may begin it. -/
theorem settle {rest : Routine (Option Element)}
    (h : (Crew.setTask c cpu (.working rest)).InOrder seat) (hm : c.members[cpu]? = some m) :
    (c.settle cpu rest).InOrder seat := by
  obtain ⟨hands, others, hwf⟩ := h
  have hworking : (Crew.setTask c cpu (.working rest)).members[cpu]? =
      some { m with task := .working rest } := by
    rw [getElem?_setTask, hm]
    simp
  have htwice : ∀ task held,
      Crew.setTask { Crew.setTask c cpu (.working rest) with held } cpu task =
      { Crew.setTask c cpu task with held } := by
    intro task held
    simp only [Crew.setTask, List.modify_modify_eq]
    rfl
  obtain ⟨own, hown, hsafe⟩ := hwf.exists_hands hworking
  obtain ⟨v, hhands, hv, hrest⟩ : ∃ v : View, v.carried = own ∧ v.Holds c.world.pool.stock cpu
      { m with task := .working rest } ∧
      rest.Guarded (c.world.pool.stock.seat cpu) v (Member.Ends c.world.pool.stock.id) := by
    cases hsafe with
    | idle htask => cases htask
    | stopped htask => cases htask
    | working htask hhands hv hrest =>
      cases htask
      exact ⟨_, hhands, hv, hrest⟩
  cases rest with
  | done answer =>
    have hcarried : v.carried = handlesOf c.world.pool.stock.id answer.toList := hrest
    have hsame : own + handlesOf c.world.pool.stock.id c.held + others =
        0 + handlesOf c.world.pool.stock.id (c.held ++ answer.toList) + others := by
      rw [handlesOf_append, ← hcarried, hhands, zero_add, add_comm own]
    have hend := hwf.setTask hworking hown .idle (.idle rfl rfl) hsame
    rw [htwice] at hend
    exact ⟨_, _, hend⟩
  | abort fault =>
    have hclear := Excused.blameless hrest hv
    have hsame : own + handlesOf c.world.pool.stock.id c.held + others =
        0 + handlesOf c.world.pool.stock.id c.held + (own + others) := by
      rw [zero_add, add_comm own, add_assoc]
    have hend := hwf.setTask hworking hown (.stopped fault) (.stopped rfl rfl hclear) hsame
    rw [htwice] at hend
    exact ⟨_, _, hend⟩
  | call call next => exact ⟨hands, others, hwf⟩

/-- A member that is idle may begin a routine, with elements that callers let go of. -/
theorem begin {rest : Routine (Option Element)} (h : c.InOrder seat) (hm : c.members[cpu]? = some m)
    (hidle : m.task = .idle) {lease : Pool.Lease} (hlease : c.world.pool.leaseOf? cpu = some lease)
    {held : List Element} {given : Multiset Handle}
    (hgiven : handlesOf c.world.pool.id c.held = given + handlesOf c.world.pool.id held)
    (hrest : ∀ v : View, v.carried = given →
      rest.Guarded (c.world.pool.stock.seat cpu) v (Member.Ends c.world.pool.id)) :
    (Crew.settle { c with held } cpu rest).InOrder seat := by
  obtain ⟨hands, others, hwf⟩ := h
  obtain ⟨own, hown, hsafe⟩ := hwf.exists_hands hm
  obtain rfl : own = 0 := by
    cases hsafe with
    | idle _ hhands => exact hhands
    | working htask => cases hidle.symm.trans htask
    | stopped htask => cases hidle.symm.trans htask
  obtain ⟨shelf, hshelf⟩ := (Pool.leaseOf?_eq_some hlease).2
  -- at first nothing is known of the shared queue
  let v : View := ⟨shelf.items.length, 0, c.world.pool.stock.sharedSize, given, false, false⟩
  have hv : v.Holds c.world.pool.stock cpu { m with task := .working rest } := by
    refine ⟨by rw [Stock.localLength?, hshelf]; rfl, Nat.zero_le _, ?_, nofun, nofun⟩
    exact Nat.le_trans (Nat.le_of_lt hwf.sound.shared_lt) (Nat.le_add_right _ _)
  have hsame : 0 + handlesOf c.world.pool.stock.id c.held + others =
      given + handlesOf c.world.pool.stock.id held + others := by
    have hid : c.world.pool.stock.id = c.world.pool.id := rfl
    rw [hid, hgiven, zero_add]
  exact settle (c := { c with held }) ⟨_, others, hwf.setTask hm hown (.working rest)
    (.working rfl rfl hv (hrest v rfl)) hsame⟩ hm

theorem allocate (h : c.InOrder seat) (cpu : Nat) (flags : AllocFlags) :
    (c.move (.allocate cpu flags)).InOrder seat := by
  rw [move]
  split
  · next lease added removed hlease hm =>
    obtain ⟨hands, others, hwf⟩ := h
    obtain ⟨rfl, -⟩ := Pool.leaseOf?_eq_some hlease
    refine begin ⟨hands, others, hwf⟩ hm rfl hlease (zero_add _).symm fun v hv => ?_
    exact Pool.Lease.allocate_guarded (hwf.sound.seat cpu) flags hv (fun v' hv' => hv')
      fun x v' hv' => hv'.trans (handlesOf_singleton (e := ⟨x, c.world.pool.id⟩) rfl).symm
  · exact h

theorem free (h : c.InOrder seat) (cpu place : Nat) : (c.move (.free cpu place)).InOrder seat := by
  rw [move]
  split
  · next lease added removed e hlease hm he =>
    obtain ⟨hands, others, hwf⟩ := h
    obtain ⟨rfl, -⟩ := Pool.leaseOf?_eq_some hlease
    refine begin ⟨hands, others, hwf⟩ hm rfl hlease (handlesOf_eraseIdx _ he) fun v hv => ?_
    exact .andThen (Pool.Lease.free_guarded (hwf.sound.seat cpu) e
      (fun howner => hv.trans (handlesOf_singleton howner)) fun v' hv' => hv')
  · exact h

theorem lease (h : c.InOrder seat) (cpu : Nat) : (c.move (.lease cpu)).InOrder seat := by
  rw [move]
  split
  · next lease pool hlease =>
    obtain ⟨hands, others, hwf⟩ := h
    obtain ⟨hpool, -, -, hstock⟩ := hwf.pool.lease hlease
    exact ⟨hands, others, hwf.mark hpool hstock fun _ => rfl⟩
  · exact h

theorem unlease (h : c.InOrder seat) (cpu : Nat) : (c.move (.unlease cpu)).InOrder seat := by
  rw [move]
  split
  · exact h
  · exact h
  · next m hworking hm =>
    obtain ⟨hands, others, hwf⟩ := h
    obtain ⟨hpool, hstock⟩ := hwf.pool.unlease cpu
    have hmarked := hwf.mark hpool hstock fun _ => rfl
    obtain ⟨own, hown, hsafe⟩ := hmarked.exists_hands hm
    obtain rfl : own = 0 := by
      cases hsafe with
      | idle _ hhands => exact hhands
      | @working rest v htask =>
        obtain ⟨task, added, removed⟩ := m
        cases htask
        exact absurd rfl (hworking rest added removed)
      | stopped _ hhands => exact hhands
    exact ⟨_, others, hmarked.setTask hm hown .idle (.idle rfl rfl) rfl⟩

theorem advance (h : c.InOrder seat) (cpu : Nat) : (c.advance cpu).InOrder seat := by
  rw [Crew.advance]
  split
  · next call next added removed hm =>
    obtain ⟨hands, others, hwf⟩ := h
    obtain ⟨own, hown, hsafe⟩ := hwf.exists_hands hm
    obtain ⟨elsewhere, hsum, hset⟩ := exists_sum_set hown
    cases hsafe with
    | idle htask => cases htask
    | stopped htask => cases htask
    | @working rest v htask hhands hv hrest =>
      cases htask
      have hout := hwf.out
      rw [hsum, ← hhands, ← add_assoc, add_assoc _ elsewhere, add_assoc _ _ others] at hout
      obtain ⟨answer, d', v', hperform, hnext, hdone⟩ :=
        Call.After.meets (d := c.world.depot) hrest hwf.sound hv hout
      obtain ⟨hpool, hmatch⟩ := World.matches_perform hwf.pool call
      rw [hperform] at hmatch
      rcases hworld : c.world.perform call with ⟨_ | answer', world⟩ <;>
        rw [hworld] at hpool hmatch <;> cases hmatch
      refine settle ⟨_, others, hwf.informed hm hown (hset _) hpool hdone hnext⟩
        (m := Member.hear ⟨.working (.call call next), added, removed⟩ call answer) ?_
      rw [getElem?_informed, hm]
      simp
  · exact h

theorem move (h : c.InOrder seat) (a : Move) : (c.move a).InOrder seat := by
  cases a with
  | lease cpu => exact h.lease cpu
  | unlease cpu => exact h.unlease cpu
  | allocate cpu flags => exact h.allocate cpu flags
  | free cpu place => exact h.free cpu place
  | advance cpu => exact h.advance cpu

/-- **A run** keeps a crew in order. -/
theorem follow (h : c.InOrder seat) (moves : List Move) : (c.follow moves).InOrder seat := by
  induction moves generalizing c with
  | nil => exact h
  | cons a moves ih => exact ih (h.move a)

/-- A member that stopped is not to blame. -/
theorem blameless (h : c.InOrder seat) (hm : c.members[cpu]? = some m) {fault : Fault}
    (hfault : m.fault? = some fault) : Blameless (seat cpu) m.added m.removed fault := by
  obtain ⟨hands, others, hwf⟩ := h
  obtain ⟨own, -, hsafe⟩ := hwf.exists_hands hm
  cases hsafe with
  | idle htask =>
    rw [Member.fault?, htask] at hfault
    cases hfault
  | working htask =>
    rw [Member.fault?, htask] at hfault
    cases hfault
  | stopped htask hhands hblameless =>
    rw [Member.fault?, htask] at hfault
    cases hfault
    rwa [hwf.seat_eq] at hblameless

end InOrder

end Crew

end TieredPool
