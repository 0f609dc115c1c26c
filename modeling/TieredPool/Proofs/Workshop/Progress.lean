import Mathlib.Algebra.Order.BigOperators.Group.List
import Mathlib.Algebra.Order.Group.Nat
import Mathlib.Data.Finset.Max
import Mathlib.Data.Fintype.Basic
import TieredPool.Proofs.Workshop.Run

/-!
# Workers do not wait in vain

A worker that waits for a burst waits for one that is about to send or has more rounds left
(`Workshop.WF.exists_ahead`). So the one with the most rounds left cannot be stuck, and as long as
not all have finished some worker can move (`Workshop.WF.exists_canMove`). Every move lowers the
effort left (`Workshop.Moved.effort_lt`), so no schedule goes on for ever.

`Workshop.run` takes turns. Once every worker had one, all have finished or are due to take a burst
(`Workshop.Settled`). From then on each pass over the workers takes a round off the one with the
most rounds left, or lets all finish (`Workshop.WF.isOver_or_lt`), and so the run comes to its end
(`Workshop.WF.run`).
-/

namespace TieredPool

namespace Workshop

variable {w w' : Workshop} {id : Nat} {worker : Worker}

/-! ## Waiting -/

/-- The worker at a CPU, if there is one, has finished or is due to take a burst. -/
def SettledAt (w : Workshop) (id : Nat) : Prop :=
  ∀ worker, w.workers[id]? = some worker → worker.phase = .finished ∨ worker.phase = .receiving

def Settled (w : Workshop) : Prop := ∀ id, w.SettledAt id

namespace WF

theorem finished_or_waiting (h : w.WF) (hworker : w.workers[id]? = some worker)
    (hstill : w.canMove id = false) :
    worker.phase = .finished ∨ worker.phase = .receiving ∧ worker.mailbox = [] := by
  rw [canMove, hworker] at hstill
  dsimp only at hstill
  rw [Worker.hasStopped, Worker.isWaiting] at hstill
  cases hphase : worker.phase with
  | refused error => exact absurd hphase ((h.worker hworker).not_refused error)
  | panicked fault => exact absurd hphase ((h.worker hworker).not_panicked fault)
  | finished => exact .inl rfl
  | receiving =>
    rw [hphase] at hstill
    exact .inr ⟨rfl, by simpa using hstill⟩
  | _ =>
    rw [hphase] at hstill
    cases hstill

theorem settledAt (h : w.WF) (hstill : w.canMove id = false) : w.SettledAt id := fun _ hworker =>
  (h.finished_or_waiting hworker hstill).imp_right And.left

theorem crossing_of_receiving (h : w.WF) (hworker : w.workers[id]? = some worker)
    (hphase : worker.phase = .receiving) : w.crossCpuFree = true := by
  by_contra hkeeping
  exact (h.keeping (Bool.eq_false_iff.2 hkeeping) hworker).2 hphase

/-- If nobody is about to send, a worker that waits is behind the one before it. -/
theorem exists_ahead (h : w.WF) (hsettled : w.Settled) (hworker : w.workers[id]? = some worker)
    (hphase : worker.phase = .receiving) (hmailbox : worker.mailbox = []) :
    ∃ sender ∈ w.workers, worker.bursts.length < sender.bursts.length := by
  obtain ⟨hid, -⟩ := Array.getElem?_eq_some_iff.1 hworker
  obtain ⟨i, hi, rfl⟩ := exists_nextOf_eq hid
  have hsender := Array.getElem?_eq_getElem hi
  have hrounds := h.rounds (h.crossing_of_receiving hworker hphase) hsender hworker
  have hunsent : w.workers[i].phase.unsent = 0 := by
    rcases hsettled i _ hsender with hphase | hphase <;> rw [hphase] <;> rfl
  rw [hmailbox, Worker.unreceived, hphase, Worker.unsent, hunsent] at hrounds
  refine ⟨_, Array.getElem_mem hi, ?_⟩
  simp only [List.length_nil, Phase.unreceived] at hrounds
  omega

/-- The channel to a worker that waits is not closed: the one before it has not finished. -/
theorem sender_unfinished (h : w.WF) {sender : Worker} (hsender : w.workers[id]? = some sender)
    (hworker : w.workers[w.nextOf id]? = some worker) (hphase : worker.phase = .receiving)
    (hmailbox : worker.mailbox = []) : sender.phase ≠ .finished := by
  intro hfinished
  have hrounds := h.rounds (h.crossing_of_receiving hworker hphase) hsender hworker
  rw [hmailbox, (h.worker hsender).unsent_eq_zero hfinished, Worker.unreceived, hphase] at hrounds
  cases hrounds

/-- The channel from a worker that hands its burst over is not closed: the one after it has not
finished. -/
theorem receiver_unfinished (h : w.WF) (hcrossing : w.crossCpuFree = true) {receiver : Worker}
    (hworker : w.workers[id]? = some worker) (hphase : worker.phase = .handingOver)
    (hreceiver : w.workers[w.nextOf id]? = some receiver) : receiver.phase ≠ .finished := by
  intro hfinished
  have hrounds := h.rounds hcrossing hworker hreceiver
  rw [(h.worker hreceiver).unreceived_eq_zero hfinished, Worker.unsent, hphase] at hrounds
  cases hrounds

end WF

theorem exists_most (hworker : w.workers[id]? = some worker) :
    ∃ (i : Nat) (most : Worker), w.workers[i]? = some most ∧
      ∀ other ∈ w.workers, other.bursts.length ≤ most.bursts.length := by
  obtain ⟨hid, -⟩ := Array.getElem?_eq_some_iff.1 hworker
  obtain ⟨i, -, hmost⟩ := Finset.exists_max_image Finset.univ
    (fun i : Fin w.workers.size => w.workers[i].bursts.length) ⟨⟨id, hid⟩, Finset.mem_univ _⟩
  refine ⟨i, w.workers[i], Array.getElem?_eq_getElem i.isLt, fun other hmem => ?_⟩
  obtain ⟨j, hj, rfl⟩ := Array.getElem_of_mem hmem
  exact hmost ⟨j, hj⟩ (Finset.mem_univ _)

/-! ## Effort -/

def effort (w : Workshop) : Nat := w.sum Worker.effort

theorem Moved.effort_lt (h : w.Moved id w') : w'.effort < w.effort := by
  obtain ⟨hworker, hnext, -, hworkers, -⟩ := h
  obtain ⟨others, hsum, hsum'⟩ :=
    exists_sum_eq Worker.effort hworker (Worker.effort_post _) hworkers
  have hlt := hnext.effort_lt
  rw [effort, effort, hsum, hsum']
  omega

/-! ## Later states -/

/-- What holds of a workshop after some moves. -/
structure Later (w w' : Workshop) : Prop where
  wf : w'.WF
  size_eq : w'.workers.size = w.workers.size
  effort_le : w'.effort ≤ w.effort
  exists_worker {i : Nat} {worker : Worker} : w.workers[i]? = some worker →
    ∃ worker', w'.workers[i]? = some worker' ∧ worker'.bursts.length ≤ worker.bursts.length ∧
      (worker.phase = .finished → worker'.phase = .finished)

namespace Later

theorem refl (h : w.WF) : w.Later w :=
  ⟨h, rfl, Nat.le_refl _, fun hworker => ⟨_, hworker, Nat.le_refl _, id⟩⟩

theorem trans {v : Workshop} (h : w.Later v) (h' : v.Later w') : w.Later w' := by
  refine ⟨h'.wf, h'.size_eq.trans h.size_eq, Nat.le_trans h'.effort_le h.effort_le,
    fun hworker => ?_⟩
  obtain ⟨middle, hmiddle, hle, hfinished⟩ := h.exists_worker hworker
  obtain ⟨worker', hworker', hle', hfinished'⟩ := h'.exists_worker hmiddle
  exact ⟨worker', hworker', Nat.le_trans hle' hle, hfinished' ∘ hfinished⟩

theorem exists_before (h : w.Later w') (hworker : w'.workers[id]? = some worker) :
    ∃ before, w.workers[id]? = some before ∧ worker.bursts.length ≤ before.bursts.length ∧
      (before.phase = .finished → worker.phase = .finished) := by
  obtain ⟨hid, -⟩ := Array.getElem?_eq_some_iff.1 hworker
  rw [h.size_eq] at hid
  obtain ⟨worker', hworker', hbefore⟩ := h.exists_worker (Array.getElem?_eq_getElem hid)
  obtain rfl := Option.some.inj (hworker.symm.trans hworker')
  exact ⟨_, Array.getElem?_eq_getElem hid, hbefore⟩

end Later

theorem Moved.later (hmoved : w.Moved id w') (h : w.WF) : w.Later w' := by
  have hmove := hmoved
  obtain ⟨hworker, hnext, -, hworkers, -⟩ := hmove
  refine ⟨hmoved.wf h, hmoved.size_eq, Nat.le_of_lt hmoved.effort_lt,
    fun {i before} hbefore => ?_⟩
  obtain ⟨hi, -⟩ := Array.getElem?_eq_some_iff.1 hbefore
  rw [← hmoved.size_eq] at hi
  obtain ⟨after, hafter⟩ : ∃ after, w'.workers[i]? = some after :=
    ⟨_, Array.getElem?_eq_getElem hi⟩
  refine ⟨after, hafter, ?_⟩
  rw [hworkers] at hafter
  obtain ⟨y, hy, ⟨rfl, rfl⟩ | ⟨-, hy'⟩⟩ := exists_of_getElem? hafter
  · obtain rfl := Option.some.inj (hworker.symm.trans hbefore)
    rw [hy]
    exact ⟨hnext.length_bursts_le, fun hphase => absurd hphase hnext.not_finished⟩
  · obtain rfl := Option.some.inj (hy'.symm.trans hbefore)
    rw [hy]
    exact ⟨Nat.le_refl _, fun hphase => hphase⟩

theorem Moved.settledAt (hmoved : w.Moved id w') {i : Nat} (hi : id ≠ i) (h : w.SettledAt i) :
    w'.SettledAt i := by
  obtain ⟨-, -, -, hworkers, -⟩ := hmoved
  intro worker hget
  rw [hworkers] at hget
  obtain ⟨y, rfl, ⟨heq, -⟩ | ⟨-, hy⟩⟩ := exists_of_getElem? hget
  · exact absurd heq hi
  · exact h y hy

/-! ## No halt -/

/-- A worker that waits among settled workers has fewer rounds left than one had before. -/
theorem Later.lt_of_waiting {v : Workshop} (h : w.Later v) (hsettled : v.Settled) {most : Nat}
    (hmost : ∀ other ∈ w.workers, other.bursts.length ≤ most)
    (hworker : v.workers[id]? = some worker) (hstill : v.canMove id = false)
    (hphase : worker.phase ≠ .finished) : worker.bursts.length < most := by
  obtain ⟨hreceiving, hmailbox⟩ := (h.wf.finished_or_waiting hworker hstill).resolve_left hphase
  obtain ⟨sender, hmem, hlt⟩ := h.wf.exists_ahead hsettled hworker hreceiving hmailbox
  obtain ⟨i, hsender⟩ := Array.getElem?_of_mem hmem
  obtain ⟨before, hbefore, hle, -⟩ := h.exists_before hsender
  exact Nat.lt_of_lt_of_le hlt (Nat.le_trans hle (hmost before (Array.mem_of_getElem? hbefore)))

theorem WF.exists_unfinished (h : w.WF) (hover : ¬w.isOver = true) :
    ∃ (id : Nat) (worker : Worker), w.workers[id]? = some worker ∧ worker.phase ≠ .finished := by
  by_contra hnone
  refine hover (h.isOver_iff.2 fun worker hmem => by_contra fun hphase => hnone ?_)
  obtain ⟨id, hworker⟩ := Array.getElem?_of_mem hmem
  exact ⟨id, worker, hworker, hphase⟩

/-- **No workshop halts early**: as long as not all workers have finished, one can move. -/
theorem WF.exists_canMove (h : w.WF) (hover : ¬w.isOver = true) : ∃ id, w.canMove id = true := by
  by_contra hstuck
  have hstill : ∀ id, w.canMove id = false := fun id =>
    Bool.eq_false_iff.2 fun hmove => hstuck ⟨id, hmove⟩
  have hsettled : w.Settled := fun id => h.settledAt (hstill id)
  -- one waits, so there are rounds left, and then the one with the most rounds left waits as well
  obtain ⟨id, waiting, hwaiting, hunfinished⟩ := h.exists_unfinished hover
  obtain ⟨i, most, hi, hmost⟩ := exists_most hwaiting
  have hpos := (Later.refl h).lt_of_waiting hsettled hmost hwaiting (hstill id) hunfinished
  have hunfinished' : most.phase ≠ .finished := by
    intro hphase
    rw [(h.worker hi).finished hphase] at hpos
    exact Nat.not_lt_zero _ hpos
  exact Nat.lt_irrefl _ ((Later.refl h).lt_of_waiting hsettled hmost hi (hstill i) hunfinished')

/-! ## Turns -/

/-- What holds of a workshop after some turns, each of a worker that moved for as long as it
could. -/
structure Calmer (w w' : Workshop) : Prop extends w.Later w' where
  settledAt {i : Nat} : w.SettledAt i → w'.SettledAt i

theorem Calmer.refl (h : w.WF) : w.Calmer w := ⟨.refl h, id⟩

theorem Calmer.trans {v : Workshop} (h : w.Calmer v) (h' : v.Calmer w') : w.Calmer w' :=
  ⟨h.toLater.trans h'.toLater, fun hi => h'.settledAt (h.settledAt hi)⟩

namespace WF

theorem turn_later (h : w.WF) (id moves : Nat) :
    w.Later (w.turn id moves) ∧ ∀ i, id ≠ i → w.SettledAt i → (w.turn id moves).SettledAt i := by
  induction moves generalizing w with
  | zero => exact ⟨.refl h, fun _ _ hi => hi⟩
  | succ moves ih =>
    rw [Workshop.turn]
    split
    · next hmove =>
      have hmoved := h.move hmove
      obtain ⟨hlater, hrest⟩ := ih (hmoved.wf h)
      exact ⟨(hmoved.later h).trans hlater, fun i hi hs => hrest i hi (hmoved.settledAt hi hs)⟩
    · exact ⟨.refl h, fun _ _ hi => hi⟩

/-- A turn with moves enough ends when its worker cannot move any more. -/
theorem canMove_turn (h : w.WF) {moves : Nat} (hmoves : w.effort ≤ moves) :
    (w.turn id moves).canMove id = false := by
  induction moves generalizing w with
  | zero =>
    refine Bool.eq_false_iff.2 fun hmove => ?_
    exact absurd (Nat.lt_of_lt_of_le (h.move hmove).effort_lt hmoves) (Nat.not_lt_zero _)
  | succ moves ih =>
    rw [Workshop.turn]
    split
    · next hmove =>
      have hmoved := h.move hmove
      exact ih (hmoved.wf h) (Nat.le_of_lt_succ (Nat.lt_of_lt_of_le hmoved.effort_lt hmoves))
    · next hstill => exact Bool.eq_false_iff.2 hstill

theorem turn (h : w.WF) (id : Nat) {moves : Nat} (hmoves : w.effort ≤ moves) :
    w.Calmer (w.turn id moves) := by
  obtain ⟨hlater, hrest⟩ := h.turn_later id moves
  refine ⟨hlater, fun {i} hi => ?_⟩
  by_cases heq : id = i
  · exact heq ▸ hlater.wf.settledAt (h.canMove_turn hmoves)
  · exact hrest i heq hi

/-- In a run of turns, each worker comes to a state in which it cannot move any more. -/
theorem turns (h : w.WF) (id : Nat) {moves : Nat} (hmoves : w.effort ≤ moves) (count : Nat) :
    w.Calmer (w.turns id moves count) ∧ ∀ i, id ≤ i → i < id + count →
      ∃ v, w.Calmer v ∧ v.canMove i = false ∧ v.Calmer (w.turns id moves count) := by
  induction count generalizing w id with
  | zero => exact ⟨.refl h, fun i hle hlt => absurd hlt (Nat.not_lt_of_le hle)⟩
  | succ count ih =>
    have hturn := h.turn id hmoves
    obtain ⟨hrest, heach⟩ := ih hturn.wf (id + 1) (Nat.le_trans hturn.effort_le hmoves)
    refine ⟨hturn.trans hrest, fun i hle hlt => ?_⟩
    rcases Nat.eq_or_lt_of_le hle with rfl | hlt'
    · exact ⟨_, hturn, h.canMove_turn hmoves, hrest⟩
    · obtain ⟨v, hv, hstill, hafter⟩ := heach i hlt' (by omega)
      exact ⟨v, hturn.trans hv, hstill, hafter⟩

end WF

/-! ## Passes -/

def roundsLeft (w : Workshop) : List Nat := w.workers.toList.map fun worker => worker.bursts.length

theorem sum_lt_sum {l l' : List Nat} (h : List.Forall₂ (· ≤ ·) l' l) {i m n : Nat}
    (hm : l'[i]? = some m) (hn : l[i]? = some n) (hlt : m < n) : l'.sum < l.sum := by
  induction h generalizing i with
  | nil => cases hm
  | cons hle hrest ih =>
    rw [List.sum_cons, List.sum_cons]
    cases i with
    | zero =>
      cases hm
      cases hn
      exact Nat.add_lt_add_of_lt_of_le hlt hrest.sum_le_sum
    | succ i => exact Nat.add_lt_add_of_le_of_lt hle (ih hm hn)

namespace Later

theorem roundsLeft_le (h : w.Later w') : List.Forall₂ (· ≤ ·) w'.roundsLeft w.roundsLeft := by
  rw [List.forall₂_iff_get]
  simp only [roundsLeft, List.length_map, Array.length_toList, List.get_eq_getElem,
    List.getElem_map, Array.getElem_toList]
  refine ⟨h.size_eq, fun i hi' hi => ?_⟩
  obtain ⟨worker, hworker, hle, -⟩ := h.exists_worker (Array.getElem?_eq_getElem hi)
  obtain ⟨_, heq⟩ := Array.getElem?_eq_some_iff.1 hworker
  rw [heq]
  exact hle

theorem sum_roundsLeft_lt (h : w.Later w') {i : Nat} {worker worker' : Worker}
    (hworker : w.workers[i]? = some worker) (hworker' : w'.workers[i]? = some worker')
    (hlt : worker'.bursts.length < worker.bursts.length) :
    w'.roundsLeft.sum < w.roundsLeft.sum := by
  refine sum_lt_sum h.roundsLeft_le (i := i) ?_ ?_ hlt
  · rw [roundsLeft, List.getElem?_map, Array.getElem?_toList, hworker', Option.map_some]
  · rw [roundsLeft, List.getElem?_map, Array.getElem?_toList, hworker, Option.map_some]

end Later

theorem passes_of_isOver (h : w.isOver = true) (moves count : Nat) :
    w.passes moves count = w := by
  cases count with
  | zero => rfl
  | succ count => rw [passes, if_pos h]

namespace WF

variable {moves : Nat}

theorem pass (h : w.WF) (hmoves : w.effort ≤ moves) {i : Nat} (hi : i < w.workers.size) :
    ∃ v, w.Calmer v ∧ v.canMove i = false ∧ v.Calmer (w.turns 0 moves w.workers.size) :=
  (h.turns 0 hmoves w.workers.size).2 i (Nat.zero_le i) (by omega)

/-- After a pass, all have finished or are due to take a burst. -/
theorem settled_pass (h : w.WF) (hmoves : w.effort ≤ moves) :
    (w.turns 0 moves w.workers.size).Settled := by
  intro i worker hworker
  obtain ⟨hi, -⟩ := Array.getElem?_eq_some_iff.1 hworker
  rw [(h.turns 0 hmoves w.workers.size).1.size_eq] at hi
  obtain ⟨v, hv, hstill, hafter⟩ := h.pass hmoves hi
  exact hafter.settledAt (hv.wf.settledAt hstill) worker hworker

/-- **A pass** over settled workers takes a round off the one with the most rounds left, or lets all
finish. -/
theorem isOver_or_lt (h : w.WF) (hmoves : w.effort ≤ moves) (hsettled : w.Settled) :
    (w.turns 0 moves w.workers.size).isOver = true ∨
      (w.turns 0 moves w.workers.size).roundsLeft.sum < w.roundsLeft.sum := by
  have hend := (h.turns 0 hmoves w.workers.size).1
  by_cases hover : (w.turns 0 moves w.workers.size).isOver = true
  · exact .inl hover
  refine .inr ?_
  -- a worker that is stuck on its turn is behind, so there are rounds left
  obtain ⟨id, worker, hworker, hunfinished⟩ := hend.wf.exists_unfinished hover
  obtain ⟨before, hbefore, -⟩ := hend.exists_before hworker
  obtain ⟨i, most, hi, hmost⟩ := exists_most hbefore
  have hbehind : ∀ {v id worker}, w.Calmer v → v.canMove id = false →
      v.workers[id]? = some worker → worker.phase ≠ .finished →
        worker.bursts.length < most.bursts.length := fun hv hstill hworker hphase =>
    hv.lt_of_waiting (fun i => hv.settledAt (hsettled i)) hmost hworker hstill hphase
  have hpos : 0 < most.bursts.length := by
    obtain ⟨v, hv, hstill, hafter⟩ := h.pass hmoves (Array.getElem?_eq_some_iff.1 hbefore).1
    obtain ⟨middle, hmiddle, -, hfinished⟩ := hafter.exists_before hworker
    exact Nat.zero_lt_of_lt (hbehind hv hstill hmiddle (mt hfinished hunfinished))
  -- so the one with the most rounds left makes one
  obtain ⟨v, hv, hstill, hafter⟩ := h.pass hmoves (Array.getElem?_eq_some_iff.1 hi).1
  obtain ⟨middle, hmiddle, -⟩ := hv.exists_worker hi
  obtain ⟨last, hlast, hle, -⟩ := hafter.exists_worker hmiddle
  refine hend.sum_roundsLeft_lt hi hlast (Nat.lt_of_le_of_lt hle ?_)
  by_cases hphase : middle.phase = .finished
  · rw [(hv.wf.worker hmiddle).finished hphase]
    exact hpos
  · exact hbehind hv hstill hmiddle hphase

/-- Passes over settled workers, one more than there are rounds left, let all finish. -/
theorem isOver_passes (h : w.WF) (hmoves : w.effort ≤ moves) (hsettled : w.Settled) {count : Nat}
    (hcount : w.roundsLeft.sum < count) :
    w.Later (w.passes moves count) ∧ (w.passes moves count).isOver = true := by
  induction count generalizing w with
  | zero => exact absurd hcount (Nat.not_lt_zero _)
  | succ count ih =>
    rw [passes]
    split
    · next hover => exact ⟨.refl h, hover⟩
    · have hend := (h.turns 0 hmoves w.workers.size).1
      have hmoves' := Nat.le_trans hend.effort_le hmoves
      rcases h.isOver_or_lt hmoves hsettled with hover | hlt
      · rw [passes_of_isOver hover]
        exact ⟨hend.toLater, hover⟩
      · obtain ⟨hlater, hover⟩ := ih hend.wf hmoves' (h.settled_pass hmoves) (by omega)
        exact ⟨hend.toLater.trans hlater, hover⟩

/-- **The run** lets all workers finish. -/
theorem run (h : w.WF) (hmoves : w.effort ≤ w.enoughMoves) :
    w.Later w.run ∧ w.run.isOver = true := by
  have hleft : w.roundsLeft.sum = w.allBursts.length := List.length_flatMap.symm
  rw [Workshop.run, enoughPasses, passes]
  split
  · next hover => exact ⟨.refl h, hover⟩
  · have hend := (h.turns 0 hmoves w.workers.size).1
    have hle := hend.roundsLeft_le.sum_le_sum
    obtain ⟨hlater, hover⟩ := hend.wf.isOver_passes (Nat.le_trans hend.effort_le hmoves)
      (h.settled_pass hmoves) (Nat.lt_succ_of_le (Nat.le_trans hle (Nat.le_of_eq hleft)))
    exact ⟨hend.toLater.trans hlater, hover⟩

end WF

theorem effort_le_of_starting {workers : List Worker}
    (h : ∀ worker ∈ workers, worker.phase = .starting ∧ worker.elements = 0) :
    (workers.map Worker.effort).sum ≤
      2 * (workers.flatMap Worker.bursts).sum + 6 * (workers.flatMap Worker.bursts).length +
        3 * workers.length := by
  have hbursts : ∀ bursts : List Nat,
      (bursts.map fun burst => 2 * burst + 5).sum ≤ 2 * bursts.sum + 6 * bursts.length := by
    intro bursts
    induction bursts with
    | nil => exact Nat.le_refl 0
    | cons burst bursts ih =>
      rw [List.map_cons, List.sum_cons, List.sum_cons, List.length_cons]
      omega
  induction workers with
  | nil => exact Nat.le_refl 0
  | cons worker workers ih =>
    obtain ⟨hphase, helements⟩ := h worker List.mem_cons_self
    have hrest := ih fun worker hmem => h worker (List.mem_cons_of_mem _ hmem)
    have hfirst := hbursts worker.bursts
    have heffort : worker.effort = 2 + (worker.bursts.map fun burst => 2 * burst + 5).sum := by
      rw [Worker.effort, hphase, helements]
      rfl
    rw [List.map_cons, List.sum_cons, heffort, List.flatMap_cons, List.sum_append,
      List.length_append, List.length_cons]
    omega

theorem effort_create_le (world : World Store) (threads : Nat) (bursts : Nat → List Nat)
    (crossCpuFree : Bool) (transcript : Transcript) :
    (create world threads bursts crossCpuFree transcript).effort ≤
      (create world threads bursts crossCpuFree transcript).enoughMoves := by
  refine Nat.le_trans (effort_le_of_starting fun worker hmem => ?_) ?_
  · obtain ⟨id, hworker⟩ := Array.getElem?_of_mem (Array.mem_toList_iff.1 hmem)
    obtain ⟨-, rfl⟩ := of_getElem?_create hworker
    exact ⟨rfl, rfl⟩
  · rw [enoughMoves, allBursts, List.sum_eq_foldl, Array.length_toList]
    exact Nat.le_add_right _ 3

end Workshop

end TieredPool
