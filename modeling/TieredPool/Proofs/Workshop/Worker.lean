import Mathlib.Algebra.BigOperators.Group.Multiset.Basic
import Mathlib.Tactic.Abel
import TieredPool.Run.Workshop

/-!
# One move of a worker

`Worker.Next` lists what one move makes of the worker that makes it: which elements it frees and
allocates, and which burst it sends. What a move conserves is read off this list. Elements only
change hands (`Next.elements_eq`), what is reported as allocated is ahead of what is reported as
freed by the bursts under way (`Next.reports_eq`), and a burst that is sent or taken is one less to
send or to take (`Next.rounds_eq`). Every move lowers the `Worker.effort`, a bound on the moves to
come.
-/

namespace TieredPool

namespace Phase

def rest : Phase → List Element
  | freeing rest => rest
  | _ => []

def isLeased : Phase → Bool
  | starting | finished | refused _ => false
  | _ => true

/-- The rounds that are begun and whose burst is not handed over yet. -/
def unsent : Phase → Nat
  | allocating _ | handingOver => 1
  | _ => 0

/-- The rounds that are begun and whose burst in return is not taken yet. -/
def unreceived : Phase → Nat
  | allocating _ | handingOver | receiving => 1
  | _ => 0

/-- Enough moves to come to the next round, the frees apart. An allocation pays for the free of its
element as well. -/
def effort : Phase → Nat
  | finished | refused _ | panicked _ => 0
  | between => 1
  | starting | freeing _ => 2
  | receiving => 3
  | handingOver => 4
  | allocating missing => 2 * missing + 5

end Phase

namespace Worker

/-- The elements in a worker's hands or mailbox. -/
def elements (worker : Worker) : Multiset Element :=
  ↑worker.held + ↑worker.phase.rest + ↑worker.mailbox.flatten

def sentTo (worker : Worker) : Nat := worker.mailbox.flatten.length

/-- The bursts that a worker has still to send. -/
def unsent (worker : Worker) : Nat := worker.bursts.length + worker.phase.unsent

/-- The bursts that a worker has still to take. -/
def unreceived (worker : Worker) : Nat := worker.bursts.length + worker.phase.unreceived

/-- Enough moves to finish. -/
def effort (worker : Worker) : Nat :=
  worker.phase.effort + (worker.bursts.map fun burst => 2 * burst + 5).sum + worker.elements.card

def post (bursts : List (List Element)) (worker : Worker) : Worker :=
  { worker with mailbox := worker.mailbox ++ bursts }

/-- The worker once its burst is out of its hands. -/
def handed (worker : Worker) : Worker :=
  { worker with
    held := []
    report :=
      { worker.report with allocated := worker.report.allocated + worker.held.reverse.length } }

theorem card_elements (worker : Worker) :
    worker.elements.card = worker.held.length + worker.phase.rest.length + worker.sentTo := by
  simp only [elements, Multiset.card_add, Multiset.coe_card, sentTo]

theorem elements_post (bursts : List (List Element)) (worker : Worker) :
    (worker.post bursts).elements = worker.elements + ↑bursts.flatten := by
  rw [elements, post, List.flatten_append, ← Multiset.coe_add, ← add_assoc]
  rfl

theorem sentTo_post (bursts : List (List Element)) (worker : Worker) :
    (worker.post bursts).sentTo = worker.sentTo + bursts.flatten.length := by
  rw [sentTo, post, List.flatten_append, List.length_append]
  rfl

theorem effort_post (bursts : List (List Element)) (worker : Worker) :
    (worker.post bursts).effort = worker.effort + bursts.flatten.length := by
  rw [effort, elements_post, Multiset.card_add, Multiset.coe_card, ← Nat.add_assoc]
  rfl

@[simp] theorem post_nil (worker : Worker) : worker.post [] = worker := by
  simp only [post, List.append_nil]

/-- A worker that comes to no fault. -/
structure WF (worker : Worker) : Prop where
  bursts : ∀ burst ∈ worker.bursts, burst ≠ 0 ∧ Workshop.fits burst = true
  not_refused (error : Pool.LeaseError) : worker.phase ≠ .refused error
  not_panicked (fault : Fault) : worker.phase ≠ .panicked fault
  held : worker.phase.unsent = 0 → worker.held = []
  finished : worker.phase = .finished → worker.bursts = []

namespace WF

variable {worker : Worker}

theorem unsent_eq_zero (h : worker.WF) (hphase : worker.phase = .finished) : worker.unsent = 0 := by
  rw [unsent, h.finished hphase, hphase]
  rfl

theorem unreceived_eq_zero (h : worker.WF) (hphase : worker.phase = .finished) :
    worker.unreceived = 0 := by
  rw [unreceived, h.finished hphase, hphase]
  rfl

theorem post (h : worker.WF) (bursts : List (List Element)) : (worker.post bursts).WF :=
  ⟨h.bursts, h.not_refused, h.not_panicked, h.held, h.finished⟩

end WF

/-- What one move makes of a worker, with the elements that it frees and that it allocates, and the
bursts that it sends. -/
inductive Next (crossing : Bool) (worker : Worker) :
    (freed allocated : List Element) → (sent : List (List Element)) → Worker → Prop
  | starts (hphase : worker.phase = .starting) :
    Next crossing worker [] [] [] { worker with phase := .between }
  | finishes (hphase : worker.phase = .between) (hbursts : worker.bursts = []) :
    Next crossing worker [] [] [] { worker with phase := .finished }
  | draws {burst : Nat} {bursts : List Nat} (hphase : worker.phase = .between)
      (hbursts : worker.bursts = burst :: bursts) :
    Next crossing worker [] [] [] { worker with phase := .allocating burst, bursts, held := [] }
  | completes (hphase : worker.phase = .allocating 0) :
    Next crossing worker [] [] [] { worker with phase := .handingOver }
  | allocates {missing : Nat} (e : Element) (hphase : worker.phase = .allocating (missing + 1)) :
    Next crossing worker [] [e] []
      { worker with
        phase := if missing = 0 then .handingOver else .allocating missing
        held := e :: worker.held }
  /-- The burst is cut short. -/
  | fails {missing : Nat} (hphase : worker.phase = .allocating (missing + 1)) :
    Next crossing worker [] [] []
      { worker with
        phase := .handingOver
        report := { worker.report with failures := worker.report.failures + 1 } }
  | keeps (hphase : worker.phase = .handingOver) (hcrossing : crossing = false) :
    Next crossing worker [] [] [] (worker.handed.begin worker.held.reverse)
  | sends (hphase : worker.phase = .handingOver) (hcrossing : crossing = true) :
    Next crossing worker [] [] [worker.held.reverse] { worker.handed with phase := .receiving }
  | takes {burst : List Element} {mailbox : List (List Element)}
      (hphase : worker.phase = .receiving) (hmailbox : worker.mailbox = burst :: mailbox) :
    Next crossing worker [] [] [] ({ worker with mailbox }.begin burst)
  | frees {e : Element} {rest : List Element} (hphase : worker.phase = .freeing (e :: rest)) :
    Next crossing worker [e] [] [] { worker with phase := .freeing rest }
  | rests (hphase : worker.phase = .freeing []) :
    Next crossing worker [] [] [] { worker with phase := .between }

namespace Next

variable {crossing : Bool} {worker worker' : Worker} {freed allocated : List Element}
  {sent : List (List Element)}

theorem wf (h : Next crossing worker freed allocated sent worker') (hw : worker.WF) :
    worker'.WF := by
  have hbursts := hw.bursts
  have hheld := hw.held
  cases h with
  | finishes hphase hnone =>
    rw [hphase] at hheld
    exact ⟨hbursts, nofun, nofun, hheld, fun _ => hnone⟩
  | draws hphase hcons =>
    rw [hcons] at hbursts
    exact ⟨fun burst hmem => hbursts burst (List.mem_cons_of_mem _ hmem), nofun, nofun,
      fun _ => rfl, nofun⟩
  | allocates e hphase =>
    split
    · exact ⟨hbursts, nofun, nofun, nofun, nofun⟩
    · exact ⟨hbursts, nofun, nofun, nofun, nofun⟩
  | completes hphase => exact ⟨hbursts, nofun, nofun, nofun, nofun⟩
  | fails hphase => exact ⟨hbursts, nofun, nofun, nofun, nofun⟩
  | keeps hphase => exact ⟨hbursts, nofun, nofun, fun _ => rfl, nofun⟩
  | sends hphase => exact ⟨hbursts, nofun, nofun, fun _ => rfl, nofun⟩
  | starts hphase | takes hphase | frees hphase | rests hphase =>
    rw [hphase] at hheld
    exact ⟨hbursts, nofun, nofun, hheld, nofun⟩

theorem not_finished (h : Next crossing worker freed allocated sent worker') :
    worker.phase ≠ .finished := by
  intro hfinished
  cases h with
  | starts hphase | finishes hphase | draws hphase | completes hphase | allocates e hphase
  | fails hphase | keeps hphase | sends hphase | takes hphase | frees hphase | rests hphase =>
    rw [hfinished] at hphase
    cases hphase

/-- **Elements change hands**, and none is lost or doubled. -/
theorem elements_eq (h : Next crossing worker freed allocated sent worker') (hw : worker.WF) :
    worker'.elements + ↑freed + ↑sent.flatten = worker.elements + ↑allocated := by
  have hheld := hw.held
  cases h with
  | @allocates missing e hphase =>
    have hrest : (if missing = 0 then Phase.handingOver else .allocating missing).rest = [] := by
      split <;> rfl
    simp only [elements, hrest, hphase, Phase.rest.eq_2, List.flatten_nil, Multiset.coe_nil,
      ← Multiset.cons_coe, ← Multiset.singleton_add]
    abel
  | draws hphase =>
    rw [hphase] at hheld
    simp only [elements, hphase, hheld rfl, Phase.rest, List.flatten_nil, Multiset.coe_nil,
      add_zero]
  | keeps hphase =>
    simp only [elements, begin, handed, hphase, Phase.rest, List.flatten_nil, Multiset.coe_nil,
      Multiset.coe_reverse]
    abel
  | sends hphase =>
    simp only [elements, handed, hphase, Phase.rest, List.flatten_cons, List.flatten_nil,
      List.append_nil, Multiset.coe_nil, Multiset.coe_reverse]
    abel
  | takes hphase hmailbox =>
    simp only [elements, begin, hphase, hmailbox, Phase.rest, List.flatten_cons, List.flatten_nil,
      Multiset.coe_nil, ← Multiset.coe_add]
    abel
  | frees hphase =>
    simp only [elements, hphase, Phase.rest, List.flatten_nil, Multiset.coe_nil,
      ← Multiset.cons_coe, ← Multiset.singleton_add]
    abel
  | starts hphase | finishes hphase | completes hphase | fails hphase | rests hphase =>
    simp only [elements, hphase, Phase.rest, List.flatten_nil, Multiset.coe_nil, add_zero]

/-- The elements that a worker keeps in a move, but for those that it sends. -/
theorem exists_kept (h : Next crossing worker freed allocated sent worker') (hw : worker.WF) :
    ∃ kept, worker.elements = ↑freed + kept ∧
      worker'.elements + ↑sent.flatten = ↑allocated + kept := by
  have helements := h.elements_eq hw
  cases h with
  | @frees e rest hphase =>
    refine ⟨↑worker.held + ↑rest + ↑worker.mailbox.flatten, ?_, ?_⟩
    · rw [elements, hphase, Phase.rest, ← Multiset.cons_coe, ← Multiset.singleton_add,
        Multiset.coe_singleton]
      abel
    · rw [elements, Phase.rest, List.flatten_nil, Multiset.coe_nil, add_zero, zero_add]
  | _ =>
    refine ⟨worker.elements, (zero_add _).symm, ?_⟩
    rw [add_comm (Multiset.ofList _) worker.elements, ← helements, Multiset.coe_nil, add_zero]

/-- What was allocated and is not yet freed is what was sent and not yet taken. -/
theorem reports_eq (h : Next crossing worker freed allocated sent worker') :
    worker'.report.allocated + (worker.report.freed + worker.sentTo) =
      worker.report.allocated + (worker'.report.freed + worker'.sentTo + sent.flatten.length) := by
  cases h with
  | takes hphase hmailbox =>
    simp only [sentTo, begin, hmailbox, List.flatten_cons, List.flatten_nil, List.length_append,
      List.length_nil]
    omega
  | keeps =>
    simp only [sentTo, begin, handed, List.length_reverse, List.flatten_nil, List.length_nil]
    omega
  | sends =>
    simp only [sentTo, handed, List.length_reverse, List.flatten_cons, List.flatten_nil,
      List.append_nil]
    omega
  | _ => rfl

/-- **Rounds are counted right** among workers that send their bursts. -/
theorem rounds_eq (h : Next true worker freed allocated sent worker') :
    worker'.unsent + sent.length = worker.unsent ∧
      worker'.mailbox.length + worker.unreceived = worker.mailbox.length + worker'.unreceived := by
  cases h with
  | keeps hphase hcrossing => cases hcrossing
  | @allocates missing e hphase =>
    by_cases hlast : missing = 0 <;>
      simp [unsent, unreceived, hphase, hlast, Phase.unsent, Phase.unreceived]
  | draws hphase hbursts =>
    simp [unsent, unreceived, hphase, hbursts, Phase.unsent, Phase.unreceived]
  | takes hphase hmailbox =>
    simp [unsent, unreceived, begin, hphase, hmailbox, Phase.unsent, Phase.unreceived]
    omega
  | starts hphase | finishes hphase | completes hphase | fails hphase | sends hphase
  | frees hphase | rests hphase =>
    simp [unsent, unreceived, handed, hphase, Phase.unsent, Phase.unreceived]

/-- A worker that keeps its bursts has nothing to do with mailboxes. -/
theorem keeping (h : Next false worker freed allocated sent worker')
    (hw : worker.phase ≠ .receiving) :
    sent = [] ∧ worker'.mailbox = worker.mailbox ∧ worker'.phase ≠ .receiving := by
  cases h with
  | sends hphase hcrossing => cases hcrossing
  | takes hphase => exact absurd hphase hw
  | allocates e hphase =>
    refine ⟨rfl, rfl, ?_⟩
    dsimp only
    split <;> nofun
  | _ => exact ⟨rfl, rfl, nofun⟩

theorem length_bursts_le (h : Next crossing worker freed allocated sent worker') :
    worker'.bursts.length ≤ worker.bursts.length := by
  cases h with
  | draws hphase hbursts => rw [hbursts]; exact Nat.le_succ _
  | _ => exact Nat.le_refl _

/-- **Every move** leaves less to do, and what it sends counts as left to do for the next worker. -/
theorem effort_lt (h : Next crossing worker freed allocated sent worker') :
    worker'.effort + sent.flatten.length < worker.effort := by
  simp only [effort, card_elements, sentTo]
  cases h with
  | @allocates missing e hphase =>
    by_cases hlast : missing = 0
    · simp only [hphase, hlast, ↓reduceIte, Phase.effort, Phase.rest, List.length_cons,
        List.length_nil, List.flatten_nil]
      omega
    · simp only [hphase, hlast, ↓reduceIte, Phase.effort, Phase.rest, List.length_cons,
        List.length_nil, List.flatten_nil]
      omega
  | draws hphase hbursts =>
    simp only [hphase, hbursts, Phase.effort, Phase.rest, List.map_cons, List.sum_cons,
      List.length_nil, List.flatten_nil]
    omega
  | takes hphase hmailbox =>
    simp only [begin, hphase, hmailbox, Phase.effort, Phase.rest, List.flatten_cons,
      List.length_append, List.length_nil, List.flatten_nil]
    omega
  | starts hphase | finishes hphase | completes hphase | fails hphase | keeps hphase | sends hphase
  | frees hphase | rests hphase =>
    simp only [begin, handed, hphase, Phase.effort, Phase.rest, List.flatten_cons,
      List.append_nil, List.length_reverse, List.length_cons, List.length_nil, List.flatten_nil]
    omega

end Next

end Worker

end TieredPool
