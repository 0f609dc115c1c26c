import TieredPool.Proofs.Pool.Sizing
import TieredPool.Proofs.Workshop.Invariant

/-!
# What a move of a workshop does

A worker that can move makes one of the moves of `Worker.Next`, deals with the pool as that move
asks (`World.Dealt`), and puts what it sends in the mailbox of the next worker. This is
`Workshop.Moved`, and `Workshop.WF.move` takes the moves of a workshop in order apart once and for
all.
-/

namespace TieredPool

/-! ## Dealing with the pool -/

/-- What a worker on a CPU does with the pool and its backing: it has the lease afterwards or not,
and these elements change hands. -/
structure World.Dealt (world : World Store) (cpu : Nat) (leased : Bool)
    (freed allocated : List Element) (world' : World Store) : Prop where
  pool : world'.pool.WF
  sound : world'.pool.stock.Sound
  id_eq : world'.pool.id = world.pool.id
  leases_eq : world'.pool.stock.leases = world.pool.stock.leases.set cpu leased
  home : ∀ e ∈ allocated, e.pool = world.pool.id
  audited {m : Multiset Handle} :
    world.backing.Audited (world.pool.stock.elements + ↑(freed.map Element.handle) + m) →
      world'.backing.Audited (world'.pool.stock.elements + ↑(allocated.map Element.handle) + m)
  aside_eq : world'.pool.stock.aside = world.pool.stock.aside
  keeps {P : Store → Prop} : Backing.Keeps P → P world.backing → P world'.backing

theorem set_of_getElem? {α : Type} {l : List α} {i : Nat} {x : α} (h : l[i]? = some x) :
    l.set i x = l := by
  obtain ⟨hi, rfl⟩ := List.getElem?_eq_some_iff.1 h
  exact List.set_getElem_self hi

namespace World.Dealt

variable {world world' : World Store} {cpu : Nat} {leased : Bool} {freed allocated : List Element}

theorem still (hpool : world.pool.WF) (hsound : world.pool.stock.Sound)
    (hleased : world.pool.stock.leases[cpu]? = some leased) :
    world.Dealt cpu leased [] [] world :=
  ⟨hpool, hsound, rfl, (set_of_getElem? hleased).symm, nofun, id, rfl, fun _ => id⟩

theorem of_dealing (hsound : world.pool.stock.Sound) (hpool : world'.pool.WF)
    (hdeal : Dealing cpu world.depot (freed.map Element.handle) (allocated.map Element.handle)
      world'.depot)
    (hleases : world'.pool.stock.leases = world.pool.stock.leases.set cpu leased)
    (hhome : ∀ e ∈ allocated, e.pool = world.pool.id) :
    world.Dealt cpu leased freed allocated world' := by
  let _ := Store.auditing
  exact ⟨hpool, hdeal.sound hsound, hdeal.shape_eq.1, hleases, hhome, hdeal.out, hdeal.aside_eq,
    fun hP => hdeal.keeps hP⟩

end World.Dealt

namespace Workshop

/-! ## Moves -/

/-- A move of a worker. -/
inductive Moved (w : Workshop) (id : Nat) (w' : Workshop) : Prop
  | intro {worker worker' : Worker} {freed allocated : List Element} {sent : List (List Element)}
      (hworker : w.workers[id]? = some worker)
      (hnext : worker.Next w.crossCpuFree freed allocated sent worker')
      (hdealt : w.world.Dealt id worker'.phase.isLeased freed allocated w'.world)
      (hworkers : w'.workers =
        (w.workers.setIfInBounds id worker').modify (w.nextOf id) (Worker.post sent))
      (hcrossing : w'.crossCpuFree = w.crossCpuFree)

theorem modify_post_nil (workers : Array Worker) (id : Nat) :
    workers.modify id (Worker.post []) = workers := by
  apply Array.ext_getElem?
  intro i
  rw [Array.getElem?_modify]
  split
  · cases workers[i]? with
    | none => rfl
    | some worker => rw [Option.map_some, Worker.post_nil]
  · rfl

/-- A move that sends nothing. -/
theorem Moved.quiet {w : Workshop} {id : Nat} {worker worker' : Worker}
    {freed allocated : List Element} {world : World Store} (transcript : Transcript)
    (hworker : w.workers[id]? = some worker)
    (hnext : worker.Next w.crossCpuFree freed allocated [] worker')
    (hdealt : w.world.Dealt id worker'.phase.isLeased freed allocated world) :
    w.Moved id ({ w with world, transcript }.update id worker') :=
  .intro hworker hnext hdealt (modify_post_nil _ _).symm rfl

/-- A worker that works on its lease changes the pool, the backing and the transcript. -/
theorem perform_eq {α : Type} {w : Workshop} {id : Nat} (routine : Pool.Lease → Routine α)
    {answer : Except Fault α} {d : Depot Store} (hpool : w.world.pool.WF)
    (hrun : (routine ⟨w.world.pool.id, id⟩).runOn w.world.depot = (answer, d)) :
    ∃ world transcript, w.perform id routine = (answer, { w with world, transcript }) ∧
      world.pool.WF ∧ world.depot = d := by
  obtain ⟨pool, events, hworld, hwf, hstock⟩ := Routine.exists_run_eq hpool hrun
  obtain ⟨world, workers, crossCpuFree, transcript⟩ := w
  have hdepot : ∀ events, World.depot ⟨pool, d.backing, events⟩ = d := fun events => by
    rw [World.depot, hstock]
  simp only [perform, hworld]
  split
  · exact ⟨_, _, rfl, hwf, hdepot _⟩
  · exact ⟨_, _, rfl, hwf, hdepot _⟩

namespace WF

variable {w : Workshop} {id : Nat} {worker : Worker}

/-- A move that leaves the pool alone. -/
theorem still (h : w.WF) {worker' : Worker} (hworker : w.workers[id]? = some worker)
    (hnext : worker.Next w.crossCpuFree [] [] [] worker')
    (hleased : worker'.phase.isLeased = worker.phase.isLeased) :
    w.Moved id (w.update id worker') := by
  have hlease := h.lease hworker
  rw [← hleased] at hlease
  exact .quiet w.transcript hworker hnext (.still h.pool h.sound hlease)

theorem exists_shelf (h : w.WF) (hworker : w.workers[id]? = some worker) :
    ∃ shelf, w.world.pool.stock.shelves[id]? = some shelf ∧
      shelf.leased = worker.phase.isLeased :=
  Stock.leases_getElem?_eq_some.1 (h.lease hworker)

theorem start (h : w.WF) (hworker : w.workers[id]? = some worker)
    (hphase : worker.phase = .starting) : w.Moved id (w.start id worker) := by
  obtain ⟨shelf, hshelf, hleased⟩ := h.exists_shelf hworker
  rw [hphase] at hleased
  obtain ⟨pool, hok⟩ := Pool.exists_lease_eq hshelf hleased
  obtain ⟨hpool, shelf, hshelf, hstock⟩ := h.pool.lease hok
  rw [Workshop.start, hok]
  refine .quiet w.transcript hworker (.starts hphase) (.of_dealing h.sound hpool ?_ ?_ nofun)
  · rw [World.depot, World.depot, hstock]
    exact .leased (d := w.world.depot) hshelf
  · rw [hstock, Stock.leases_set hshelf]
    rfl

theorem draw (h : w.WF) (hworker : w.workers[id]? = some worker)
    (hphase : worker.phase = .between) : w.Moved id (w.draw id worker) := by
  have hmem : ∀ burst bursts, worker.bursts = burst :: bursts →
      burst ≠ 0 ∧ fits burst = true := by
    intro burst bursts hbursts
    refine (h.worker hworker).bursts burst ?_
    rw [hbursts]
    exact List.mem_cons_self
  rw [Workshop.draw]
  split
  · next hbursts =>
    obtain ⟨shelf, hshelf, -⟩ := h.exists_shelf hworker
    obtain ⟨hpool, hstock⟩ := h.pool.unlease id
    refine .quiet _ hworker (.finishes hphase hbursts) (.of_dealing h.sound hpool ?_ ?_ nofun)
    · rw [World.depot, World.depot, hstock]
      exact .unleased (d := w.world.depot) hshelf
    · rw [hstock, Stock.leases_set hshelf]
      rfl
  · next bursts hbursts => exact absurd rfl (hmem 0 bursts hbursts).1
  · next burst bursts _ hbursts =>
    rw [if_pos (hmem burst bursts hbursts).2]
    refine h.still hworker (.draws hphase hbursts) ?_
    rw [hphase]
    rfl

theorem allocate (h : w.WF) (hworker : w.workers[id]? = some worker) {missing : Nat}
    (hphase : worker.phase = .allocating (missing + 1)) :
    w.Moved id (w.allocate id worker missing) := by
  have hlease := h.lease hworker
  rw [hphase] at hlease
  obtain ⟨shelf, hshelf, -⟩ := h.exists_shelf hworker
  obtain ⟨answer, d, hrun, hout⟩ := Pool.Lease.runOn_allocate ⟨w.world.pool.id, id⟩ .noWarn
    (d := w.world.depot) h.sound hshelf
  obtain ⟨world, transcript, hperform, hpool, rfl⟩ :=
    perform_eq (fun lease => lease.allocate .noWarn) h.pool hrun
  have hleases : world.pool.stock.leases = w.world.pool.stock.leases.set id true :=
    hout.leases_eq.trans (set_of_getElem? hlease).symm
  rw [Workshop.allocate, hperform]
  cases answer with
  | none =>
    exact .quiet transcript hworker (.fails hphase)
      (.of_dealing h.sound hpool (.allocated hout) hleases nofun)
  | some x =>
    refine .quiet transcript hworker (.allocates ⟨x, w.world.pool.id⟩ hphase)
      (.of_dealing h.sound hpool (.allocated hout) ?_ fun e hmem => ?_)
    · rw [hleases]
      dsimp only
      split <;> rfl
    · rw [List.mem_singleton.1 hmem]

theorem handOver (h : w.WF) (hworker : w.workers[id]? = some worker)
    (hphase : worker.phase = .handingOver) : w.Moved id (w.handOver id worker) := by
  rw [Workshop.handOver]
  dsimp only
  split
  · next hcrossing =>
    have hlease := h.lease hworker
    rw [hphase] at hlease
    exact .intro hworker (.sends hphase hcrossing) (.still h.pool h.sound hlease) rfl rfl
  · next hkeeping =>
    refine h.still hworker (.keeps hphase (Bool.eq_false_iff.2 hkeeping)) ?_
    rw [hphase]
    rfl

theorem receive (h : w.WF) (hworker : w.workers[id]? = some worker)
    (hphase : worker.phase = .receiving) {burst : List Element} {mailbox : List (List Element)}
    (hmailbox : worker.mailbox = burst :: mailbox) : w.Moved id (w.receive id worker) := by
  rw [Workshop.receive, hmailbox]
  refine h.still hworker (.takes hphase hmailbox) ?_
  rw [hphase]
  rfl

theorem free (h : w.WF) (hworker : w.workers[id]? = some worker) {rest : List Element}
    (hphase : worker.phase = .freeing rest) : w.Moved id (w.free id worker rest) := by
  cases rest with
  | nil =>
    refine h.still hworker (.rests hphase) ?_
    rw [hphase]
    rfl
  | cons e rest =>
    have hlease := h.lease hworker
    rw [hphase] at hlease
    obtain ⟨shelf, hshelf, -⟩ := h.exists_shelf hworker
    obtain ⟨others, helements⟩ := exists_elements_eq hworker
    have hnext : worker.Next w.crossCpuFree [e] [] [] _ := .frees hphase
    obtain ⟨own, hown, -⟩ := hnext.exists_kept (h.worker hworker)
    rw [Multiset.coe_singleton] at hown
    have hhome : e.pool = w.world.pool.id := by
      refine h.home e ?_
      rw [helements, hown]
      simp
    have hout := h.audited
    rw [helements, hown, add_assoc, Multiset.map_add, Multiset.map_singleton, ← add_assoc] at hout
    obtain ⟨d, hrun, hrelease⟩ := Pool.Lease.runOn_free ⟨w.world.pool.id, id⟩ (d := w.world.depot)
      h.sound hshelf hhome (@Stock.exists_reclaim _ _ Store.auditing _ _ _ _ _ _ hout hshelf)
    obtain ⟨world, transcript, hperform, hpool, rfl⟩ :=
      perform_eq (fun lease => lease.free e) h.pool hrun
    rw [Workshop.free, hperform]
    exact .quiet transcript hworker hnext
      (.of_dealing h.sound hpool (.released hrelease)
        (hrelease.leases_eq.trans (set_of_getElem? hlease).symm) nofun)

/-- **Every move** of a worker that can move is one of those listed. -/
theorem move (h : w.WF) (hmove : w.canMove id = true) : w.Moved id (w.move id) := by
  rw [canMove] at hmove
  rcases hworker : w.workers[id]? with _ | worker <;> rw [hworker] at hmove
  · cases hmove
  dsimp only at hmove
  rw [Workshop.move, hworker]
  dsimp only
  rw [Worker.hasStopped, Worker.isWaiting] at hmove
  rcases hphase : worker.phase with _ | _ | (_ | missing) | _ | _ | rest | _ | error | fault
  all_goals
    rw [hphase] at hmove
    dsimp only at hmove ⊢
  · exact h.start hworker hphase
  · exact h.draw hworker hphase
  · refine h.still hworker (.completes hphase) ?_
    rw [hphase]
    rfl
  · exact h.allocate hworker hphase
  · exact h.handOver hworker hphase
  · rcases hmailbox : worker.mailbox with _ | ⟨burst, mailbox⟩ <;> rw [hmailbox] at hmove
    · cases hmove
    · exact h.receive hworker hphase hmailbox
  · exact h.free hworker hphase
  · cases hmove
  · cases hmove
  · cases hmove

end WF

/-- A worker that cannot move changes nothing. -/
theorem move_of_not_canMove {w : Workshop} {id : Nat} (h : w.canMove id = false) :
    w.move id = w := by
  rw [canMove] at h
  rw [Workshop.move]
  cases hworker : w.workers[id]? with
  | none => rfl
  | some worker =>
    rw [hworker] at h
    dsimp only at h ⊢
    rw [Worker.hasStopped, Worker.isWaiting] at h
    cases hphase : worker.phase with
    | finished | refused | panicked => rfl
    | receiving =>
      rw [hphase] at h
      have hmailbox : worker.mailbox = [] := by simpa using h
      dsimp only
      rw [receive, hmailbox]
    | _ =>
      rw [hphase] at h
      cases h

end Workshop

end TieredPool
