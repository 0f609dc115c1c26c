import TieredPool.Proofs.Session.Invariant

/-!
# What a step of a session does

A session in order answers every step in one of the ways listed in `Session.Transition`
(`Session.WF.act`). This is the only place where the steps are taken apart; what holds of all
sessions is proved from the transitions.
-/

namespace TieredPool

namespace Session

variable {β : Type}

/-! ## Working on one pool -/

theorem setIfInBounds_self {α : Type} {xs : Array α} {i : Nat} {x : α} (h : xs[i]? = some x) :
    xs.setIfInBounds i x = xs := by
  obtain ⟨hi, rfl⟩ := Array.getElem?_eq_some_iff.1 h
  simp [Array.setIfInBounds, hi]

section Working

variable {s : Session β} {place : Nat} {tenant : Tenant} {b : β} {τ : Type}

/-- Working on a pool that is there changes that pool and its backing alone. -/
theorem onWorld_eq (htenant : s.tenant? place = some tenant)
    (hbacking : s.backings[tenant.backing]? = some b) (f : World β → Except Problem τ × World β) :
    s.onWorld place f =
      ((f ⟨tenant.pool, b, s.events⟩).1,
        { s with
          pools := s.pools.setIfInBounds place
            (some ⟨(f ⟨tenant.pool, b, s.events⟩).2.pool, tenant.backing⟩)
          backings :=
            s.backings.setIfInBounds tenant.backing (f ⟨tenant.pool, b, s.events⟩).2.backing
          events := (f ⟨tenant.pool, b, s.events⟩).2.events }) := by
  simp only [onWorld, htenant, hbacking, Array.setIfInBounds_setIfInBounds]

theorem onWorld_missing (htenant : s.tenant? place = none)
    (f : World β → Except Problem τ × World β) : s.onWorld place f = (.error .noPool, s) := by
  simp only [onWorld, htenant]

/-- Work that leaves the pool and its backing as they are. -/
theorem onWorld_idle (htenant : s.tenant? place = some tenant)
    (hbacking : s.backings[tenant.backing]? = some b) {f : World β → Except Problem τ × World β}
    (answer : Except Problem τ) (events : Array Event)
    (hf : f ⟨tenant.pool, b, s.events⟩ = (answer, ⟨tenant.pool, b, events⟩)) :
    s.onWorld place f = (answer, { s with events }) := by
  rw [onWorld_eq htenant hbacking, hf]
  simp only [setIfInBounds_self (tenant?_eq_some.1 htenant), setIfInBounds_self hbacking]

variable [Backing β] {cpu : Nat} {f : Pool.Lease → Routine τ}

theorem onLease_noLease (htenant : s.tenant? place = some tenant)
    (hbacking : s.backings[tenant.backing]? = some b) (hlease : tenant.pool.leaseOf? cpu = none) :
    s.onLease place cpu f = (.error .noLease, s) := by
  refine onWorld_idle htenant hbacking _ s.events ?_
  simp only [hlease]

theorem onLease_eq (htenant : s.tenant? place = some tenant)
    (hbacking : s.backings[tenant.backing]? = some b) {lease : Pool.Lease}
    (hlease : tenant.pool.leaseOf? cpu = some lease) {answer : Except Fault τ} {pool : Pool}
    {b' : β} {events : Array Event}
    (hrun : (f lease).run ⟨tenant.pool, b, s.events⟩ = (answer, ⟨pool, b', events⟩)) :
    s.onLease place cpu f =
      (answer.mapError .fault,
        { s with
          pools := s.pools.setIfInBounds place (some ⟨pool, tenant.backing⟩)
          backings := s.backings.setIfInBounds tenant.backing b'
          events }) := by
  rw [onLease, onWorld_eq htenant hbacking]
  simp only [hlease, hrun]
  cases answer <;> rfl

end Working

/-! ## Transitions -/

variable [Backing β]

/-- What a step of a session does: the problem that it runs into, if any, and the session after
it. -/
inductive Transition (s : Session β) : Action → Option Problem → Session β → Prop
  /-- The step fails and changes nothing, or it has nothing to do. -/
  | idle {a : Action} {problem : Option Problem} {events : Array Event}
      (hproblem : ∀ fault, problem ≠ some (.fault fault)) :
    Transition s a problem { s with events }
  /-- A caller deals with a pool on a CPU, and parts with some elements and gets others. -/
  | dealt {a : Action} {problem : Option Problem} {place cpu : Nat} {tenant : Tenant} {b b' : β}
      {pool : Pool} {taken given : List Handle} {held : List Holding} {rest : Multiset Holding}
      {events : Array Event} (htenant : s.tenant? place = some tenant)
      (hbacking : s.backings[tenant.backing]? = some b) (hwf : pool.WF)
      (hdeal : Dealing cpu ⟨tenant.pool.stock, b⟩ taken given ⟨pool.stock, b'⟩)
      (hheld : (s.held : Multiset Holding) = holdings tenant taken + rest)
      (hheld' : (held : Multiset Holding) = holdings tenant given + rest)
      (hproblem : ∀ fault, problem ≠ some (.fault fault)) (hplace : a.place? = some place) :
    Transition s a problem
      { s with
        pools := s.pools.setIfInBounds place (some ⟨pool, tenant.backing⟩)
        backings := s.backings.setIfInBounds tenant.backing b'
        held, events }
  | forgot {pick : Pick} {at_ : Nat} {holding : Holding}
      (hpicked : s.picked? pick = some (at_, holding)) :
    Transition s (.forget pick) none
      { s with held := s.held.eraseIdx at_, lost := s.lost ++ [holding] }
  /-- A caller frees an element of another pool and loses it. -/
  | misfreed {place cpu at_ : Nat} {pick : Pick} {tenant : Tenant} {holding : Holding}
      {events : Array Event} (htenant : s.tenant? place = some tenant)
      (hpicked : s.picked? pick = some (at_, holding))
      (hforeign : holding.element.pool ≠ tenant.pool.id) :
    Transition s (.free place cpu pick)
      (some (.fault (.foreignElement holding.element.pool tenant.pool.id)))
      { s with held := s.held.eraseIdx at_, lost := s.lost ++ [holding], events }
  | built {plan : Plan} {k cpus : Nat} {b b' : β} {pool : Pool} {events : Array Event}
      (hbacking : s.backings[k]? = some b) (hplan : plan.Sound)
      (hbuilt : plan.Constructed s.nextId cpus b (.ok pool) b') :
    Transition s (.build plan (some k)) none
      { s with
        pools := s.pools.push (some ⟨pool, k⟩)
        backings := s.backings.setIfInBounds k b'
        nextId := s.nextId + 1
        events }
  | abandoned {plan : Plan} {k cpus : Nat} {b b' : β} {failure : Failure CreateError}
      {problem : Problem} {events : Array Event} (hbacking : s.backings[k]? = some b)
      (hfailed : plan.Constructed s.nextId cpus b (.error failure) b')
      (hproblem : ∀ fault, problem = .fault fault → failure = .fault fault) :
    Transition s (.build plan (some k)) (some problem)
      { s with
        backings := s.backings.setIfInBounds k b'
        nextId := s.nextId + 1
        events }
  | destroyed {place : Nat} {tenant : Tenant} {b b' : β} {events : Array Event}
      (htenant : s.tenant? place = some tenant) (hbacking : s.backings[tenant.backing]? = some b)
      (hreclaim : Backing.reclaim tenant.pool.stock.contents b = (.ok (), b')) :
    Transition s (.destroy place) none
      { s with
        pools := s.pools.setIfInBounds place none
        backings := s.backings.setIfInBounds tenant.backing b'
        events }

theorem Transition.still {s : Session β} {a : Action} {problem : Option Problem}
    (hproblem : ∀ fault, problem ≠ some (.fault fault)) : Transition s a problem s := by
  have hidle : Transition s a problem { s with events := s.events } := .idle hproblem
  exact hidle

/-! ## Steps are transitions -/

theorem act_forget (s : Session β) (pick : Pick) :
    Transition s (.forget pick) (s.act (.forget pick)).1 (s.act (.forget pick)).2 := by
  simp only [act, forget]
  rcases hpicked : s.picked? pick with _ | ⟨at_, holding⟩
  · exact .still fun _ heq => by cases heq
  · exact .forgot hpicked

theorem allocate_missing {s : Session β} {place : Nat} (htenant : s.tenant? place = none)
    (cpu : Nat) (flags : AllocFlags) : s.allocate place cpu flags = (.error .noPool, s) := by
  rw [allocate, onLease, onWorld_missing htenant]

theorem allocate_noLease {s : Session β} {place cpu : Nat} {tenant : Tenant} {b : β}
    (htenant : s.tenant? place = some tenant) (hbacking : s.backings[tenant.backing]? = some b)
    (hlease : tenant.pool.leaseOf? cpu = none) (flags : AllocFlags) :
    s.allocate place cpu flags = (.error .noLease, s) := by
  rw [allocate, onLease_noLease htenant hbacking hlease]

theorem destroy_missing {s : Session β} {place : Nat} (htenant : s.tenant? place = none) :
    s.destroy place = (.error .noPool, s) := by
  have hpools : s.pools.setIfInBounds place none = s.pools := by
    rcases hget : s.pools[place]? with _ | other
    · exact Array.setIfInBounds_eq_of_size_le (Array.getElem?_eq_none_iff.1 hget)
    · rw [tenant?, hget, Option.join_some] at htenant
      exact setIfInBounds_self (htenant ▸ hget)
  rw [destroy, onWorld_missing htenant]
  dsimp only
  rw [hpools]

/-- **A foreign element** is refused before anything is done. -/
theorem free_foreign {s : Session β} {place cpu at_ : Nat} {pick : Pick} {tenant : Tenant} {b : β}
    {lease : Pool.Lease} {holding : Holding} (htenant : s.tenant? place = some tenant)
    (hbacking : s.backings[tenant.backing]? = some b)
    (hlease : tenant.pool.leaseOf? cpu = some lease)
    (hpicked : s.picked? pick = some (at_, holding))
    (hforeign : holding.element.pool ≠ tenant.pool.id) :
    s.free place cpu pick =
      (.error (.fault (.foreignElement holding.element.pool tenant.pool.id)),
        { s with held := s.held.eraseIdx at_, lost := s.lost ++ [holding] }) := by
  obtain ⟨rfl, -⟩ := Pool.leaseOf?_eq_some hlease
  have hrun := Pool.Lease.run_free_foreign ⟨tenant.pool.id, cpu⟩ ⟨tenant.pool, b, s.events⟩ hforeign
  simp only [free, htenant, hlease, hpicked]
  rw [onLease_eq (s := { s with held := s.held.eraseIdx at_ }) htenant hbacking hlease hrun]
  simp only [Except.mapError, setIfInBounds_self (tenant?_eq_some.1 htenant),
    setIfInBounds_self hbacking]

namespace WF

variable [LawfulBacking β] {s : Session β}

theorem backing (h : s.WF) {place : Nat} {tenant : Tenant}
    (htenant : s.tenant? place = some tenant) : ∃ b, s.backings[tenant.backing]? = some b :=
  ⟨_, Array.getElem?_eq_getElem (h.backing_lt htenant)⟩

/-- The elements out of a pool's backing: those of the pool, some that callers took from it, and
the others. -/
theorem exists_out (h : s.WF) {place : Nat} {tenant : Tenant} {b : β}
    (htenant : s.tenant? place = some tenant) (hbacking : s.backings[tenant.backing]? = some b)
    {taken : List Handle} {rest : Multiset Holding}
    (hheld : (s.held : Multiset Holding) = holdings tenant taken + rest) :
    ∃ m, LawfulBacking.Out b (tenant.pool.stock.elements + ↑taken + m) := by
  have hout := h.out hbacking
  obtain ⟨others, hsum, -⟩ := exists_sum_elementsAt tenant.backing htenant
  rw [elementsOn, hsum, elementsAt, if_pos rfl, strays, hheld, handlesOn_add, handlesOn_add,
    handlesOn_holdings] at hout
  refine ⟨others + (handlesOn tenant.backing rest + handlesOn tenant.backing s.lost), ?_⟩
  have hsplit : ∀ a b c d e : Multiset Handle, a + b + (c + d + e) = a + c + (b + (d + e)) := by
    intro a b c d e
    abel
  rwa [hsplit] at hout

theorem act_lease (h : s.WF) (place cpu : Nat) :
    Transition s (.lease place cpu) (s.act (.lease place cpu)).1 (s.act (.lease place cpu)).2 := by
  simp only [act, lease]
  rcases htenant : s.tenant? place with _ | tenant
  · rw [onWorld_missing htenant]
    exact .still fun _ heq => by cases heq
  · obtain ⟨b, hbacking⟩ := h.backing htenant
    rcases hlease : tenant.pool.lease cpu with ⟨error | lease, pool⟩
    · obtain rfl := Pool.lease_error hlease
      rw [onWorld_idle htenant hbacking (.error (.lease error)) s.events (by simp only [hlease])]
      exact .idle fun _ heq => by cases heq
    · obtain ⟨hwf, shelf, hshelf, hstock⟩ := (h.tenant htenant).pool.lease hlease
      have hdeal : Dealing cpu ⟨tenant.pool.stock, b⟩ [] [] ⟨pool.stock, b⟩ := by
        rw [hstock]
        exact .leased (d := ⟨tenant.pool.stock, b⟩) hshelf
      rw [onWorld_eq htenant hbacking]
      simp only [hlease]
      exact .dealt htenant hbacking hwf hdeal (held_eq s tenant) rfl (fun _ heq => by cases heq) rfl

theorem act_unlease (h : s.WF) (place cpu : Nat) :
    Transition s (.unlease place cpu) (s.act (.unlease place cpu)).1
      (s.act (.unlease place cpu)).2 := by
  simp only [act, unlease]
  rcases htenant : s.tenant? place with _ | tenant
  · rw [onWorld_missing htenant]
    exact .still fun _ heq => by cases heq
  · obtain ⟨b, hbacking⟩ := h.backing htenant
    rcases hlease : tenant.pool.leaseOf? cpu with _ | lease
    · rw [onWorld_idle htenant hbacking (.error .noLease) s.events (by simp only [hlease])]
      exact .idle fun _ heq => by cases heq
    · obtain ⟨-, shelf, hshelf⟩ := Pool.leaseOf?_eq_some hlease
      obtain ⟨hwf, hstock⟩ := (h.tenant htenant).pool.unlease cpu
      have hdeal :
          Dealing cpu ⟨tenant.pool.stock, b⟩ [] [] ⟨(tenant.pool.unlease cpu).stock, b⟩ := by
        rw [hstock]
        exact .unleased (d := ⟨tenant.pool.stock, b⟩) hshelf
      rw [onWorld_eq htenant hbacking]
      simp only [hlease]
      exact .dealt htenant hbacking hwf hdeal (held_eq s tenant) rfl (fun _ heq => by cases heq) rfl

/-- **An allocation** on a leased CPU is one of the pool, and its element goes to the caller. -/
theorem allocate_eq (h : s.WF) {place cpu : Nat} {tenant : Tenant} {b : β}
    (htenant : s.tenant? place = some tenant) (hbacking : s.backings[tenant.backing]? = some b)
    {lease : Pool.Lease} (hlease : tenant.pool.leaseOf? cpu = some lease) (flags : AllocFlags) :
    ∃ (answer : Option Handle) (d : Depot β) (pool : Pool) (events : Array Event),
      Allocation cpu flags ⟨tenant.pool.stock, b⟩ answer d ∧ pool.WF ∧ pool.stock = d.stock ∧
      s.allocate place cpu flags =
        (match answer with
          | none => .error .outOfMemory
          | some x => .ok ⟨x, tenant.pool.id⟩,
        { s with
          pools := s.pools.setIfInBounds place (some ⟨pool, tenant.backing⟩)
          backings := s.backings.setIfInBounds tenant.backing d.backing
          held := s.held ++ answer.toList.map fun x => ⟨⟨x, tenant.pool.id⟩, tenant.backing⟩
          events }) := by
  obtain ⟨rfl, shelf, hshelf⟩ := Pool.leaseOf?_eq_some hlease
  obtain ⟨answer, d, hrunOn, hout⟩ := Pool.Lease.runOn_allocate ⟨tenant.pool.id, cpu⟩ flags
    (d := ⟨tenant.pool.stock, b⟩) (h.tenant htenant).sound hshelf
  obtain ⟨pool, events, hrun, hwf, hstock⟩ := Routine.exists_run_eq
    (w := ⟨tenant.pool, b, s.events⟩) (h.tenant htenant).pool hrunOn
  refine ⟨answer, d, pool, events, hout, hwf, hstock, ?_⟩
  rw [allocate, onLease_eq htenant hbacking hlease hrun]
  cases answer with
  | none => simp only [Except.mapError, Option.map_none, Option.toList_none, List.map_nil,
      List.append_nil]
  | some x =>
    simp only [Except.mapError, Option.map_some]
    split
    · next hnone =>
      rw [tenant?_of_set rfl htenant, if_pos rfl] at hnone
      cases hnone
    · next tenant' hsome =>
      rw [tenant?_of_set rfl htenant, if_pos rfl] at hsome
      cases hsome
      rfl

theorem act_allocate (h : s.WF) (place cpu : Nat) (flags : AllocFlags) :
    Transition s (.allocate place cpu flags) (s.act (.allocate place cpu flags)).1
      (s.act (.allocate place cpu flags)).2 := by
  simp only [act]
  rcases htenant : s.tenant? place with _ | tenant
  · rw [allocate_missing htenant]
    exact .still fun _ heq => by cases heq
  · obtain ⟨b, hbacking⟩ := h.backing htenant
    rcases hlease : tenant.pool.leaseOf? cpu with _ | lease
    · rw [allocate_noLease htenant hbacking hlease]
      exact .still fun _ heq => by cases heq
    · obtain ⟨answer, d, pool, events, hout, hwf, hstock, hallocate⟩ :=
        h.allocate_eq htenant hbacking hlease flags
      have hdeal : Dealing cpu ⟨tenant.pool.stock, b⟩ [] answer.toList
          ⟨pool.stock, d.backing⟩ := by
        rw [hstock]
        exact .allocated hout
      rw [hallocate]
      refine .dealt htenant hbacking hwf hdeal (held_eq s tenant) ?_ (fun _ heq => ?_) rfl
      · rw [← Multiset.coe_add, add_comm]
        rfl
      · cases answer <;> cases heq

/-- An element in a caller's hands, seen as one of the pool that handed it out. -/
theorem eq_holdings (h : s.WF) {place : Nat} {tenant : Tenant} {holding : Holding}
    (htenant : s.tenant? place = some tenant) (hmem : holding ∈ s.strays)
    (hown : holding.element.pool = tenant.pool.id) :
    ({holding} : Multiset Holding) = holdings tenant [holding.element.handle] := by
  have hhome := h.stray_home hmem htenant hown
  rw [holdings, List.map_singleton, Multiset.coe_singleton, ← hown, ← hhome]

/-- **A free** of an element of the pool is a release by the pool. -/
theorem free_eq (h : s.WF) {place cpu at_ : Nat} {pick : Pick} {tenant : Tenant} {b : β}
    (htenant : s.tenant? place = some tenant) (hbacking : s.backings[tenant.backing]? = some b)
    {lease : Pool.Lease} (hlease : tenant.pool.leaseOf? cpu = some lease) {holding : Holding}
    (hpicked : s.picked? pick = some (at_, holding))
    (hown : holding.element.pool = tenant.pool.id) :
    ∃ (d : Depot β) (pool : Pool) (events : Array Event),
      Release cpu holding.element.handle ⟨tenant.pool.stock, b⟩ d ∧ pool.WF ∧
      pool.stock = d.stock ∧
      s.free place cpu pick = (.ok holding,
        { s with
          pools := s.pools.setIfInBounds place (some ⟨pool, tenant.backing⟩)
          backings := s.backings.setIfInBounds tenant.backing d.backing
          held := s.held.eraseIdx at_
          events }) := by
  obtain ⟨rfl, shelf, hshelf⟩ := Pool.leaseOf?_eq_some hlease
  have hheld := held_eq_of_picked hpicked
  rw [h.eq_holdings htenant (mem_strays_of_picked hpicked) hown] at hheld
  obtain ⟨m, hout⟩ := h.exists_out htenant hbacking hheld
  obtain ⟨d, hrunOn, hrelease⟩ := Pool.Lease.runOn_free ⟨tenant.pool.id, cpu⟩
    (d := ⟨tenant.pool.stock, b⟩) (h.tenant htenant).sound hshelf hown
    (Stock.exists_reclaim hout hshelf)
  obtain ⟨pool, events, hrun, hwf, hstock⟩ := Routine.exists_run_eq
    (w := ⟨tenant.pool, b, s.events⟩) (h.tenant htenant).pool hrunOn
  refine ⟨d, pool, events, hrelease, hwf, hstock, ?_⟩
  simp only [free, htenant, hlease, hpicked]
  rw [onLease_eq (s := { s with held := s.held.eraseIdx at_ }) htenant hbacking hlease hrun]
  rfl

theorem act_free (h : s.WF) (place cpu : Nat) (pick : Pick) :
    Transition s (.free place cpu pick) (s.act (.free place cpu pick)).1
      (s.act (.free place cpu pick)).2 := by
  simp only [act]
  rcases htenant : s.tenant? place with _ | tenant
  · simp only [free, htenant]
    exact .still fun _ heq => by cases heq
  · obtain ⟨b, hbacking⟩ := h.backing htenant
    rcases hlease : tenant.pool.leaseOf? cpu with _ | lease
    · simp only [free, htenant, hlease]
      exact .still fun _ heq => by cases heq
    rcases hpicked : s.picked? pick with _ | ⟨at_, holding⟩
    · simp only [free, htenant, hlease, hpicked]
      exact .still fun _ heq => by cases heq
    by_cases hown : holding.element.pool = tenant.pool.id
    · have hheld := held_eq_of_picked hpicked
      rw [h.eq_holdings htenant (mem_strays_of_picked hpicked) hown] at hheld
      obtain ⟨d, pool, events, hrelease, hwf, hstock, hfree⟩ :=
        h.free_eq htenant hbacking hlease hpicked hown
      have hdeal : Dealing cpu ⟨tenant.pool.stock, b⟩ [holding.element.handle] []
          ⟨pool.stock, d.backing⟩ := by
        rw [hstock]
        exact .released hrelease
      rw [hfree]
      refine .dealt htenant hbacking hwf hdeal hheld ?_ (fun _ heq => by cases heq) rfl
      exact (Multiset.zero_add _).symm
    · rw [free_foreign htenant hbacking hlease hpicked hown]
      exact .misfreed htenant hpicked hown

/-- **Destroying** a pool that is there gives its contents back, and the report counts them. -/
theorem destroy_eq (h : s.WF) {place : Nat} {tenant : Tenant} {b : β}
    (htenant : s.tenant? place = some tenant) (hbacking : s.backings[tenant.backing]? = some b) :
    ∃ (b' : β) (events : Array Event),
      Backing.reclaim tenant.pool.stock.contents b = (.ok (), b') ∧
      s.destroy place = (.ok (),
        { s with
          pools := s.pools.setIfInBounds place none
          backings := s.backings.setIfInBounds tenant.backing b'
          events := events.push (.poolDestroyed tenant.pool.id tenant.pool.traffic.allocs
            (tenant.pool.traffic.frees + tenant.pool.stock.contents.length)) }) := by
  obtain ⟨hwf, hsound, hcontents, hid, htraffic⟩ := (h.tenant htenant).pool.unleaseAll
    (h.tenant htenant).sound (List.range tenant.pool.cpus)
  obtain ⟨m, hout⟩ := h.exists_out htenant hbacking (held_eq s tenant)
  rw [Multiset.coe_nil, add_zero, ← Stock.coe_contents] at hout
  obtain ⟨b', hreclaim, -⟩ := LawfulBacking.out_reclaim hout
  obtain ⟨pool, events, hretire⟩ := World.retire_eq (w := ⟨_, b, s.events⟩) hwf
    (fun shelf hmem => Nat.le_of_lt (hsound.items_lt shelf hmem)) (Nat.le_of_lt hsound.shared_lt)
    (hcontents ▸ hreclaim)
  refine ⟨b', events, hreclaim, ?_⟩
  rw [destroy, onWorld_eq htenant hbacking]
  simp only [hretire, Array.setIfInBounds_setIfInBounds, hid, htraffic, hcontents]

theorem act_destroy (h : s.WF) (place : Nat) :
    Transition s (.destroy place) (s.act (.destroy place)).1 (s.act (.destroy place)).2 := by
  simp only [act]
  rcases htenant : s.tenant? place with _ | tenant
  · rw [destroy_missing htenant]
    exact .still fun _ heq => by cases heq
  · obtain ⟨b, hbacking⟩ := h.backing htenant
    obtain ⟨b', events, hreclaim, hdestroy⟩ := h.destroy_eq htenant hbacking
    rw [hdestroy]
    exact .destroyed htenant hbacking hreclaim

theorem act_build (h : s.WF) (plan : Plan) (backing : Option Nat) :
    Transition s (.build plan backing) (s.act (.build plan backing)).1
      (s.act (.build plan backing)).2 := by
  simp only [act, build, Plan.build]
  rcases hsource : (backing.bind fun k => s.backings[k]?) with _ | b
  · -- without a backing nothing is built
    rcases hcheck : plan.check false with ⟨error | cpus, reports⟩
    · simp only [Option.isSome_none, hcheck]
      exact .idle fun _ heq => by cases heq
    · simp only [Option.isSome_none, hcheck]
      exact .idle fun _ heq => by cases heq
  · obtain ⟨k, rfl, hbacking⟩ := Option.bind_eq_some_iff.1 hsource
    rcases hcheck : plan.check true with ⟨error | cpus, reports⟩
    · simp only [Option.isSome_some, hcheck, setIfInBounds_self hbacking]
      exact .idle fun _ heq => by cases heq
    · obtain ⟨hplan, -, -⟩ := Plan.check_eq_ok (congrArg Prod.fst hcheck)
      have hconstructed := Plan.construct_constructed hplan s.nextId cpus (h.out hbacking)
      rcases hconstruct : plan.construct cpus s.nextId b with ⟨failure | pool, b', events⟩
      all_goals
        rw [hconstruct] at hconstructed
        simp only [Option.isSome_some, hcheck, hconstruct]
      · cases failure with
        | error error => exact .abandoned hbacking hconstructed fun _ heq => by cases heq
        | fault fault =>
          refine .abandoned hbacking hconstructed fun fault' heq => ?_
          cases heq
          rfl
      · exact .built hbacking hplan hconstructed

/-- **Every step** of a session in order is a transition. -/
theorem act (h : s.WF) (a : Action) : Transition s a (s.act a).1 (s.act a).2 := by
  cases a with
  | build plan backing => exact h.act_build plan backing
  | lease place cpu => exact h.act_lease place cpu
  | unlease place cpu => exact h.act_unlease place cpu
  | allocate place cpu flags => exact h.act_allocate place cpu flags
  | free place cpu pick => exact h.act_free place cpu pick
  | forget pick => exact act_forget s pick
  | destroy place => exact h.act_destroy place

end WF

end Session

end TieredPool
