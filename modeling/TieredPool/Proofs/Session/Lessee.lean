import TieredPool.Proofs.Pool.Reserve
import TieredPool.Proofs.Session.Issue

/-!
# A caller on one lease

A caller who allocates and frees on one leased CPU sees the pool through its figures, and the
backing through the calls that the pool makes. `Session.Lessee` ties both to a session in order. It
is kept by allocations that are met (`Session.Lessee.allocate`) and by frees of elements of the pool
(`Session.Lessee.free`), each of which takes the figures on and makes the calls that the figures
tell. So what runs on one lease come to is read off the figures.
-/

namespace TieredPool

/-- A CPU that is leased has figures. -/
theorem Pool.WF.exists_figures {p : Pool} (h : p.WF) {cpu : Nat}
    (hleased : (p.leaseOf? cpu).isSome) : ∃ f, p.figures? cpu = some f := by
  obtain ⟨lease, hlease⟩ := Option.isSome_iff_exists.1 hleased
  obtain ⟨-, shelf, hshelf⟩ := leaseOf?_eq_some hlease
  exact ⟨_, (h.figures?_eq cpu).trans (Stock.figures?_of_getElem? hshelf)⟩

namespace Session

/-! ## Runs without a problem -/

/-- No step runs into a problem. -/
def Succeeds {β : Type} [Backing β] : Session β → List Action → Prop
  | _, [] => True
  | s, a :: rest => (s.act a).1 = none ∧ Succeeds (s.act a).2 rest

instance Succeeds.instDecidable {β : Type} [Backing β] :
    (s : Session β) → (actions : List Action) → Decidable (s.Succeeds actions)
  | _, [] => inferInstanceAs (Decidable True)
  | s, a :: rest =>
    have := instDecidable (s.act a).2 rest
    inferInstanceAs (Decidable (_ ∧ _))

/-- An allocation or a free on one lease. -/
inductive Action.OnLease (place cpu : Nat) : Action → Prop
  | allocate (flags : AllocFlags) : OnLease place cpu (.allocate place cpu flags)
  | free (pick : Pick) : OnLease place cpu (.free place cpu pick)

variable {β : Type} [Backing β] {s s' : Session (Recorded β)} {place cpu k : Nat}
  {r r' : Recorded β} {f f' : Figures}

theorem issued_cons (place : Nat) (s : Session (Recorded β)) (a : Action) (rest : List Action) :
    issued place s (a :: rest) = issued place s [a] ++ issued place (s.act a).2 rest :=
  issued_append place s [a] rest

/-- The calls in a step that changes one backing. -/
theorem issued_of_set {a : Action} {calls : List BackingCall} (hplace : a.place? = some place)
    (hget : s.backings[k]? = some r) (hcalls : r'.calls.toList = r.calls.toList ++ calls)
    (hset : (s.act a).2.backings = s.backings.setIfInBounds k r') : issued place s [a] = calls := by
  rw [issued, issued, Action.worker?_of_place? hplace, if_pos rfl, received_set hget hcalls hset,
    List.append_nil]

variable [LawfulBacking (Recorded β)]

/-- A caller has leased a CPU of the pool at a place. The pool has these figures there, and its
backing, at place `k`, is `r`. -/
structure Lessee (s : Session (Recorded β)) (place cpu k : Nat) (r : Recorded β) (f : Figures) :
    Prop where
  wf : s.WF
  backing : s.backings[k]? = some r
  pool : ∃ pool lease, s.tenant? place = some ⟨pool, k⟩ ∧ pool.leaseOf? cpu = some lease ∧
    pool.stock.figures? cpu = some f

theorem WF.exists_lessee (h : s.WF) {tenant : Tenant} (htenant : s.tenant? place = some tenant)
    (hleased : (tenant.pool.leaseOf? cpu).isSome) (hf : tenant.pool.figures? cpu = some f) :
    ∃ r, s.Lessee place cpu tenant.backing r f := by
  obtain ⟨r, hbacking⟩ := h.backing htenant
  obtain ⟨lease, hlease⟩ := Option.isSome_iff_exists.1 hleased
  rw [(h.tenant htenant).pool.figures?_eq] at hf
  exact ⟨r, h, hbacking, tenant.pool, lease, htenant, hlease, hf⟩

namespace Lessee

theorem exists_figures (h : s.Lessee place cpu k r f) :
    ∃ tenant, s.tenant? place = some tenant ∧ tenant.pool.figures? cpu = some f := by
  obtain ⟨pool, -, htenant, -, hf⟩ := h.pool
  exact ⟨_, htenant, ((h.wf.tenant htenant).pool.figures?_eq cpu).trans hf⟩

theorem sound (h : s.Lessee place cpu k r f) : f.Sound := by
  obtain ⟨pool, -, htenant, -, hf⟩ := h.pool
  obtain ⟨hwf, hsound, -⟩ := h.wf.tenant htenant
  exact hsound.figures (hwf.batch_dvd hsound) hf

/-- The pool has dealt with its backing and has other figures, but the same leases. -/
theorem set (h : s.Lessee place cpu k r f) (hs' : s'.WF) {pool pool' : Pool} {lease : Pool.Lease}
    (htenant : s.tenant? place = some ⟨pool, k⟩) (hlease : pool.leaseOf? cpu = some lease)
    (hpools : s'.pools = s.pools.setIfInBounds place (some ⟨pool', k⟩))
    (hbackings : s'.backings = s.backings.setIfInBounds k r')
    (hleases : pool'.stock.leases = pool.stock.leases) (hid : pool'.stock.id = pool.stock.id)
    (hf' : pool'.stock.figures? cpu = some f') : s'.Lessee place cpu k r' f' := by
  refine ⟨hs', ?_, pool', lease, ?_, ?_, hf'⟩
  · rw [hbackings, Array.getElem?_setIfInBounds_self_of_lt (h.wf.backing_lt htenant)]
  · rw [tenant?_of_set hpools htenant, if_pos rfl]
  · have hnumber : pool'.id = pool.id := hid
    rw [← hlease, Pool.leaseOf?_eq, Pool.leaseOf?_eq, hleases, hnumber]

/-! ## Allocations -/

/-- An allocation comes to nothing only if it has to ask the backing. -/
theorem allocate_ok (h : s.Lessee place cpu k r f) (flags : AllocFlags)
    (hmet : f.Dry → (Backing.alloc flags r).1 ≠ none) :
    (s.act (.allocate place cpu flags)).1 = none := by
  obtain ⟨pool, lease, htenant, hlease, hf⟩ := h.pool
  obtain ⟨answer, d, pool', events, hout, -, -, hallocate⟩ :=
    h.wf.allocate_eq htenant h.backing hlease flags
  cases answer with
  | some x =>
    rw [act, hallocate]
    rfl
  | none =>
    obtain ⟨hdry, hnone⟩ := hout.dry_of_none hf
    exact absurd hnone (hmet hdry)

/-- The calls in an allocation: if the queues have nothing for it, a run of requests. -/
theorem issued_allocate (h : s.Lessee place cpu k r f) (flags : AllocFlags) :
    issued place s [.allocate place cpu flags] =
      if f.Dry then
        (Backing.supply flags (1 + batch * refillBatches) r).1.map (.granted flags) ++
          if (Backing.supply flags (1 + batch * refillBatches) r).1.length <
              1 + batch * refillBatches then [.refused flags] else []
      else [] := by
  obtain ⟨pool, lease, htenant, hlease, hf⟩ := h.pool
  obtain ⟨answer, d, pool', events, hout, -, -, hallocate⟩ :=
    h.wf.allocate_eq htenant h.backing hlease flags
  have hbackings : (s.act (.allocate place cpu flags)).2.backings =
      s.backings.setIfInBounds k d.backing := by
    rw [act, hallocate]
  refine issued_of_set rfl h.backing ?_ hbackings
  rw [hout.backing_eq hf]
  split
  · rw [Recorded.calls_supply, List.append_assoc]
  · rw [List.append_nil]

theorem issued_allocate_eq_nil_iff (h : s.Lessee place cpu k r f) (flags : AllocFlags) :
    issued place s [.allocate place cpu flags] = [] ↔ ¬f.Dry := by
  rw [h.issued_allocate flags]
  by_cases hdry : f.Dry
  · -- a run of requests that brings nothing was refused
    rw [if_pos hdry]
    refine iff_of_false (fun hnil => ?_) (not_not_intro hdry)
    obtain ⟨hnone, hfew⟩ := List.append_eq_nil_iff.1 hnil
    rw [List.map_eq_nil_iff.1 hnone] at hfew
    cases hfew
  · rw [if_neg hdry]
    exact iff_of_true rfl hdry

/-- **An allocation** that is met hands an element over and takes the figures on. -/
theorem allocate (h : s.Lessee place cpu k r f) (flags : AllocFlags)
    (hok : (s.act (.allocate place cpu flags)).1 = none) :
    (∃ x, (s.act (.allocate place cpu flags)).2.held = s.held ++ [⟨⟨x, f.id⟩, k⟩]) ∧
      (s.act (.allocate place cpu flags)).2.Lessee place cpu k
        (if f.Dry then (Backing.supply flags (1 + batch * refillBatches) r).2 else r)
        (f.allocate
          ((Backing.supply flags (1 + batch * refillBatches) r).1.length - 1)) := by
  have hs' := h.wf.act_wf (.allocate place cpu flags)
  obtain ⟨pool, lease, htenant, hlease, hf⟩ := h.pool
  obtain ⟨answer, d, pool', events, hout, hwf, hstock, hallocate⟩ :=
    h.wf.allocate_eq htenant h.backing hlease flags
  have hbacking := hout.backing_eq hf
  rw [act, hallocate] at hok hs' ⊢
  cases answer with
  | none => cases hok
  | some x =>
    have hleases := hout.leases_eq
    have hid := (Dealing.allocated hout).shape_eq.1
    have hf' := hout.figures?_eq hf
    rw [← hstock] at hleases hid hf'
    rw [← hbacking]
    exact ⟨⟨x, by rw [Stock.id_of_figures? hf]; rfl⟩,
      h.set hs' htenant hlease rfl rfl hleases hid hf'⟩

/-! ## Frees -/

/-- A free that runs into no problem is one of an element of the pool. -/
theorem exists_picked (h : s.Lessee place cpu k r f) {pick : Pick}
    (hok : (s.act (.free place cpu pick)).1 = none) :
    ∃ at_ holding, s.picked? pick = some (at_, holding) ∧ holding.element.pool = f.id := by
  obtain ⟨pool, lease, htenant, hlease, hf⟩ := h.pool
  rcases hpicked : s.picked? pick with _ | ⟨at_, holding⟩
  · simp only [act, Session.free, htenant, hlease, hpicked] at hok
    cases hok
  · refine ⟨at_, holding, rfl, ?_⟩
    rw [Stock.id_of_figures? hf]
    by_contra hforeign
    rw [act, free_foreign htenant h.backing hlease hpicked hforeign] at hok
    cases hok

/-- **A free** of an element of the pool succeeds and takes the figures on. If both queues are full
it gives three batches back, one call for each element. -/
theorem free (h : s.Lessee place cpu k r f) {pick : Pick} {at_ : Nat} {holding : Holding}
    (hpicked : s.picked? pick = some (at_, holding)) (hown : holding.element.pool = f.id) :
    (s.act (.free place cpu pick)).1 = none ∧
      (s.act (.free place cpu pick)).2.held = s.held.eraseIdx at_ ∧
      ∃ (r' : Recorded β) (items : List Handle),
        (s.act (.free place cpu pick)).2.Lessee place cpu k r' f.free ∧
        issued place s [.free place cpu pick] = items.map .freed ∧
        items.length = if f.Brimming then batch * (1 + refillBatches) else 0 := by
  have hs' := h.wf.act_wf (.free place cpu pick)
  obtain ⟨pool, lease, htenant, hlease, hf⟩ := h.pool
  rw [Stock.id_of_figures? hf] at hown
  obtain ⟨d, pool', events, hout, hwf, hstock, hfree⟩ :=
    h.wf.free_eq htenant h.backing hlease hpicked hown
  have hleases := hout.leases_eq
  have hid := (Dealing.released hout).shape_eq.1
  have hf' := hout.figures?_eq hf
  rw [← hstock] at hleases hid hf'
  obtain ⟨items, hcalls, hlength⟩ : ∃ items : List Handle,
      d.backing.calls.toList = r.calls.toList ++ items.map .freed ∧
      items.length = if f.Brimming then batch * (1 + refillBatches) else 0 := by
    by_cases hfull : f.Brimming
    · obtain ⟨items, hlength, hreclaim⟩ := hout.exists_reclaim hf hfull
      exact ⟨items, Recorded.calls_reclaim hreclaim, by rw [if_pos hfull, hlength]⟩
    · have hquiet := hout.backing_eq hf hfull
      exact ⟨[], by rw [hquiet]; exact (List.append_nil _).symm, by rw [if_neg hfull]; rfl⟩
  have hbackings : (s.act (.free place cpu pick)).2.backings =
      s.backings.setIfInBounds k d.backing := by
    rw [act, hfree]
  have hissued := issued_of_set (a := .free place cpu pick) rfl h.backing hcalls hbackings
  rw [act, hfree] at hs' ⊢
  exact ⟨rfl, rfl, d.backing, items, h.set hs' htenant hlease rfl rfl hleases hid hf', hissued,
    hlength⟩

end Lessee

end Session

end TieredPool
