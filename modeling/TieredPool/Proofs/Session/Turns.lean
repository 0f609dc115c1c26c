import TieredPool.Proofs.Session.Isolation
import TieredPool.Proofs.Session.Spacing

/-!
# Turns between allocations and frees

A caller who turns from allocating to freeing, or back, stays with the queues. However an allocation
was met, the local queue can take an element afterwards, or the shared one a batch; and however a
free was done, the local queue has an element or the shared one a batch. This is arithmetic of
figures (`Figures.Sound.not_brimming_allocate`, `Figures.Sound.not_dry_free`), tightest for local
queues of 16 slots: a refill from the shared queue fills them, and an overflow empties them. An
allocation from the local queue is undone by the next free, as far as lengths and counts tell
(`Figures.Sound.free_allocate`).
-/

namespace TieredPool

/-! ## Figures after a turn -/

namespace Figures

variable {f : Figures}

/-- After an allocation a queue has room. -/
theorem Sound.not_brimming_allocate (h : f.Sound) (more : Nat) : ¬(f.allocate more).Brimming := by
  have hsize := h.localSize_ge
  have hlocal := h.local_lt
  have hshared := h.shared_lt
  rintro ⟨hlocalFull, hsharedFull⟩
  rw [allocate_localSize] at hlocalFull
  rw [allocate_sharedSize] at hsharedFull
  unfold allocate at hlocalFull hsharedFull
  split at hlocalFull
  · next hcached =>
    dsimp only at hlocalFull
    omega
  · next hempty =>
    rw [if_neg hempty] at hsharedFull
    split at hlocalFull
    · next hready =>
      -- the batch that went to the local queue has left its place in the shared one
      rw [if_pos hready] at hsharedFull
      dsimp only at hsharedFull
      omega
    · dsimp only at hlocalFull
      simp only [batch] at hsize
      omega

/-- After a free a queue has something to hand out. -/
theorem Sound.not_dry_free (h : f.Sound) : ¬f.free.Dry := by
  have hsize := h.sharedSize_ge
  rintro ⟨hempty, hshort⟩
  unfold free at hempty hshort
  split at hempty
  · next hroom =>
    dsimp only at hempty
    omega
  · next hfull =>
    rw [if_neg hfull] at hshort
    split at hshort
    · dsimp only at hshort
      omega
    · next hnoroom =>
      -- a drain leaves a batch, since the shared queue was full but for less than one
      dsimp only at hshort
      simp only [batch, refillBatches] at hsize hshort hnoroom
      omega

/-- A free puts back what an allocation took from the local queue. -/
theorem Sound.free_allocate (h : f.Sound) (hlocal : 0 < f.cpu.localLength) (more : Nat) :
    (f.allocate more).free = f := by
  have hlt := h.local_lt
  have hback : f.cpu.localLength - 1 + 1 = f.cpu.localLength := Nat.sub_add_cancel hlocal
  rw [allocate, if_pos hlocal, free]
  dsimp only
  rw [hback, if_pos hlt]

end Figures

theorem Pool.localLength?_of_figures? {p : Pool} {cpu : Nat} {f : Figures}
    (hf : p.figures? cpu = some f) : p.localLength? cpu = some f.cpu.localLength := by
  obtain ⟨statistics, hcpu, rfl⟩ := Option.map_eq_some_iff.1 hf
  obtain ⟨cache, hcache, rfl⟩ := Option.map_eq_some_iff.1 hcpu
  rw [localLength?, hcache]
  rfl

/-- Pools that differ at one CPU at most, and have the same figures there, have the same counts. -/
theorem Pool.SameBut.statistics_eq {cpu : Nat} {p p' : Pool} {f : Figures} (h : p.SameBut cpu p')
    (hf : p.figures? cpu = some f) (hf' : p'.figures? cpu = some f) :
    p'.statistics = p.statistics ∧ p'.allCpuStatistics = p.allCpuStatistics := by
  obtain ⟨statistics, hcpu, rfl⟩ := Option.map_eq_some_iff.1 hf
  obtain ⟨statistics', hcpu', heq⟩ := Option.map_eq_some_iff.1 hf'
  simp only [Figures.mk.injEq] at heq
  obtain ⟨-, -, -, hpool, rfl⟩ := heq
  refine ⟨hpool, List.ext_getElem? fun i => ?_⟩
  simp only [allCpuStatistics, List.getElem?_mapIdx, Array.getElem?_toList]
  by_cases hi : i = cpu
  · subst hi
    exact hcpu'.trans hcpu.symm
  · rw [h.other i hi]

namespace Session

/-- The number of the pool that handed out the element that is meant. -/
def owner? {β : Type} (s : Session β) (pick : Pick) : Option Nat :=
  (s.picked? pick).map fun picked => picked.2.element.pool

/-! ## Steps on a lease -/

section Steps

variable {β : Type} [Backing β] {s : Session (Recorded β)} {place cpu k : Nat}
  {r : Recorded β} {f : Figures}

theorem issued_eq_nil {a : Action} (h : (s.act a).2.backings = s.backings) :
    issued place s [a] = [] := by
  rw [issued, issued, received_self h, ite_self, List.append_nil]

namespace Lessee

variable [LawfulBacking (Recorded β)]

/-- An allocation that a queue meets leaves the backings alone. -/
theorem backings_allocate (h : s.Lessee place cpu k r f) (flags : AllocFlags) (hdry : ¬f.Dry) :
    (s.act (.allocate place cpu flags)).2.backings = s.backings := by
  obtain ⟨pool, lease, htenant, hlease, hf⟩ := h.pool
  obtain ⟨answer, d, pool', events, hout, -, -, hallocate⟩ :=
    h.wf.allocate_eq htenant h.backing hlease flags
  have hquiet := hout.backing_eq hf
  rw [if_neg hdry] at hquiet
  rw [act, hallocate]
  dsimp only
  rw [hquiet, setIfInBounds_self h.backing]

/-- A free that finds room in a queue leaves the backings alone. -/
theorem backings_free (h : s.Lessee place cpu k r f) {pick : Pick} {at_ : Nat} {holding : Holding}
    (hpicked : s.picked? pick = some (at_, holding)) (hown : holding.element.pool = f.id)
    (hroom : ¬f.Brimming) : (s.act (.free place cpu pick)).2.backings = s.backings := by
  obtain ⟨pool, lease, htenant, hlease, hf⟩ := h.pool
  rw [Stock.id_of_figures? hf] at hown
  obtain ⟨d, pool', events, hout, -, -, hfree⟩ :=
    h.wf.free_eq htenant h.backing hlease hpicked hown
  rw [act, hfree]
  dsimp only
  rw [hout.backing_eq hf hroom, setIfInBounds_self h.backing]

/-- **A free after an allocation** stays with the queues. -/
theorem free_after_allocate (h : s.Lessee place cpu k r f) {flags : AllocFlags} {pick : Pick}
    (hok : (s.act (.allocate place cpu flags)).1 = none)
    (hown : (s.act (.allocate place cpu flags)).2.owner? pick = some f.id) :
    s.Succeeds [.allocate place cpu flags, .free place cpu pick] ∧
      (s.follow [.allocate place cpu flags, .free place cpu pick]).backings =
        (s.follow [.allocate place cpu flags]).backings ∧
      ∃ (r' : Recorded β) (more : Nat),
        (s.follow [.allocate place cpu flags, .free place cpu pick]).Lessee place cpu k r'
          (f.allocate more).free := by
  obtain ⟨⟨at_, holding⟩, hpicked, hholding⟩ := Option.map_eq_some_iff.1 hown
  obtain ⟨-, hlessee⟩ := h.allocate flags hok
  generalize (Backing.supply flags (1 + batch * refillBatches) r).1.length - 1 = more at hlessee
  have hid := hholding.trans (f.allocate_id more).symm
  obtain ⟨hfreed, -, r', -, hlast, -, -⟩ := hlessee.free hpicked hid
  have hroom := h.sound.not_brimming_allocate more
  exact ⟨⟨hok, hfreed, trivial⟩, hlessee.backings_free hpicked hid hroom, r', _, hlast⟩

/-- **An allocation after a free** stays with the queues. -/
theorem allocate_after_free (h : s.Lessee place cpu k r f) {flags : AllocFlags} {pick : Pick}
    (hown : s.owner? pick = some f.id) :
    s.Succeeds [.free place cpu pick, .allocate place cpu flags] ∧
      (s.follow [.free place cpu pick, .allocate place cpu flags]).backings =
        (s.follow [.free place cpu pick]).backings := by
  obtain ⟨⟨at_, holding⟩, hpicked, hholding⟩ := Option.map_eq_some_iff.1 hown
  obtain ⟨hfreed, -, r', -, hlessee, -, -⟩ := h.free hpicked hholding
  have hdry := h.sound.not_dry_free
  have hok := hlessee.allocate_ok flags fun hdry' => absurd hdry' hdry
  exact ⟨⟨hfreed, hok, trivial⟩, hlessee.backings_allocate flags hdry⟩

end Lessee

end Steps

/-- **Turns stay with the queues.** After every run over backings with nothing out, and whatever the
sizes of a pool: if an allocation on a leased CPU succeeds, the next free there of any element of the
pool that is in a caller's hands succeeds without a call to a backing. A free there, of whatever
kind, is followed by an allocation that succeeds without a call. And if the local queue has an
element, an allocation and a free after it succeed, leave all backings and all other pools as they
are, and leave all lengths and all counts of the pool as they were. -/
theorem after_turns {β : Type} [Backing β] [LawfulBacking β] {backings : Array (Recorded β)}
    (hnew : ∀ r ∈ backings, LawfulBacking.Out r 0) (actions : List Action) {place cpu : Nat}
    {tenant : Tenant} (htenant : (after backings actions).tenant? place = some tenant)
    (hleased : (tenant.pool.leaseOf? cpu).isSome) (flags : AllocFlags) (pick : Pick) :
    let s := after backings actions
    let allocate := Action.allocate place cpu flags
    let free := Action.free place cpu pick
    (s.Succeeds [allocate] → (s.follow [allocate]).owner? pick = some tenant.pool.id →
      s.Succeeds [allocate, free] ∧ issued place (s.follow [allocate]) [free] = []) ∧
    (s.owner? pick = some tenant.pool.id →
      s.Succeeds [free, allocate] ∧ issued place (s.follow [free]) [allocate] = []) ∧
    (tenant.pool.localLength? cpu ≠ some 0 →
      (s.follow [allocate]).owner? pick = some tenant.pool.id →
        s.Succeeds [allocate, free] ∧
        (s.follow [allocate, free]).backings = s.backings ∧
        (∀ other, other ≠ place →
          (s.follow [allocate, free]).tenant? other = s.tenant? other) ∧
        ∃ tenant', (s.follow [allocate, free]).tenant? place = some tenant' ∧
          tenant'.pool.statistics = tenant.pool.statistics ∧
          tenant'.pool.allCpuStatistics = tenant.pool.allCpuStatistics) := by
  intro s allocate free
  have hs : s.WF := WF.after hnew actions
  obtain ⟨f, hf⟩ := (hs.tenant htenant).pool.exists_figures hleased
  obtain ⟨r, hlessee⟩ := hs.exists_lessee htenant hleased hf
  have hid : f.id = tenant.pool.id := Pool.id_of_figures? hf
  refine ⟨fun hok hown => ?_, fun hown => ?_, fun hlocal hown => ?_⟩
  · obtain ⟨hsucceeds, hbackings, -⟩ := hlessee.free_after_allocate hok.1 (hid ▸ hown)
    exact ⟨hsucceeds, issued_eq_nil hbackings⟩
  · obtain ⟨hsucceeds, hbackings⟩ := hlessee.allocate_after_free (hid ▸ hown)
    exact ⟨hsucceeds, issued_eq_nil hbackings⟩
  · have hpos : 0 < f.cpu.localLength := by
      refine Nat.pos_of_ne_zero fun hzero => hlocal ?_
      rw [Pool.localLength?_of_figures? hf, hzero]
    have hdry : ¬f.Dry := fun hdry => Nat.ne_of_gt hpos hdry.1
    have hok := hlessee.allocate_ok flags fun hdry' => absurd hdry' hdry
    obtain ⟨hsucceeds, hbackings, r', more, hlast⟩ :=
      hlessee.free_after_allocate hok (hid ▸ hown)
    rw [hlessee.sound.free_allocate hpos] at hlast
    obtain ⟨tenant', htenant', hf'⟩ := hlast.exists_figures
    have hconfined := (s.confined_allocate place cpu flags).trans
      (confined_free (s.act allocate).2 place cpu pick)
    obtain ⟨pool, hpool, hsame⟩ := hconfined.home tenant htenant
    obtain rfl : tenant' = ⟨pool, tenant.backing⟩ := Option.some.inj (htenant'.symm.trans hpool)
    exact ⟨hsucceeds, hbackings.trans (hlessee.backings_allocate flags hdry), hconfined.elsewhere,
      ⟨pool, tenant.backing⟩, hpool, hsame.statistics_eq hf hf'⟩

/-- Local queues of 16 slots. An allocation that refills the empty local queue leaves it full, and a
free after it overflows; with the local queue full, a free overflows and leaves it empty, and an
allocation after it refills. -/
theorem after_turns_sixteenSlots :
    let allocate := Action.allocate 0 0 .none
    let free := Action.free 0 0 .last
    let s := after limitlessHeap twoBatches
    let s' := after limitlessHeap (twoBatches ++ [allocate])
    (∀ r ∈ limitlessHeap, LawfulBacking.Out r 0) ∧
    (∃ tenant, s.tenant? 0 = some tenant ∧ (tenant.pool.leaseOf? 0).isSome ∧
      tenant.pool.localLength? 0 = some 0 ∧
      s.Succeeds [allocate, free] ∧ issued 0 (s.follow [allocate]) [free] = []) ∧
    ∃ tenant, s'.tenant? 0 = some tenant ∧ (tenant.pool.leaseOf? 0).isSome ∧
      tenant.pool.localLength? 0 = some 15 ∧
      s'.Succeeds [free, allocate] ∧ issued 0 (s'.follow [free]) [allocate] = [] ∧
      ∃ tenant', (s'.follow [allocate, free]).tenant? 0 = some tenant' ∧
        tenant'.pool.allCpuStatistics = tenant.pool.allCpuStatistics := by
  intro allocate free s s'
  have hnew : ∀ r ∈ limitlessHeap, LawfulBacking.Out r 0 := fun r hmem =>
    (limitlessHeap_isNew r hmem).out
  have hempty : (s.tenant? 0).map (fun tenant =>
      ((tenant.pool.leaseOf? 0).isSome, tenant.pool.id, tenant.pool.localLength? 0)) =
      some (true, 1, some 0) := by decide +kernel
  have hfull : (s'.tenant? 0).map (fun tenant =>
      ((tenant.pool.leaseOf? 0).isSome, tenant.pool.id, tenant.pool.localLength? 0)) =
      some (true, 1, some 15) := by decide +kernel
  have hsucceeds : s.Succeeds [allocate] := by decide +kernel
  have howner : (s.follow [allocate]).owner? .last = some 1 := by decide +kernel
  have howner' : s'.owner? .last = some 1 := by decide +kernel
  have howner'' : (s'.follow [allocate]).owner? .last = some 1 := by decide +kernel
  obtain ⟨tenant, htenant, hempty⟩ := Option.map_eq_some_iff.1 hempty
  obtain ⟨tenant', htenant', hfull⟩ := Option.map_eq_some_iff.1 hfull
  simp only [Prod.mk.injEq] at hempty hfull
  obtain ⟨hleased, hid, hlocal⟩ := hempty
  obtain ⟨hleased', hid', hlocal'⟩ := hfull
  obtain ⟨hfirst, -, -⟩ := after_turns hnew twoBatches htenant hleased .none .last
  obtain ⟨-, hsecond, hthird⟩ :=
    after_turns hnew (twoBatches ++ [allocate]) htenant' hleased' .none .last
  rw [hid] at hfirst
  rw [hid'] at hsecond hthird
  have hnonempty : tenant'.pool.localLength? 0 ≠ some 0 := by
    rw [hlocal']
    decide
  obtain ⟨-, -, -, final, hfinal, -, hsame⟩ := hthird hnonempty howner''
  exact ⟨hnew, ⟨tenant, htenant, hleased, hlocal, hfirst hsucceeds howner⟩, tenant', htenant',
    hleased', hlocal', (hsecond howner').1, (hsecond howner').2, final, hfinal, hsame⟩

end Session

end TieredPool
