import TieredPool.Proofs.Session.Refill
import TieredPool.Proofs.Session.Sizing
import TieredPool.Proofs.Session.Spacing

/-!
# What bursts cost

A burst is a run of allocations, or one of frees, on one lease. What a burst of allocations takes
beyond what was ready in the queues comes in full refills of 33 elements. A burst of frees fills the
local queue and then overflows it once in 16 frees, and an overflow that finds the shared queue full
drains it. In both cases the counts and the calls are known beforehand, from the figures of the
pool.
-/

namespace TieredPool

namespace Session

variable {β : Type} [Backing β]

/-! ## Allocations -/

/-- What steps on a lease come to: so many full refills, and these elements for the caller. -/
structure Served (s : Session (Recorded β)) (steps : List Action) (place k : Nat)
    (f f' : Figures) (refills : Nat) (items : List Handle) : Prop where
  succeeds : s.Succeeds steps
  length_issued : (issued place s steps).length = (1 + batch * refillBatches) * refills
  held_eq : (s.follow steps).held = s.held ++ items.map fun x => ⟨⟨x, f.id⟩, k⟩
  id_eq : f'.id = f.id
  sharedRefills_eq : f'.pool.sharedRefills = f.pool.sharedRefills + refills
  backingAllocs_eq :
    f'.pool.backingAllocs = f.pool.backingAllocs + (1 + batch * refillBatches) * refills

variable {s : Session (Recorded β)} {place cpu k : Nat} {r : Recorded β} {f : Figures}

theorem Served.cons {a : Action} {steps : List Action} {f' f'' : Figures} {refills more : Nat}
    {x : Handle} {items : List Handle} (hfirst : s.Served [a] place k f f' refills [x])
    (hrest : (s.act a).2.Served steps place k f' f'' more items) :
    s.Served (a :: steps) place k f f'' (refills + more) (x :: items) := by
  refine ⟨⟨hfirst.succeeds.1, hrest.succeeds⟩, ?_, ?_, hrest.id_eq.trans hfirst.id_eq, ?_, ?_⟩
  · rw [issued_cons, List.length_append, hfirst.length_issued, hrest.length_issued, Nat.mul_add]
  · have hheld : (s.act a).2.held = _ := hfirst.held_eq
    rw [follow, hrest.held_eq, hheld, hfirst.id_eq, List.append_assoc]
    rfl
  · rw [hrest.sharedRefills_eq, hfirst.sharedRefills_eq, Nat.add_assoc]
  · rw [hrest.backingAllocs_eq, hfirst.backingAllocs_eq, Nat.mul_add, Nat.add_assoc]

namespace Lessee

variable [LawfulBacking (Recorded β)]

/-- No element is in a caller's hands twice. -/
theorem nodup (h : s.Lessee place cpu k r f) {held : List Holding} {items : List Handle}
    (hheld : s.held = held ++ items.map fun x => ⟨⟨x, f.id⟩, k⟩) : items.Nodup := by
  obtain ⟨pool, -, htenant, -, hf⟩ := h.pool
  have hsplit : (s.held : Multiset Holding) = holdings ⟨pool, k⟩ items + ↑held := by
    rw [hheld, ← Multiset.coe_add, add_comm, Stock.id_of_figures? hf]
    rfl
  obtain ⟨m, hout⟩ := h.wf.exists_out htenant h.backing hsplit
  have hall := Multiset.nodup_add.1 (LawfulBacking.nodup hout)
  exact Multiset.coe_nodup.1 (Multiset.nodup_add.1 hall.1).2.1

/-- **The first allocation of a burst** refills the shared queue if that is due. -/
theorem exists_served (h : s.Lessee place cpu k r f) (flags : AllocFlags) {allocations : Nat}
    (hmeets : Backing.MeetsNext ((1 + batch * refillBatches) * f.refills (allocations + 1)) r) :
    ∃ r' f' refills x, (s.act (.allocate place cpu flags)).2.Lessee place cpu k r' f' ∧
      s.Served [.allocate place cpu flags] place k f f' refills [x] ∧
      f.refills (allocations + 1) = refills + f'.refills allocations ∧
      Backing.MeetsNext ((1 + batch * refillBatches) * f'.refills allocations) r' := by
  have hissued := h.issued_allocate flags
  by_cases hdry : f.Dry
  · have hrefills := Figures.refills_succ_of_dry hdry allocations
    rw [hrefills, Nat.mul_succ, Nat.add_comm] at hmeets
    obtain ⟨hfull, hleft⟩ := hmeets.supply flags
    have hok := h.allocate_ok flags fun _ =>
      hmeets.alloc_ne_none (Nat.add_pos_left (by decide) _) flags
    obtain ⟨⟨x, hheld⟩, hlessee⟩ := h.allocate flags hok
    rw [if_pos hdry, hfull, Nat.add_sub_cancel_left] at hlessee
    rw [if_pos hdry, hfull, if_neg (Nat.lt_irrefl _), List.append_nil] at hissued
    obtain ⟨-, hshared, hallocs⟩ := Figures.allocate_of_dry hdry
    refine ⟨_, _, 1, x, hlessee, ⟨⟨hok, trivial⟩, ?_, hheld, f.allocate_id _, hshared, ?_⟩, ?_,
      hleft⟩
    · rw [hissued, List.length_map, hfull, Nat.mul_one]
    · rw [hallocs, Nat.mul_one]
    · rw [hrefills, Nat.add_comm]
  · have hok := h.allocate_ok flags fun hdry' => absurd hdry' hdry
    obtain ⟨⟨x, hheld⟩, hlessee⟩ := h.allocate flags hok
    rw [if_neg hdry] at hissued hlessee
    generalize (Backing.supply flags (1 + batch * refillBatches) r).1.length - 1 = more at hlessee
    have hrefills := Figures.refills_succ hdry more allocations
    obtain ⟨-, hshared, hallocs⟩ := Figures.allocate_of_not_dry hdry more
    refine ⟨r, _, 0, x, hlessee, ⟨⟨hok, trivial⟩, ?_, hheld, f.allocate_id more, hshared, hallocs⟩,
      ?_, hrefills ▸ hmeets⟩
    · rw [hissued]
      rfl
    · rw [hrefills, Nat.zero_add]

/-- **A burst of allocations** succeeds if the backing meets the requests of its refills. -/
theorem served_allocate (h : s.Lessee place cpu k r f) {burst : List AllocFlags}
    (hmeets : Backing.MeetsNext ((1 + batch * refillBatches) * f.refills burst.length) r) :
    ∃ (r' : Recorded β) (f' : Figures) (items : List Handle),
      (s.follow (burst.map (.allocate place cpu))).Lessee place cpu k r' f' ∧
      s.Served (burst.map (.allocate place cpu)) place k f f' (f.refills burst.length) items ∧
      items.length = burst.length := by
  induction burst generalizing s r f with
  | nil =>
    refine ⟨r, f, [], h, ?_, rfl⟩
    rw [List.length_nil, Figures.refills_zero]
    exact ⟨trivial, rfl, (List.append_nil _).symm, rfl, rfl, rfl⟩
  | cons flags burst ih =>
    obtain ⟨r', f', refills, x, hlessee, hfirst, hrefills, hmeets'⟩ := h.exists_served flags hmeets
    obtain ⟨r'', f'', items, hlast, hrest, hlength⟩ := ih hlessee hmeets'
    refine ⟨r'', f'', x :: items, hlast, ?_, congrArg Nat.succ hlength⟩
    rw [List.length_cons, hrefills]
    exact hfirst.cons hrest

end Lessee

/-- **What a burst of allocations costs.** Let a caller allocate so many elements in a row on one
lease, after any run over backings with nothing out, and let the backing meet the requests that this
takes. Then all these allocations succeed and bring different elements. What is in the local queue,
and the whole batches in the shared one, are ready for them; every 33 elements beyond that, or the
last few of them, take one refill, which asks the backing for 33. As long as no more than what was
ready is allocated, the backing is not called. -/
theorem after_allocate_burst [LawfulBacking β] {backings : Array (Recorded β)}
    (hnew : ∀ r ∈ backings, LawfulBacking.Out r 0) (actions : List Action) {place cpu : Nat}
    {tenant : Tenant} {f : Figures} (htenant : (after backings actions).tenant? place = some tenant)
    (hleased : (tenant.pool.leaseOf? cpu).isSome) (hf : tenant.pool.figures? cpu = some f)
    (burst : List AllocFlags) :
    let s := after backings actions
    let steps := burst.map (.allocate place cpu)
    let ready := f.cpu.localLength + 16 * (f.pool.sharedLength / 16)
    let refills := (burst.length - ready + 32) / 33
    (∀ r, s.backings[tenant.backing]? = some r → Backing.MeetsNext (33 * refills) r) →
      s.Succeeds steps ∧
      (∃ items : List Handle, items.Nodup ∧ items.length = burst.length ∧
        (s.follow steps).held =
          s.held ++ items.map fun x => ⟨⟨x, tenant.pool.id⟩, tenant.backing⟩) ∧
      (∃ tenant' f', (s.follow steps).tenant? place = some tenant' ∧
        tenant'.pool.figures? cpu = some f' ∧
        f'.pool.sharedRefills = f.pool.sharedRefills + refills ∧
        f'.pool.backingAllocs = f.pool.backingAllocs + 33 * refills) ∧
      (issued place s steps).length = 33 * refills ∧
      (burst.length ≤ ready → issued place s steps = []) := by
  intro s steps ready refills hmeets
  have hs : s.WF := WF.after hnew actions
  obtain ⟨r, hlessee⟩ := hs.exists_lessee htenant hleased hf
  obtain ⟨r', f', items, hlessee', hserved, hlength⟩ :=
    hlessee.served_allocate (hmeets r hlessee.backing)
  obtain ⟨tenant', htenant', hf'⟩ := hlessee'.exists_figures
  have hcalls : (issued place s steps).length = 33 * refills := hserved.length_issued
  have hheld := hserved.held_eq
  have hid := Pool.id_of_figures? hf
  refine ⟨hserved.succeeds, ⟨items, ?_, hlength, hid ▸ hheld⟩,
    ⟨tenant', f', htenant', hf', hserved.sharedRefills_eq, hserved.backingAllocs_eq⟩, hcalls,
    fun hready => ?_⟩
  · rw [← hserved.id_eq] at hheld
    exact hlessee'.nodup hheld
  · have hnone : refills = 0 := by omega
    rw [hnone] at hcalls
    exact List.eq_nil_of_length_eq_zero hcalls

/-- None of the three elements in the shared queue is ready, and 34 allocations take two refills. -/
theorem after_allocate_burst_threeReady :
    let s := after limitlessHeap threeReady
    let burst : List AllocFlags := List.replicate 34 .none
    (∀ r ∈ limitlessHeap, LawfulBacking.Out r 0) ∧
    ∃ tenant f, s.tenant? 0 = some tenant ∧ (tenant.pool.leaseOf? 0).isSome ∧
      tenant.pool.figures? 0 = some f ∧ f.cpu.localLength = 0 ∧ f.pool.sharedLength = 3 ∧
      (∀ r, s.backings[tenant.backing]? = some r → Backing.MeetsNext 66 r) ∧
      s.Succeeds (burst.map (.allocate 0 0)) ∧
      (issued 0 s (burst.map (.allocate 0 0))).length = 66 := by
  intro s burst
  have hnew : ∀ r ∈ limitlessHeap, LawfulBacking.Out r 0 := fun r hmem =>
    (limitlessHeap_isNew r hmem).out
  have hpool : (s.tenant? 0).map (fun tenant =>
      ((tenant.pool.leaseOf? 0).isSome, tenant.pool.figures? 0)) =
      some (true, some ⟨1, 16, 64, ⟨3, 0, 0, 0, 3, 3⟩, ⟨0, some 0, 0, 0, 0, 0⟩⟩) := by
    decide +kernel
  obtain ⟨tenant, htenant, hpool⟩ := Option.map_eq_some_iff.1 hpool
  simp only [Prod.mk.injEq] at hpool
  obtain ⟨hleased, hf⟩ := hpool
  have hlimitless : ∀ (k : Nat) (r : Recorded Store), limitlessHeap[k]? = some r →
      r.backing.Limited none := by
    intro k r hr
    obtain rfl := List.mem_singleton.1 (Array.mem_toList_iff.2 (Array.mem_of_getElem? hr))
    exact ⟨rfl, fun _ => rfl⟩
  have hstart : @WF _ _ Recorded.auditing ({ backings := limitlessHeap } : Session _) :=
    @WF.of_backings _ _ Recorded.auditing _ fun r hmem => (limitlessHeap_isNew r hmem).audited
  have hmeets : ∀ r, s.backings[tenant.backing]? = some r → Backing.MeetsNext 66 r := by
    intro r hr
    have hlimited := follow_limited hstart (hlimitless tenant.backing) threeReady r hr
    exact (hlimited.meetsNext 66).recorded
  have hrequests : 33 * ((burst.length - (0 + 16 * (3 / 16)) + 32) / 33) = 66 := by decide +kernel
  obtain ⟨hsucceeds, -, -, hcalls, -⟩ :=
    after_allocate_burst hnew threeReady htenant hleased hf burst fun r hr =>
      (hmeets r hr).mono (Nat.le_of_eq hrequests)
  exact ⟨hnew, tenant, _, htenant, hleased, hf, rfl, rfl, hmeets, hsucceeds,
    hcalls.trans hrequests⟩

/-! ## Frees -/

/-- The elements that these picks come to one after the other, if there are so many. -/
def pickEach : List Holding → List Pick → Option (List Holding)
  | _, [] => some []
  | held, pick :: picks =>
    held[pick.place held.length]?.bind fun holding =>
      (pickEach (held.eraseIdx (pick.place held.length)) picks).map fun more => holding :: more

theorem pickEach_take {held : List Holding} {picks : List Pick} {freed : List Holding}
    (h : pickEach held picks = some freed) (n : Nat) :
    pickEach held (picks.take n) = some (freed.take n) := by
  induction picks generalizing held freed n with
  | nil =>
    cases h
    rw [List.take_nil, List.take_nil]
    rfl
  | cons pick picks ih =>
    cases n with
    | zero => rfl
    | succ n =>
      obtain ⟨holding, hget, hrest⟩ := Option.bind_eq_some_iff.1 h
      obtain ⟨more, hmore, rfl⟩ := Option.map_eq_some_iff.1 hrest
      rw [List.take_succ_cons, pickEach, hget, Option.bind_some, ih hmore n]
      rfl

namespace Lessee

variable [LawfulBacking (Recorded β)]

/-- **A burst of frees** of elements of the pool succeeds, and gives back what the pool counts. -/
theorem free_burst (h : s.Lessee place cpu k r f) {picks : List Pick} {freed : List Holding}
    (hpicks : pickEach s.held picks = some freed)
    (hown : ∀ holding ∈ freed, holding.element.pool = f.id) :
    s.Succeeds (picks.map (.free place cpu)) ∧
      ∃ (r' : Recorded β) (items : List Handle),
        (s.follow (picks.map (.free place cpu))).Lessee place cpu k r'
          (Figures.free^[picks.length] f) ∧
        issued place s (picks.map (.free place cpu)) = items.map .freed ∧
        (Figures.free^[picks.length] f).pool.backingFrees =
          f.pool.backingFrees + items.length := by
  induction picks generalizing s r f freed with
  | nil => exact ⟨trivial, r, [], h, rfl, rfl⟩
  | cons pick picks ih =>
    obtain ⟨holding, hget, hrest⟩ := Option.bind_eq_some_iff.1 hpicks
    obtain ⟨more, hmore, rfl⟩ := Option.map_eq_some_iff.1 hrest
    have hpicked : s.picked? pick = some (pick.place s.held.length, holding) := by
      rw [picked?, hget]
      rfl
    obtain ⟨hok, hheld, r', items, hlessee, hissued, hlength⟩ :=
      h.free hpicked (hown holding List.mem_cons_self)
    rw [← hheld] at hmore
    obtain ⟨hsucceeds, r'', items', hlast, hissued', hcount⟩ := ih hlessee hmore fun other hother =>
      (hown other (List.mem_cons_of_mem holding hother)).trans f.free_id.symm
    refine ⟨⟨hok, hsucceeds⟩, r'', items ++ items', hlast, ?_, ?_⟩
    · rw [List.map_cons, issued_cons, hissued, hissued', List.map_append]
    · rw [List.length_cons, Function.iterate_succ_apply, hcount, f.free_backingFrees, ← hlength,
        List.length_append, Nat.add_assoc]

end Lessee

/-- **What a burst of frees costs.** Let a caller free so many elements of a pool in a row on one
lease, after any run over backings with nothing out. Then all these frees succeed. At every moment
of the burst they have filled the local queue, and what they brought beyond that has overflowed once
for every 16 elements or the last few of them. One by one the overflows take the shared queue to 16
elements more if it can hold them, and to 32 less if not; one that does not find room drains, which
gives 48 elements back, one call for each. Nothing else changes in the figures. And between any two
overflows of the burst that drain there are at least two that do not. -/
theorem after_free_burst [LawfulBacking β] {backings : Array (Recorded β)}
    (hnew : ∀ r ∈ backings, LawfulBacking.Out r 0) (actions : List Action) {place cpu : Nat}
    {tenant : Tenant} {f : Figures} (htenant : (after backings actions).tenant? place = some tenant)
    (hleased : (tenant.pool.leaseOf? cpu).isSome) (hf : tenant.pool.figures? cpu = some f)
    {picks : List Pick} {freed : List Holding}
    (hpicks : pickEach (after backings actions).held picks = some freed)
    (hown : ∀ holding ∈ freed, holding.element.pool = tenant.pool.id) :
    let s := after backings actions
    let steps := picks.map (.free place cpu)
    let overflows (n : Nat) := (n - (f.localSize - 1 - f.cpu.localLength) + 15) / 16
    let drainings (n : Nat) := Figures.drainings f.sharedSize (overflows n) f.pool.sharedLength
    let drains (n : Nat) := (drainings n).count true
    s.Succeeds steps ∧
    (∀ n ≤ picks.length, ∃ (tenant' : Tenant) (items : List Handle),
      (s.follow (steps.take n)).tenant? place = some tenant' ∧
      tenant'.pool.figures? cpu = some
        { f with
          pool.sharedLength := (Figures.overflow f.sharedSize)^[overflows n] f.pool.sharedLength
          pool.backingFrees := f.pool.backingFrees + 48 * drains n
          pool.backingDrains := f.pool.backingDrains + drains n
          cpu.localLength := f.cpu.localLength + n - 16 * overflows n
          cpu.overflows := f.cpu.overflows + overflows n
          cpu.drains := f.cpu.drains + drains n } ∧
      items.length = 48 * drains n ∧ issued place s (steps.take n) = items.map .freed) ∧
    Spaced 2 (drainings picks.length) := by
  intro s steps overflows drainings drains
  have hs : s.WF := WF.after hnew actions
  obtain ⟨r, hlessee⟩ := hs.exists_lessee htenant hleased hf
  have hid := Pool.id_of_figures? hf
  have hsound := hlessee.sound
  refine ⟨(hlessee.free_burst hpicks (hid ▸ hown)).1, fun n hn => ?_, ?_⟩
  · have hfirst : ∀ holding ∈ freed.take n, holding.element.pool = f.id := fun holding hmem =>
      (hown holding (List.mem_of_mem_take hmem)).trans hid.symm
    obtain ⟨-, r', items, hlessee', hissued, hcount⟩ :=
      hlessee.free_burst (pickEach_take hpicks n) hfirst
    rw [List.length_take_of_le hn, hsound.free_iterate] at hlessee' hcount
    rw [List.map_take] at hlessee' hissued
    obtain ⟨tenant', htenant', hf'⟩ := hlessee'.exists_figures
    exact ⟨tenant', items, htenant', hf', (Nat.add_left_cancel hcount).symm, hissued⟩
  · exact (Figures.spacedFrom_drainings (Nat.le_trans (by decide) hsound.sharedSize_ge)
      hsound.shared_lt (overflows picks.length)).spaced

/-- With 33 elements in a caller's hands and both batches in the shared queue. -/
def manyHeld : List Action := twoBatches ++ List.replicate 33 (.allocate 0 0 .none)

/-- The first 15 of 32 elements go to the local queue, and there are two overflows. The first finds
room, and the second drains. -/
theorem after_free_burst_manyHeld :
    let s := after limitlessHeap manyHeld
    let picks : List Pick := List.replicate 32 .last
    (∀ r ∈ limitlessHeap, LawfulBacking.Out r 0) ∧
    ∃ tenant f freed, s.tenant? 0 = some tenant ∧ (tenant.pool.leaseOf? 0).isSome ∧
      tenant.pool.figures? 0 = some f ∧ f.cpu.localLength = 0 ∧ f.pool.sharedLength = 32 ∧
      pickEach s.held picks = some freed ∧
      (∀ holding ∈ freed, holding.element.pool = tenant.pool.id) ∧
      s.Succeeds (picks.map (.free 0 0)) ∧
      ∃ tenant' f', (s.follow ((picks.map (.free 0 0)).take 32)).tenant? 0 = some tenant' ∧
        tenant'.pool.figures? 0 = some f' ∧ f'.cpu.localLength = 0 ∧ f'.cpu.overflows = 2 ∧
        f'.cpu.drains = 1 ∧ f'.pool.sharedLength = 16 ∧ f'.pool.backingFrees = 48 := by
  intro s picks
  have hnew : ∀ r ∈ limitlessHeap, LawfulBacking.Out r 0 := fun r hmem =>
    (limitlessHeap_isNew r hmem).out
  have hpool : (s.tenant? 0).map (fun tenant =>
      ((tenant.pool.leaseOf? 0).isSome, tenant.pool.id, tenant.pool.figures? 0)) =
      some (true, 1, some ⟨1, 16, 64, ⟨65, 0, 1, 0, 32, 32⟩, ⟨0, some 0, 2, 0, 0, 0⟩⟩) := by
    decide +kernel
  have hfreed : (pickEach s.held picks).map (fun freed =>
      freed.all fun holding => holding.element.pool == 1) = some true := by decide +kernel
  obtain ⟨tenant, htenant, hpool⟩ := Option.map_eq_some_iff.1 hpool
  simp only [Prod.mk.injEq] at hpool
  obtain ⟨hleased, hid, hf⟩ := hpool
  obtain ⟨freed, hpicks, hfreed⟩ := Option.map_eq_some_iff.1 hfreed
  have hown : ∀ holding ∈ freed, holding.element.pool = tenant.pool.id := by
    intro holding hmem
    rw [hid]
    exact eq_of_beq (List.all_eq_true.1 hfreed holding hmem)
  obtain ⟨hsucceeds, hfigures, -⟩ :=
    after_free_burst hnew manyHeld htenant hleased hf hpicks hown
  obtain ⟨tenant', items, htenant', hf', -⟩ := hfigures 32 (by decide)
  exact ⟨hnew, tenant, _, freed, htenant, hleased, hf, rfl, rfl, hpicks, hown, hsucceeds, tenant',
    _, htenant', hf', rfl, rfl, rfl, rfl, rfl⟩

end Session

end TieredPool
