import TieredPool.Proofs.Session.Exhaustion
import TieredPool.Proofs.Session.Lessee

/-!
# How often a backing is called

On one lease the calls to the backing are far apart, as long as no request is refused. A step that
calls it finds the reserve of the pool used up and leaves a new one (`Figures.reserve`), and a step
that does not call it takes one off the reserve at most.
-/

namespace TieredPool

namespace Session

variable {β : Type} [Backing β]

/-- Step by step, whether the pool at a place calls its backing. -/
def calling (place : Nat) : Session (Recorded β) → List Action → List Bool
  | _, [] => []
  | s, a :: rest => (!(issued place s [a]).isEmpty) :: calling place (s.act a).2 rest

namespace Lessee

variable [LawfulBacking (Recorded β)] {s : Session (Recorded β)} {place cpu k : Nat}
  {r : Recorded β} {f : Figures}

/-- **One step**: a call is made when the reserve is used up, and makes a new one. -/
theorem exists_reserve (h : s.Lessee place cpu k r f) {a : Action} (ha : a.OnLease place cpu)
    (hok : (s.act a).1 = none) (hmet : ∀ flags, .refused flags ∉ issued place s [a]) :
    ∃ r' f', (s.act a).2.Lessee place cpu k r' f' ∧
      (issued place s [a] = [] ∧ f.reserve - 1 ≤ f'.reserve ∨
        issued place s [a] ≠ [] ∧ f.reserve = 0 ∧ batch ≤ f'.reserve) := by
  cases ha with
  | allocate flags =>
    have hcalls := h.issued_allocate_eq_nil_iff flags
    refine ⟨_, _, (h.allocate flags hok).2, ?_⟩
    by_cases hdry : f.Dry
    · have hissued := h.issued_allocate flags
      rw [if_pos hdry] at hissued
      have hle := Backing.length_supply_le flags (1 + batch * refillBatches) r
      have hfull : (Backing.supply flags (1 + batch * refillBatches) r).1.length =
          1 + batch * refillBatches := by
        refine Nat.le_antisymm hle (Nat.le_of_not_lt fun hshort => hmet flags ?_)
        rw [hissued, if_pos hshort]
        exact List.mem_append_right _ List.mem_cons_self
      rw [hfull, Nat.add_sub_cancel_left]
      exact .inr ⟨fun hnone => hcalls.1 hnone hdry, h.sound.reserve_allocate_of_dry hdry⟩
    · exact .inl ⟨hcalls.2 hdry, h.sound.reserve_allocate hdry _⟩
  | free pick =>
    obtain ⟨at_, holding, hpicked, hown⟩ := h.exists_picked hok
    obtain ⟨-, -, r', items, hlessee, hissued, hlength⟩ := h.free hpicked hown
    refine ⟨r', f.free, hlessee, ?_⟩
    rw [hissued]
    by_cases hfull : f.Brimming
    · rw [if_pos hfull] at hlength
      refine .inr ⟨fun hnone => ?_, h.sound.reserve_free_of_brimming hfull⟩
      rw [List.map_eq_nil_iff.1 hnone] at hlength
      cases hlength
    · rw [if_neg hfull] at hlength
      refine .inl ⟨?_, h.sound.reserve_free hfull⟩
      rw [List.eq_nil_of_length_eq_zero hlength, List.map_nil]

/-- **A run** makes its first call no earlier than the reserve is used up. -/
theorem spacedFrom_calling (h : s.Lessee place cpu k r f) {run : List Action}
    (hrun : ∀ a ∈ run, a.OnLease place cpu) (hsucceeds : s.Succeeds run)
    (hmet : ∀ flags, .refused flags ∉ issued place s run) :
    SpacedFrom batch f.reserve (calling place s run) := by
  induction run generalizing s r f with
  | nil => trivial
  | cons a run ih =>
    obtain ⟨hok, hsucceeds⟩ := hsucceeds
    simp only [issued_cons place s a run, List.mem_append, not_or] at hmet
    obtain ⟨r', f', hlessee, hreserve⟩ :=
      h.exists_reserve (hrun a List.mem_cons_self) hok fun flags => (hmet flags).1
    have hrest := ih hlessee (fun b hb => hrun b (List.mem_cons_of_mem a hb)) hsucceeds
      fun flags => (hmet flags).2
    rw [calling]
    rcases hreserve with ⟨hquiet, hreserve⟩ | ⟨hcalls, hempty, hreserve⟩
    · rw [hquiet]
      exact hrest.mono hreserve
    · rw [List.isEmpty_eq_false_iff.2 hcalls]
      exact ⟨hempty, hrest.mono hreserve⟩

end Lessee

/-- **Calls are far apart.** Let a caller allocate and free on one lease, after any run over
backings with nothing out, whatever the sizes of the pool and the state that it is in. If all these
steps succeed and the backing refuses none of their requests, then between any two steps in which
the pool calls the backing, for a refill or for a drain, there are at least 16 in which it does
not. -/
theorem after_spaced [LawfulBacking β] {backings : Array (Recorded β)}
    (hnew : ∀ r ∈ backings, LawfulBacking.Out r 0) (actions : List Action) {place cpu : Nat}
    {tenant : Tenant} (htenant : (after backings actions).tenant? place = some tenant)
    (hleased : (tenant.pool.leaseOf? cpu).isSome) {run : List Action}
    (hrun : ∀ a ∈ run, a.OnLease place cpu) (hsucceeds : (after backings actions).Succeeds run)
    (hmet : ∀ flags, .refused flags ∉ issued place (after backings actions) run) :
    Spaced 16 (calling place (after backings actions) run) := by
  have hs := WF.after hnew actions
  obtain ⟨f, hf⟩ := (hs.tenant htenant).pool.exists_figures hleased
  obtain ⟨r, hlessee⟩ := hs.exists_lessee htenant hleased hf
  have hfrom := hlessee.spacedFrom_calling hrun hsucceeds hmet
  exact hfrom.spaced

def limitlessHeap : Array (Recorded Store) :=
  #[{ backing := .heap ⟨⟨64, 8⟩, none, 0, {}, fun _ => false, .untouched⟩ }]

theorem limitlessHeap_isNew : ∀ r ∈ limitlessHeap, r.IsNew := by
  intro r hmem
  obtain rfl := List.mem_singleton.1 (Array.mem_toList_iff.2 hmem)
  exact ⟨rfl, .heap ..⟩

/-- A pool of the smallest sizes with two batches in its shared queue, and one leased CPU. -/
def twoBatches : List Action :=
  [.build { localSize := 16, sharedSize := 64, preallocate := 32, cpus := some 1 } (some 0),
    .lease 0 0]

/-- The last of these allocations refills, the last free drains, and the last of the allocations
after that refills again. -/
def refillAndDrain : List Action :=
  List.replicate 33 (.allocate 0 0 .none) ++ List.replicate 32 (.free 0 0 .last) ++
    List.replicate 17 (.allocate 0 0 .none)

/-- The bound is reached: between the drain and the second refill lie 16 steps. -/
theorem after_spaced_refillAndDrain :
    let s := after limitlessHeap twoBatches
    (∀ r ∈ limitlessHeap, LawfulBacking.Out r 0) ∧
    (∃ tenant, s.tenant? 0 = some tenant ∧ (tenant.pool.leaseOf? 0).isSome) ∧
    (∀ a ∈ refillAndDrain, a.OnLease 0 0) ∧ s.Succeeds refillAndDrain ∧
    (∀ flags, .refused flags ∉ issued 0 s refillAndDrain) ∧
    calling 0 s refillAndDrain =
      List.replicate 32 false ++ true :: (List.replicate 31 false ++
        true :: (List.replicate 16 false ++ [true])) ∧
    Spaced 16 (calling 0 s refillAndDrain) := by
  intro s
  have hnew : ∀ r ∈ limitlessHeap, LawfulBacking.Out r 0 := fun r hmem =>
    (limitlessHeap_isNew r hmem).out
  have hleased : (s.tenant? 0).map (fun tenant => (tenant.pool.leaseOf? 0).isSome) =
      some true := by decide +kernel
  obtain ⟨tenant, htenant, hleased⟩ := Option.map_eq_some_iff.1 hleased
  have hrun : ∀ a ∈ refillAndDrain, a.OnLease 0 0 := by
    intro a ha
    simp only [refillAndDrain, List.mem_append, List.mem_replicate] at ha
    rcases ha with (⟨-, rfl⟩ | ⟨-, rfl⟩) | ⟨-, rfl⟩
    · exact .allocate .none
    · exact .free .last
    · exact .allocate .none
  have hsucceeds : s.Succeeds refillAndDrain := by decide +kernel
  have hcalls : (issued 0 s refillAndDrain).all (fun call => call.isGrant || call.isReturn) =
      true := by decide +kernel
  have hmet : ∀ flags, .refused flags ∉ issued 0 s refillAndDrain := by
    intro flags hmem
    cases List.all_eq_true.1 hcalls (.refused flags) hmem
  have hcalling : calling 0 s refillAndDrain =
      List.replicate 32 false ++ true :: (List.replicate 31 false ++
        true :: (List.replicate 16 false ++ [true])) := by decide +kernel
  exact ⟨hnew, ⟨tenant, htenant, hleased⟩, hrun, hsucceeds, hmet, hcalling,
    after_spaced hnew twoBatches htenant hleased hrun hsucceeds hmet⟩

end Session

end TieredPool
