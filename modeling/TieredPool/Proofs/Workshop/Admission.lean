import TieredPool.Proofs.Workshop.Setup

/-!
# Which settings yield a pool

The rules for settings see to it that every size of a run is one that can be had, but for the limit
of the backing: they compare it neither with what is to be preallocated nor with how many slots there
can be a list of. So valid settings yield a pool if the limit admits what is preallocated and is not
beyond that number for chunks, and in no other case (`Stress.build_eq_ok_iff_of_isValid`).
-/

namespace TieredPool

open Validation

/-- A limit is not zero if the settings are valid. -/
theorem PoolSettings.backingLimit_pos {s : PoolSettings} (h : s.violations = []) {limit : Nat}
    (hlimit : s.backingLimit = some limit) : 0 < limit := by
  have hrules := (rules_of_report h).1 ("backing_limit", atLeast 1 limit)
    (by simp [brokenRules, hlimit])
  rw [atLeast, require_eq_nil_iff] at hrules
  exact of_decide_eq_true hrules

theorem Settings.backingLimit_pos {s : Settings} (h : s.isValid = true) {limit : Nat}
    (hlimit : s.pool.backingLimit = some limit) : 0 < limit := by
  rw [isValid, List.isEmpty_iff, violations, List.append_eq_nil_iff, List.append_eq_nil_iff] at h
  exact s.pool.backingLimit_pos h.1.1 hlimit

/-- What limits a backing admits what is preallocated if the limit of the settings does. -/
theorem PoolSettings.InRange.preallocate_le_ceiling {s : PoolSettings} (h : s.InRange)
    {headroom : Nat}
    (hlimit : ∀ limit, s.backingLimit = some limit → s.preallocate ≤ limit) :
    ∀ n, s.ceiling? headroom = some n → s.preallocate ≤ n := by
  intro n hn
  rw [ceiling?, Option.or_eq_some_iff] at hn
  rcases hn with hn | ⟨-, hn⟩
  · exact hlimit n hn
  · have hshared := h.preallocate
    unfold capacity? at hn
    split at hn
    · cases hn
    · cases hn
      omega

namespace Stress

/-- The settings yield the pool on a machine, with so much headroom: their backing is there, and the
pool is built over it. -/
def Yields (s : Settings) (machine : Machine) (room id : Nat) (pool : Pool) : Prop :=
  ∃ store events, Store.provide s.pool room machine = .ok (store, events) ∧
    ((plan s).build id (some store)).pool = .ok pool

theorem Yields.unique {s : Settings} {machine : Machine} {room id : Nat} {pool pool' : Pool}
    (h : Yields s machine room id pool) (h' : Yields s machine room id pool') : pool = pool' := by
  obtain ⟨store, events, hprovide, hok⟩ := h
  obtain ⟨_, _, hprovide', hok'⟩ := h'
  rw [hprovide] at hprovide'
  cases hprovide'
  rw [hok] at hok'
  cases hok'
  rfl

/-- A limit that does not admit what is preallocated is small. -/
theorem slotsFit_of_lt {s : PoolSettings} (h : s.InRange) {limit : Nat}
    (hlimit : s.backingLimit = some limit) (hlt : limit < s.preallocate) : s.SlotsFit := by
  intro _ limit' hlimit'
  rw [hlimit] at hlimit'
  cases hlimit'
  have hsmall : limit < 1048576 :=
    Nat.lt_of_lt_of_le (Nat.lt_trans hlt h.preallocate) h.sharedCapacity.2
  exact Chunks.listFits_slotEntry_iff.2 (Nat.lt_trans hsmall (by decide))

section

variable {s : Settings} {machine : Machine} {room : Nat} (h : s.pool.InRange)
  (hpos : ∀ limit, s.pool.backingLimit = some limit → 0 < limit) (hroom : room ≤ 1 <<< 29)
  (hmeets : machine.Meets ⟨s.pool.elementSize, s.pool.elementAlign⟩) (id : Nat)

include h hpos hroom hmeets

theorem exhausted_of_lt {limit : Nat} (hlimit : s.pool.backingLimit = some limit)
    (hlt : limit < s.pool.preallocate) :
    ∃ store events, Store.provide s.pool room machine = .ok (store, events) ∧
      ((plan s).build id (some store)).pool =
        .error (.error (.preallocExhausted limit s.pool.preallocate)) := by
  obtain ⟨store, events, hprovide, hlimited⟩ :=
    Store.exists_provide h hpos (slotsFit_of_lt h hlimit hlt) hroom hmeets
  refine ⟨store, events, hprovide, ?_⟩
  have hceiling : s.pool.ceiling? room = some limit := by
    rw [PoolSettings.ceiling?, hlimit, Option.some_or]
  exact (build_plan h id (Store.isNew_of_provide hprovide) hlimited).2 limit hceiling hlt

/-- Settings whose limit is neither too low nor too high yield a pool. -/
theorem exists_yields (hfits : s.pool.SlotsFit)
    (hlimit : ∀ limit, s.pool.backingLimit = some limit → s.pool.preallocate ≤ limit) :
    ∃ items pool, items.length = s.pool.preallocate ∧ Yields s machine room id pool ∧
      pool.stock = (plan s).stocked id (max s.pool.cpus s.workload.threads) items := by
  obtain ⟨store, events, hprovide, hlimited⟩ := Store.exists_provide h hpos hfits hroom hmeets
  obtain ⟨items, pool, hitems, hok, hstock⟩ :=
    (build_plan h id (Store.isNew_of_provide hprovide) hlimited).1
      (h.preallocate_le_ceiling hlimit)
  exact ⟨items, pool, hitems, ⟨store, events, hprovide, hok⟩, hstock⟩

/-- No other settings yield a pool. -/
theorem admits_of_yields {pool : Pool} (hyields : Yields s machine room id pool) :
    s.pool.SlotsFit ∧
      ∀ limit, s.pool.backingLimit = some limit → s.pool.preallocate ≤ limit := by
  obtain ⟨store, events, hprovide, hok⟩ := hyields
  constructor
  · apply Classical.byContradiction
    intro hunfit
    rw [Store.provide_eq_of_not_slotsFit h hroom machine hunfit] at hprovide
    cases hprovide
  · intro limit hlimit
    apply Nat.le_of_not_lt
    intro hlt
    obtain ⟨_, _, hprovide', hexhausted⟩ := exhausted_of_lt h hpos hroom hmeets id hlimit hlt
    rw [hprovide] at hprovide'
    cases hprovide'
    rw [hok] at hexhausted
    cases hexhausted

/-- The pool is the one that the settings ask for. -/
theorem shape_of_yields {pool : Pool} (hyields : Yields s machine room id pool) :
    pool.localSize = s.pool.localCapacity ∧ pool.sharedSize = s.pool.sharedCapacity ∧
      pool.cpus = max s.pool.cpus s.workload.threads ∧
      pool.shared.toList.length = s.pool.preallocate := by
  obtain ⟨hfits, hlimit⟩ := admits_of_yields h hpos hroom hmeets id hyields
  obtain ⟨items, pool', hitems, hyields', hstock⟩ :=
    exists_yields h hpos hroom hmeets id hfits hlimit
  obtain rfl : pool = pool' := hyields.unique hyields'
  have hcpus := congrArg (fun stock => stock.shelves.length) hstock
  have hshared : pool.shared.toList = items := congrArg Stock.shared hstock
  refine ⟨congrArg Stock.localSize hstock, congrArg Stock.sharedSize hstock, ?_, ?_⟩
  · simpa [Pool.stock, Plan.stocked, Pool.cpus] using hcpus
  · rw [hshared, hitems]

end

/-- **Which valid settings yield a pool**, on a machine whose system never refuses an element. The
headroom of valid settings is a word. They yield a pool if there can be a list of the slots of their
chunks, and the limit of the backing, where there is one, is not below what is to be preallocated;
and only then. The pool has the sizes and the CPUs of the settings, and what is preallocated is in
its shared queue. Under a lower limit the backing is exhausted, and with too many slots it faults. -/
theorem build_eq_ok_iff_of_isValid {s : Settings} (hvalid : s.isValid = true) {machine : Machine}
    (hmeets : machine.Meets ⟨s.pool.elementSize, s.pool.elementAlign⟩) (id : Nat) :
    ∃ room, headroom s.workload = .ok room ∧
      ((∃ pool, Yields s machine room id pool) ↔
        s.pool.SlotsFit ∧
          ∀ limit, s.pool.backingLimit = some limit → s.pool.preallocate ≤ limit) ∧
      (∀ pool, Yields s machine room id pool →
        pool.localSize = s.pool.localCapacity ∧ pool.sharedSize = s.pool.sharedCapacity ∧
        pool.cpus = max s.pool.cpus s.workload.threads ∧
        pool.shared.toList.length = s.pool.preallocate) ∧
      (∀ limit, s.pool.backingLimit = some limit → limit < s.pool.preallocate →
        ∃ store events, Store.provide s.pool room machine = .ok (store, events) ∧
          ((plan s).build id (some store)).pool =
            .error (.error (.preallocExhausted limit s.pool.preallocate))) ∧
      (¬s.pool.SlotsFit →
        Store.provide s.pool room machine = .error (.fault .capacityOverflow)) := by
  obtain ⟨hpool, hworkload⟩ := Settings.inRange hvalid
  obtain ⟨hheadroom, hroom⟩ := headroom_eq hworkload
  have hpos : ∀ limit, s.pool.backingLimit = some limit → 0 < limit :=
    fun limit hlimit => Settings.backingLimit_pos hvalid hlimit
  refine ⟨_, hheadroom, ⟨?_, ?_⟩, ?_, ?_, ?_⟩
  · rintro ⟨pool, hyields⟩
    exact admits_of_yields hpool hpos hroom hmeets id hyields
  · rintro ⟨hfits, hlimit⟩
    obtain ⟨_, pool, -, hyields, -⟩ := exists_yields hpool hpos hroom hmeets id hfits hlimit
    exact ⟨pool, hyields⟩
  · intro pool hyields
    exact shape_of_yields hpool hpos hroom hmeets id hyields
  · intro limit hlimit hlt
    exact exhausted_of_lt hpool hpos hroom hmeets id hlimit hlt
  · exact Store.provide_eq_of_not_slotsFit hpool hroom machine

/-- Settings whose limit is just what is preallocated. -/
def fullyDrawn : Settings where
  pool := { backing := .chunk, backingLimit := some 256 }
  workload := { threads := 4, crossCpuFree := true }

/-- A pool for four workers takes all slots there are. -/
theorem build_eq_ok_iff_of_isValid_fullyDrawn :
    fullyDrawn.isValid = true ∧ Machine.single.Meets ⟨2048, 64⟩ ∧
    ∃ pool, Yields fullyDrawn .single 256 1 pool ∧ pool.cpus = 4 ∧
      pool.shared.toList.length = 256 := by
  have hvalid : fullyDrawn.isValid = true := by decide +kernel
  have hmeets : Machine.single.Meets ⟨2048, 64⟩ := fun _ => rfl
  obtain ⟨room, hroom, hiff, hshape, -⟩ := build_eq_ok_iff_of_isValid hvalid hmeets 1
  have hsame : headroom fullyDrawn.workload = .ok 256 := by decide +kernel
  rw [hsame] at hroom
  cases hroom
  have hfits : fullyDrawn.pool.SlotsFit := by
    intro _ limit hlimit
    cases hlimit
    decide
  have hadmits : ∀ limit, fullyDrawn.pool.backingLimit = some limit → 256 ≤ limit := by
    intro limit hlimit
    cases hlimit
    exact Nat.le_refl 256
  obtain ⟨pool, hpool⟩ := hiff.2 ⟨hfits, hadmits⟩
  obtain ⟨-, -, hcpus, hshared⟩ := hshape pool hpool
  exact ⟨hvalid, hmeets, pool, hpool, hcpus, hshared⟩

/-- The default settings with a limit below what they preallocate. -/
def overdrawn : Settings where
  pool := { backingLimit := some 10 }

/-- **Not every valid setting yields a pool**: ten elements come of the 256 that are to be
preallocated. -/
theorem unbuilt_overdrawn :
    overdrawn.isValid = true ∧ Machine.single.Meets ⟨2048, 64⟩ ∧
    ∃ room store events, headroom overdrawn.workload = .ok room ∧
      Store.provide overdrawn.pool room = .ok (store, events) ∧
      ((plan overdrawn).build 1 (some store)).pool =
        .error (.error (.preallocExhausted 10 256)) := by
  have hvalid : overdrawn.isValid = true := by decide +kernel
  have hmeets : Machine.single.Meets ⟨2048, 64⟩ := fun _ => rfl
  obtain ⟨hpool, hworkload⟩ := Settings.inRange hvalid
  obtain ⟨hheadroom, hroom⟩ := headroom_eq hworkload
  obtain ⟨store, events, hprovide, hexhausted⟩ :=
    exhausted_of_lt hpool (fun _ hlimit => Settings.backingLimit_pos hvalid hlimit) hroom hmeets 1
      (rfl : overdrawn.pool.backingLimit = some 10) (by decide)
  exact ⟨hvalid, hmeets, _, store, events, hheadroom, hprovide, hexhausted⟩

end Stress

end TieredPool
