import TieredPool.Settings.Validation

/-!
# Valid settings

Settings are valid if their report is empty, and then every setting keeps its own rules and every
section its rule as a whole. The rules are tests of single numbers; `PoolSettings.InRange` and
`WorkloadSettings.InRange` say what passing them means for the sizes of a run. The defaults pass
them on all but the largest machines.
-/

namespace TieredPool

namespace Validation

theorem require_eq_nil_iff {holds : Bool} {rule : Rule} :
    require holds rule = [] ↔ holds = true := by
  unfold require
  cases holds <;> simp

theorem within_eq_nil_iff {low high n : Nat} : within low high n = [] ↔ low ≤ n ∧ n ≤ high := by
  rw [within, require_eq_nil_iff, Bool.and_eq_true, decide_eq_true_iff, decide_eq_true_iff]

theorem powerOfTwo_eq_nil_iff {n : Nat} : powerOfTwo n = [] ↔ Word.isPowerOfTwo n = true :=
  require_eq_nil_iff

/-- A section without a report keeps all of its rules. -/
theorem rules_of_report {name : String} {settings : List (String × List Rule)} {whole : List Rule}
    (h : report name settings whole = []) :
    (∀ setting ∈ settings, setting.2 = []) ∧ whole = [] := by
  unfold report at h
  dsimp only at h
  split at h
  · next hnone =>
    rw [List.isEmpty_iff, List.filter_eq_nil_iff] at hnone
    refine ⟨fun setting hmem => ?_, ?_⟩
    · have hempty := hnone setting hmem
      rwa [Bool.not_eq_true', Bool.not_eq_false, List.isEmpty_iff] at hempty
    · split at h
      · next hwhole => exact List.isEmpty_iff.1 hwhole
      · cases h
  · next hsome =>
    rw [List.map_eq_nil_iff] at h
    exact absurd (List.isEmpty_iff.2 h) hsome

end Validation

open Validation

/-- The sizes of a pool that its settings allow. -/
structure PoolSettings.InRange (s : PoolSettings) : Prop where
  localCapacity : 16 ≤ s.localCapacity ∧ s.localCapacity ≤ 65536
  localCapacity_pow : Word.isPowerOfTwo s.localCapacity = true
  sharedCapacity : 64 ≤ s.sharedCapacity ∧ s.sharedCapacity ≤ 1048576
  sharedCapacity_pow : Word.isPowerOfTwo s.sharedCapacity = true
  preallocate : s.preallocate < s.sharedCapacity
  cpus : 1 ≤ s.cpus ∧ s.cpus ≤ 4096
  elementSize : 1 ≤ s.elementSize ∧ s.elementSize ≤ 1048576
  elementAlign : 1 ≤ s.elementAlign ∧ s.elementAlign ≤ 4096
  elementAlign_pow : Word.isPowerOfTwo s.elementAlign = true

/-- The sizes of a workload that its settings allow. -/
structure WorkloadSettings.InRange (s : WorkloadSettings) : Prop where
  threads : 1 ≤ s.threads ∧ s.threads ≤ 4096
  burst : 1 ≤ s.burst ∧ s.burst ≤ 65536

theorem PoolSettings.inRange_of_violations {s : PoolSettings} (h : s.violations = []) :
    s.InRange := by
  obtain ⟨hown, hwhole⟩ := rules_of_report h
  simp only [brokenRules, List.mem_cons, List.not_mem_nil, or_false, forall_eq_or_imp, forall_eq,
    List.append_eq_nil_iff, within_eq_nil_iff, powerOfTwo_eq_nil_iff] at hown
  obtain ⟨⟨hlocal, hlocalPow⟩, ⟨hshared, hsharedPow⟩, -, hcpus, hsize, ⟨halign, halignPow⟩, -⟩ :=
    hown
  refine ⟨hlocal, hlocalPow, hshared, hsharedPow, ?_, hcpus, hsize, halign, halignPow⟩
  rw [brokenWhole] at hwhole
  split at hwhole
  · cases hwhole
  · next hless => exact Nat.lt_of_not_le hless

theorem WorkloadSettings.inRange_of_violations {s : WorkloadSettings} (h : s.violations = []) :
    s.InRange := by
  obtain ⟨hown, -⟩ := rules_of_report h
  simp only [brokenRules, List.mem_cons, List.not_mem_nil, or_false, forall_eq_or_imp, forall_eq,
    within_eq_nil_iff] at hown
  obtain ⟨hthreads, -, hburst, -⟩ := hown
  exact ⟨hthreads, hburst⟩

/-- **Valid settings** have their sizes in range. -/
theorem Settings.inRange {s : Settings} (h : s.isValid = true) :
    s.pool.InRange ∧ s.workload.InRange := by
  rw [isValid, List.isEmpty_iff, violations, List.append_eq_nil_iff, List.append_eq_nil_iff] at h
  obtain ⟨⟨hpool, hworkload⟩, -⟩ := h
  exact ⟨PoolSettings.inRange_of_violations hpool,
    WorkloadSettings.inRange_of_violations hworkload⟩

/-- **The defaults** are valid on a machine with up to 4096 CPUs, and on no larger one. -/
theorem Settings.isValid_defaults_iff {cpus : Nat} (hpos : 0 < cpus) :
    (defaults cpus).isValid = true ↔ cpus ≤ 4096 := by
  refine ⟨fun h => (inRange h).1.cpus.2, fun hmost => ?_⟩
  -- The counts break no rule, so the report is that of the defaults for a single CPU.
  have hcpus : within 1 4096 cpus = within 1 4096 1 := within_eq_nil_iff.2 ⟨hpos, hmost⟩
  have hthreads : within 1 4096 (min cpus defaultWorkers) = within 1 4096 1 := by
    refine within_eq_nil_iff.2 ?_
    rw [defaultWorkers]
    omega
  have hpool : (defaults cpus).pool.violations = ({} : PoolSettings).violations := by
    rw [PoolSettings.violations, PoolSettings.brokenRules, defaults, hcpus]
    rfl
  have hworkload : (defaults cpus).workload.violations = ({} : WorkloadSettings).violations := by
    rw [WorkloadSettings.violations, WorkloadSettings.brokenRules, defaults, hthreads]
    rfl
  have hsingle : ({} : Settings).isValid = true := by decide
  rwa [isValid, violations, hpool, hworkload]

end TieredPool
