import Mathlib.Data.List.Nodup
import TieredPool.Metrics

/-!
# What a board of gauges shows

A board is recorded on again and again. The gauges of the pool are overwritten each time, so they
show the last statistics; the gauges of a CPU are overwritten when the CPU is named, so they show the
last entry that names it, in whichever record that was (`Gauges.mirrors_recordAll`).
-/

namespace TieredPool

/-- What is recorded at once: statistics of a pool, and of some CPUs. -/
structure Snapshot where
  pool : PoolStatistics
  cpus : List CpuStatistics
deriving DecidableEq, Repr

namespace Gauges

/-- The board after these records. -/
def recordAll (g : Gauges) (snapshots : List Snapshot) : Gauges :=
  snapshots.foldl (fun g snapshot => g.record snapshot.pool snapshot.cpus) g

theorem clamp_eq_self {n : Nat} (h : n < 1 <<< 63) : clamp n = n := by
  unfold clamp largest
  omega

/-! ## Gauges by CPU -/

section Cpus

variable {cpu other : Nat} {g : CpuGauges} {gauges : List (Nat × CpuGauges)}

theorem mem_lookup_iff (h : (gauges.map Prod.fst).Nodup) :
    (cpu, g) ∈ gauges ↔ gauges.lookup cpu = some g := by
  induction gauges with
  | nil => simp
  | cons head rest ih =>
    obtain ⟨first, old⟩ := head
    rw [List.map_cons, List.nodup_cons] at h
    rw [List.mem_cons, Prod.mk.injEq, List.lookup_cons]
    by_cases heq : cpu = first
    · subst heq
      have hrest : (cpu, g) ∉ rest := fun hmem => h.1 (List.mem_map.2 ⟨_, hmem, rfl⟩)
      simp [hrest, eq_comm]
    · rw [beq_false_of_ne heq]
      simp [heq, ih h.2]

theorem isSome_lookup_iff : (gauges.lookup cpu).isSome = true ↔ cpu ∈ gauges.map Prod.fst := by
  induction gauges with
  | nil => simp
  | cons head rest ih =>
    obtain ⟨first, old⟩ := head
    rw [List.lookup_cons, List.map_cons, List.mem_cons, ← ih]
    by_cases heq : cpu = first
    · simp [heq]
    · rw [beq_false_of_ne heq]
      simp [heq]

/-- Setting the gauges of one CPU leaves the others. -/
theorem lookup_setCpu : (setCpu cpu g gauges).lookup other =
    if other = cpu then some g else gauges.lookup other := by
  induction gauges with
  | nil =>
    unfold setCpu
    rw [List.lookup_cons, List.lookup_nil]
    by_cases heq : other = cpu
    · simp [heq]
    · rw [beq_false_of_ne heq, if_neg heq]
  | cons head rest ih =>
    obtain ⟨first, old⟩ := head
    unfold setCpu
    by_cases hfirst : first = cpu
    · subst hfirst
      rw [if_pos rfl, List.lookup_cons, List.lookup_cons]
      by_cases heq : other = first
      · simp [heq]
      · rw [beq_false_of_ne heq, if_neg heq]
    · rw [if_neg hfirst, List.lookup_cons, ih, List.lookup_cons]
      by_cases heq : other = first
      · simp [heq, hfirst]
      · rw [beq_false_of_ne heq]

theorem nodup_setCpu (h : (gauges.map Prod.fst).Nodup) :
    ((setCpu cpu g gauges).map Prod.fst).Nodup := by
  induction gauges with
  | nil => exact List.nodup_cons.2 ⟨List.not_mem_nil, List.nodup_nil⟩
  | cons head rest ih =>
    obtain ⟨first, old⟩ := head
    rw [List.map_cons, List.nodup_cons] at h
    unfold setCpu
    by_cases hfirst : first = cpu
    · subst hfirst
      rw [if_pos rfl]
      exact List.nodup_cons.2 h
    · rw [if_neg hfirst, List.map_cons, List.nodup_cons]
      refine ⟨fun hmem => ?_, ih h.2⟩
      rw [← isSome_lookup_iff, lookup_setCpu, if_neg hfirst, isSome_lookup_iff] at hmem
      exact h.1 hmem

end Cpus

/-- The last of the entries that name the CPU. -/
def lastNamed? (cpu : Nat) (entries : List CpuStatistics) : Option CpuStatistics :=
  (entries.filter fun entry => entry.cpu = cpu).getLast?

theorem lastNamed?_append (cpu : Nat) (first second : List CpuStatistics) :
    lastNamed? cpu (first ++ second) = (lastNamed? cpu second).or (lastNamed? cpu first) := by
  rw [lastNamed?, List.filter_append, List.getLast?_append]
  rfl

theorem isSome_lastNamed?_iff {cpu : Nat} {entries : List CpuStatistics} :
    (lastNamed? cpu entries).isSome = true ↔ ∃ entry ∈ entries, entry.cpu = cpu := by
  rw [lastNamed?, List.getLast?_isSome, Ne, List.filter_eq_nil_iff]
  simp

/-- Sets the gauges of the CPUs that are named, one entry after the other. -/
def setCpus (entries : List CpuStatistics) (gauges : List (Nat × CpuGauges)) :
    List (Nat × CpuGauges) :=
  entries.foldl (fun gauges entry => setCpu entry.cpu (ofCpu entry) gauges) gauges

theorem lookup_setCpus (cpu : Nat) (entries : List CpuStatistics)
    (gauges : List (Nat × CpuGauges)) :
    (setCpus entries gauges).lookup cpu =
      ((lastNamed? cpu entries).map ofCpu).or (gauges.lookup cpu) := by
  induction entries generalizing gauges with
  | nil => rfl
  | cons entry entries ih =>
    have hone : lastNamed? cpu [entry] = if entry.cpu = cpu then some entry else none := by
      unfold lastNamed?
      by_cases heq : entry.cpu = cpu <;> simp [heq]
    rw [setCpus, List.foldl_cons, ← setCpus, ih, lookup_setCpu, ← List.singleton_append,
      lastNamed?_append, hone]
    by_cases heq : entry.cpu = cpu
    · rw [if_pos heq.symm, if_pos heq]
      cases lastNamed? cpu entries <;> rfl
    · rw [if_neg (Ne.symm heq), if_neg heq, Option.or_none]

theorem nodup_setCpus (entries : List CpuStatistics) {gauges : List (Nat × CpuGauges)}
    (h : (gauges.map Prod.fst).Nodup) : ((setCpus entries gauges).map Prod.fst).Nodup := by
  induction entries generalizing gauges with
  | nil => exact h
  | cons entry entries ih => exact ih (nodup_setCpu h)

/-! ## Records -/

theorem record_cpus (g : Gauges) (snapshot : Snapshot) :
    (g.record snapshot.pool snapshot.cpus).cpus = setCpus snapshot.cpus g.cpus := rfl

theorem recordAll_cpus (g : Gauges) (snapshots : List Snapshot) :
    (g.recordAll snapshots).cpus = setCpus (snapshots.flatMap Snapshot.cpus) g.cpus := by
  induction snapshots generalizing g with
  | nil => rfl
  | cons snapshot snapshots ih =>
    have hall : g.recordAll (snapshot :: snapshots) =
        (g.record snapshot.pool snapshot.cpus).recordAll snapshots := rfl
    rw [hall, ih, record_cpus, List.flatMap_cons]
    exact List.foldl_append.symm

theorem recordAll_concat (g : Gauges) (snapshots : List Snapshot) (last : Snapshot) :
    g.recordAll (snapshots ++ [last]) =
      (g.recordAll snapshots).record last.pool last.cpus := by
  rw [recordAll, List.foldl_append]
  rfl

/-- The board shows the last statistics of the pool, and of each CPU that was named the last entry
that names it. -/
structure Mirrors (g : Gauges) (pool : PoolStatistics) (entries : List CpuStatistics) : Prop where
  backingAllocs : g.backingAllocs = min pool.backingAllocs largest
  backingFrees : g.backingFrees = min pool.backingFrees largest
  outstanding : g.outstanding = min (pool.backingAllocs - pool.backingFrees) largest
  sharedRefills : g.sharedRefills = min pool.sharedRefills largest
  backingDrains : g.backingDrains = min pool.backingDrains largest
  sharedLength : g.sharedLength = min pool.sharedLength largest
  nodup : (g.cpus.map Prod.fst).Nodup
  named (cpu : Nat) : cpu ∈ g.cpus.map Prod.fst ↔ ∃ entry ∈ entries, entry.cpu = cpu
  shown (cpu : Nat) : g.cpus.lookup cpu = (lastNamed? cpu entries).map fun entry =>
    { refills := min entry.refills largest
      overflows := min entry.overflows largest
      drains := min entry.drains largest
      localLength := min entry.localLength largest }

/-- **A board** shows what was recorded last, after every record. -/
theorem mirrors_recordAll (snapshots : List Snapshot) (last : Snapshot) :
    (recordAll {} (snapshots ++ [last])).Mirrors last.pool
      ((snapshots ++ [last]).flatMap Snapshot.cpus) := by
  have hlookup (cpu : Nat) : (recordAll {} (snapshots ++ [last])).cpus.lookup cpu =
      (lastNamed? cpu ((snapshots ++ [last]).flatMap Snapshot.cpus)).map ofCpu := by
    rw [recordAll_cpus, lookup_setCpus]
    exact Option.or_none
  have hnodup : ((recordAll {} (snapshots ++ [last])).cpus.map Prod.fst).Nodup := by
    rw [recordAll_cpus]
    exact nodup_setCpus _ List.nodup_nil
  have hnamed (cpu : Nat) : cpu ∈ (recordAll {} (snapshots ++ [last])).cpus.map Prod.fst ↔
      ∃ entry ∈ (snapshots ++ [last]).flatMap Snapshot.cpus, entry.cpu = cpu := by
    rw [← isSome_lookup_iff, hlookup, Option.isSome_map, isSome_lastNamed?_iff]
  rw [recordAll_concat] at hlookup hnodup hnamed ⊢
  exact ⟨rfl, rfl, rfl, rfl, rfl, rfl, hnodup, hnamed, hlookup⟩

/-! ## The same CPUs in every record -/

theorem lastNamed?_eq_some_iff {cpu : Nat} {entry : CpuStatistics} {entries : List CpuStatistics}
    (h : (entries.map CpuStatistics.cpu).Nodup) :
    lastNamed? cpu entries = some entry ↔ entry ∈ entries ∧ entry.cpu = cpu := by
  have hmem : ∀ {found}, lastNamed? cpu entries = some found →
      found ∈ entries ∧ found.cpu = cpu := by
    intro found hfound
    have hfilter := List.mem_of_getLast? hfound
    rw [List.mem_filter, decide_eq_true_iff] at hfilter
    exact hfilter
  constructor
  · exact hmem
  · rintro ⟨hentry, hcpu⟩
    obtain ⟨found, hfound⟩ :=
      Option.isSome_iff_exists.1 (isSome_lastNamed?_iff.2 ⟨entry, hentry, hcpu⟩)
    obtain ⟨hother, hsame⟩ := hmem hfound
    rw [hfound, List.inj_on_of_nodup_map h hother hentry (hsame.trans hcpu.symm)]

/-- **The same CPUs each time**, and no CPU twice: the board then has the gauges of the last record
and no others. -/
theorem recordAll_cpus_perm {names : List Nat} (hnodup : names.Nodup) {snapshots : List Snapshot}
    {last : Snapshot}
    (hnames : ∀ s ∈ snapshots ++ [last], s.cpus.map CpuStatistics.cpu = names) :
    (recordAll {} (snapshots ++ [last])).cpus.Perm
      (last.cpus.map fun entry => (entry.cpu, ofCpu entry)) := by
  have hlast : last.cpus.map CpuStatistics.cpu = names := hnames last (by simp)
  have hown : (last.cpus.map CpuStatistics.cpu).Nodup := by rwa [hlast]
  have hboard : ((recordAll {} (snapshots ++ [last])).cpus.map Prod.fst).Nodup :=
    (mirrors_recordAll snapshots last).nodup
  have hkeys : ((last.cpus.map fun entry => (entry.cpu, ofCpu entry)).map Prod.fst).Nodup := by
    rwa [List.map_map]
  have hlookup (cpu : Nat) : (recordAll {} (snapshots ++ [last])).cpus.lookup cpu =
      (lastNamed? cpu last.cpus).map ofCpu := by
    rw [recordAll_cpus, lookup_setCpus, List.flatMap_append, List.flatMap_singleton,
      lastNamed?_append, List.lookup_nil, Option.or_none]
    cases hfound : lastNamed? cpu last.cpus with
    | some entry => rfl
    | none =>
      -- a CPU that an earlier record names would be named by the last one too
      have hnone : lastNamed? cpu (snapshots.flatMap Snapshot.cpus) = none := by
        rw [← Option.not_isSome_iff_eq_none, isSome_lastNamed?_iff]
        rintro ⟨entry, hentry, rfl⟩
        obtain ⟨snapshot, hsnapshot, hentry⟩ := List.mem_flatMap.1 hentry
        have hname : entry.cpu ∈ last.cpus.map CpuStatistics.cpu := by
          rw [hlast, ← hnames snapshot (List.mem_append_left _ hsnapshot)]
          exact List.mem_map_of_mem hentry
        obtain ⟨other, hother, hsame⟩ := List.mem_map.1 hname
        rw [(lastNamed?_eq_some_iff hown).2 ⟨hother, hsame⟩] at hfound
        cases hfound
      rw [hnone]
      rfl
  refine (List.perm_ext_iff_of_nodup (.of_map _ hboard) (.of_map _ hkeys)).2 ?_
  rintro ⟨cpu, g⟩
  rw [mem_lookup_iff hboard, hlookup, Option.map_eq_some_iff, List.mem_map]
  simp only [lastNamed?_eq_some_iff hown, Prod.mk.injEq, and_assoc]

end Gauges

end TieredPool
