import TieredPool.Proofs.Metrics.Board
import TieredPool.Proofs.Session.Sizing
import TieredPool.Proofs.Session.Spacing

/-!
# Watching a pool

A pool of a session can be recorded on a board of gauges between any two steps, as often as one
likes. A pool keeps its CPUs, so every record names the same ones (`Session.Staffed`), and the
counts of the pool and those of its CPUs agree in each (`Snapshot.Balanced`). Hence they agree on the
board as well, although it keeps them in different places (`Session.watch_balanced`).
-/

namespace TieredPool

theorem Pool.map_cpu_allCpuStatistics (p : Pool) :
    p.allCpuStatistics.map CpuStatistics.cpu = List.range p.cpus := by
  unfold allCpuStatistics cpus
  apply List.ext_getElem
  · simp
  · intro i hi hi'
    simp [Cache.statistics]

/-- The counts of a pool and those of its CPUs agree. -/
structure Snapshot.Balanced (s : Snapshot) : Prop where
  drains_eq : s.pool.backingDrains = (s.cpus.map CpuStatistics.drains).sum
  frees_eq : s.pool.backingFrees = 48 * s.pool.backingDrains
  frees_le : s.pool.backingFrees ≤ s.pool.backingAllocs

/-- A board on which balanced statistics were recorded, of the same CPUs each time. -/
theorem Gauges.recordAll_balanced {names : List Nat} (hnodup : names.Nodup)
    {snapshots : List Snapshot}
    (hnames : ∀ s ∈ snapshots, s.cpus.map CpuStatistics.cpu = names)
    (hbalanced : ∀ s ∈ snapshots, s.Balanced)
    (hsmall : ∀ s ∈ snapshots, s.pool.backingAllocs < 1 <<< 63) :
    (recordAll {} snapshots).backingDrains =
      ((recordAll {} snapshots).cpus.map fun (_, gauges) => gauges.drains).sum ∧
    (recordAll {} snapshots).backingFrees ≤ (recordAll {} snapshots).backingAllocs ∧
    (recordAll {} snapshots).outstanding =
      (recordAll {} snapshots).backingAllocs - (recordAll {} snapshots).backingFrees := by
  rcases List.eq_nil_or_concat snapshots with rfl | ⟨earlier, last, rfl⟩
  · exact ⟨rfl, Nat.le_refl 0, rfl⟩
  rw [List.concat_eq_append] at *
  have hmem : last ∈ earlier ++ [last] := by simp
  have hpool := mirrors_recordAll earlier last
  have hperm := recordAll_cpus_perm hnodup hnames
  obtain ⟨hdrains, hfrees, hle⟩ := hbalanced last hmem
  have hallocs := hsmall last hmem
  have hshown : (last.cpus.map fun entry => clamp entry.drains) =
      last.cpus.map CpuStatistics.drains := by
    apply List.map_congr_left
    intro entry hentry
    have hone : entry.drains ≤ (last.cpus.map CpuStatistics.drains).sum :=
      List.single_le_sum (by simp) _ (List.mem_map_of_mem hentry)
    apply clamp_eq_self
    omega
  have hsum : ((recordAll {} (earlier ++ [last])).cpus.map fun (_, gauges) => gauges.drains).sum =
      last.pool.backingDrains := by
    rw [(hperm.map _).sum_eq, List.map_map, hdrains, ← hshown]
    rfl
  have hlargest : largest = (1 <<< 63) - 1 := rfl
  rw [hsum, hpool.backingDrains, hpool.backingFrees, hpool.backingAllocs, hpool.outstanding]
  omega

namespace Session

section Staff

variable {β : Type} [Backing β] {s s' : Session β} {place cpus : Nat}

/-- The place is or was that of a pool with so many CPUs. -/
structure Staffed (s : Session β) (place cpus : Nat) : Prop where
  lt : place < s.pools.size
  cpus_eq {tenant : Tenant} : s.tenant? place = some tenant → tenant.pool.cpus = cpus

namespace Staffed

omit [Backing β] in
theorem of_tenant {tenant : Tenant} (h : s.tenant? place = some tenant) :
    s.Staffed place tenant.pool.cpus := by
  refine ⟨?_, ?_⟩
  · exact (Array.getElem?_eq_some_iff.1 (tenant?_eq_some.1 h)).1
  · intro other hother
    rw [h] at hother
    cases hother
    rfl

/-- **A step** leaves a pool its CPUs, and gives its place to no other. -/
theorem transition (h : s.Staffed place cpus) {a : Action} {problem : Option Problem}
    (ht : s.Transition a problem s') : s'.Staffed place cpus := by
  have hset {at_ : Nat} {tenant : Tenant} {other : Option Tenant}
      (htenant : s.tenant? at_ = some tenant)
      (hpools : s'.pools = s.pools.setIfInBounds at_ other)
      (hother : ∀ t, other = some t → t.pool.cpus = tenant.pool.cpus) :
      s'.Staffed place cpus := by
    refine ⟨by rw [hpools, Array.size_setIfInBounds]; exact h.lt, ?_⟩
    intro t ht
    rw [tenant?_of_set hpools htenant] at ht
    split at ht
    · next heq =>
      subst heq
      rw [hother t ht]
      exact h.cpus_eq htenant
    · exact h.cpus_eq ht
  cases ht with
  | idle | forgot | misfreed | abandoned => exact ⟨h.lt, h.cpus_eq⟩
  | dealt htenant hbacking hwf hdeal =>
    refine hset htenant rfl ?_
    intro t ht
    cases ht
    rw [Pool.cpus_eq_length, hdeal.length_shelves_eq, ← Pool.cpus_eq_length]
  | @built plan k count b b' pool events hbacking hplan hbuilt =>
    refine ⟨by rw [Array.size_push]; exact Nat.lt_succ_of_lt h.lt, ?_⟩
    intro t ht
    rw [tenant?_of_push rfl, if_neg (Nat.ne_of_lt h.lt)] at ht
    exact h.cpus_eq ht
  | destroyed htenant =>
    refine hset htenant rfl ?_
    intro t ht
    cases ht

variable [LawfulBacking β]

theorem follow (h : s.Staffed place cpus) (hs : s.WF) (actions : List Action) :
    (s.follow actions).Staffed place cpus := by
  induction actions generalizing s with
  | nil => exact h
  | cons a actions ih => exact ih (h.transition (hs.act a)) (hs.act_wf a)

end Staffed

end Staff

/-! ## Records of a pool -/

section Records

variable {β : Type} {s : Session β} {place : Nat} {snapshot : Snapshot}

/-- The statistics of the pool at a place, if there is one. -/
def snapshot? (s : Session β) (place : Nat) : Option Snapshot :=
  (s.tenant? place).map fun tenant => ⟨tenant.pool.statistics, tenant.pool.allCpuStatistics⟩

variable [Backing β]

/-- What is recorded of the pool at a place: its statistics after each of these runs of steps, as
long as it is there. -/
def watch (place : Nat) (s : Session β) : List (List Action) → List Snapshot
  | [] => []
  | actions :: rest =>
    ((s.follow actions).snapshot? place).toList ++ watch place (s.follow actions) rest

variable [LawfulBacking β]

theorem WF.balanced (h : s.WF) (hsnapshot : s.snapshot? place = some snapshot) :
    snapshot.Balanced := by
  obtain ⟨tenant, htenant, rfl⟩ := Option.map_eq_some_iff.1 hsnapshot
  obtain ⟨hwf, -, hflow⟩ := h.tenant htenant
  have hdrains : tenant.pool.allCpuStatistics.map CpuStatistics.drains =
      tenant.pool.stock.shelves.map Shelf.drains :=
    hwf.map_allCpuStatistics fun _ _ _ => rfl
  have haccounts : tenant.pool.traffic.allocs = tenant.pool.traffic.frees +
      tenant.pool.stock.elements.card + s.strayCount tenant.pool.id := h.accounts htenant
  refine ⟨?_, hflow.frees_eq, ?_⟩
  · dsimp only
    rw [hdrains]
    exact hflow.drains_eq
  · simp only [Pool.statistics]
    omega

theorem WF.watch_balanced (h : s.WF) (runs : List (List Action)) :
    ∀ snapshot ∈ watch place s runs, snapshot.Balanced := by
  induction runs generalizing s with
  | nil => exact fun _ hmem => absurd hmem List.not_mem_nil
  | cons actions runs ih =>
    intro snapshot hmem
    rcases List.mem_append.1 hmem with hmem | hmem
    · exact (h.follow actions).balanced (Option.mem_toList.1 hmem)
    · exact ih (h.follow actions) snapshot hmem

omit [Backing β] [LawfulBacking β] in
theorem Staffed.map_cpu {cpus : Nat} (h : s.Staffed place cpus)
    (hsnapshot : s.snapshot? place = some snapshot) :
    snapshot.cpus.map CpuStatistics.cpu = List.range cpus := by
  obtain ⟨tenant, htenant, rfl⟩ := Option.map_eq_some_iff.1 hsnapshot
  rw [← h.cpus_eq htenant]
  exact tenant.pool.map_cpu_allCpuStatistics

theorem Staffed.watch_map_cpu {cpus : Nat} (h : s.Staffed place cpus) (hs : s.WF)
    (runs : List (List Action)) : ∀ snapshot ∈ watch place s runs,
      snapshot.cpus.map CpuStatistics.cpu = List.range cpus := by
  induction runs generalizing s with
  | nil => exact fun _ hmem => absurd hmem List.not_mem_nil
  | cons actions runs ih =>
    have hnext := h.follow hs actions
    intro snapshot hmem
    rcases List.mem_append.1 hmem with hmem | hmem
    · exact hnext.map_cpu (Option.mem_toList.1 hmem)
    · exact ih hnext (hs.follow actions) snapshot hmem

/-- **All records** at a place are of one pool, and name the CPUs that it has. -/
theorem WF.exists_watch_map_cpu (h : s.WF) (place : Nat) (runs : List (List Action)) :
    ∃ cpus, ∀ snapshot ∈ watch place s runs,
      snapshot.cpus.map CpuStatistics.cpu = List.range cpus := by
  induction runs generalizing s with
  | nil => exact ⟨0, fun _ hmem => absurd hmem List.not_mem_nil⟩
  | cons actions runs ih =>
    have hs := h.follow actions
    rcases htenant : (s.follow actions).tenant? place with _ | tenant
    · -- nothing is recorded yet
      have hnone : (s.follow actions).snapshot? place = none := by rw [snapshot?, htenant]; rfl
      rw [watch, hnone]
      exact ih hs
    · have hstaffed := Staffed.of_tenant htenant
      have hagain : (s.follow actions).follow [] = s.follow actions := rfl
      refine ⟨tenant.pool.cpus, ?_⟩
      have hwatch := hstaffed.watch_map_cpu hs ([] :: runs)
      rwa [watch, hagain] at hwatch

end Records

/-- **A board mirrors what was recorded on it, and the counts it shows agree.** After any records, the
gauges of the pool show the last statistics, and those of each CPU that was named the last entry that
names it. And if all records are of one pool of a session, at any times, and the pool has not
obtained more elements than a gauge can show, then the drains shown are the sum of those shown by
CPU, and what is shown as outstanding is what was obtained and not given back. -/
theorem board_mirrors {β : Type} [Backing β] [LawfulBacking β] (snapshots : List Snapshot)
    (last : Snapshot) {backings : Array β} (hnew : ∀ b ∈ backings, LawfulBacking.Out b 0)
    (place : Nat) (runs : List (List Action))
    (hsmall : ∀ s ∈ watch place ({ backings } : Session β) runs, s.pool.backingAllocs < 1 <<< 63) :
    (Gauges.recordAll {} (snapshots ++ [last])).Mirrors last.pool
      ((snapshots ++ [last]).flatMap Snapshot.cpus) ∧
    let board := Gauges.recordAll {} (watch place ({ backings } : Session β) runs)
    board.backingDrains = (board.cpus.map fun (_, gauges) => gauges.drains).sum ∧
    board.backingFrees ≤ board.backingAllocs ∧
    board.outstanding = board.backingAllocs - board.backingFrees := by
  have hs := WF.of_backings hnew
  obtain ⟨cpus, hnames⟩ := hs.exists_watch_map_cpu place runs
  exact ⟨Gauges.mirrors_recordAll snapshots last,
    Gauges.recordAll_balanced List.nodup_range hnames (hs.watch_balanced runs) hsmall⟩

/-- A count that no gauge can show, and an entry that names a CPU for the second time. -/
def oversized : Snapshot where
  pool := { backingAllocs := (1 <<< 63) + 5 }
  cpus := [{ cpu := 0, drains := 3 }, { cpu := 2, refills := 1 }, { cpu := 2, refills := 1 <<< 63 }]

/-- The CPUs of the first record stay on the board when the second names another. And a pool that is
recorded before it is built, when it is built, and after a drain has one drain shown twice. -/
theorem board_mirrors_refillAndDrain :
    let board := Gauges.recordAll {} [oversized, ⟨{ backingFrees := 5 }, [{ cpu := 1 }]⟩]
    let runs := [[], twoBatches, refillAndDrain]
    let watched := Gauges.recordAll {} (watch 0 ({ backings := limitlessHeap }) runs)
    (∀ r ∈ limitlessHeap, LawfulBacking.Out r 0) ∧
    (∀ s ∈ watch 0 ({ backings := limitlessHeap }) runs, s.pool.backingAllocs < 1 <<< 63) ∧
    board.backingFrees = 5 ∧ board.outstanding = 0 ∧
    board.cpus.lookup 0 = some ⟨0, 0, 3, 0⟩ ∧ board.cpus.lookup 1 = some ⟨0, 0, 0, 0⟩ ∧
    board.cpus.lookup 2 = some ⟨Gauges.largest, 0, 0, 0⟩ ∧
    watched.backingDrains = 1 ∧ (watched.cpus.map fun (_, gauges) => gauges.drains).sum = 1 ∧
    watched.outstanding = watched.backingAllocs - watched.backingFrees := by
  intro board runs watched
  have hnew : ∀ r ∈ limitlessHeap, LawfulBacking.Out r 0 := fun r hmem =>
    (limitlessHeap_isNew r hmem).out
  have hsmall : ∀ s ∈ watch 0 ({ backings := limitlessHeap }) runs,
      s.pool.backingAllocs < 1 <<< 63 := by decide +kernel
  have hone : watched.backingDrains = 1 := by decide +kernel
  obtain ⟨hboard, hdrains, -, houtstanding⟩ :=
    board_mirrors [oversized] ⟨{ backingFrees := 5 }, [{ cpu := 1 }]⟩ hnew 0 runs hsmall
  have hsum : (watched.cpus.map fun (_, gauges) => gauges.drains).sum = 1 := hdrains.symm.trans hone
  exact ⟨hnew, hsmall, hboard.backingFrees, hboard.outstanding, hboard.shown 0, hboard.shown 1,
    hboard.shown 2, hone, hsum, houtstanding⟩

end Session

end TieredPool
