import TieredPool.Proofs.Backing.Slots
import TieredPool.Proofs.Pool.Building

/-!
# Building is exact and leaves nothing behind

The checks of a plan find the first of its flaws (`Plan.flaws`), and a flawed plan comes to nothing:
no call is made and no number is taken. A plan without flaws makes one run of requests, and the
calls that its backing received say how that went. Either all elements came, and they are in the
shared queue in the order of the calls. Or a request was refused, and then those that came went
back, one call for each, so that the backing has the same elements out as before.
-/

namespace TieredPool

/-! ## Runs of requests, call by call -/

/-- The backing meets so many requests and refuses the next. -/
def Backing.RefusesAfter {β : Type} [Backing β] (flags : AllocFlags) : (grants : Nat) → β → Prop
  | 0, b => (Backing.alloc flags b).1 = none
  | grants + 1, b =>
    (Backing.alloc flags b).1 ≠ none ∧ RefusesAfter flags grants (Backing.alloc flags b).2

instance Backing.RefusesAfter.instDecidable {β : Type} [Backing β] (flags : AllocFlags) :
    (grants : Nat) → (b : β) → Decidable (RefusesAfter flags grants b)
  | 0, _ => inferInstanceAs (Decidable (_ = none))
  | grants + 1, b =>
    have := instDecidable flags grants (Backing.alloc flags b).2
    inferInstanceAs (Decidable (_ ∧ _))

theorem Backing.length_supply_eq_iff {β : Type} [Backing β] {flags : AllocFlags} {k count : Nat}
    (hk : k < count) (b : β) :
    (Backing.supply flags count b).1.length = k ↔ RefusesAfter flags k b := by
  induction count generalizing k b with
  | zero => exact absurd hk (Nat.not_lt_zero k)
  | succ count ih =>
    rw [Backing.supply]
    rcases halloc : Backing.alloc flags b with ⟨_ | x, b'⟩
    · cases k <;> simp [RefusesAfter, halloc]
    · cases k with
      | zero => simp [RefusesAfter, halloc]
      | succ k =>
        have hrest := ih (Nat.lt_of_succ_lt_succ hk) b'
        simpa [RefusesAfter, halloc] using hrest

namespace Recorded

variable {β : Type} [Backing β] [LawfulBacking β]

/-- A recorded backing is lawful if the backing is, whatever calls were noted before. -/
@[reducible] def unaudited : LawfulBacking (Recorded β) where
  Out r := LawfulBacking.Out r.backing
  nodup h := LawfulBacking.nodup h
  alloc {r m} h flags := by
    obtain ⟨backing, calls⟩ := r
    have hout := LawfulBacking.alloc h flags
    simp only [Backing.alloc, Recorded.alloc] at hout ⊢
    rcases halloc : Backing.alloc flags backing with ⟨_ | x, backing'⟩ <;> rw [halloc] at hout
    · exact hout
    · exact hout
  free {r m x} h := by
    obtain ⟨backing, calls⟩ := r
    obtain ⟨backing', hfree, hout⟩ := LawfulBacking.free h
    refine ⟨⟨backing', calls.push (.freed x)⟩, ?_, hout⟩
    simp only [Backing.free, Recorded.free] at hfree ⊢
    rw [hfree]

end Recorded

/-! ## Flaws of a plan -/

/-- The first of these conditions that holds comes to `e`. -/
def FirstHolds {ε : Type} : List (Prop × ε) → ε → Prop
  | [], _ => False
  | (condition, outcome) :: rest, e =>
    condition ∧ outcome = e ∨ ¬condition ∧ FirstHolds rest e

theorem FirstHolds.exists_mem {ε : Type} {conditions : List (Prop × ε)} {e : ε}
    (h : FirstHolds conditions e) : ∃ c ∈ conditions, c.1 := by
  induction conditions with
  | nil => exact h.elim
  | cons c rest ih =>
    rcases h with ⟨hc, -⟩ | ⟨-, hrest⟩
    · exact ⟨c, List.mem_cons_self, hc⟩
    · obtain ⟨c', hmem, hc'⟩ := ih hrest
      exact ⟨c', List.mem_cons_of_mem c hmem, hc'⟩

namespace Plan

/-- What may be wrong with a plan, in the order in which it is looked for. -/
def flaws (p : Plan) (hasBacking : Bool) : List (Prop × CreateError) :=
  [(p.localSize < 16, .localTooSmall p.localSize),
    (p.sharedSize ≤ 32, .sharedTooSmall p.sharedSize),
    ((¬∃ k, p.localSize = 2 ^ k) ∨ (¬∃ k, p.sharedSize = 2 ^ k),
      .notPowerOfTwo p.localSize p.sharedSize),
    (p.sharedSize ≤ p.preallocate, .preallocTooLarge p.preallocate p.sharedSize),
    (hasBacking = false, .missingBacking),
    (p.cpus = some 0, .noCpus)]

/-- A machine has a CPU, so only a plan that asks for none is without. -/
theorem getD_cpus_eq_zero_iff {p : Plan} : p.cpus.getD p.machineCpus = 0 ↔ p.cpus = some 0 := by
  cases p.cpus with
  | none => simpa using Nat.ne_of_gt p.machineCpus_pos
  | some n => simp

theorem isPowerOfTwo_eq_false_iff (n : Nat) :
    Word.isPowerOfTwo n = false ↔ ¬∃ k, n = 2 ^ k := by
  rw [← Bool.not_eq_true, Word.isPowerOfTwo_iff]
  simp only [Nat.one_shiftLeft]

theorem check_eq_error_iff {p : Plan} {hasBacking : Bool} {e : CreateError} :
    (p.check hasBacking).1 = .error e ↔ FirstHolds (p.flaws hasBacking) e := by
  unfold check sizeFault? flaws
  simp only [FirstHolds, ← isPowerOfTwo_eq_false_iff, ← getD_cpus_eq_zero_iff, batch,
    refillBatches]
  by_cases hlocal : p.localSize < 16
  · simp [hlocal]
  by_cases hshared : p.sharedSize ≤ 32
  · simp [hlocal, hshared]
  by_cases hpow : Word.isPowerOfTwo p.localSize = false ∨ Word.isPowerOfTwo p.sharedSize = false
  · simp [hlocal, hshared, hpow]
  by_cases hprealloc : p.sharedSize ≤ p.preallocate
  · simp [hlocal, hshared, hpow, hprealloc]
  cases hasBacking with
  | false => simp [hlocal, hshared, hpow, hprealloc]
  | true =>
    by_cases hcpus : p.cpus.getD p.machineCpus = 0
    · simp [hlocal, hshared, hpow, hprealloc, hcpus]
    · simp [hlocal, hshared, hpow, hprealloc, hcpus]

theorem check_of_flawless {p : Plan} {hasBacking : Bool}
    (h : ∀ flaw ∈ p.flaws hasBacking, ¬flaw.1) :
    (p.check hasBacking).1 = .ok (p.cpus.getD p.machineCpus) := by
  rcases hcheck : (p.check hasBacking).1 with e | cpus
  · obtain ⟨flaw, hmem, hflaw⟩ := (check_eq_error_iff.1 hcheck).exists_mem
    exact absurd hflaw (h flaw hmem)
  · rw [check_cpus_eq hcheck]

/-! ## What a plan without flaws comes to -/

/-- A pool as it is built: these elements in the shared queue, and every CPU's local tier unused. -/
structure Ready (p : Plan) (id : Nat) (items : List Handle) (pool : Pool) : Prop where
  id_eq : pool.id = id
  shared_eq : pool.shared.toList = items
  cpus_eq : pool.cpus = p.cpus.getD p.machineCpus
  queue_eq : ∀ cache ∈ pool.caches, cache.queue.toList = []
  leased_eq : ∀ cache ∈ pool.caches, cache.leased = false ∧ cache.owner = none
  counts_eq : ∀ cache ∈ pool.caches, cache.refills = 0 ∧ cache.overflows = 0 ∧ cache.drains = 0

theorem ready_of_stock {p : Plan} {id : Nat} {items : List Handle} {pool : Pool}
    (h : pool.stock = p.stocked id (p.cpus.getD p.machineCpus) items) : p.Ready id items pool := by
  have hshelves : pool.caches.toList.map Cache.shelf =
      List.replicate (p.cpus.getD p.machineCpus) {} := congrArg Stock.shelves h
  have hunused : ∀ cache ∈ pool.caches, cache.shelf = {} := by
    intro cache hmem
    have hshelf := List.mem_map_of_mem (f := Cache.shelf) (Array.mem_toList_iff.2 hmem)
    rw [hshelves] at hshelf
    exact List.eq_of_mem_replicate hshelf
  refine ⟨congrArg Stock.id h, congrArg Stock.shared h, ?_, fun cache hmem => ?_,
    fun cache hmem => ?_, fun cache hmem => ?_⟩
  · have hcount := congrArg List.length hshelves
    rwa [List.length_map, List.length_replicate, Array.length_toList] at hcount
  · exact congrArg Shelf.items (hunused cache hmem)
  · exact ⟨congrArg Shelf.leased (hunused cache hmem), congrArg Shelf.owner (hunused cache hmem)⟩
  · exact ⟨congrArg Shelf.refills (hunused cache hmem),
      congrArg Shelf.overflows (hunused cache hmem), congrArg Shelf.drains (hunused cache hmem)⟩

section Exact

variable {β : Type} [Backing β]

/-- The end of a construction, with the calls that the backing received for it. -/
inductive Ended (p : Plan) (id : Nat) (r r' : Recorded β) :
    Except (Failure CreateError) Pool → Prop
  /-- All elements came, and they are in the shared queue. -/
  | ready {items : List Handle} {pool : Pool} (hitems : items.length = p.preallocate)
      (hgranted : ∀ k < p.preallocate, ¬Backing.RefusesAfter p.flags k r) (hnodup : items.Nodup)
      (hcalls : r'.calls.toList = r.calls.toList ++ items.map (.granted p.flags))
      (hpool : p.Ready id items pool) : Ended p id r r' (.ok pool)
  /-- A request was refused, and the elements that came before it went back. -/
  | undone {items : List Handle} (hitems : items.length < p.preallocate)
      (hrefused : Backing.RefusesAfter p.flags items.length r) (hnodup : items.Nodup)
      (hcalls : r'.calls.toList = r.calls.toList ++ items.map (.granted p.flags) ++
        [.refused p.flags] ++ items.map .freed) :
    Ended p id r r' (.error (.error (.preallocExhausted items.length p.preallocate)))

theorem Ended.exhausted_iff {p : Plan} {id : Nat} {r r' : Recorded β}
    {result : Except (Failure CreateError) Pool} (h : Ended p id r r' result) (k requested : Nat) :
    result = .error (.error (.preallocExhausted k requested)) ↔
      requested = p.preallocate ∧ k < p.preallocate ∧ Backing.RefusesAfter p.flags k r := by
  cases h with
  | ready _ hgranted =>
    refine ⟨fun h => (nomatch h), fun ⟨_, hk, hrefused⟩ => ?_⟩
    exact absurd hrefused (hgranted k hk)
  | @undone items hitems hrefused =>
    constructor
    · intro h
      cases h
      exact ⟨rfl, hitems, hrefused⟩
    · rintro ⟨rfl, hk, hrefused'⟩
      rw [← Backing.length_supply_eq_iff hitems] at hrefused
      rw [← Backing.length_supply_eq_iff hk] at hrefused'
      rw [← hrefused, hrefused']

variable [LawfulBacking β]

/-- **A construction** that finds room for its rings ends in one of two ways, and leaves no element
out that is not in the pool. -/
theorem construct_ended {p : Plan} (hp : p.Sound) (id : Nat) {r : Recorded β} {m : Multiset Handle}
    (hout : LawfulBacking.Out r.backing m) (hlocal : Ring.Fits p.localSize)
    (hshared : Ring.Fits p.sharedSize) :
    Ended p id r (p.construct (p.cpus.getD p.machineCpus) id r).2.1
        (p.construct (p.cpus.getD p.machineCpus) id r).1 ∧
      LawfulBacking.Out (p.construct (p.cpus.getD p.machineCpus) id r).2.1.backing
        (match (p.construct (p.cpus.getD p.machineCpus) id r).1 with
          | .ok pool => ↑pool.shared.toList + m
          | .error _ => m) := by
  let _ : LawfulBacking (Recorded β) := Recorded.unaudited
  have hconstructed := construct_constructed hp id (p.cpus.getD p.machineCpus) (b := r) hout
  have hcalls := Recorded.calls_supply p.flags p.preallocate r
  have hsupplied := LawfulBacking.out_supply (b := r) hout p.flags p.preallocate
  generalize (p.construct (p.cpus.getD p.machineCpus) id r).2.1 = r' at hconstructed
  generalize (p.construct (p.cpus.getD p.machineCpus) id r).1 = result at hconstructed
  cases hconstructed with
  | @built items _ pool hsupply hall hwf hstock =>
    rw [hsupply] at hcalls hsupplied
    have hready := ready_of_stock hstock
    have hnodup := Multiset.nodup_add.1 (LawfulBacking.nodup hsupplied)
    rw [if_neg (Nat.not_lt.2 (Nat.le_of_eq hall.symm)), List.append_nil] at hcalls
    have hgranted : ∀ k < p.preallocate, ¬Backing.RefusesAfter p.flags k r := by
      intro k hk hrefused
      have hlength := (Backing.length_supply_eq_iff hk r).2 hrefused
      rw [hsupply] at hlength
      dsimp only at hlength
      omega
    refine ⟨.ready hall hgranted (Multiset.coe_nodup.1 hnodup.1) hcalls hready, ?_⟩
    dsimp only
    rw [hready.shared_eq]
    exact hsupplied
  | noShared hroom => exact absurd hshared hroom
  | noLocal _ _ _ _ hroom => exact absurd hlocal hroom
  | @exhausted items middle _ hsupply hshort hreclaim =>
    rw [hsupply] at hcalls hsupplied
    have hnodup := Multiset.nodup_add.1 (LawfulBacking.nodup hsupplied)
    have hrefused := (Backing.length_supply_eq_iff hshort r).1 (by rw [hsupply])
    obtain ⟨final, hfinal, hleft⟩ := LawfulBacking.out_reclaim hsupplied
    rw [hreclaim] at hfinal
    cases hfinal
    rw [if_pos hshort] at hcalls
    refine ⟨.undone hshort hrefused (Multiset.coe_nodup.1 hnodup.1) ?_, hleft⟩
    rw [Recorded.calls_reclaim hreclaim, hcalls]

theorem construct_ring_ne {p : Plan} (hp : p.Sound) (id cpus : Nat) {r : Recorded β}
    {m : Multiset Handle} (hout : LawfulBacking.Out r.backing m) (cause : Ring.InvalidSize) :
    (p.construct cpus id r).1 ≠ .error (.error (.ring cause)) := by
  let _ : LawfulBacking (Recorded β) := Recorded.unaudited
  have hconstructed := construct_constructed hp id cpus (b := r) hout
  generalize (p.construct cpus id r).2.1 = r' at hconstructed
  generalize (p.construct cpus id r).1 = result at hconstructed
  cases hconstructed <;> exact fun h => nomatch h

end Exact

/-- A construction over chunks that fails leaves the same slots free as before. -/
theorem freeSlots_of_construct {p : Plan} (hp : p.Sound) (id cpus : Nat) {r : Recorded Chunks}
    {m : Multiset Handle} (hout : r.backing.Out m) {failure : Failure CreateError}
    (herror : (p.construct cpus id r).1 = .error failure) :
    (p.construct cpus id r).2.1.backing.freeSlots.Perm r.backing.freeSlots := by
  let _ : LawfulBacking (Recorded Chunks) := Recorded.unaudited
  have hconstructed := construct_constructed hp id cpus (b := r) hout
  rw [herror] at hconstructed
  generalize (p.construct cpus id r).2.1 = r' at hconstructed
  have hleft : r'.backing.Out m := (hconstructed.of_error hout).1
  have hkeeps := (Chunks.keeps_sameSlots r.backing).recorded
  have hsame : r.backing.SameSlots r'.backing := by
    have hstart : r.backing.SameSlots r.backing := ⟨rfl, rfl, rfl, rfl⟩
    have hmiddle := hkeeps.supply p.flags p.preallocate hstart
    cases hconstructed with
    | noShared => exact hstart
    | @noLocal items middle _ hsupply _ hreclaim =>
      rw [hsupply] at hmiddle
      have hback := hkeeps.reclaim items hmiddle
      rwa [hreclaim] at hback
    | @exhausted items middle _ hsupply _ hreclaim =>
      rw [hsupply] at hmiddle
      have hback := hkeeps.reclaim items hmiddle
      rwa [hreclaim] at hback
  exact hsame.freeSlots_perm hout hleft

/-- **Building is exact and leaves nothing behind.** The first flaw of a plan is what it is refused
for, with no call to a backing and no number taken. Without flaws a ring is never at fault, and if
memory has room for the rings the pool is ready or the elements that came went back; which of the
two is told by the request that the backing refuses, if it refuses one. No element is out afterwards
that was not out before or is not in the pool, and a chunk allocator has its free slots again. -/
theorem build_exact {β : Type} [Backing β] [LawfulBacking β] (p : Plan) (id : Nat)
    (source : Option (Recorded β)) {m : Multiset Handle}
    (hout : ∀ r ∈ source, LawfulBacking.Out r.backing m) :
    let built := p.build id source
    (∀ e, FirstHolds (p.flaws source.isSome) e →
      built.pool = .error (.error e) ∧ built.backing = source ∧ built.numbered = false) ∧
    ((∀ flaw ∈ p.flaws source.isSome, ¬flaw.1) →
      (∀ cause, built.pool ≠ .error (.error (.ring cause))) ∧ built.numbered = true ∧
      (Ring.Fits p.localSize → Ring.Fits p.sharedSize →
        ∃ r r', source = some r ∧ built.backing = some r' ∧ Ended p id r r' built.pool ∧
          (∀ k requested, built.pool = .error (.error (.preallocExhausted k requested)) ↔
            requested = p.preallocate ∧ k < p.preallocate ∧ Backing.RefusesAfter p.flags k r) ∧
          LawfulBacking.Out r'.backing
            (match built.pool with
              | .ok pool => ↑pool.shared.toList + m
              | .error _ => m))) ∧
    ∀ (r : Recorded Chunks) (slots : Multiset Handle), r.backing.Out slots →
      ∀ k requested,
        (p.build id (some r)).pool = .error (.error (.preallocExhausted k requested)) →
          ∃ r', (p.build id (some r)).backing = some r' ∧
            r'.backing.freeSlots.Perm r.backing.freeSlots := by
  intro built
  refine ⟨fun e hfirst => build_of_error id (check_eq_error_iff.2 hfirst), fun hflawless => ?_,
    fun r slots hslots k requested hexhausted => ?_⟩
  · have hcheck := check_of_flawless hflawless
    obtain ⟨hp, -, hsource⟩ := check_eq_ok hcheck
    obtain ⟨r, rfl⟩ := Option.isSome_iff_exists.1 hsource
    have hr := hout r rfl
    obtain ⟨hpool, hbacking, hnumbered⟩ := build_of_ok id (b := r) hcheck
    refine ⟨fun cause => ?_, hnumbered, fun hlocal hshared => ⟨r, _, rfl, hbacking, ?_⟩⟩
    · rw [hpool]
      exact construct_ring_ne hp id _ hr cause
    · obtain ⟨hended, hleft⟩ := construct_ended hp id hr hlocal hshared
      rw [← hpool] at hended hleft
      exact ⟨hended, hended.exhausted_iff, hleft⟩
  · rcases hcheck : (p.check true).1 with e | cpus
    · have hsource : (p.check (some r).isSome).1 = .error e := hcheck
      have hpool := (build_of_error id hsource).1
      rw [hexhausted] at hpool
      cases hpool
      have hflaw := check_eq_error_iff.1 hcheck
      simp [FirstHolds, flaws] at hflaw
    · obtain ⟨hp, -, -⟩ := check_eq_ok hcheck
      obtain ⟨hpool, hbacking, -⟩ := build_of_ok id (b := r) hcheck
      rw [hpool] at hexhausted
      exact ⟨_, hbacking, freeSlots_of_construct hp id cpus hslots hexhausted⟩

/-- Five slots in chunks of four, all of them free. -/
def fiveSlots : Chunks :=
  ⟨⟨8, 8⟩, 4, 5, Machine.spaced ⟨8, 8⟩ 32, [], 0, {}, .untouched⟩

/-- A plan that leaves the number of CPUs to a machine with two of them. -/
def eightWanted : Plan where
  localSize := 16
  sharedSize := 64
  preallocate := 8
  machineCpus := 2
  machineCpus_pos := Nat.two_pos

/-- Five of eight elements come, and all five slots are free again. -/
theorem build_exact_fiveSlots :
    let r : Recorded Chunks := ⟨fiveSlots, #[]⟩
    (∀ r' ∈ some r, LawfulBacking.Out r'.backing 0) ∧
    (∀ flaw ∈ eightWanted.flaws (some r).isSome, ¬flaw.1) ∧
    Ring.Fits eightWanted.localSize ∧ Ring.Fits eightWanted.sharedSize ∧
    (eightWanted.build 1 (some r)).pool = .error (.error (.preallocExhausted 5 8)) ∧
    ∃ r', (eightWanted.build 1 (some r)).backing = some r' ∧
      r'.backing.freeSlots.Perm [0, 1, 2, 3, 4] := by
  intro r
  have hreserve : Chunks.reserve ⟨8, 8⟩ 4 5 = .ok fiveSlots := by rfl
  have hout : ∀ r' ∈ some r, LawfulBacking.Out r'.backing 0 := by
    intro r' hr'
    cases hr'
    exact (Store.isNew_of_reserve hreserve).out
  have hflawless : ∀ flaw ∈ eightWanted.flaws (some r).isSome, ¬flaw.1 := by
    have hlocal : ∃ k, 16 = 2 ^ k := ⟨4, rfl⟩
    have hshared : ∃ k, 64 = 2 ^ k := ⟨6, rfl⟩
    simp [flaws, eightWanted, hlocal, hshared]
  have hfits : Ring.Fits eightWanted.localSize ∧ Ring.Fits eightWanted.sharedSize := by
    unfold Ring.Fits
    decide
  obtain ⟨-, hflawed, hslots⟩ := build_exact eightWanted 1 (some r) hout
  obtain ⟨-, -, hends⟩ := hflawed hflawless
  obtain ⟨_, -, hr, -, -, hexhausted, -⟩ := hends hfits.1 hfits.2
  cases hr
  have hrefused : Backing.RefusesAfter eightWanted.flags 5 r := by decide +kernel
  have hpool := (hexhausted 5 8).2 ⟨rfl, by decide, hrefused⟩
  obtain ⟨r', hbacking, hperm⟩ := hslots r 0 (hout r rfl) 5 8 hpool
  exact ⟨hout, hflawless, hfits.1, hfits.2, hpool, r', hbacking, hperm⟩

end Plan

end TieredPool
