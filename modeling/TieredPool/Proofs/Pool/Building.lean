import TieredPool.Pool.Build
import TieredPool.Proofs.Pool.Flow
import TieredPool.Proofs.Pool.Retirement

/-!
# What becomes of a plan

A plan that passes its checks has sizes that let every transfer through (`Plan.check_eq_ok`). Its
construction ends in one of the ways listed in `Plan.Constructed`: either the pool is there, with
the preallocated elements in its shared queue and nothing elsewhere, or every element obtained on
the way has gone back.
-/

namespace TieredPool

namespace Plan

/-! ## Checks -/

/-- The sizes of a plan let every transfer between the tiers through. -/
structure Sound (p : Plan) : Prop where
  localSize_ge : batch ≤ p.localSize
  sharedSize_ge : batch * (refillBatches + 2) ≤ p.sharedSize
  localSize_pow : Word.isPowerOfTwo p.localSize = true
  sharedSize_pow : Word.isPowerOfTwo p.sharedSize = true
  preallocate_lt : p.preallocate < p.sharedSize

/-- A power of two beyond one refill has room for another. -/
theorem sharedSize_ge_of_pow {n : Nat} (hpow : Word.isPowerOfTwo n = true)
    (h : batch * refillBatches < n) : batch * (refillBatches + 2) ≤ n := by
  obtain ⟨k, rfl⟩ := Word.isPowerOfTwo_iff.1 hpow
  rw [Nat.one_shiftLeft] at h ⊢
  have hlt : 5 < k := (Nat.pow_lt_pow_iff_right (Nat.lt_succ_self 1)).1 h
  exact Nat.pow_le_pow_right (Nat.succ_pos 1) hlt

theorem sizeFault?_eq_none {p : Plan} (h : p.sizeFault? = none) : p.Sound := by
  unfold sizeFault? at h
  repeat' split at h
  all_goals try cases h
  next hlocal hshared hpow hpreallocate =>
  simp only [Bool.or_eq_true, Bool.not_eq_true', not_or, Bool.not_eq_false] at hpow
  exact ⟨Nat.le_of_not_lt hlocal, sharedSize_ge_of_pow hpow.2 (Nat.lt_of_not_le hshared), hpow.1,
    hpow.2, Nat.lt_of_not_le hpreallocate⟩

theorem check_eq_ok {p : Plan} {hasBacking : Bool} {cpus : Nat}
    (h : (p.check hasBacking).1 = .ok cpus) : p.Sound ∧ 0 < cpus ∧ hasBacking = true := by
  unfold check at h
  split at h
  · cases h
  · next hsize =>
    dsimp only at h
    split at h
    · cases h
    · next hbacking =>
      split at h
      · cases h
      · next hcpus =>
        cases h
        refine ⟨sizeFault?_eq_none hsize, ?_, by simpa using hbacking⟩
        exact Nat.pos_of_ne_zero (by simpa using hcpus)

theorem check_cpus_eq {p : Plan} {hasBacking : Bool} {cpus : Nat}
    (h : (p.check hasBacking).1 = .ok cpus) : cpus = p.cpus.getD p.machineCpus := by
  unfold check at h
  split at h
  · cases h
  · dsimp only at h
    split at h
    · cases h
    · split at h
      · cases h
      · exact (Except.ok.inj h).symm

/-- A sound plan for some CPUs passes its checks. -/
theorem check_of_sound {p : Plan} (hp : p.Sound) (hcpus : 0 < p.cpus.getD p.machineCpus) :
    (p.check true).1 = .ok (p.cpus.getD p.machineCpus) := by
  have hlocal := hp.localSize_ge
  have hshared : batch * refillBatches < p.sharedSize :=
    Nat.lt_of_lt_of_le (by decide) hp.sharedSize_ge
  have hpreallocate := hp.preallocate_lt
  have hsize : p.sizeFault? = none := by
    unfold sizeFault?
    rw [if_neg (Nat.not_lt_of_le hlocal), if_neg (Nat.not_le_of_lt hshared), hp.localSize_pow,
      hp.sharedSize_pow, if_neg (by decide), if_neg (Nat.not_le_of_lt hpreallocate)]
  unfold check
  rw [hsize]
  dsimp only
  rw [if_neg (by decide), if_neg (by simpa using Nat.ne_of_gt hcpus)]

/-! ## Construction -/

/-- The stock of a pool with these elements in its shared queue and nothing else. -/
def stocked (p : Plan) (id cpus : Nat) (items : List Handle) : Stock :=
  { id, flags := p.flags, preallocated := p.preallocate, localSize := p.localSize,
    sharedSize := p.sharedSize, shared := items, shelves := List.replicate cpus {},
    traffic := { allocs := items.length } }

section Construction

variable {β : Type} [Backing β]

/-- Filling the shared queue puts all that the backing gives there. -/
theorem runOn_fillShared (p : Plan) (missing : Nat) {d : Depot β}
    (hroom : d.stock.shared.length + missing < d.stock.sharedSize) :
    (p.fillShared missing).runOn d =
      (.ok (if (Backing.supply p.flags missing d.backing).1.length < missing then
          some (.preallocExhausted
            (p.preallocate - (missing - (Backing.supply p.flags missing d.backing).1.length))
            p.preallocate)
        else none),
        { stock :=
            { d.stock.countAllocs (Backing.supply p.flags missing d.backing).1.length with
              shared := d.stock.shared ++ (Backing.supply p.flags missing d.backing).1 }
          backing := (Backing.supply p.flags missing d.backing).2 }) := by
  induction missing generalizing d with
  | zero => simp [fillShared, Backing.supply, Stock.countAllocs]
  | succ missing ih =>
    rw [fillShared, Routine.runOn_bind, Routine.request, Routine.runOn_ask, Depot.perform,
      Backing.supply]
    rcases Backing.alloc p.flags d.backing with ⟨_ | x, backing⟩
    · simp only [List.length_nil, Nat.zero_lt_succ, ↓reduceIte, Nat.sub_zero, List.append_nil]
      rfl
    · dsimp only
      have hpush := Routine.runOn_push_shared (d := ⟨d.stock.countAllocs 1, backing⟩) [x]
        (by simp only [Stock.countAllocs, List.length_singleton]; omega)
      rw [Routine.runOn_bind_ok hpush, Routine.runOn_bind_ok (Routine.runOn_ensure_true _ _), ih]
      · simp only [Stock.countAllocs, List.length_cons, Nat.add_lt_add_iff_right,
          Nat.add_sub_add_right, List.append_assoc, List.singleton_append, Nat.add_assoc,
          Nat.add_comm 1]
      · simp only [Stock.countAllocs, List.length_append, List.length_singleton]
        omega

/-- The ways in which the construction of a pool over a backing ends: with what result, and with
what state of the backing. -/
inductive Constructed (p : Plan) (id cpus : Nat) (b : β) :
    Except (Failure CreateError) Pool → β → Prop
  /-- The pool is there, with the preallocated elements in its shared queue. -/
  | built {items : List Handle} {backing : β} {pool : Pool}
      (hsupply : Backing.supply p.flags p.preallocate b = (items, backing))
      (hall : items.length = p.preallocate) (hwf : pool.WF)
      (hstock : pool.stock = p.stocked id cpus items) (hshared : Ring.Fits p.sharedSize)
      (hlocal : Ring.Fits p.localSize) : Constructed p id cpus b (.ok pool) backing
  /-- There is no room for the shared queue. -/
  | noShared (hshared : ¬Ring.Fits p.sharedSize) :
      Constructed p id cpus b (.error (.fault .capacityOverflow)) b
  /-- There is no room for a local queue, and the preallocated elements went back. -/
  | noLocal {items : List Handle} {middle backing : β}
      (hsupply : Backing.supply p.flags p.preallocate b = (items, middle))
      (hall : items.length = p.preallocate)
      (hreclaim : Backing.reclaim items middle = (.ok (), backing))
      (hshared : Ring.Fits p.sharedSize) (hlocal : ¬Ring.Fits p.localSize) :
      Constructed p id cpus b (.error (.fault .capacityOverflow)) backing
  /-- The backing was exhausted, and the elements it gave went back. -/
  | exhausted {items : List Handle} {middle backing : β}
      (hsupply : Backing.supply p.flags p.preallocate b = (items, middle))
      (hshort : items.length < p.preallocate)
      (hreclaim : Backing.reclaim items middle = (.ok (), backing))
      (hshared : Ring.Fits p.sharedSize) :
      Constructed p id cpus b (.error (.error (.preallocExhausted items.length p.preallocate)))
        backing

/-- Giving up a pool under construction gives its elements back. -/
theorem abandon_eq (failure : Failure CreateError) {w : World β} {b : β} (hwf : w.pool.WF)
    (hs : w.pool.stock.Sound)
    (hreclaim : Backing.reclaim w.pool.stock.contents w.backing = (.ok (), b)) :
    ∃ pool events, abandon failure w = (.error failure, ⟨pool, b, events⟩) := by
  obtain ⟨pool, events, hretire⟩ := World.retire_eq hwf
    (fun shelf hmem => Nat.le_of_lt (hs.items_lt shelf hmem)) (Nat.le_of_lt hs.shared_lt) hreclaim
  exact ⟨pool, _, by rw [abandon, hretire]⟩

theorem stocked_sound {p : Plan} (hp : p.Sound) (id cpus : Nat) {items : List Handle}
    (hle : items.length ≤ p.preallocate) : (p.stocked id cpus items).Sound := by
  refine ⟨hp.localSize_ge, hp.sharedSize_ge, Nat.lt_of_le_of_lt hle hp.preallocate_lt,
    fun shelf hmem => ?_⟩
  obtain rfl := List.eq_of_mem_replicate hmem
  exact Nat.lt_of_lt_of_le (by decide) hp.localSize_ge

theorem contents_stocked (p : Plan) (id cpus : Nat) (items : List Handle) :
    (p.stocked id cpus items).contents = items := by
  simp [Stock.contents, stocked]

theorem run_fillShared {p : Plan} (hp : p.Sound) {id : Nat} {w : World β} (hwf : w.pool.WF)
    (hstock : w.pool.stock = p.stocked id 0 []) {items : List Handle} {b : β}
    (hsupply : Backing.supply p.flags p.preallocate w.backing = (items, b)) :
    ∃ pool events, (p.fillShared p.preallocate).run w =
        (.ok (if items.length < p.preallocate then
            some (.preallocExhausted items.length p.preallocate) else none), ⟨pool, b, events⟩) ∧
      pool.WF ∧ pool.stock = p.stocked id 0 items := by
  have hle := Backing.length_supply_le p.flags p.preallocate w.backing
  have hfill := runOn_fillShared p p.preallocate (d := w.depot) (by
    simpa only [World.depot, hstock, stocked, List.length_nil, Nat.zero_add]
      using hp.preallocate_lt)
  simp only [World.depot, hsupply] at hfill hle
  obtain ⟨pool, events, hrun, hwf', hpool⟩ := Routine.exists_run_eq hwf hfill
  refine ⟨pool, events, ?_, hwf', ?_⟩
  · rw [hrun, Nat.sub_sub_self hle]
  · rw [hpool]
    simp only [hstock, stocked, Stock.countAllocs, List.nil_append, List.length_nil, Nat.zero_add]

theorem wf_of_caches {p : Plan} {id : Nat} (cpus : Nat) {pool : Pool} {queue : Ring Handle}
    {items : List Handle} (hwf : pool.WF) (hstock : pool.stock = p.stocked id 0 items)
    (hqueue : Ring.create p.localSize .spsc = .ok queue) :
    ({ pool with caches := Array.replicate cpus { queue } } : Pool).WF ∧
      ({ pool with caches := Array.replicate cpus { queue } } : Pool).stock =
        p.stocked id cpus items := by
  obtain ⟨hring, hlist, hsize, hflags⟩ := Ring.create_wf hqueue
  have hlocal : pool.localSize = p.localSize := congrArg Stock.localSize hstock
  refine ⟨⟨hwf.shared, hwf.flags_eq, fun cache hmem => ?_⟩, ?_⟩
  · rw [Array.toList_replicate] at hmem
    obtain rfl := List.eq_of_mem_replicate hmem
    exact ⟨hring, hflags, hsize.trans hlocal.symm⟩
  · have hshelf : ({ queue } : Cache).shelf = {} := by simp only [Cache.shelf, hlist]
    have hother : ({ pool.stock with shelves := List.replicate cpus {} } : Stock) =
        p.stocked id cpus items := by rw [hstock]; rfl
    rw [← hother]
    simp only [Pool.stock, Array.toList_replicate, List.map_replicate, hshelf, Pool.sharedSize]

theorem build_of_error {p : Plan} (id : Nat) {source : Option β}
    {e : CreateError} (h : (p.check source.isSome).1 = .error e) :
    (p.build id source).pool = .error (.error e) ∧ (p.build id source).backing = source ∧
      (p.build id source).numbered = false := by
  rw [build]
  rcases hcheck : p.check source.isSome with ⟨checked, reports⟩
  rw [hcheck] at h
  dsimp only at h
  subst h
  exact ⟨rfl, rfl, rfl⟩

theorem build_of_ok {p : Plan} (id : Nat) {b : β} {cpus : Nat}
    (h : (p.check true).1 = .ok cpus) :
    (p.build id (some b)).pool = (p.construct cpus id b).1 ∧
      (p.build id (some b)).backing = some (p.construct cpus id b).2.1 ∧
      (p.build id (some b)).numbered = true := by
  rw [build, Option.isSome_some]
  rcases hcheck : p.check true with ⟨checked, reports⟩
  rw [hcheck] at h
  dsimp only at h
  subst h
  exact ⟨rfl, rfl, rfl⟩

variable [LawfulBacking β]

/-- **The construction** of a sound plan over a lawful backing ends in one of its ways. -/
theorem construct_constructed {p : Plan} (hp : p.Sound) (id cpus : Nat) {b : β}
    {m : Multiset Handle} (hout : LawfulBacking.Out b m) :
    Constructed p id cpus b (p.construct cpus id b).1 (p.construct cpus id b).2.1 := by
  have hlocal := hp.localSize_ge
  have hshared := hp.sharedSize_ge
  simp only [batch, refillBatches] at hlocal hshared
  rcases Ring.create_eq_ok_or_fault (α := Handle) .mpmc (by omega) hp.sharedSize_pow with
    ⟨hfits, shared, hcreate⟩ | ⟨hroom, hcreate⟩
  · obtain ⟨hring, hlist, hsize, hflags⟩ := Ring.create_wf hcreate
    rcases hsupply : Backing.supply p.flags p.preallocate b with ⟨items, middle⟩
    have hle := Backing.length_supply_le p.flags p.preallocate b
    have hmiddle := LawfulBacking.out_supply hout p.flags p.preallocate
    rw [hsupply] at hle hmiddle
    obtain ⟨final, hreclaim, -⟩ := LawfulBacking.out_reclaim hmiddle
    have hempty : (⟨id, p.flags, p.preallocate, p.localSize, shared, #[], {}⟩ : Pool).stock =
        p.stocked id 0 [] := by
      simp [Pool.stock, Pool.sharedSize, stocked, hlist, hsize]
    obtain ⟨pool, events, hrun, hwf, hstock⟩ := run_fillShared hp
      (w := ⟨⟨id, p.flags, p.preallocate, p.localSize, shared, #[], {}⟩, b, #[]⟩)
      ⟨hring, hflags, fun _ hmem => absurd hmem List.not_mem_nil⟩ hempty hsupply
    have hsound : pool.stock.Sound := hstock ▸ stocked_sound hp id 0 hle
    have hback : Backing.reclaim pool.stock.contents middle = (.ok (), final) := by
      rwa [hstock, contents_stocked]
    simp only [construct, hcreate, furnish, hrun]
    by_cases hshort : items.length < p.preallocate
    · simp only [hshort, ↓reduceIte]
      obtain ⟨_, _, habandon⟩ := abandon_eq
        (.error (.preallocExhausted items.length p.preallocate))
        (w := ⟨pool, middle, events⟩) hwf hsound hback
      rw [habandon]
      exact .exhausted hsupply hshort hreclaim hfits
    · have hall := Nat.le_antisymm hle (Nat.le_of_not_lt hshort)
      simp only [hshort, ↓reduceIte]
      rcases Ring.create_eq_ok_or_fault (α := Handle) .spsc (by omega) hp.localSize_pow
        with ⟨hfitsLocal, queue, hqueue⟩ | ⟨hroom, hqueue⟩
      · obtain ⟨hwf', hstock'⟩ := wf_of_caches cpus hwf hstock hqueue
        simp only [Cache.create, hqueue, bind, Except.bind, pure, Except.pure]
        exact .built hsupply hall hwf' hstock' hfits hfitsLocal
      · obtain ⟨_, _, habandon⟩ := abandon_eq (.fault .capacityOverflow)
          (w := ⟨pool, middle, events⟩) hwf hsound hback
        simp only [Cache.create, hqueue, ringFailure, bind, Except.bind]
        rw [habandon]
        exact .noLocal hsupply hall hreclaim hfits hroom
  · rw [construct, hcreate]
    exact .noShared hroom

/-- **What comes of a plan** that passes its checks is told by the requests that its backing meets,
if memory has room for the rings. -/
theorem build_of_supply {p : Plan} (id : Nat) {cpus : Nat} {b : β} {m : Multiset Handle}
    (hcheck : (p.check true).1 = .ok cpus) (hlocal : Ring.Fits p.localSize)
    (hshared : Ring.Fits p.sharedSize) (hout : LawfulBacking.Out b m) :
    let items := (Backing.supply p.flags p.preallocate b).1
    (items.length = p.preallocate → ∃ pool, (p.build id (some b)).pool = .ok pool ∧
      pool.stock = p.stocked id cpus items) ∧
    (items.length < p.preallocate → (p.build id (some b)).pool =
      .error (.error (.preallocExhausted items.length p.preallocate))) := by
  intro items
  obtain ⟨hp, -, -⟩ := check_eq_ok hcheck
  rw [(build_of_ok id hcheck).1]
  have hconstructed := construct_constructed hp id cpus hout
  generalize (p.construct cpus id b).2.1 = b' at hconstructed
  generalize (p.construct cpus id b).1 = result at hconstructed
  cases hconstructed with
  | @built items' _ pool hsupply hall _ hstock =>
    have hitems : items = items' := congrArg Prod.fst hsupply
    rw [hitems]
    exact ⟨fun _ => ⟨pool, rfl, hstock⟩, fun hshort => absurd hall (Nat.ne_of_lt hshort)⟩
  | noShared hroom => exact absurd hshared hroom
  | noLocal _ _ _ _ hroom => exact absurd hlocal hroom
  | @exhausted items' _ _ hsupply hshort =>
    have hitems : items = items' := congrArg Prod.fst hsupply
    rw [hitems]
    exact ⟨fun hall => absurd hall (Nat.ne_of_lt hshort), fun _ => rfl⟩

theorem exists_checked_of_build {p : Plan} {id : Nat} {b backing : β} {pool : Pool}
    {numbered : Bool} {reports : List Event} {m : Multiset Handle} (hout : LawfulBacking.Out b m)
    (h : p.build id (some b) = ⟨.ok pool, some backing, numbered, reports⟩) :
    ∃ cpus, (p.check true).1 = .ok cpus ∧ p.Sound ∧
      Constructed p id cpus b (.ok pool) backing := by
  rw [build] at h
  rcases hcheck : p.check (some b).isSome with ⟨error | cpus, checked⟩ <;> rw [hcheck] at h
  · cases h
  · have hplan := (check_eq_ok (congrArg Prod.fst hcheck)).1
    have hconstructed := construct_constructed hplan id cpus hout
    rcases hconstruct : p.construct cpus id b with ⟨result, b', events⟩
    simp only [hconstruct] at h hconstructed
    cases h
    exact ⟨cpus, congrArg Prod.fst hcheck, hplan, hconstructed⟩

/-- A pool that was built comes of a sound plan and its construction. -/
theorem build_eq_ok {p : Plan} {id : Nat} {b backing : β} {pool : Pool} {numbered : Bool}
    {reports : List Event} {m : Multiset Handle} (hout : LawfulBacking.Out b m)
    (h : p.build id (some b) = ⟨.ok pool, some backing, numbered, reports⟩) :
    p.Sound ∧ ∃ cpus, Constructed p id cpus b (.ok pool) backing := by
  obtain ⟨cpus, -, hplan, hconstructed⟩ := exists_checked_of_build hout h
  exact ⟨hplan, cpus, hconstructed⟩

namespace Constructed

variable {p : Plan} {id cpus : Nat} {b b' : β} {m : Multiset Handle}

omit [LawfulBacking β] in
theorem exists_stock_eq {pool : Pool} (h : Constructed p id cpus b (.ok pool) b') :
    ∃ items, pool.stock = p.stocked id cpus items := by
  cases h with
  | built _ _ _ hstock => exact ⟨_, hstock⟩

/-- A pool that is there holds what the backing gave, and satisfies its invariants. -/
theorem of_ok {pool : Pool} (h : Constructed p id cpus b (.ok pool) b') (hp : p.Sound)
    (hout : LawfulBacking.Out b m) :
    pool.WF ∧ pool.id = id ∧ pool.stock.Sound ∧ pool.stock.Flow ∧ pool.stock.Accounts 0 ∧
      LawfulBacking.Out b' (pool.stock.elements + m) := by
  cases h with
  | @built items backing pool hsupply hall hwf hstock =>
    have hsupplied := LawfulBacking.out_supply hout p.flags p.preallocate
    rw [hsupply] at hsupplied
    have helements : pool.stock.elements = items := by
      rw [← Stock.coe_contents, hstock, contents_stocked]
    refine ⟨hwf, congrArg Stock.id hstock, hstock ▸ stocked_sound hp id cpus (Nat.le_of_eq hall),
      ?_, ?_, helements ▸ hsupplied⟩
    · rw [hstock]
      have hzero : ∀ f : Shelf → Nat, f {} = 0 → ((List.replicate cpus {}).map f).sum = 0 := by
        intro f hf
        rw [List.map_replicate, hf]
        simp
      have hrefills : (p.stocked id cpus items).refills = 0 := hzero Shelf.refills rfl
      have hoverflows : (p.stocked id cpus items).overflows = 0 := hzero Shelf.overflows rfl
      have hdrains : (p.stocked id cpus items).drains = 0 := hzero Shelf.drains rfl
      refine ⟨?_, rfl, hdrains.symm, fun shelf hmem => ?_, Nat.le_of_eq hall.symm,
        Nat.le_of_eq hall⟩
      · rw [hrefills, hoverflows]
        rfl
      · obtain rfl := List.eq_of_mem_replicate hmem
        exact Nat.le_refl 0
    · rw [Stock.Accounts, helements, hstock]
      simp only [stocked, Multiset.coe_card, Nat.zero_add, Nat.add_zero]

/-- A construction that fails leaves the backing with the elements out that were out before, and its
only fault is a want of memory. -/
theorem of_error {failure : Failure CreateError}
    (h : Constructed p id cpus b (.error failure) b') (hout : LawfulBacking.Out b m) :
    LawfulBacking.Out b' m ∧ ∀ fault, failure = .fault fault → fault = .capacityOverflow := by
  have hback : ∀ items middle, Backing.supply p.flags p.preallocate b = (items, middle) →
      Backing.reclaim items middle = (.ok (), b') → LawfulBacking.Out b' m := by
    intro items middle hsupply hreclaim
    have hsupplied := LawfulBacking.out_supply hout p.flags p.preallocate
    rw [hsupply] at hsupplied
    obtain ⟨final, hfinal, hleft⟩ := LawfulBacking.out_reclaim hsupplied
    rw [hreclaim] at hfinal
    cases hfinal
    exact hleft
  cases h with
  | noShared => exact ⟨hout, fun fault h => by cases h; rfl⟩
  | noLocal hsupply hall hreclaim =>
    exact ⟨hback _ _ hsupply hreclaim, fun fault h => by cases h; rfl⟩
  | exhausted hsupply hshort hreclaim =>
    exact ⟨hback _ _ hsupply hreclaim, fun fault h => by cases h⟩

end Constructed

end Construction

end Plan

end TieredPool
