import TieredPool.Proofs.Session.Twins

/-!
# The kind of a backing does not show

A caller cannot tell a heap with a limit from a chunk allocator with as many slots by what steps come
to, nor by any count (`Session.after_agree`). Elements are in the same places in both sessions. They
have other names, but names that two places share in the one session they share in the other: at any
moment every element is in one place only (`Session.Twins.numberAt?_eq_iff`).
-/

namespace TieredPool

/-! ## Figures -/

namespace Pool

theorem WF.allCpuStatistics_eq {p : Pool} (h : p.WF) :
    p.allCpuStatistics = p.stock.shelves.mapIdx fun cpu shelf =>
      ⟨cpu, shelf.owner, shelf.refills, shelf.overflows, shelf.drains, shelf.items.length⟩ := by
  refine List.ext_getElem? fun i => ?_
  rw [allCpuStatistics, stock, List.getElem?_mapIdx, List.getElem?_mapIdx, List.getElem?_map]
  rcases hget : p.caches.toList[i]? with _ | cache
  · rfl
  · have hlength := (h.caches cache (List.mem_of_getElem? hget)).queue.length_toList
    simp only [Option.map_some, Cache.statistics, Cache.shelf, hlength]

theorem statistics_twins {names : List Handle} {p p' : Pool} (h : p.stock.Twins names p'.stock)
    (hwf : p.WF) (hwf' : p'.WF) :
    p'.statistics = p.statistics ∧ p'.allCpuStatistics = p.allCpuStatistics := by
  have htraffic : p'.traffic = p.traffic := h.traffic_eq
  have hpreallocated : p'.preallocated = p.preallocated := h.preallocated_eq
  have hlength := h.shared.length_eq
  rw [show p.stock.shared.length = p.shared.length from hwf.shared.length_toList,
    show p'.stock.shared.length = p'.shared.length from hwf'.shared.length_toList] at hlength
  refine ⟨?_, ?_⟩
  · rw [statistics, statistics, htraffic, hpreallocated, hlength]
  · rw [hwf.allCpuStatistics_eq, hwf'.allCpuStatistics_eq]
    refine List.ext_getElem? fun i => ?_
    have hrel := forall₂_getElem? h.shelves i
    rw [List.getElem?_mapIdx, List.getElem?_mapIdx]
    generalize p.stock.shelves[i]? = shelf, p'.stock.shelves[i]? = shelf' at hrel
    cases hrel with
    | none => rfl
    | some hs =>
      rw [Option.map_some, Option.map_some, hs.owner_eq, hs.refills_eq, hs.overflows_eq,
        hs.drains_eq, hs.items.length_eq]

end Pool

/-! ## Names -/

theorem Serial.unique {names : List Handle} {number name name' : Handle}
    (h : Serial names number name) (h' : Serial names number name') : name = name' :=
  Option.some.inj (h.symm.trans h')

/-- Elements that stand for one that is in its list once are one. -/
theorem eq_of_serial {names l l' : List Handle} (h : List.Forall₂ (Serial names) l l')
    (hnodup : l'.Nodup) {x y name : Handle} (hx : x ∈ l) (hy : y ∈ l) (hxname : Serial names x name)
    (hyname : Serial names y name) : x = y := by
  obtain ⟨i, hi⟩ := List.getElem?_of_mem hx
  obtain ⟨j, hj⟩ := List.getElem?_of_mem hy
  have hname : ∀ (i : Nat) (x : Handle), l[i]? = some x → Serial names x name →
      l'[i]? = some name := by
    intro i x hi hxname
    have hrel := forall₂_getElem? h i
    rw [hi] at hrel
    generalize l'[i]? = found at hrel
    cases hrel with
    | some hserial => rw [hserial.unique hxname]
  have hi' := hname i x hi hxname
  have hj' := hname j y hj hyname
  obtain ⟨hlt, -⟩ := List.getElem?_eq_some_iff.1 hi'
  obtain rfl := (List.getElem?_inj hlt hnodup).1 (hi'.trans hj'.symm)
  exact Option.some.inj (hi.symm.trans hj)

/-- A store knows its elements apart. -/
theorem Store.Out.numberOf_inj {s : Store} {m : Multiset Handle} (h : s.Out m) {x y : Handle}
    (hx : x ∈ m) (hy : y ∈ m) (heq : s.numberOf x = s.numberOf y) : x = y := by
  cases s with
  | heap _ => exact heq
  | chunks c =>
    obtain ⟨hwf, slots, rfl, hslots⟩ := h
    have hslot : ∀ z ∈ slots.map c.slotAddress, c.slotAddress ((c.slot? z).getD 0) = z := by
      intro z hz
      obtain ⟨slot, hmem, rfl⟩ := Multiset.mem_map.1 hz
      have hlt : slot < c.capacity := by
        rw [← Multiset.mem_range, ← hslots]
        exact Multiset.mem_add.2 (.inl hmem)
      rw [hwf.slot?_slotAddress hlt]
      rfl
    exact (hslot x hx).symm.trans ((congrArg c.slotAddress heq).trans (hslot y hy))

namespace Session

/-! ## Places of elements -/

/-- Where an element may be: in a local queue or the shared one of a pool, or with callers, who have
or have lost it. Elements of a queue count from the oldest on. -/
inductive Spot where
  | cached (place cpu at_ : Nat)
  | shared (place at_ : Nat)
  | held (at_ : Nat)
  | lost (at_ : Nat)

section Spots

variable {β : Type} {s : Session β}

def elementAt? (s : Session β) : Spot → Option Holding
  | .cached place cpu at_ =>
    (s.tenant? place).bind fun tenant =>
      tenant.pool.caches[cpu]?.bind fun cache =>
        cache.queue.toList[at_]?.bind fun handle => some ⟨⟨handle, tenant.pool.id⟩, tenant.backing⟩
  | .shared place at_ =>
    (s.tenant? place).bind fun tenant =>
      tenant.pool.shared.toList[at_]?.bind fun handle =>
        some ⟨⟨handle, tenant.pool.id⟩, tenant.backing⟩
  | .held at_ => s.held[at_]?
  | .lost at_ => s.lost[at_]?

/-- The backing of the element in a place, and the number by which it knows the element. -/
def numberAt? (s : Session (Recorded Store)) (spot : Spot) : Option (Nat × Nat) :=
  (s.elementAt? spot).bind fun e =>
    s.backings[e.backing]?.bind fun r => some (e.backing, r.backing.numberOf e.element.handle)

theorem mem_contentsOn_of_tenant {place : Nat} {tenant : Tenant}
    (htenant : s.tenant? place = some tenant) {handle : Handle}
    (hmem : handle ∈ tenant.pool.contents) : handle ∈ s.contentsOn tenant.backing := by
  have hpool : some tenant ∈ s.pools.toList := by
    refine List.mem_of_getElem? (i := place) ?_
    rw [Array.getElem?_toList]
    exact tenant?_eq_some.1 htenant
  refine List.mem_append_left _ (List.mem_flatMap.2 ⟨_, hpool, ?_⟩)
  dsimp only
  rwa [if_pos rfl]

/-- An element in a place is one of its backing's. -/
theorem mem_contentsOn {spot : Spot} {e : Holding} (h : s.elementAt? spot = some e) :
    e.element.handle ∈ s.contentsOn e.backing := by
  have hstray : e ∈ s.held ++ s.lost → e.element.handle ∈ s.contentsOn e.backing := by
    intro hmem
    refine List.mem_append_right _ (List.mem_map.2 ⟨e, List.mem_filter.2 ⟨hmem, ?_⟩, rfl⟩)
    exact decide_eq_true rfl
  cases spot with
  | cached place cpu at_ =>
    simp only [elementAt?, Option.bind_eq_some_iff, Option.some.injEq] at h
    obtain ⟨tenant, htenant, cache, hcache, handle, hhandle, rfl⟩ := h
    refine mem_contentsOn_of_tenant htenant (List.mem_append_left _ (List.mem_flatMap.2 ?_))
    exact ⟨cache, Array.mem_toList_iff.2 (Array.mem_of_getElem? hcache), List.mem_of_getElem? hhandle⟩
  | shared place at_ =>
    simp only [elementAt?, Option.bind_eq_some_iff, Option.some.injEq] at h
    obtain ⟨tenant, htenant, handle, hhandle, rfl⟩ := h
    exact mem_contentsOn_of_tenant htenant
      (List.mem_append_right _ (List.mem_of_getElem? hhandle))
  | held at_ => exact hstray (List.mem_append_left _ (List.mem_of_getElem? h))
  | lost at_ => exact hstray (List.mem_append_right _ (List.mem_of_getElem? h))

end Spots

namespace Twins

variable {s s' : Session (Recorded Store)}

/-- Elements that stand for each other are in the same places. -/
theorem elementAt? (ht : s.Twins s') (spot : Spot) :
    Option.Rel (Holding.Twins (handedOutBy s'.backings)) (s.elementAt? spot)
      (s'.elementAt? spot) := by
  cases spot with
  | cached place cpu at_ =>
    refine rel_bind (ht.tenants place) fun t t' hpools => ?_
    have hrel := forall₂_getElem? hpools.stock.shelves cpu
    rw [Pool.stock_shelves_getElem?, Pool.stock_shelves_getElem?] at hrel
    generalize t.pool.caches[cpu]? = cache, t'.pool.caches[cpu]? = cache' at hrel
    cases cache <;> cases cache' <;> cases hrel
    case none.none.none => exact .none
    case some.some.some cache cache' hshelf =>
      have hitems : List.Forall₂ (Serial (handedOutBy s'.backings t.backing)) cache.queue.toList
          cache'.queue.toList := hshelf.items
      rw [Option.bind_some, Option.bind_some]
      refine rel_bind (forall₂_getElem? hitems at_) fun x x' hserial => ?_
      exact .some ⟨hpools.backing_eq, hpools.stock.id_eq, hserial⟩
  | shared place at_ =>
    refine rel_bind (ht.tenants place) fun t t' hpools => ?_
    refine rel_bind (forall₂_getElem? hpools.stock.shared at_) fun x x' hserial => ?_
    exact .some ⟨hpools.backing_eq, hpools.stock.id_eq, hserial⟩
  | held at_ => exact forall₂_getElem? ht.held at_
  | lost at_ => exact forall₂_getElem? ht.lost at_

theorem contentsOn (ht : s.Twins s') (k : Nat) :
    List.Forall₂ (Serial (handedOutBy s'.backings k)) (s.contentsOn k) (s'.contentsOn k) := by
  refine List.rel_append (List.rel_flatMap ht.pools fun t t' hpools => ?_) ?_
  · cases hpools with
    | none => exact .nil
    | some hpools =>
      dsimp only
      rw [hpools.backing_eq]
      split
      · next hk =>
        rw [← hk, ← Pool.stock_contents, ← Pool.stock_contents]
        exact hpools.stock.contents
      · exact .nil
  · have hstrays : List.Forall₂ (Holding.Twins (handedOutBy s'.backings)) (s.held ++ s.lost)
        (s'.held ++ s'.lost) := List.rel_append ht.held ht.lost
    generalize s.held ++ s.lost = strays, s'.held ++ s'.lost = strays' at hstrays
    induction hstrays with
    | nil => exact .nil
    | @cons e e' strays strays' he _ ih =>
      rw [List.filter_cons, List.filter_cons, he.backing_eq]
      split
      · next hk =>
        obtain rfl := of_decide_eq_true hk
        exact .cons he.serial ih
      · exact ih

/-- A place has no element in either session, or one in both, on a backing that is there. -/
theorem spot (ht : s.Twins s') (spot : Spot) :
    (s.numberAt? spot = none ∧ s'.numberAt? spot = none) ∨
      ∃ e e' r r', s.elementAt? spot = some e ∧ s'.elementAt? spot = some e' ∧
        e.Twins (handedOutBy s'.backings) e' ∧ s.backings[e.backing]? = some r ∧
        s'.backings[e.backing]? = some r' ∧
        s.numberAt? spot = some (e.backing, r.backing.numberOf e.element.handle) ∧
        s'.numberAt? spot = some (e.backing, r'.backing.numberOf e'.element.handle) := by
  have hrel := ht.elementAt? spot
  unfold numberAt?
  generalize s.elementAt? spot = e, s'.elementAt? spot = e' at hrel ⊢
  cases hrel with
  | none => exact .inl ⟨rfl, rfl⟩
  | @some e e' he =>
    have hbackings := ht.backings e.backing
    rcases hr' : s'.backings[e.backing]? with _ | r'
    · -- nothing comes from a backing that is not there
      have hserial := he.serial
      rw [Serial, handedOutBy, hr'] at hserial
      cases hserial
    · rw [hr'] at hbackings
      rcases hr : s.backings[e.backing]? with _ | r <;> rw [hr] at hbackings
      · cases hbackings
      · refine .inr ⟨e, e', r, r', rfl, rfl, he, hr, hr', ?_, ?_⟩
        · rw [Option.bind_some, hr, Option.bind_some]
        · rw [Option.bind_some, he.backing_eq, hr', Option.bind_some]

/-- **Names.** Two places name one element of a backing in both sessions, or in neither. -/
theorem numberAt?_eq_iff (ht : s.Twins s') (h : @WF _ _ Recorded.auditing s)
    (h' : @WF _ _ Recorded.auditing s') (spot₁ spot₂ : Spot) :
    s'.numberAt? spot₁ = s'.numberAt? spot₂ ↔ s.numberAt? spot₁ = s.numberAt? spot₂ := by
  let _ := Recorded.auditing
  rcases ht.spot spot₁ with ⟨hnone, hnone'⟩ |
    ⟨e₁, e₁', r₁, r₁', he₁, he₁', htwins₁, hr₁, hr₁', hnumber₁, hnumber₁'⟩ <;>
    rcases ht.spot spot₂ with ⟨hnone₂, hnone₂'⟩ |
      ⟨e₂, e₂', r₂, r₂', he₂, he₂', htwins₂, hr₂, hr₂', hnumber₂, hnumber₂'⟩
  · rw [hnone, hnone', hnone₂, hnone₂']
  · rw [hnone, hnone', hnumber₂, hnumber₂']
    exact ⟨nofun, nofun⟩
  · rw [hnumber₁, hnumber₁', hnone₂, hnone₂']
    exact ⟨nofun, nofun⟩
  · rw [hnumber₁, hnumber₁', hnumber₂, hnumber₂']
    simp only [Option.some.injEq, Prod.mk.injEq]
    refine and_congr_right fun hbacking => ?_
    have hx₁ := mem_contentsOn he₁
    have hx₂ := mem_contentsOn he₂
    have hx₁' := mem_contentsOn he₁'
    have hx₂' := mem_contentsOn he₂'
    have hserial₁ := htwins₁.serial
    have hserial₂ := htwins₂.serial
    rw [htwins₁.backing_eq] at hx₁'
    rw [htwins₂.backing_eq] at hx₂'
    rw [← hbacking] at hr₂ hr₂' hx₂ hx₂' hserial₂
    obtain rfl := Option.some.inj (hr₁.symm.trans hr₂)
    obtain rfl := Option.some.inj (hr₁'.symm.trans hr₂')
    have hout := (h.out hr₁).1.out
    have hout' := (h'.out hr₁').1.out
    rw [← coe_contentsOn] at hout hout'
    have hnodup := Multiset.coe_nodup.1 hout'.nodup
    -- what is out of a backing is out once, so one name stands for one element that is out
    constructor
    · intro hnumber
      have hname := hout'.numberOf_inj hx₁' hx₂' hnumber
      rw [hname] at hserial₁
      rw [eq_of_serial (ht.contentsOn e₁.backing) hnodup hx₁ hx₂ hserial₁ hserial₂]
    · intro hnumber
      have hserial := hout.numberOf_inj hx₁ hx₂ hnumber
      rw [hserial] at hserial₁
      rw [hserial₁.unique hserial₂]

end Twins

/-- **The kind of a backing.** The same steps are taken in a session over heaps and in one over
chunk allocators of the same layouts with as many slots as the heaps have limits. Then, after every
run, the next step comes to the same in both, whatever it is. Pools have the same figures. Backings
counted the same, and had the same calls, in which elements stand for each other. And elements that
stand for each other are in the same places, where two places have one slot if and only if they have
one element of the heap. -/
theorem after_agree {heaps chunks : Array (Recorded Store)}
    (hcounterparts : List.Forall₂ Recorded.Counterparts heaps.toList chunks.toList)
    (actions : List Action) :
    let s := after heaps actions
    let s' := after chunks actions
    (∀ a, (s'.act a).1 = (s.act a).1) ∧
    (∀ place,
      ((s'.tenant? place).map fun tenant =>
        (tenant.pool.id, tenant.pool.statistics, tenant.pool.allCpuStatistics)) =
      (s.tenant? place).map fun tenant =>
        (tenant.pool.id, tenant.pool.statistics, tenant.pool.allCpuStatistics)) ∧
    (∀ k : Nat, Option.Rel (fun r r' : Recorded Store => r'.backing.tally = r.backing.tally ∧
        List.Forall₂ (BackingCall.Twins r'.handedOut) r.calls.toList r'.calls.toList)
      s.backings[k]? s'.backings[k]?) ∧
    (∀ spot, Option.Rel (Holding.Twins (handedOutBy s'.backings)) (s.elementAt? spot)
      (s'.elementAt? spot)) ∧
    ∀ spot₁ spot₂, s'.numberAt? spot₁ = s'.numberAt? spot₂ ↔
      s.numberAt? spot₁ = s.numberAt? spot₂ := by
  intro s s'
  let _ := Recorded.auditing
  obtain ⟨hnew, hnew'⟩ := Recorded.isNew_of_counterparts hcounterparts
  have hstart : ({ backings := heaps } : Session (Recorded Store)).WF :=
    WF.of_backings fun r hmem => (hnew r (Array.mem_toList_iff.2 hmem)).audited
  have hstart' : ({ backings := chunks } : Session (Recorded Store)).WF :=
    WF.of_backings fun r hmem => (hnew' r (Array.mem_toList_iff.2 hmem)).audited
  have hrun : s.WF := hstart.follow actions
  have hrun' : s'.WF := hstart'.follow actions
  have htwins : s.Twins s' := (twins_of_counterparts hcounterparts).follow hstart hstart' actions
  refine ⟨fun a => (htwins.act hrun hrun' a).1, fun place => ?_, fun k => ?_, htwins.elementAt?,
    htwins.numberAt?_eq_iff hrun hrun'⟩
  · rcases htwins.pair hrun place with ⟨hnone, hnone'⟩ | ⟨k, p, p', r, r', hp⟩
    · rw [hnone, hnone']
    · obtain ⟨hpool, hcpus⟩ := Pool.statistics_twins hp.stock (hrun.tenant hp.tenant).pool
        (hrun'.tenant hp.tenant').pool
      have hid : p'.id = p.id := hp.stock.id_eq
      rw [hp.tenant, hp.tenant', Option.map_some, Option.map_some, hpool, hcpus, hid]
  · refine rel_imp (htwins.backings k) fun r r' hr => ⟨hr.tally_eq, ?_⟩
    rw [hr.handedOut_eq]
    exact hr.calls

/-- An allocator with 40 slots in three chunks. -/
def smallChunks : Array (Recorded Store) :=
  #[{ backing := .chunks ⟨⟨64, 8⟩, 16, 40, Machine.spaced ⟨64, 8⟩ 1024, [], 0, {}, .untouched⟩ }]

/-- A pool is destroyed but for two elements, of which a caller has one, and another pool takes what
it gave back. -/
def outliveAndReuse : List Action :=
  [.build { localSize := 16, sharedSize := 64, preallocate := 20, cpus := some 1 } (some 0),
    .lease 0 0, .allocate 0 0 .none, .allocate 0 0 .none, .forget .first, .destroy 0,
    .build { localSize := 16, sharedSize := 64, preallocate := 32, cpus := some 1 } (some 0),
    .lease 1 0, .allocate 1 0 .none]

/-- The second pool has slots that the first one had, and not the slot of the element that is still
out. It refuses that element, and no third pool can be built. -/
theorem after_agree_outliveAndReuse :
    List.Forall₂ Recorded.Counterparts smallHeap.toList smallChunks.toList ∧
    ((after smallChunks outliveAndReuse).act (.free 1 0 .first)).1 =
      some (.fault (.foreignElement 1 2)) ∧
    ((after smallChunks outliveAndReuse).act
      (.build { localSize := 16, sharedSize := 64, preallocate := 32, cpus := some 1 } (some 0))).1 =
      some (.create (.preallocExhausted 6 32)) ∧
    (after smallChunks outliveAndReuse).numberAt? (.held 0) ≠
      (after smallChunks outliveAndReuse).numberAt? (.held 1) := by
  have hcounterparts : List.Forall₂ Recorded.Counterparts smallHeap.toList smallChunks.toList := by
    have hreserve : Chunks.reserveAt Machine.spaced ⟨64, 8⟩ 16 40 =
        .ok ⟨⟨64, 8⟩, 16, 40, Machine.spaced ⟨64, 8⟩ 1024, [], 0, {}, .untouched⟩ := rfl
    exact .cons (.intro hreserve fun i j hne => Machine.spaced_apart ⟨64, 8⟩ 1024 i j hne) .nil
  obtain ⟨hact, -, -, -, hnumber⟩ := after_agree hcounterparts outliveAndReuse
  refine ⟨hcounterparts, ?_, ?_, fun heq => ?_⟩
  · rw [hact]
    decide +kernel
  · rw [hact]
    decide +kernel
  · have hdistinct : (after smallHeap outliveAndReuse).numberAt? (.held 0) ≠
        (after smallHeap outliveAndReuse).numberAt? (.held 1) := by decide +kernel
    exact hdistinct ((hnumber _ _).1 heq)

end Session

end TieredPool
