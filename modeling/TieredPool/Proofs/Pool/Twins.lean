import TieredPool.Proofs.Backing.Twins
import TieredPool.Proofs.Pool.Building
import TieredPool.Proofs.Pool.Dealing

/-!
# Pools over backings that answer alike

A pool looks at how many elements there are and at nothing of an element. So two pools that hold
elements which stand for each other, queue by queue and in the same places (`Stock.Twins`), over
backings that answer alike, do the same in every dealing, and hold such elements again afterwards
(`Allocation.twins`, `Release.twins`). The construction of a pool begins it (`Plan.Constructed.twins`)
and the contents that a pool gives back end it (`Stock.Twins.contents`).
-/

namespace TieredPool

/-! ## Lists in the same places -/

section Lists

variable {α γ : Type} {R : α → γ → Prop}

theorem forall₂_getElem? {l : List α} {l' : List γ} (h : List.Forall₂ R l l') (i : Nat) :
    Option.Rel R l[i]? l'[i]? := by
  induction h generalizing i with
  | nil => exact .none
  | cons hhead htail ih =>
    cases i with
    | zero => exact .some hhead
    | succ i => exact ih i

theorem forall₂_of_getElem? {l : List α} {l' : List γ} (h : List.Forall₂ R l l') {i : Nat} {x : α}
    {y : γ} (hx : l[i]? = some x) (hy : l'[i]? = some y) : R x y := by
  have hrel := forall₂_getElem? h i
  rw [hx, hy] at hrel
  cases hrel with
  | some hxy => exact hxy

theorem forall₂_append {xs ys : List α} {xs' ys' : List γ}
    (h : List.Forall₂ R (xs ++ ys) (xs' ++ ys')) (hlength : xs.length = xs'.length) :
    List.Forall₂ R xs xs' ∧ List.Forall₂ R ys ys' := by
  have hfirst := List.forall₂_take_append _ _ _ h
  have hrest := List.forall₂_drop_append _ _ _ h
  rw [← hlength] at hfirst hrest
  rw [List.take_left] at hfirst
  rw [List.drop_left] at hrest
  exact ⟨hfirst, hrest⟩

theorem forall₂_modify {l : List α} {l' : List γ} (h : List.Forall₂ R l l') (i : Nat) {f : α → α}
    {g : γ → γ} (hfg : ∀ x y, l[i]? = some x → l'[i]? = some y → R x y → R (f x) (g y)) :
    List.Forall₂ R (l.modify i f) (l'.modify i g) := by
  induction h generalizing i with
  | nil =>
    rw [List.modify_nil, List.modify_nil]
    exact .nil
  | cons hhead htail ih =>
    cases i with
    | zero => exact .cons (hfg _ _ rfl rfl hhead) htail
    | succ i => exact .cons hhead (ih i hfg)

end Lists

/-! ## Stocks -/

/-- Local tiers with the same figures, and with elements that stand for each other. -/
structure Shelf.Twins (names : List Handle) (s s' : Shelf) : Prop where
  items : List.Forall₂ (Serial names) s.items s'.items
  refills_eq : s'.refills = s.refills
  overflows_eq : s'.overflows = s.overflows
  drains_eq : s'.drains = s.drains
  owner_eq : s'.owner = s.owner
  leased_eq : s'.leased = s.leased

/-- Stocks with the same figures, and with elements that stand for each other, queue by queue. -/
structure Stock.Twins (names : List Handle) (s s' : Stock) : Prop where
  id_eq : s'.id = s.id
  preallocated_eq : s'.preallocated = s.preallocated
  localSize_eq : s'.localSize = s.localSize
  sharedSize_eq : s'.sharedSize = s.sharedSize
  traffic_eq : s'.traffic = s.traffic
  shared : List.Forall₂ (Serial names) s.shared s'.shared
  shelves : List.Forall₂ (Shelf.Twins names) s.shelves s'.shelves

/-- Such stocks over backings that answer alike. -/
structure Depot.Twins (names : List Handle) (d d' : Depot (Recorded Store)) :
    Prop where
  stock : d.stock.Twins names d'.stock
  backing : Recorded.Twins names d.backing d'.backing

theorem Shelf.Twins.mono {names names' : List Handle} {s s' : Shelf} (h : s.Twins names s')
    (hgrow : names <+: names') : s.Twins names' s' :=
  ⟨h.items.imp fun _ _ hxy => hxy.mono hgrow, h.refills_eq, h.overflows_eq, h.drains_eq,
    h.owner_eq, h.leased_eq⟩

namespace Stock.Twins

variable {names names' : List Handle} {s s' : Stock}

theorem mono (h : s.Twins names s') (hgrow : names <+: names') : s.Twins names' s' :=
  ⟨h.id_eq, h.preallocated_eq, h.localSize_eq, h.sharedSize_eq, h.traffic_eq,
    h.shared.imp fun _ _ hxy => hxy.mono hgrow, h.shelves.imp fun _ _ hxy => hxy.mono hgrow⟩

theorem shelf (h : s.Twins names s') {cpu : Nat} {shelf shelf' : Shelf}
    (hshelf : s.shelves[cpu]? = some shelf) (hshelf' : s'.shelves[cpu]? = some shelf') :
    shelf.Twins names shelf' :=
  forall₂_of_getElem? h.shelves hshelf hshelf'

/-- Work on the tiers of one CPU. -/
theorem onShelf (h : s.Twins names s') {cpu : Nat} {f g : Shelf → Shelf}
    (hfg : ∀ shelf shelf', s.shelves[cpu]? = some shelf → s'.shelves[cpu]? = some shelf' →
      shelf.Twins names shelf' → (f shelf).Twins names (g shelf')) :
    (s.onShelf cpu f).Twins names (s'.onShelf cpu g) :=
  ⟨h.id_eq, h.preallocated_eq, h.localSize_eq, h.sharedSize_eq, h.traffic_eq, h.shared,
    forall₂_modify h.shelves cpu hfg⟩

theorem contents (h : s.Twins names s') :
    List.Forall₂ (Serial names) s.contents s'.contents :=
  List.rel_append (List.rel_flatMap h.shelves fun _ _ hshelf => hshelf.items) h.shared

end Stock.Twins

/-! ## Leases -/

theorem Stock.Twins.leases_eq {names : List Handle} {s s' : Stock} (h : s.Twins names s') :
    s'.leases = s.leases := by
  unfold Stock.leases
  refine List.ext_getElem? fun cpu => ?_
  have hrel := forall₂_getElem? h.shelves cpu
  rw [List.getElem?_map, List.getElem?_map]
  generalize s.shelves[cpu]? = shelf, s'.shelves[cpu]? = shelf' at hrel
  cases hrel with
  | none => rfl
  | some hshelf => exact congrArg some hshelf.leased_eq

namespace Pool

variable {names : List Handle} {p p' : Pool}

theorem leaseOf?_twins (h : p.stock.Twins names p'.stock) (cpu : Nat) :
    p'.leaseOf? cpu = p.leaseOf? cpu := by
  have hid : p'.id = p.id := h.id_eq
  rw [leaseOf?_eq, leaseOf?_eq, h.leases_eq, hid]

/-- **Leases** of twins have the same outcome. -/
theorem lease_twins (h : p.stock.Twins names p'.stock) (hwf : p.WF) (hwf' : p'.WF) (cpu : Nat) :
    (p'.lease cpu).1 = (p.lease cpu).1 ∧
      (p.lease cpu).2.stock.Twins names (p'.lease cpu).2.stock := by
  have hid : p'.id = p.id := h.id_eq
  have hcpus : p'.cpus = p.cpus := by
    have hlength := congrArg List.length h.leases_eq
    rwa [length_leases, length_leases] at hlength
  have hanswer : (p'.lease cpu).1 = (p.lease cpu).1 := by
    rw [lease_answer, lease_answer, h.leases_eq, hid, hcpus]
  refine ⟨hanswer, ?_⟩
  rcases hlease : p.lease cpu with ⟨error | lease, q⟩ <;>
    rcases hlease' : p'.lease cpu with ⟨error' | lease', q'⟩ <;>
    rw [hlease, hlease'] at hanswer <;> cases hanswer
  · obtain rfl := lease_error hlease
    obtain rfl := lease_error hlease'
    exact h
  · obtain ⟨-, -, -, hstock⟩ := hwf.lease hlease
    obtain ⟨-, -, -, hstock'⟩ := hwf'.lease hlease'
    dsimp only
    rw [hstock, hstock']
    refine h.onShelf fun _ _ _ _ hs => ?_
    exact ⟨hs.items, hs.refills_eq, hs.overflows_eq, hs.drains_eq, rfl, rfl⟩

end Pool

/-! ## Dealings -/

theorem Backing.supply_of_refused {β : Type} [Backing β] {flags : AllocFlags} {b b' : β}
    (halloc : Backing.alloc flags b = (none, b')) (count : Nat) :
    Backing.supply flags (1 + count) b = ([], b') := by
  rw [Nat.add_comm, Backing.supply, halloc]

theorem batch_le_length {items xs rest : List Handle} {x : Handle} (h : items = x :: (xs ++ rest))
    (hlen : xs.length = batch - 1) : batch ≤ items.length := by
  rw [h, List.length_cons, List.length_append, hlen]
  simp only [batch]
  omega

section Dealings

variable {cpu : Nat} {names : List Handle} {d d' e e' : Depot (Recorded Store)}
  {m m' : Multiset Handle}

/-- What the backings bring when the shared queues are short, and the depots afterwards. -/
theorem Depot.Twins.supply (ht : d.Twins names e) (hout : Recorded.auditing.Out d.backing m)
    (hout' : Recorded.auditing.Out e.backing m') {flags : AllocFlags} {count : Nat}
    {items items' : List Handle} {b b' : Recorded Store}
    (hsupply : Backing.supply flags count d.backing = (items, b))
    (hsupply' : Backing.supply flags count e.backing = (items', b')) :
    ∃ more, List.Forall₂ (Serial (names ++ more)) items items' ∧
      d.stock.Twins (names ++ more) e.stock ∧ Recorded.Twins (names ++ more) b b' := by
  obtain ⟨more, hitems, hbacking⟩ := ht.backing.supply hout hout' flags count
  rw [hsupply, hsupply'] at hitems hbacking
  exact ⟨more, hitems, ht.stock.mono (List.prefix_append names more), hbacking⟩

/-- **Allocations** of twins have the same outcome. -/
theorem Allocation.twins {flags : AllocFlags} {answer answer' : Option Handle}
    (h : Allocation cpu flags d answer d') (h' : Allocation cpu flags e answer' e')
    (ht : d.Twins names e) (hout : Recorded.auditing.Out d.backing m)
    (hout' : Recorded.auditing.Out e.backing m') :
    ∃ more, Option.Rel (Serial (names ++ more)) answer answer' ∧
      d'.Twins (names ++ more) e' := by
  have hshared := ht.stock.shared.length_eq
  -- queues that are as long let both allocate in the same tier
  cases h with
  | @cached shelf x rest hshelf hitems =>
    cases h' with
    | cached hshelf' hitems' =>
      have hboth := (ht.stock.shelf hshelf hshelf').items
      rw [hitems, hitems'] at hboth
      obtain ⟨hx, hrest⟩ := List.forall₂_cons.1 hboth
      refine ⟨[], .some (hx.append []), ?_⟩
      rw [List.append_nil]
      refine ⟨ht.stock.onShelf fun _ _ _ _ hs => ?_, ht.backing⟩
      exact ⟨hrest, hs.refills_eq, hs.overflows_eq, hs.drains_eq, hs.owner_eq, hs.leased_eq⟩
    | shared hshelf' hempty' | supplied hshelf' hempty' | refused hshelf' hempty' =>
      simpa [hitems, hempty'] using (ht.stock.shelf hshelf hshelf').items.length_eq
  | @shared shelf x xs rest hshelf hempty hbatch hlen =>
    cases h' with
    | cached hshelf' hitems' =>
      simpa [hempty, hitems'] using (ht.stock.shelf hshelf hshelf').items.length_eq
    | @shared shelf' x' xs' rest' hshelf' hempty' hbatch' hlen' =>
      have hboth := ht.stock.shared
      rw [hbatch, hbatch'] at hboth
      obtain ⟨hx, hboth⟩ := List.forall₂_cons.1 hboth
      obtain ⟨hxs, hrest⟩ := forall₂_append hboth (hlen.trans hlen'.symm)
      refine ⟨[], .some (hx.append []), ?_⟩
      rw [List.append_nil]
      have hstock := ht.stock
      have hkept : ({ d.stock with shared := rest } : Stock).Twins names
          { e.stock with shared := rest' } :=
        ⟨hstock.id_eq, hstock.preallocated_eq, hstock.localSize_eq, hstock.sharedSize_eq,
          hstock.traffic_eq, hrest, hstock.shelves⟩
      refine ⟨hkept.onShelf fun _ _ _ _ hs => ?_, ht.backing⟩
      exact ⟨hxs, congrArg (· + 1) hs.refills_eq, hs.overflows_eq, hs.drains_eq, hs.owner_eq,
        hs.leased_eq⟩
    | supplied hshelf' hempty' hshort' | refused hshelf' hempty' hshort' =>
      have hbatch := batch_le_length hbatch hlen
      omega
  | @supplied shelf x xs backing hshelf hempty hshort hsupply =>
    cases h' with
    | cached hshelf' hitems' =>
      simpa [hempty, hitems'] using (ht.stock.shelf hshelf hshelf').items.length_eq
    | shared hshelf' hempty' hbatch' hlen' =>
      have hbatch := batch_le_length hbatch' hlen'
      omega
    | supplied hshelf' hempty' hshort' hsupply' =>
      obtain ⟨more, hitems, hstock, hbacking⟩ := ht.supply hout hout' hsupply hsupply'
      obtain ⟨hx, hxs⟩ := List.forall₂_cons.1 hitems
      refine ⟨more, .some hx, ⟨?_, hbacking⟩⟩
      refine ⟨hstock.id_eq, hstock.preallocated_eq, hstock.localSize_eq, hstock.sharedSize_eq, ?_,
        List.rel_append hstock.shared hxs, hstock.shelves⟩
      dsimp only
      rw [hstock.traffic_eq, hxs.length_eq]
    | refused hshelf' hempty' hshort' halloc' =>
      have hnone := Backing.supply_of_refused halloc' (batch * refillBatches)
      obtain ⟨more, hitems, -⟩ := ht.supply hout hout' hsupply hnone
      cases hitems
  | @refused shelf backing hshelf hempty hshort halloc =>
    have hnone := Backing.supply_of_refused halloc (batch * refillBatches)
    cases h' with
    | cached hshelf' hitems' =>
      simpa [hempty, hitems'] using (ht.stock.shelf hshelf hshelf').items.length_eq
    | shared hshelf' hempty' hbatch' hlen' =>
      have hbatch := batch_le_length hbatch' hlen'
      omega
    | supplied hshelf' hempty' hshort' hsupply' =>
      obtain ⟨more, hitems, -⟩ := ht.supply hout hout' hnone hsupply'
      cases hitems
    | refused hshelf' hempty' hshort' halloc' =>
      have hnone' := Backing.supply_of_refused halloc' (batch * refillBatches)
      obtain ⟨more, -, hstock, hbacking⟩ := ht.supply hout hout' hnone hnone'
      exact ⟨more, .none, hstock, hbacking⟩

/-- **Frees** of twins have the same outcome. -/
theorem Release.twins {x x' : Handle} (h : Release cpu x d d') (h' : Release cpu x' e e')
    (ht : d.Twins names e) (hx : Serial names x x') : d'.Twins names e' := by
  have hstock := ht.stock
  have hshared := hstock.shared.length_eq
  have hlocalSize := hstock.localSize_eq
  have hsharedSize := hstock.sharedSize_eq
  cases h with
  | @cached shelf hshelf hroom =>
    cases h' with
    | cached hshelf' hroom' =>
      have hboth := (hstock.shelf hshelf hshelf').items
      refine ⟨hstock.onShelf fun _ _ _ _ hs => ?_, ht.backing⟩
      exact ⟨List.rel_append hboth (.cons hx .nil), hs.refills_eq, hs.overflows_eq, hs.drains_eq,
        hs.owner_eq, hs.leased_eq⟩
    | overflowed hshelf' hfull' | drained hshelf' hfull' =>
      have hlength := (hstock.shelf hshelf hshelf').items.length_eq
      omega
  | @overflowed shelf xs rest hshelf hfull hitems hlen hroom =>
    cases h' with
    | cached hshelf' hroom' =>
      have hlength := (hstock.shelf hshelf hshelf').items.length_eq
      omega
    | @overflowed shelf' xs' rest' hshelf' hfull' hitems' hlen' hroom' =>
      have hboth := (hstock.shelf hshelf hshelf').items
      rw [hitems, hitems'] at hboth
      obtain ⟨hxs, hrest⟩ := forall₂_append hboth (hlen.trans hlen'.symm)
      have hfilled : ({ d.stock with shared := d.stock.shared ++ x :: xs } : Stock).Twins names
          { e.stock with shared := e.stock.shared ++ x' :: xs' } :=
        ⟨hstock.id_eq, hstock.preallocated_eq, hstock.localSize_eq, hstock.sharedSize_eq,
          hstock.traffic_eq, List.rel_append hstock.shared (.cons hx hxs), hstock.shelves⟩
      refine ⟨hfilled.onShelf fun _ _ _ _ hs => ?_, ht.backing⟩
      exact ⟨hrest, hs.refills_eq, congrArg (· + 1) hs.overflows_eq, hs.drains_eq, hs.owner_eq,
        hs.leased_eq⟩
    | drained _ _ _ _ hnoroom' => omega
  | @drained shelf xs rest ys kept backing hshelf hfull hitems hlen hnoroom hkept hys hreclaim =>
    cases h' with
    | cached hshelf' hroom' =>
      have hlength := (hstock.shelf hshelf hshelf').items.length_eq
      omega
    | overflowed _ _ _ _ hroom' => omega
    | @drained shelf' xs' rest' ys' kept' backing' hshelf' hfull' hitems' hlen' hnoroom' hkept' hys'
        hreclaim' =>
      have hboth := (hstock.shelf hshelf hshelf').items
      rw [hitems, hitems'] at hboth
      obtain ⟨hxs, hrest⟩ := forall₂_append hboth (hlen.trans hlen'.symm)
      have hqueue := hstock.shared
      rw [hkept, hkept'] at hqueue
      obtain ⟨hyys, hleft⟩ := forall₂_append hqueue (hys.trans hys'.symm)
      have hbacking := ht.backing.reclaim (List.rel_append (.cons hx hxs) hyys) hreclaim hreclaim'
      have hdrained : ({ d.stock with
            shared := kept
            traffic :=
              { d.stock.traffic with
                frees := d.stock.traffic.frees + batch * (1 + refillBatches)
                drains := d.stock.traffic.drains + 1 } } : Stock).Twins names
          { e.stock with
            shared := kept'
            traffic :=
              { e.stock.traffic with
                frees := e.stock.traffic.frees + batch * (1 + refillBatches)
                drains := e.stock.traffic.drains + 1 } } := by
        refine ⟨hstock.id_eq, hstock.preallocated_eq, hstock.localSize_eq, hstock.sharedSize_eq, ?_,
          hleft, hstock.shelves⟩
        dsimp only
        rw [hstock.traffic_eq]
      refine ⟨hdrained.onShelf fun _ _ _ _ hs => ?_, hbacking⟩
      exact ⟨hrest, hs.refills_eq, congrArg (· + 1) hs.overflows_eq, congrArg (· + 1) hs.drains_eq,
        hs.owner_eq, hs.leased_eq⟩

end Dealings

/-! ## Construction -/

theorem Plan.stocked_twins (p : Plan) (id cpus : Nat) {names items items' : List Handle}
    (hitems : List.Forall₂ (Serial names) items items') :
    (p.stocked id cpus items).Twins names (p.stocked id cpus items') := by
  refine ⟨rfl, rfl, rfl, rfl, ?_, hitems, ?_⟩
  · rw [stocked, stocked, hitems.length_eq]
  · exact List.forall₂_same.2 fun shelf hmem => by
      obtain rfl := List.eq_of_mem_replicate hmem
      exact ⟨.nil, rfl, rfl, rfl, rfl, rfl⟩

/-- **Constructions** over twins have the same outcome. -/
theorem Plan.Constructed.twins {p : Plan} {id cpus : Nat} {names : List Handle}
    {b b' c c' : Recorded Store} {m m' : Multiset Handle}
    {result result' : Except (Failure CreateError) Pool}
    (h : p.Constructed id cpus b result b') (h' : p.Constructed id cpus c result' c')
    (ht : Recorded.Twins names b c) (hout : Recorded.auditing.Out b m)
    (hout' : Recorded.auditing.Out c m') :
    ∃ more, Recorded.Twins (names ++ more) b' c' ∧
      ((∃ failure, result = .error failure ∧ result' = .error failure) ∨
        ∃ pool pool', result = .ok pool ∧ result' = .ok pool' ∧
          pool.stock.Twins (names ++ more) pool'.stock) := by
  obtain ⟨more, hitems, hmiddle⟩ := ht.supply hout hout' p.flags p.preallocate
  have hlength := hitems.length_eq
  -- the sizes decide whether the queues fit, and how many elements came whether they are enough
  cases h with
  | built hsupply hall hwf hstock hshared hlocal =>
    rw [hsupply] at hitems hmiddle hlength
    cases h' with
    | built hsupply' hall' hwf' hstock' =>
      rw [hsupply'] at hitems hmiddle
      refine ⟨more, hmiddle, .inr ⟨_, _, rfl, rfl, ?_⟩⟩
      rw [hstock, hstock']
      exact p.stocked_twins id cpus hitems
    | noShared hshared' => exact absurd hshared hshared'
    | noLocal _ _ _ _ hlocal' => exact absurd hlocal hlocal'
    | exhausted hsupply' hshort' =>
      rw [hsupply'] at hlength
      dsimp only at hlength
      omega
  | noShared hshared =>
    cases h' with
    | noShared => exact ⟨[], by rwa [List.append_nil], .inl ⟨_, rfl, rfl⟩⟩
    | built _ _ _ _ hshared' => exact absurd hshared' hshared
    | noLocal _ _ _ hshared' => exact absurd hshared' hshared
    | exhausted _ _ _ hshared' => exact absurd hshared' hshared
  | noLocal hsupply hall hreclaim hshared hlocal =>
    rw [hsupply] at hitems hmiddle hlength
    cases h' with
    | noLocal hsupply' _ hreclaim' =>
      rw [hsupply'] at hitems hmiddle
      exact ⟨more, hmiddle.reclaim hitems hreclaim hreclaim', .inl ⟨_, rfl, rfl⟩⟩
    | noShared hshared' => exact absurd hshared hshared'
    | built _ _ _ _ _ hlocal' => exact absurd hlocal' hlocal
    | exhausted hsupply' hshort' =>
      rw [hsupply'] at hlength
      dsimp only at hlength
      omega
  | exhausted hsupply hshort hreclaim hshared =>
    rw [hsupply] at hitems hmiddle hlength
    cases h' with
    | exhausted hsupply' _ hreclaim' =>
      rw [hsupply'] at hitems hmiddle hlength
      refine ⟨more, hmiddle.reclaim hitems hreclaim hreclaim', .inl ⟨_, rfl, ?_⟩⟩
      rw [show _ = _ from hlength]
    | noShared hshared' => exact absurd hshared hshared'
    | built hsupply' hall' | noLocal hsupply' hall' =>
      rw [hsupply'] at hlength
      dsimp only at hlength
      omega

end TieredPool
