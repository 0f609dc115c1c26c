import TieredPool.Proofs.Pool.Twins
import TieredPool.Proofs.Session.Laws

/-!
# Sessions over heaps and over chunks

The same steps are taken in two sessions, the one over heaps and the other over chunk allocators
with as many slots. The chunk allocators hand out slots again that came back, in an order of their
own. But no step depends on which element it moves, so both sessions come to the same at every step,
and hold elements that stand for each other in all the same places (`Session.Twins`). Every step
keeps that (`Session.Twins.act`), and therefore every run does.
-/

namespace TieredPool

/-! ## Elements that stand for each other -/

/-- What each backing has handed out, in order. -/
def handedOutBy (backings : Array (Recorded Store)) (k : Nat) : List Handle :=
  (backings[k]?.map Recorded.handedOut).getD []

section Names

variable {backings : Array (Recorded Store)} {k : Nat} {r r' : Recorded Store}

theorem handedOutBy_eq (hget : backings[k]? = some r) : handedOutBy backings k = r.handedOut := by
  rw [handedOutBy, hget]
  rfl

theorem handedOutBy_set (hget : backings[k]? = some r) :
    handedOutBy (backings.setIfInBounds k r') k = r'.handedOut := by
  obtain ⟨hk, -⟩ := Array.getElem?_eq_some_iff.1 hget
  refine handedOutBy_eq ?_
  rw [Array.getElem?_setIfInBounds_self, if_pos hk]

theorem handedOutBy_set_ne {j : Nat} (hne : k ≠ j) :
    handedOutBy (backings.setIfInBounds k r') j = handedOutBy backings j := by
  rw [handedOutBy, Array.getElem?_setIfInBounds_ne hne]
  rfl

theorem handedOutBy_set_grows (hget : backings[k]? = some r)
    (hgrow : r.handedOut <+: r'.handedOut) (j : Nat) :
    handedOutBy backings j <+: handedOutBy (backings.setIfInBounds k r') j := by
  by_cases hj : k = j
  · subst hj
    rwa [handedOutBy_set hget, handedOutBy_eq hget]
  · rw [handedOutBy_set_ne hj]

end Names

/-- Pools on the same backing, with elements that stand for each other. -/
structure Tenant.Twins (names : Nat → List Handle) (t t' : Tenant) : Prop where
  backing_eq : t'.backing = t.backing
  stock : t.pool.stock.Twins (names t.backing) t'.pool.stock

/-- Elements of the same pool and backing, which stand for each other. -/
structure Holding.Twins (names : Nat → List Handle) (e e' : Holding) : Prop where
  backing_eq : e'.backing = e.backing
  pool_eq : e'.element.pool = e.element.pool
  serial : Serial (names e.backing) e.element.handle e'.element.handle

section Mono

variable {names names' : Nat → List Handle} (hgrow : ∀ k, names k <+: names' k)

include hgrow

theorem Tenant.Twins.mono {t t' : Tenant} (h : t.Twins names t') : t.Twins names' t' :=
  ⟨h.backing_eq, h.stock.mono (hgrow _)⟩

theorem Holding.Twins.mono {e e' : Holding} (h : e.Twins names e') : e.Twins names' e' :=
  ⟨h.backing_eq, h.pool_eq, h.serial.mono (hgrow _)⟩

end Mono

theorem rel_imp {α γ : Type} {R S : α → γ → Prop} {x : Option α} {y : Option γ}
    (h : Option.Rel R x y) (himp : ∀ a b, R a b → S a b) : Option.Rel S x y := by
  cases h with
  | none => exact .none
  | some hxy => exact .some (himp _ _ hxy)

theorem rel_bind {α γ α' γ' : Type} {R : α → γ → Prop} {S : α' → γ' → Prop} {x : Option α}
    {y : Option γ} {f : α → Option α'} {g : γ → Option γ'} (h : Option.Rel R x y)
    (hfg : ∀ a b, R a b → Option.Rel S (f a) (g b)) : Option.Rel S (x.bind f) (y.bind g) := by
  cases h with
  | none => exact .none
  | some hxy => exact hfg _ _ hxy

namespace Session

/-! ## Twin sessions -/

/-- A session over heaps, and one over other backings that answered alike, with elements that stand
for each other in the same places. -/
structure Twins (s s' : Session (Recorded Store)) : Prop where
  backings : ∀ k, Option.Rel (Recorded.Twins (handedOutBy s'.backings k)) s.backings[k]?
    s'.backings[k]?
  pools : List.Forall₂ (Option.Rel (Tenant.Twins (handedOutBy s'.backings))) s.pools.toList
    s'.pools.toList
  held : List.Forall₂ (Holding.Twins (handedOutBy s'.backings)) s.held s'.held
  lost : List.Forall₂ (Holding.Twins (handedOutBy s'.backings)) s.lost s'.lost
  nextId_eq : s'.nextId = s.nextId

/-- Pools at a place in both sessions, on a backing at one place. -/
structure Pair (s s' : Session (Recorded Store)) (place k : Nat) (p p' : Pool)
    (r r' : Recorded Store) : Prop where
  tenant : s.tenant? place = some ⟨p, k⟩
  tenant' : s'.tenant? place = some ⟨p', k⟩
  backing : s.backings[k]? = some r
  backing' : s'.backings[k]? = some r'
  stock : p.stock.Twins (handedOutBy s'.backings k) p'.stock
  backings : Recorded.Twins (handedOutBy s'.backings k) r r'

section Pairs

variable {s s' : Session (Recorded Store)} {place k : Nat} {r r' b b' : Recorded Store}
  {more : List Handle}

namespace Twins

theorem tenants (ht : s.Twins s') (place : Nat) :
    Option.Rel (Tenant.Twins (handedOutBy s'.backings)) (s.tenant? place) (s'.tenant? place) := by
  have hrel := rel_bind (S := Tenant.Twins (handedOutBy s'.backings)) (f := id) (g := id)
    (forall₂_getElem? ht.pools place) fun _ _ h => h
  rwa [Array.getElem?_toList, Array.getElem?_toList] at hrel

theorem exists_backing (ht : s.Twins s') (hbacking : s.backings[k]? = some r) :
    ∃ r', s'.backings[k]? = some r' ∧ Recorded.Twins (handedOutBy s'.backings k) r r' := by
  have hrel := ht.backings k
  rw [hbacking] at hrel
  generalize hbacking' : s'.backings[k]? = found at hrel
  cases hrel with
  | some hrel => exact ⟨_, rfl, hrel⟩

/-- A place has no pool in either session, or a pool in both. -/
theorem pair (ht : s.Twins s') (h : @WF _ _ Recorded.auditing s) (place : Nat) :
    (s.tenant? place = none ∧ s'.tenant? place = none) ∨
      ∃ k p p' r r', Pair s s' place k p p' r r' := by
  let _ := Recorded.auditing
  have hrel := ht.tenants place
  rcases htenant : s.tenant? place with _ | t <;> rcases htenant' : s'.tenant? place with _ | t' <;>
    rw [htenant, htenant'] at hrel <;> cases hrel
  case none.none.none => exact .inl ⟨rfl, rfl⟩
  case some.some.some htenants =>
    obtain ⟨r, hbacking⟩ := h.backing htenant
    obtain ⟨r', hbacking', hbackings⟩ := ht.exists_backing hbacking
    obtain ⟨p', k⟩ := t'
    obtain rfl : k = t.backing := htenants.backing_eq
    exact .inr ⟨_, t.pool, p', r, r', htenant, htenant', hbacking, hbacking', htenants.stock,
      hbackings⟩

theorem handedOutBy_set_eq (ht : s.Twins s') (hbacking : s.backings[k]? = some r)
    (htwins : Recorded.Twins (handedOutBy s'.backings k ++ more) b b') :
    handedOutBy (s'.backings.setIfInBounds k b') k = handedOutBy s'.backings k ++ more := by
  obtain ⟨r', hbacking', -⟩ := ht.exists_backing hbacking
  rw [handedOutBy_set hbacking', htwins.handedOut_eq]

/-- Work on one backing only adds to what was handed out. -/
theorem handedOutBy_grows (ht : s.Twins s') (hbacking : s.backings[k]? = some r)
    (htwins : Recorded.Twins (handedOutBy s'.backings k ++ more) b b') (j : Nat) :
    handedOutBy s'.backings j <+: handedOutBy (s'.backings.setIfInBounds k b') j := by
  obtain ⟨r', hbacking', -⟩ := ht.exists_backing hbacking
  refine handedOutBy_set_grows hbacking' ?_ j
  rw [htwins.handedOut_eq, handedOutBy_eq hbacking']
  exact List.prefix_append _ _

/-- Work on one backing leaves the others as they are. -/
theorem backings_set (ht : s.Twins s') (hbacking : s.backings[k]? = some r)
    (htwins : Recorded.Twins (handedOutBy s'.backings k ++ more) b b') (j : Nat) :
    Option.Rel (Recorded.Twins (handedOutBy (s'.backings.setIfInBounds k b') j))
      (s.backings.setIfInBounds k b)[j]? (s'.backings.setIfInBounds k b')[j]? := by
  obtain ⟨r', hbacking', -⟩ := ht.exists_backing hbacking
  by_cases hj : k = j
  · subst hj
    obtain ⟨hk, -⟩ := Array.getElem?_eq_some_iff.1 hbacking
    obtain ⟨hk', -⟩ := Array.getElem?_eq_some_iff.1 hbacking'
    rw [Array.getElem?_setIfInBounds_self, Array.getElem?_setIfInBounds_self, if_pos hk, if_pos hk',
      ht.handedOutBy_set_eq hbacking htwins]
    exact .some htwins
  · rw [Array.getElem?_setIfInBounds_ne hj, Array.getElem?_setIfInBounds_ne hj,
      handedOutBy_set_ne hj]
    exact ht.backings j

end Twins

namespace Pair

variable {p p' q q' : Pool} {held held' : List Holding} {events events' : Array Event}

/-- Work on a pair of pools. -/
theorem work (hp : Pair s s' place k p p' r r') (ht : s.Twins s')
    (htwins : Recorded.Twins (handedOutBy s'.backings k ++ more) b b') {other other' : Option Tenant}
    (hother : Option.Rel (Tenant.Twins (handedOutBy (s'.backings.setIfInBounds k b'))) other other')
    (hheld : List.Forall₂ (Holding.Twins (handedOutBy (s'.backings.setIfInBounds k b'))) held held') :
    Twins
      { s with
        pools := s.pools.setIfInBounds place other
        backings := s.backings.setIfInBounds k b
        held, events }
      { s' with
        pools := s'.pools.setIfInBounds place other'
        backings := s'.backings.setIfInBounds k b'
        held := held', events := events' } := by
  have hgrow := ht.handedOutBy_grows hp.backing htwins
  refine ⟨ht.backings_set hp.backing htwins, ?_, hheld,
    ht.lost.imp fun _ _ he => he.mono hgrow, ht.nextId_eq⟩
  rw [Array.toList_setIfInBounds, Array.toList_setIfInBounds, List.set_eq_modify,
    List.set_eq_modify]
  exact forall₂_modify (ht.pools.imp fun _ _ hrel => rel_imp hrel fun _ _ h => h.mono hgrow)
    place fun _ _ _ _ _ => hother

/-- Work that leaves pools in both places. -/
theorem dealt (hp : Pair s s' place k p p' r r') (ht : s.Twins s')
    (htwins : Recorded.Twins (handedOutBy s'.backings k ++ more) b b')
    (hstock : q.stock.Twins (handedOutBy s'.backings k ++ more) q'.stock)
    (hheld : List.Forall₂ (Holding.Twins (handedOutBy (s'.backings.setIfInBounds k b'))) held held') :
    Twins
      { s with
        pools := s.pools.setIfInBounds place (some ⟨q, k⟩)
        backings := s.backings.setIfInBounds k b
        held, events }
      { s' with
        pools := s'.pools.setIfInBounds place (some ⟨q', k⟩)
        backings := s'.backings.setIfInBounds k b'
        held := held', events := events' } := by
  refine hp.work ht htwins (.some ⟨rfl, ?_⟩) hheld
  rw [ht.handedOutBy_set_eq hp.backing htwins]
  exact hstock

/-- Work on the pools alone. -/
theorem leased (hp : Pair s s' place k p p' r r') (ht : s.Twins s')
    (hstock : q.stock.Twins (handedOutBy s'.backings k) q'.stock) :
    Twins
      { s with
        pools := s.pools.setIfInBounds place (some ⟨q, k⟩)
        backings := s.backings.setIfInBounds k r
        events }
      { s' with
        pools := s'.pools.setIfInBounds place (some ⟨q', k⟩)
        backings := s'.backings.setIfInBounds k r'
        events := events' } := by
  have htwins : Recorded.Twins (handedOutBy s'.backings k ++ []) r r' := by
    rw [List.append_nil]
    exact hp.backings
  refine hp.dealt ht htwins ?_ (ht.held.imp fun _ _ he => he.mono (ht.handedOutBy_grows hp.backing htwins))
  rwa [List.append_nil]

end Pair

end Pairs

/-! ## Steps -/

/-- Steps that came to the same, and left twin sessions. -/
def Agree (x x' : Option Problem × Session (Recorded Store)) : Prop :=
  x'.1 = x.1 ∧ x.2.Twins x'.2

namespace Twins

variable {s s' : Session (Recorded Store)}

theorem act_lease (ht : s.Twins s') (h : @WF _ _ Recorded.auditing s)
    (h' : @WF _ _ Recorded.auditing s') (place cpu : Nat) :
    Agree (s.act (.lease place cpu)) (s'.act (.lease place cpu)) := by
  let _ := Recorded.auditing
  simp only [act, lease]
  rcases ht.pair h place with ⟨hnone, hnone'⟩ | ⟨k, p, p', r, r', hp⟩
  · rw [onWorld_missing hnone, onWorld_missing hnone']
    exact ⟨rfl, ht⟩
  · obtain ⟨hanswer, hstock⟩ := Pool.lease_twins hp.stock (h.tenant hp.tenant).pool
      (h'.tenant hp.tenant').pool cpu
    rw [onWorld_eq hp.tenant hp.backing, onWorld_eq hp.tenant' hp.backing']
    rcases hlease : p.lease cpu with ⟨error | lease, q⟩ <;>
      rcases hlease' : p'.lease cpu with ⟨error' | lease', q'⟩ <;>
      rw [hlease, hlease'] at hanswer hstock <;> cases hanswer
    · exact ⟨rfl, hp.leased ht hstock⟩
    · exact ⟨rfl, hp.leased ht hstock⟩

theorem act_unlease (ht : s.Twins s') (h : @WF _ _ Recorded.auditing s)
    (h' : @WF _ _ Recorded.auditing s') (place cpu : Nat) :
    Agree (s.act (.unlease place cpu)) (s'.act (.unlease place cpu)) := by
  let _ := Recorded.auditing
  simp only [act, unlease]
  rcases ht.pair h place with ⟨hnone, hnone'⟩ | ⟨k, p, p', r, r', hp⟩
  · rw [onWorld_missing hnone, onWorld_missing hnone']
    exact ⟨rfl, ht⟩
  · have hlease := Pool.leaseOf?_twins hp.stock cpu
    obtain ⟨-, hstock⟩ := (h.tenant hp.tenant).pool.unlease cpu
    obtain ⟨-, hstock'⟩ := (h'.tenant hp.tenant').pool.unlease cpu
    have hunleased : (p.unlease cpu).stock.Twins (handedOutBy s'.backings k)
        (p'.unlease cpu).stock := by
      rw [hstock, hstock']
      refine hp.stock.onShelf fun _ _ _ _ hs => ?_
      exact ⟨hs.items, hs.refills_eq, hs.overflows_eq, hs.drains_eq, hs.owner_eq, rfl⟩
    rw [onWorld_eq hp.tenant hp.backing, onWorld_eq hp.tenant' hp.backing']
    simp only [hlease]
    rcases p.leaseOf? cpu with _ | lease
    · exact ⟨rfl, hp.leased ht hp.stock⟩
    · exact ⟨rfl, hp.leased ht hunleased⟩

theorem act_allocate (ht : s.Twins s') (h : @WF _ _ Recorded.auditing s)
    (h' : @WF _ _ Recorded.auditing s') (place cpu : Nat) (flags : AllocFlags) :
    Agree (s.act (.allocate place cpu flags)) (s'.act (.allocate place cpu flags)) := by
  let _ := Recorded.auditing
  simp only [act]
  rcases ht.pair h place with ⟨hnone, hnone'⟩ | ⟨k, p, p', r, r', hp⟩
  · rw [allocate_missing hnone, allocate_missing hnone']
    exact ⟨rfl, ht⟩
  rcases hlease : p.leaseOf? cpu with _ | lease
  · have hlease' := (Pool.leaseOf?_twins hp.stock cpu).trans hlease
    rw [allocate_noLease hp.tenant hp.backing hlease,
      allocate_noLease hp.tenant' hp.backing' hlease']
    exact ⟨rfl, ht⟩
  · have hlease' := (Pool.leaseOf?_twins hp.stock cpu).trans hlease
    obtain ⟨answer, d, q, events, hout, -, hstock, hallocate⟩ :=
      h.allocate_eq hp.tenant hp.backing hlease flags
    obtain ⟨answer', d', q', events', hout', -, hstock', hallocate'⟩ :=
      h'.allocate_eq hp.tenant' hp.backing' hlease' flags
    obtain ⟨more, hanswer, hdepot⟩ := Allocation.twins hout hout' ⟨hp.stock, hp.backings⟩
      (h.out hp.backing) (h'.out hp.backing')
    have hid : p'.id = p.id := hp.stock.id_eq
    rw [hallocate, hallocate']
    refine ⟨?_, hp.dealt ht hdepot.backing (hstock ▸ hstock' ▸ hdepot.stock) ?_⟩
    · cases hanswer <;> rfl
    · refine List.rel_append
        (ht.held.imp fun _ _ he => he.mono (ht.handedOutBy_grows hp.backing hdepot.backing)) ?_
      cases hanswer with
      | none => exact .nil
      | some hserial =>
        refine .cons ⟨rfl, hid, ?_⟩ .nil
        rw [ht.handedOutBy_set_eq hp.backing hdepot.backing]
        exact hserial

/-- The elements meant in both sessions are in the same place and stand for each other. -/
theorem picked (ht : s.Twins s') (pick : Pick) :
    (s.picked? pick = none ∧ s'.picked? pick = none) ∨
      ∃ at_ e e', s.picked? pick = some (at_, e) ∧ s'.picked? pick = some (at_, e') ∧
        Holding.Twins (handedOutBy s'.backings) e e' := by
  have hrel := forall₂_getElem? ht.held (pick.place s.held.length)
  unfold picked?
  rw [← ht.held.length_eq]
  dsimp only
  generalize s.held[pick.place s.held.length]? = e, s'.held[pick.place s.held.length]? = e' at hrel ⊢
  cases hrel with
  | none => exact .inl ⟨rfl, rfl⟩
  | some he => exact .inr ⟨_, _, _, rfl, rfl, he⟩

theorem held_eraseIdx (ht : s.Twins s') (at_ : Nat) :
    List.Forall₂ (Holding.Twins (handedOutBy s'.backings)) (s.held.eraseIdx at_)
      (s'.held.eraseIdx at_) := by
  rw [List.eraseIdx_eq_take_drop_succ, List.eraseIdx_eq_take_drop_succ]
  exact List.rel_append (List.forall₂_take _ ht.held) (List.forall₂_drop _ ht.held)

/-- The caller loses elements that stand for each other. -/
theorem lose (ht : s.Twins s') {e e' : Holding} (he : e.Twins (handedOutBy s'.backings) e')
    (at_ : Nat) :
    Twins { s with held := s.held.eraseIdx at_, lost := s.lost ++ [e] }
      { s' with held := s'.held.eraseIdx at_, lost := s'.lost ++ [e'] } :=
  ⟨ht.backings, ht.pools, ht.held_eraseIdx at_, List.rel_append ht.lost (.cons he .nil),
    ht.nextId_eq⟩

theorem act_forget (ht : s.Twins s') (pick : Pick) :
    Agree (s.act (.forget pick)) (s'.act (.forget pick)) := by
  simp only [act, forget]
  rcases ht.picked pick with ⟨hnone, hnone'⟩ | ⟨at_, e, e', hpicked, hpicked', he⟩
  · rw [hnone, hnone']
    exact ⟨rfl, ht⟩
  · rw [hpicked, hpicked']
    exact ⟨rfl, ht.lose he at_⟩

theorem act_free (ht : s.Twins s') (h : @WF _ _ Recorded.auditing s)
    (h' : @WF _ _ Recorded.auditing s') (place cpu : Nat) (pick : Pick) :
    Agree (s.act (.free place cpu pick)) (s'.act (.free place cpu pick)) := by
  let _ := Recorded.auditing
  simp only [act]
  rcases ht.pair h place with ⟨hnone, hnone'⟩ | ⟨k, p, p', r, r', hp⟩
  · simp only [free, hnone, hnone']
    exact ⟨rfl, ht⟩
  rcases hlease : p.leaseOf? cpu with _ | lease
  · have hlease' := (Pool.leaseOf?_twins hp.stock cpu).trans hlease
    simp only [free, hp.tenant, hp.tenant', hlease, hlease']
    exact ⟨rfl, ht⟩
  have hlease' := (Pool.leaseOf?_twins hp.stock cpu).trans hlease
  rcases ht.picked pick with ⟨hnone, hnone'⟩ | ⟨at_, e, e', hpicked, hpicked', he⟩
  · simp only [free, hp.tenant, hp.tenant', hlease, hlease', hnone, hnone']
    exact ⟨rfl, ht⟩
  have hid : p'.id = p.id := hp.stock.id_eq
  by_cases hown : e.element.pool = p.id
  · have hown' : e'.element.pool = p'.id := he.pool_eq.trans (hown.trans hid.symm)
    -- only elements of one backing stand for each other, so the element's must be the pool's
    have hhome : e.backing = k := h.stray_home (mem_strays_of_picked hpicked) hp.tenant hown
    obtain ⟨d, q, events, hrelease, -, hstock, hfree⟩ :=
      h.free_eq hp.tenant hp.backing hlease hpicked hown
    obtain ⟨d', q', events', hrelease', -, hstock', hfree'⟩ :=
      h'.free_eq hp.tenant' hp.backing' hlease' hpicked' hown'
    have hdepot := Release.twins hrelease hrelease' ⟨hp.stock, hp.backings⟩ (hhome ▸ he.serial)
    rw [← List.append_nil (handedOutBy s'.backings k)] at hdepot
    rw [hfree, hfree']
    refine ⟨rfl, hp.dealt ht hdepot.backing (hstock ▸ hstock' ▸ hdepot.stock) ?_⟩
    exact (ht.held_eraseIdx at_).imp fun _ _ he =>
      he.mono (ht.handedOutBy_grows hp.backing hdepot.backing)
  · have hforeign' : e'.element.pool ≠ p'.id := by
      rw [he.pool_eq, hid]
      exact hown
    rw [free_foreign hp.tenant hp.backing hlease hpicked hown,
      free_foreign hp.tenant' hp.backing' hlease' hpicked' hforeign']
    refine ⟨?_, ht.lose he at_⟩
    dsimp only
    rw [he.pool_eq, hid]

theorem act_destroy (ht : s.Twins s') (h : @WF _ _ Recorded.auditing s)
    (h' : @WF _ _ Recorded.auditing s') (place : Nat) :
    Agree (s.act (.destroy place)) (s'.act (.destroy place)) := by
  let _ := Recorded.auditing
  simp only [act]
  rcases ht.pair h place with ⟨hnone, hnone'⟩ | ⟨k, p, p', r, r', hp⟩
  · rw [destroy_missing hnone, destroy_missing hnone']
    exact ⟨rfl, ht⟩
  · obtain ⟨b, events, hreclaim, hdestroy⟩ := h.destroy_eq hp.tenant hp.backing
    obtain ⟨b', events', hreclaim', hdestroy'⟩ := h'.destroy_eq hp.tenant' hp.backing'
    have htwins := hp.backings.reclaim hp.stock.contents hreclaim hreclaim'
    rw [← List.append_nil (handedOutBy s'.backings k)] at htwins
    rw [hdestroy, hdestroy']
    exact ⟨rfl, hp.work ht htwins .none
      (ht.held.imp fun _ _ he => he.mono (ht.handedOutBy_grows hp.backing htwins))⟩

theorem act_build (ht : s.Twins s') (h : @WF _ _ Recorded.auditing s)
    (h' : @WF _ _ Recorded.auditing s') (plan : Plan) (backing : Option Nat) :
    Agree (s.act (.build plan backing)) (s'.act (.build plan backing)) := by
  let _ := Recorded.auditing
  simp only [act, build, Plan.build]
  -- the checks look at the plan, and at whether there is a backing
  rcases hsource : (backing.bind fun k => s.backings[k]?) with _ | r
  · have hsource' : (backing.bind fun k => s'.backings[k]?) = none := by
      cases backing with
      | none => rfl
      | some k =>
        have hrel := ht.backings k
        rw [Option.bind_some] at hsource ⊢
        rw [hsource] at hrel
        generalize s'.backings[k]? = found at hrel ⊢
        cases hrel
        rfl
    rw [hsource']
    rcases hcheck : plan.check false with ⟨error | cpus, reports⟩ <;>
      simp only [Option.isSome_none, hcheck]
    · exact ⟨rfl, ht.backings, ht.pools, ht.held, ht.lost, ht.nextId_eq⟩
    · exact ⟨rfl, ht.backings, ht.pools, ht.held, ht.lost, ht.nextId_eq⟩
  · obtain ⟨k, rfl, hbacking⟩ := Option.bind_eq_some_iff.1 hsource
    obtain ⟨r', hbacking', hr⟩ := ht.exists_backing hbacking
    rw [Option.bind_some, hbacking', ht.nextId_eq]
    rcases hcheck : plan.check true with ⟨error | cpus, reports⟩ <;>
      simp only [Option.isSome_some, hcheck]
    · rw [setIfInBounds_self hbacking, setIfInBounds_self hbacking']
      exact ⟨rfl, ht.backings, ht.pools, ht.held, ht.lost, rfl⟩
    obtain ⟨hplan, -, -⟩ := Plan.check_eq_ok (congrArg Prod.fst hcheck)
    have hconstructed := Plan.construct_constructed hplan s.nextId cpus (h.out hbacking)
    have hconstructed' := Plan.construct_constructed hplan s.nextId cpus (h'.out hbacking')
    rcases hconstruct : plan.construct cpus s.nextId r with ⟨result, b, events⟩
    rcases hconstruct' : plan.construct cpus s.nextId r' with ⟨result', b', events'⟩
    rw [hconstruct] at hconstructed
    rw [hconstruct'] at hconstructed'
    obtain ⟨more, htwins, hresult⟩ :=
      hconstructed.twins hconstructed' hr (h.out hbacking) (h'.out hbacking')
    have hgrow := ht.handedOutBy_grows hbacking htwins
    have hpools := ht.pools.imp fun _ _ hrel => rel_imp hrel fun _ _ h => h.mono hgrow
    have hheld := ht.held.imp fun _ _ he => he.mono hgrow
    have hlost := ht.lost.imp fun _ _ he => he.mono hgrow
    dsimp only at hresult
    rcases hresult with ⟨failure, rfl, rfl⟩ | ⟨pool, pool', rfl, rfl, hstock⟩
    · cases failure <;>
        exact ⟨rfl, ht.backings_set hbacking htwins, hpools, hheld, hlost, rfl⟩
    · refine ⟨rfl, ht.backings_set hbacking htwins, ?_, hheld, hlost, rfl⟩
      dsimp only
      rw [Array.toList_push, Array.toList_push]
      rw [← ht.handedOutBy_set_eq hbacking htwins] at hstock
      exact List.rel_append hpools (.cons (.some ⟨rfl, hstock⟩) .nil)

/-- **A step** comes to the same in both sessions. -/
theorem act (ht : s.Twins s') (h : @WF _ _ Recorded.auditing s)
    (h' : @WF _ _ Recorded.auditing s') (a : Action) : Agree (s.act a) (s'.act a) := by
  cases a with
  | build plan backing => exact ht.act_build h h' plan backing
  | lease place cpu => exact ht.act_lease h h' place cpu
  | unlease place cpu => exact ht.act_unlease h h' place cpu
  | allocate place cpu flags => exact ht.act_allocate h h' place cpu flags
  | free place cpu pick => exact ht.act_free h h' place cpu pick
  | forget pick => exact ht.act_forget pick
  | destroy place => exact ht.act_destroy h h' place

theorem follow (ht : s.Twins s') (h : @WF _ _ Recorded.auditing s)
    (h' : @WF _ _ Recorded.auditing s') (actions : List Action) :
    (s.follow actions).Twins (s'.follow actions) := by
  let _ := Recorded.auditing
  induction actions generalizing s s' with
  | nil => exact ht
  | cons a actions ih => exact ih (ht.act h h' a).2 (h.act_wf a) (h'.act_wf a)

/-! ## New sessions -/

end Twins

end Session

namespace Recorded

/-- A heap with a limit, and an allocator with as many slots of the same layout in chunks of some
size. Both are new, the system refuses the heap nothing, and it has put the chunks apart. -/
inductive Counterparts : Recorded Store → Recorded Store → Prop
  | intro {layout : Layout} {base : Layout → Nat → Nat → Nat} {chunkSize limit : Nat}
      {memory : Memory} {c : Chunks}
      (hreserve : Chunks.reserveAt base layout chunkSize limit = .ok c)
      (hapart : ∀ i j, i ≠ j →
        c.base i + c.chunkBytes ≤ c.base j ∨ c.base j + c.chunkBytes ≤ c.base i) :
    Counterparts ⟨.heap ⟨layout, some limit, 0, {}, fun _ => false, memory⟩, #[]⟩ ⟨.chunks c, #[]⟩

namespace Counterparts

variable {r r' : Recorded Store}

theorem isNew (h : Counterparts r r') : r.IsNew ∧ r'.IsNew := by
  cases h with
  | intro hreserve hapart => exact ⟨⟨rfl, .heap ..⟩, ⟨rfl, .chunks hreserve hapart⟩⟩

theorem twins (h : Counterparts r r') : Twins r'.handedOut r r' := by
  cases h with
  | @intro layout base chunkSize limit memory c hreserve hapart =>
    obtain ⟨-, -, rfl⟩ := Chunks.reserveAt_eq_ok hreserve
    exact ⟨⟨_, rfl⟩, ⟨limit, ⟨rfl, fun _ => rfl⟩, ⟨rfl, trivial⟩⟩, rfl, rfl, rfl, .nil⟩

end Counterparts

theorem isNew_of_counterparts {heaps chunks : List (Recorded Store)}
    (h : List.Forall₂ Counterparts heaps chunks) :
    (∀ r ∈ heaps, r.IsNew) ∧ ∀ r ∈ chunks, r.IsNew := by
  induction h with
  | nil => exact ⟨nofun, nofun⟩
  | cons hfirst _ ih =>
    exact ⟨List.forall_mem_cons.2 ⟨hfirst.isNew.1, ih.1⟩,
      List.forall_mem_cons.2 ⟨hfirst.isNew.2, ih.2⟩⟩

end Recorded

namespace Session

theorem twins_of_counterparts {heaps chunks : Array (Recorded Store)}
    (h : List.Forall₂ Recorded.Counterparts heaps.toList chunks.toList) :
    Twins { backings := heaps } { backings := chunks } := by
  refine ⟨fun k => ?_, .nil, .nil, .nil, rfl⟩
  have hrel := forall₂_getElem? h k
  rw [Array.getElem?_toList, Array.getElem?_toList] at hrel
  dsimp only
  rw [handedOutBy]
  generalize heaps[k]? = r, chunks[k]? = r' at hrel
  cases hrel with
  | none => exact .none
  | some hrr => exact .some hrr.twins

end Session

end TieredPool
