import TieredPool.Proofs.Pool.Sizing
import TieredPool.Proofs.Session.Laws

/-!
# How large a backing a pool needs

A pool that has a backing to itself keeps a bounded number of its elements out: what callers have,
what the queues of the other CPUs can hold, and less than three batches in the shared queue, unless
more were preallocated. And if the limit of the backing allows for what callers have, what the
queues of the other CPUs can hold and less than one batch, an allocation never fails
(`Session.after_sized`).

That a pool has a backing to itself is said of the steps: no other step builds over the backing. In
a session it then shows in the pools and in the elements with callers (`Session.UsedBy`).
-/

namespace TieredPool

/-- The pool is this one, at a later time. -/
structure Pool.Continues (p₀ p : Pool) : Prop where
  id_eq : p.id = p₀.id
  cpus_eq : p.cpus = p₀.cpus
  localSize_eq : p.localSize = p₀.localSize

theorem Pool.cpus_eq_length (p : Pool) : p.cpus = p.stock.shelves.length := by
  rw [cpus, stock, List.length_map, Array.length_toList]

namespace Pool.Continues

variable {β : Type} [Backing β] {p₀ p p' : Pool}

theorem refl (p : Pool) : p.Continues p := ⟨rfl, rfl, rfl⟩

theorem dealt (h : p₀.Continues p) {cpu : Nat} {b b' : β} {taken given : List Handle}
    (hdeal : Dealing cpu ⟨p.stock, b⟩ taken given ⟨p'.stock, b'⟩) : p₀.Continues p' := by
  obtain ⟨hid, -, hlocal, -⟩ := hdeal.shape_eq
  refine ⟨hid.trans h.id_eq, ?_, hlocal.trans h.localSize_eq⟩
  rw [Pool.cpus_eq_length, hdeal.length_shelves_eq, ← Pool.cpus_eq_length, h.cpus_eq]

theorem aside_eq (h : p₀.Continues p) : p.stock.aside = (p₀.cpus - 1) * (p₀.localSize - 1) := by
  rw [Stock.aside, ← Pool.cpus_eq_length, h.cpus_eq, ← h.localSize_eq]
  rfl

end Pool.Continues

namespace Session

/-- The place of the backing that a step builds over. -/
def Action.source? : Action → Option Nat
  | .build _ backing => backing
  | _ => none

/-! ## Backings with one user -/

section Users

variable {β : Type} {s s' : Session β} {k : Nat} {user : Option (Nat × Pool)}

/-- The only user of a backing, at any time, is this pool at its place; or it has had none. -/
structure UsedBy (s : Session β) (k : Nat) (user : Option (Nat × Pool)) : Prop where
  tenant {place : Nat} {tenant : Tenant} : s.tenant? place = some tenant → tenant.backing = k →
    ∃ p₀, user = some (place, p₀) ∧ p₀.Continues tenant.pool
  stray {holding : Holding} : holding ∈ s.strays → holding.backing = k →
    ∃ place p₀, user = some (place, p₀) ∧ holding.element.pool = p₀.id
  place_lt {place : Nat} {p₀ : Pool} : user = some (place, p₀) → place < s.pools.size
  home {place : Nat} {p₀ : Pool} {tenant : Tenant} :
    user = some (place, p₀) → s.tenant? place = some tenant → tenant.backing = k

namespace UsedBy

theorem congr (h : s.UsedBy k user) (hpools : s'.pools = s.pools)
    (hstrays : s'.strays = s.strays) : s'.UsedBy k user := by
  have htenant : s'.tenant? = s.tenant? := by
    funext place
    rw [tenant?, tenant?, hpools]
  constructor
  all_goals simp only [htenant, hstrays, hpools]
  · exact h.tenant
  · exact h.stray
  · exact h.place_lt
  · exact h.home

/-- Changing or removing one pool, with some of its elements with callers. -/
theorem set (h : s.UsedBy k user) {place : Nat} {tenant : Tenant} {other : Option Tenant}
    {taken given : List Handle} {rest : Multiset Holding} (htenant : s.tenant? place = some tenant)
    (hpools : s'.pools = s.pools.setIfInBounds place other)
    (hstrays : s.strays = holdings tenant taken + rest)
    (hstrays' : s'.strays = holdings tenant given + rest)
    (hother : ∀ t, other = some t → t.backing = tenant.backing ∧
      ∀ p₀ : Pool, p₀.Continues tenant.pool → p₀.Continues t.pool) : s'.UsedBy k user := by
  refine ⟨fun {place' t} ht hk => ?_, fun {holding} hmem hk => ?_, fun huser => ?_,
    fun {place' p₀ t} huser ht => ?_⟩
  · rw [tenant?_of_set hpools htenant] at ht
    split at ht
    · next heq =>
      subst heq
      obtain ⟨hbacking, hcontinues⟩ := hother t ht
      obtain ⟨p₀, huser, hp₀⟩ := h.tenant htenant (hbacking.symm.trans hk)
      exact ⟨p₀, huser, hcontinues p₀ hp₀⟩
    · exact h.tenant ht hk
  · rw [hstrays'] at hmem
    rcases Multiset.mem_add.1 hmem with hnew | hold
    · obtain ⟨hid, hbacking⟩ := of_mem_holdings hnew
      obtain ⟨p₀, huser, hp₀⟩ := h.tenant htenant (hbacking.symm.trans hk)
      exact ⟨place, p₀, huser, hid.trans hp₀.id_eq⟩
    · refine h.stray ?_ hk
      rw [hstrays]
      exact Multiset.mem_add.2 (.inr hold)
  · rw [hpools, Array.size_setIfInBounds]
    exact h.place_lt huser
  · rw [tenant?_of_set hpools htenant] at ht
    split at ht
    · next heq =>
      subst heq
      exact (hother t ht).1.trans (h.home huser htenant)
    · exact h.home huser ht

/-- A new pool over another backing. -/
theorem push (h : s.UsedBy k user) {tenant : Tenant}
    (hpools : s'.pools = s.pools.push (some tenant)) (hstrays : s'.strays = s.strays)
    (hother : tenant.backing ≠ k) : s'.UsedBy k user := by
  have hsize : s'.pools.size = s.pools.size + 1 := by rw [hpools, Array.size_push]
  refine ⟨fun {place t} ht hk => ?_, fun {holding} hmem => h.stray ?_, fun huser => ?_,
    fun {place p₀ t} huser ht => ?_⟩
  · rw [tenant?_of_push hpools] at ht
    split at ht
    · cases ht
      exact absurd hk hother
    · exact h.tenant ht hk
  · rwa [hstrays] at hmem
  · have hlt := h.place_lt huser
    omega
  · rw [tenant?_of_push hpools, if_neg (Nat.ne_of_lt (h.place_lt huser))] at ht
    exact h.home huser ht

/-- A new pool over a backing that has had no user. -/
theorem first (h : s.UsedBy k none) {pool : Pool}
    (hpools : s'.pools = s.pools.push (some ⟨pool, k⟩)) (hstrays : s'.strays = s.strays) :
    s'.UsedBy k (some (s.pools.size, pool)) := by
  have hsize : s'.pools.size = s.pools.size + 1 := by rw [hpools, Array.size_push]
  refine ⟨fun {place t} ht hk => ?_, fun {holding} hmem hk => ?_, fun huser => ?_,
    fun {place p₀ t} huser ht => ?_⟩
  · rw [tenant?_of_push hpools] at ht
    split at ht
    · next heq =>
      cases ht
      exact ⟨pool, by rw [heq], .refl pool⟩
    · obtain ⟨p₀, hnone, -⟩ := h.tenant ht hk
      cases hnone
  · rw [hstrays] at hmem
    obtain ⟨place, p₀, hnone, -⟩ := h.stray hmem hk
    cases hnone
  · cases huser
    omega
  · cases huser
    rw [tenant?_of_push hpools, if_pos rfl] at ht
    cases ht
    rfl

variable [Backing β]

/-- **A step** that does not build over the backing keeps its user. -/
theorem transition (h : s.UsedBy k user) {a : Action} {problem : Option Problem}
    (ht : s.Transition a problem s') (hsource : a.source? ≠ some k) : s'.UsedBy k user := by
  cases ht with
  | idle => exact h.congr rfl rfl
  | @dealt _ _ place cpu tenant b b' pool taken given held rest events htenant hbacking hwf hdeal
      hheld hheld' =>
    have hstrays : s.strays = holdings tenant taken + (rest + ↑s.lost) := by
      rw [strays, hheld, add_assoc]
    have hstrays' : (held : Multiset Holding) + ↑s.lost =
        holdings tenant given + (rest + ↑s.lost) := by
      rw [hheld', add_assoc]
    refine h.set htenant rfl hstrays hstrays' fun t ht => ?_
    cases ht
    exact ⟨rfl, fun p₀ hp₀ => hp₀.dealt hdeal⟩
  | forgot hpicked =>
    exact h.congr rfl (strays_lose hpicked)
  | misfreed htenant hpicked hforeign =>
    exact h.congr rfl (strays_lose hpicked)
  | built hbacking hplan hbuilt =>
    exact h.push rfl rfl fun hk => hsource (congrArg some hk)
  | abandoned => exact h.congr rfl rfl
  | @destroyed _ tenant _ _ _ htenant hbacking hreclaim =>
    have hstrays : s.strays = holdings tenant [] + s.strays := (zero_add _).symm
    exact h.set htenant rfl hstrays hstrays fun t ht => by cases ht

/-- A backing without a user stays as it is in such a step. -/
theorem backing_eq (h : s.UsedBy k none) {a : Action} {problem : Option Problem}
    (ht : s.Transition a problem s') (hsource : a.source? ≠ some k) :
    s'.backings[k]? = s.backings[k]? := by
  have hother : ∀ {place tenant}, s.tenant? place = some tenant → tenant.backing ≠ k := by
    intro place tenant htenant hk
    obtain ⟨p₀, huser, -⟩ := h.tenant htenant hk
    cases huser
  cases ht with
  | dealt htenant => exact Array.getElem?_setIfInBounds_ne (hother htenant)
  | destroyed htenant => exact Array.getElem?_setIfInBounds_ne (hother htenant)
  | built | abandoned =>
    exact Array.getElem?_setIfInBounds_ne fun hk => hsource (congrArg some hk)
  | _ => rfl

end UsedBy

/-- What no call to a backing changes, no step of a session does. -/
theorem Transition.keeps [Backing β] {P : β → Prop} (hP : Backing.Keeps P) {a : Action}
    {problem : Option Problem} (ht : s.Transition a problem s')
    (h : ∀ b, s.backings[k]? = some b → P b) {b : β} (hb : s'.backings[k]? = some b) : P b := by
  have hset : ∀ {at_ : Nat} {b₀ b₁ : β}, s.backings[at_]? = some b₀ → (P b₀ → P b₁) →
      s'.backings = s.backings.setIfInBounds at_ b₁ → P b := by
    intro at_ b₀ b₁ hb₀ hstep hbackings
    rw [hbackings, Array.getElem?_setIfInBounds] at hb
    split at hb
    · next heq =>
      subst heq
      split at hb
      · cases hb
        exact hstep (h b₀ hb₀)
      · cases hb
    · exact h b hb
  cases ht with
  | dealt htenant hbacking hwf hdeal => exact hset hbacking (hdeal.keeps hP) rfl
  | built hbacking hplan hbuilt => exact hset hbacking (hbuilt.keeps hP) rfl
  | abandoned hbacking hfailed => exact hset hbacking (hfailed.keeps hP) rfl
  | @destroyed _ tenant _ _ _ htenant hbacking hreclaim =>
    refine hset hbacking (fun hb₀ => ?_) rfl
    have hkept := hP.reclaim tenant.pool.stock.contents hb₀
    rwa [hreclaim] at hkept
  | _ => exact h b hb

/-- What no call to a backing changes, no run of a session does. -/
theorem WF.follow_keeps [Backing β] [LawfulBacking β] {P : β → Prop} (hP : Backing.Keeps P)
    (hs : s.WF) (h : ∀ b, s.backings[k]? = some b → P b) (actions : List Action) :
    ∀ b, (s.follow actions).backings[k]? = some b → P b := by
  induction actions generalizing s with
  | nil => exact h
  | cons a actions ih => exact ih (hs.act_wf a) fun b hb => (hs.act a).keeps hP h hb

/-! ## What is out of the backing -/

namespace UsedBy

variable {place : Nat} {p₀ : Pool} {tenant : Tenant}

/-- The elements of the backing with callers are the pool's. -/
theorem card_handlesOn_le (h : s.UsedBy k (some (place, p₀))) :
    (handlesOn k s.strays).card ≤ s.strayCount p₀.id := by
  have hown : (s.strays.filter fun holding => holding.backing = k).filter
      (fun holding => holding.element.pool = p₀.id) =
        s.strays.filter fun holding => holding.backing = k := by
    refine Multiset.filter_eq_self.2 fun holding hmem => ?_
    obtain ⟨hstray, hk⟩ := Multiset.mem_filter.1 hmem
    obtain ⟨_, _, huser, hid⟩ := h.stray hstray hk
    cases huser
    exact hid
  rw [handlesOn, Multiset.card_map, ← hown, strayCount, Multiset.countP_eq_card_filter]
  exact Multiset.card_le_card (Multiset.filter_le_filter _ (Multiset.filter_le _ _))

theorem card_elementsOn_le (h : s.UsedBy k (some (place, p₀)))
    (htenant : s.tenant? place = some tenant) :
    (s.elementsOn k).card ≤ tenant.pool.stock.elements.card + s.strayCount p₀.id := by
  obtain ⟨rest, hsum, hset⟩ := exists_sum_elementsAt k htenant
  have hrest : rest = 0 := by
    rw [← zero_add rest]
    refine (hset none).symm.trans (List.sum_eq_zero fun m hmem => ?_)
    obtain ⟨other, hother, rfl⟩ := List.mem_map.1 hmem
    obtain ⟨place', hget⟩ := List.mem_iff_getElem?.1 hother
    cases other with
    | none => rfl
    | some t =>
      -- another pool is on another backing
      rw [Array.getElem?_toList, Array.getElem?_setIfInBounds] at hget
      split at hget
      · split at hget <;> cases hget
      · next hne =>
        refine if_neg fun hk => ?_
        obtain ⟨_, huser, -⟩ := h.tenant (tenant?_eq_some.2 hget) hk
        cases huser
        exact hne rfl
  rw [elementsOn, hsum, hrest, add_zero, elementsAt, if_pos (h.home rfl htenant),
    Multiset.card_add]
  exact Nat.add_le_add_left h.card_handlesOn_le _

end UsedBy

end Users

section Audited

variable {s s' : Session (Recorded Store)} {k place bound : Nat} {p₀ : Pool}

theorem exists_out?_eq (hs : @WF _ _ Recorded.auditing s) {r : Recorded Store}
    (hr : s.backings[k]? = some r) :
    ∃ out, r.out? = some out ∧ out.length = (s.elementsOn k).card ∧
      r.backing.tally.live = (s.elementsOn k).card := by
  let _ := Recorded.auditing
  obtain ⟨haudited, out, hout, hcard⟩ := hs.out hr
  refine ⟨out, hout, ?_, haudited.live_eq⟩
  rw [← hcard, Multiset.coe_card]

namespace UsedBy

/-- **A step** in which the pool obtains elements leaves so many out at most. -/
theorem peak (h : s.UsedBy k (some (place, p₀))) (hs : @WF _ _ Recorded.auditing s) {a : Action}
    {problem : Option Problem} (ht : s.Transition a problem s') (hsource : a.source? ≠ some k)
    (hbound : s'.strayCount p₀.id + (p₀.cpus - 1) * (p₀.localSize - 1) + 47 ≤ bound)
    (hpeak : ∀ r, s.backings[k]? = some r → r.Peak bound) :
    ∀ r, s'.backings[k]? = some r → r.Peak bound := by
  let _ := Recorded.auditing
  intro r hr
  have hs' := ht.wf hs
  have h' := h.transition ht hsource
  obtain ⟨out, hout, hlength, -⟩ := exists_out?_eq hs' hr
  cases ht with
  | @dealt _ _ place' cpu tenant b b' pool taken given held rest events htenant hbacking hwf
      hdeal =>
    by_cases hk : tenant.backing = k
    · -- it is the pool that is dealt with
      obtain ⟨_, huser, -⟩ := h.tenant htenant hk
      cases huser
      subst hk
      rw [Array.getElem?_setIfInBounds_self_of_lt (hs.backing_lt htenant)] at hr
      cases hr
      obtain ⟨calls, hcalls, hside⟩ := hdeal.exists_calls_one_way (hs.tenant htenant).sound
      refine (hpeak b hbacking).append hcalls hout (hside.imp_right fun ⟨hreturns, hfew⟩ => ?_)
      have hthere : tenant? { s with
          pools := s.pools.setIfInBounds place (some ⟨pool, tenant.backing⟩)
          backings := s.backings.setIfInBounds tenant.backing r
          held, events } place = some ⟨pool, tenant.backing⟩ := by
        rw [tenant?_of_set rfl htenant, if_pos rfl]
      obtain ⟨_, huser, hcontinues⟩ := h'.tenant hthere rfl
      cases huser
      have hcard := h'.card_elementsOn_le hthere
      rw [hcontinues.aside_eq] at hfew
      simp only [batch, refillBatches] at hfew
      dsimp only at hcard
      exact ⟨hreturns, by omega⟩
    · rw [Array.getElem?_setIfInBounds_ne hk] at hr
      exact hpeak r hr
  | @destroyed place' tenant b b' events htenant hbacking hreclaim =>
    by_cases hk : tenant.backing = k
    · subst hk
      rw [Array.getElem?_setIfInBounds_self_of_lt (hs.backing_lt htenant)] at hr
      cases hr
      exact (hpeak b hbacking).append (Recorded.calls_reclaim hreclaim) hout
        (.inl (BackingCall.grants_freed _))
    · rw [Array.getElem?_setIfInBounds_ne hk] at hr
      exact hpeak r hr
  | built | abandoned =>
    rw [Array.getElem?_setIfInBounds_ne fun hk => hsource (congrArg some hk)] at hr
    exact hpeak r hr
  | _ => exact hpeak r hr

/-- **A run** in which callers never have more than so many elements of the pool. -/
theorem follow (h : s.UsedBy k (some (place, p₀))) (hs : @WF _ _ Recorded.auditing s)
    {most : Nat} {actions : List Action} (hsource : ∀ a ∈ actions, a.source? ≠ some k)
    (hcallers : ∀ n, (s.follow (actions.take n)).strayCount p₀.id ≤ most)
    (hbound : most + (p₀.cpus - 1) * (p₀.localSize - 1) + 47 ≤ bound)
    (hpeak : ∀ r, s.backings[k]? = some r → r.Peak bound) :
    (s.follow actions).UsedBy k (some (place, p₀)) ∧
      ∀ r, (s.follow actions).backings[k]? = some r → r.Peak bound := by
  let _ := Recorded.auditing
  induction actions generalizing s with
  | nil => exact ⟨h, hpeak⟩
  | cons a actions ih =>
    have ht := hs.act a
    have ha := hsource a List.mem_cons_self
    have hfirst : (s.act a).2.strayCount p₀.id ≤ most := hcallers 1
    refine ih (h.transition ht ha) (hs.act_wf a)
      (fun a hmem => hsource a (List.mem_cons_of_mem _ hmem)) (fun n => hcallers (n + 1)) ?_
    exact h.peak hs ht ha (by omega) hpeak

/-- A run that builds nothing over the backing leaves it as it is. -/
theorem follow_none (h : s.UsedBy k none) (hs : @WF _ _ Recorded.auditing s)
    {actions : List Action} (hsource : ∀ a ∈ actions, a.source? ≠ some k) :
    (s.follow actions).UsedBy k none ∧ (s.follow actions).backings[k]? = s.backings[k]? := by
  let _ := Recorded.auditing
  induction actions generalizing s with
  | nil => exact ⟨h, rfl⟩
  | cons a actions ih =>
    have ht := hs.act a
    have ha := hsource a List.mem_cons_self
    obtain ⟨hused, hsame⟩ := ih (h.transition ht ha) (hs.act_wf a)
      fun a hmem => hsource a (List.mem_cons_of_mem _ hmem)
    exact ⟨hused, hsame.trans (h.backing_eq ht ha)⟩

/-- The first pool over a new backing is its user, and no more than the preallocated elements are
out once it is built. -/
theorem built (h : s.UsedBy k none) (hs : @WF _ _ Recorded.auditing s)
    (hcalls : ∀ r, s.backings[k]? = some r → r.calls = #[]) {plan : Plan} {tenant : Tenant}
    (htenant : (s.act (.build plan (some k))).2.tenant? s.pools.size = some tenant) :
    (s.act (.build plan (some k))).2.UsedBy k (some (s.pools.size, tenant.pool)) ∧
      ∀ r, (s.act (.build plan (some k))).2.backings[k]? = some r →
        r.Peak tenant.pool.preallocated := by
  let _ := Recorded.auditing
  have ht := hs.act (.build plan (some k))
  have hs' := hs.act_wf (.build plan (some k))
  generalize (s.act (.build plan (some k))).2 = s' at ht htenant hs' ⊢
  generalize (s.act (.build plan (some k))).1 = problem at ht
  have hnone : s.tenant? s.pools.size = none := by
    rw [tenant?, Array.getElem?_eq_none (Nat.le_refl _)]
    rfl
  cases ht with
  | idle | abandoned => cases hnone.symm.trans htenant
  | dealt _ _ _ _ _ _ _ hplace => cases hplace
  | @built _ _ cpus b b' pool events hbacking hplan hbuilt =>
    rw [tenant?_of_push rfl, if_pos rfl] at htenant
    cases htenant
    refine ⟨h.first rfl rfl, fun r hr => ?_⟩
    obtain ⟨out, hout, -, -⟩ := exists_out?_eq hs' hr
    rw [Array.getElem?_setIfInBounds_self_of_lt (Array.getElem?_eq_some_iff.1 hbacking).1] at hr
    cases hr
    cases hbuilt with
    | @built items _ _ hsupply hall hwf hstock =>
      obtain ⟨calls, hmore, hgrants, hreturns⟩ :=
        Recorded.exists_calls_supply plan.flags plan.preallocate b
      rw [hsupply] at hmore hgrants
      have hlength := BackingCall.length_foldlM_account hout
      rw [hmore, hcalls b hbacking, Array.toList_empty, List.nil_append, hgrants, hreturns] at hlength
      have hpreallocated : pool.preallocated = plan.preallocate :=
        congrArg Stock.preallocated hstock
      refine (Recorded.peak_of_new (hcalls b hbacking)).append hmore hout (.inr ⟨hreturns, ?_⟩)
      rw [List.length_nil, Nat.add_zero, Nat.zero_add] at hlength
      exact Nat.le_of_eq (hlength.trans (hall.trans hpreallocated.symm))

/-- **An allocation** of a pool that has its backing to itself, while callers have few enough of its
elements for the limit. -/
theorem exists_allocate_eq_ok (h : s.UsedBy k (some (place, p₀)))
    (hs : @WF _ _ Recorded.auditing s) {limit : Nat}
    (hlimited : ∀ r, s.backings[k]? = some r → r.backing.Limited (some limit))
    (hroom : s.strayCount p₀.id + (p₀.cpus - 1) * (p₀.localSize - 1) + 15 < limit) {tenant : Tenant}
    (htenant : s.tenant? place = some tenant) {cpu : Nat}
    (hleased : (tenant.pool.leaseOf? cpu).isSome = true) (flags : AllocFlags) :
    ∃ e, (s.allocate place cpu flags).1 = .ok e := by
  let _ := Recorded.auditing
  obtain ⟨b, hbacking⟩ := hs.backing htenant
  obtain ⟨lease, hlease⟩ := Option.isSome_iff_exists.1 hleased
  obtain ⟨answer, d, pool, events, hallocation, -, -, heq⟩ :=
    hs.allocate_eq htenant hbacking hlease flags
  cases answer with
  | some x => exact ⟨_, congrArg Prod.fst heq⟩
  | none =>
    -- a refusal finds more out than there can be
    have hk := h.home rfl htenant
    obtain ⟨_, huser, hcontinues⟩ := h.tenant htenant hk
    cases huser
    obtain ⟨hfew, hrefused⟩ := hallocation.card_of_refused (hs.tenant htenant).sound
    obtain ⟨_, hlimit, hle⟩ := Recorded.exists_le_of_refused (hlimited b (hk ▸ hbacking))
      (hs.out hbacking).1.out hrefused
    cases hlimit
    have hcard := h.card_elementsOn_le htenant
    rw [hcontinues.aside_eq] at hfew
    rw [hk] at hle
    simp only [batch] at hfew
    omega

end UsedBy

theorem usedBy_none (backings : Array (Recorded Store)) (k : Nat) :
    ({ backings } : Session (Recorded Store)).UsedBy k none := by
  refine ⟨fun ht => ?_, fun hmem => ?_, nofun, nofun⟩
  · cases ht
  · cases hmem

theorem follow_limited (hs : @WF _ _ Recorded.auditing s) {limit : Option Nat}
    (h : ∀ r, s.backings[k]? = some r → r.backing.Limited limit) (actions : List Action) :
    ∀ r, (s.follow actions).backings[k]? = some r → r.backing.Limited limit :=
  @WF.follow_keeps _ _ _ _ Recorded.auditing _ (Store.keeps_limited limit).recorded hs h actions

end Audited

/-- **The size of a backing.** Let a pool be built over a new store, which no other step builds
over, and let callers have, forgotten and lost elements included, never more than `most` of its
elements at the end of a step. Then at no moment more elements are out of the store than were
preallocated, or else than `most`, what the local queues of all but one CPU can hold, and 47. And if
the store refuses a request only at its limit, and the limit is `most`, what those queues can hold,
and 15 at least, then an allocation while callers have fewer than `most` does not find it exhausted:
on a leased CPU it succeeds. -/
theorem after_sized {backings : Array (Recorded Store)} (hnew : ∀ r ∈ backings, r.IsNew)
    {k most : Nat} {plan : Plan} {tenant : Tenant} (before later : List Action)
    (hsole : ∀ a ∈ before ++ later, a.source? ≠ some k)
    (htenant : (after backings (before ++ [.build plan (some k)])).tenant?
      (after backings before).pools.size = some tenant)
    (hcallers : ∀ n, (after backings (before ++ .build plan (some k) :: later.take n)).strayCount
      tenant.pool.id ≤ most) :
    let s := after backings (before ++ .build plan (some k) :: later)
    let place := (after backings before).pools.size
    let aside := (tenant.pool.cpus - 1) * (tenant.pool.localSize - 1)
    let peak := max tenant.pool.preallocated (most + aside + 47)
    (∀ r, s.backings[k]? = some r → r.Peak peak ∧ r.backing.tally.live ≤ peak) ∧
    ∀ limit, (∀ r, backings[k]? = some r → r.backing.Limited (some limit)) →
      most + aside + 15 ≤ limit → s.strayCount tenant.pool.id < most →
      ∀ cpu flags, (s.allocate place cpu flags).1 ≠ .error .outOfMemory ∧
        ∀ tenant', s.tenant? place = some tenant' → (tenant'.pool.leaseOf? cpu).isSome = true →
          ∃ e, (s.allocate place cpu flags).1 = .ok e := by
  intro s place aside peak
  let _ := Recorded.auditing
  have hstart : ({ backings } : Session (Recorded Store)).WF :=
    WF.of_backings fun r hmem => (hnew r hmem).audited
  have hbefore : (after backings before).WF := hstart.follow before
  obtain ⟨hunused, hsame⟩ : (after backings before).UsedBy k none ∧
      (after backings before).backings[k]? = backings[k]? :=
    (usedBy_none backings k).follow_none hstart fun a hmem =>
      hsole a (List.mem_append_left later hmem)
  rw [after, follow_append] at htenant
  obtain ⟨hfirst, hpreallocated⟩ := hunused.built hbefore
    (fun r hr => (hnew r (Array.mem_of_getElem? (hsame.symm.trans hr))).1) htenant
  have hbuilt := hbefore.act_wf (.build plan (some k))
  have hsplit : ∀ actions, after backings (before ++ .build plan (some k) :: actions) =
      ((after backings before).act (.build plan (some k))).2.follow actions := fun actions =>
    follow_append _ _ _
  simp only [hsplit] at hcallers
  have hs : s = _ := hsplit later
  have hpeak : ∀ r, ((after backings before).act (.build plan (some k))).2.backings[k]? = some r →
      r.Peak peak := by
    intro r hr calls hgrow
    obtain ⟨out, hout, hle⟩ := hpreallocated r hr calls hgrow
    exact ⟨out, hout, Nat.le_trans hle (Nat.le_max_left _ _)⟩
  obtain ⟨hused, hpeak⟩ := hfirst.follow hbuilt
    (fun a hmem => hsole a (List.mem_append_right before hmem)) hcallers (Nat.le_max_right _ _) hpeak
  have hrun := hbuilt.follow later
  rw [← hs] at hused hpeak hrun
  refine ⟨fun r hr => ⟨hpeak r hr, ?_⟩, fun limit hlimited hroom hfew cpu flags => ?_⟩
  · obtain ⟨out, hout, hlength, hlive⟩ := exists_out?_eq hrun hr
    obtain ⟨out', hout', hle⟩ := hpeak r hr _ (List.prefix_refl _)
    rw [Recorded.out?, hout'] at hout
    cases hout
    omega
  · have hlimited' := follow_limited hstart hlimited
      (before ++ .build plan (some k) :: later)
    have hserved : ∀ tenant', s.tenant? place = some tenant' →
        (tenant'.pool.leaseOf? cpu).isSome = true →
          ∃ e, (s.allocate place cpu flags).1 = .ok e := fun tenant' htenant' hleased =>
      hused.exists_allocate_eq_ok hrun hlimited' (by omega) htenant' hleased flags
    refine ⟨fun hexhausted => ?_, hserved⟩
    -- without a pool or a lease it is another problem
    rcases hthere : s.tenant? place with _ | tenant'
    · rw [allocate_missing hthere] at hexhausted
      cases hexhausted
    · obtain ⟨b, hbacking⟩ := hrun.backing hthere
      rcases hlease : tenant'.pool.leaseOf? cpu with _ | lease
      · rw [allocate_noLease hthere hbacking hlease] at hexhausted
        cases hexhausted
      · obtain ⟨e, he⟩ := hserved tenant' hthere (by rw [hlease]; rfl)
        rw [he] at hexhausted
        cases hexhausted

/-- A pool with two CPUs, of which a caller takes elements on the one and frees them on the other. -/
def twoCpus : Plan := { localSize := 16, sharedSize := 64, preallocate := 3, cpus := some 2 }

def crossOver : List Action :=
  [.lease 0 0, .lease 0 1, .allocate 0 0 .none, .allocate 0 0 .none, .free 0 1 .first, .forget .first]

/-- A limit of 40 allows for 10 elements with callers, 15 with the other CPU and 15 in the shared
queue, of which 36 are out in the end. -/
theorem after_sized_crossOver :
    (∀ r ∈ smallHeap, r.IsNew) ∧ (∀ a ∈ [] ++ crossOver, a.source? ≠ some 0) ∧
    ∃ tenant, (after smallHeap ([] ++ [.build twoCpus (some 0)])).tenant?
        (after smallHeap []).pools.size = some tenant ∧
      (∀ n, (after smallHeap ([] ++ .build twoCpus (some 0) :: crossOver.take n)).strayCount
        tenant.pool.id ≤ 10) ∧
      (∃ r, (after smallHeap (.build twoCpus (some 0) :: crossOver)).backings[0]? = some r ∧
        r.backing.tally.live ≤ 72) ∧
      (∀ r, smallHeap[0]? = some r → r.backing.Limited (some 40)) ∧
      ∃ e, ((after smallHeap (.build twoCpus (some 0) :: crossOver)).allocate 0 1 .none).1 =
        .ok e := by
  have hsole : ∀ a ∈ [] ++ crossOver, a.source? ≠ some 0 := by decide
  have hshape : ((after smallHeap [.build twoCpus (some 0)]).tenant? 0).map (fun tenant =>
      (tenant.pool.id, tenant.pool.cpus, tenant.pool.localSize, tenant.pool.preallocated)) =
        some (1, 2, 16, 3) := by decide +kernel
  obtain ⟨tenant, htenant, hshape⟩ := Option.map_eq_some_iff.1 hshape
  obtain ⟨hid, hshape⟩ := Prod.mk.inj hshape
  obtain ⟨hcpus, hshape⟩ := Prod.mk.inj hshape
  obtain ⟨hlocal, hpreallocated⟩ := Prod.mk.inj hshape
  have hcallers : ∀ n, (after smallHeap ([] ++ .build twoCpus (some 0) ::
      crossOver.take n)).strayCount tenant.pool.id ≤ 10 := by
    intro n
    rw [hid]
    rcases Nat.lt_or_ge n 7 with hn | hn
    · revert n
      decide +kernel
    · rw [List.take_of_length_le (Nat.le_of_succ_le hn)]
      decide +kernel
  have hlimited : ∀ r, smallHeap[0]? = some r → r.backing.Limited (some 40) := by
    intro r hr
    cases hr
    exact ⟨rfl, fun _ => rfl⟩
  obtain ⟨hpeak, hserved⟩ := after_sized smallHeap_isNew [] crossOver hsole htenant hcallers
  rw [hcpus, hlocal, hpreallocated] at hpeak
  rw [hcpus, hlocal, hid] at hserved
  have hbacking : ((after smallHeap (.build twoCpus (some 0) :: crossOver)).backings[0]?).isSome =
      true := by decide +kernel
  obtain ⟨r, hr⟩ := Option.isSome_iff_exists.1 hbacking
  have hleased : ((after smallHeap (.build twoCpus (some 0) :: crossOver)).tenant? 0).map
      (fun tenant => (tenant.pool.leaseOf? 1).isSome) = some true := by decide +kernel
  obtain ⟨tenant', htenant', hleased⟩ := Option.map_eq_some_iff.1 hleased
  have hfew : (after smallHeap (.build twoCpus (some 0) :: crossOver)).strayCount 1 < 10 := by
    decide +kernel
  exact ⟨smallHeap_isNew, hsole, tenant, htenant, hcallers, ⟨r, hr, (hpeak r hr).2⟩, hlimited,
    (hserved 40 hlimited (by decide) hfew 1 .none).2 tenant' htenant' hleased⟩

end Session

end TieredPool
