import TieredPool.Proofs.Pool.Footprint
import TieredPool.Proofs.Pool.Origin
import TieredPool.Proofs.Session.Issue
import TieredPool.Proofs.Session.Laws

/-!
# Pools keep to themselves

A step on a lease changes one pool, and of that pool only what belongs to all CPUs or to the one
that is leased (`Session.Confined`). An element carries the number of the pool that handed it out,
and no pool that is at another place ever has this number (`Session.Reserved`), so another pool
refuses it before anything is done. Hence what is in the queues of a pool was granted to that pool:
its own calls to its backing, read without those of others, account for its elements
(`Session.Traced`).
-/

namespace TieredPool

namespace Session

/-! ## Steps on a lease -/

section Steps

variable {β : Type} {s s' s'' : Session β} {place cpu : Nat}

/-- The sessions have the same pools and backings, but for the backing of the pool at a place, and
in this pool but for what belongs to all its CPUs or to this one. -/
structure Confined (s : Session β) (place cpu : Nat) (s' : Session β) : Prop where
  size_eq : s'.pools.size = s.pools.size
  elsewhere (other : Nat) (hother : other ≠ place) : s'.tenant? other = s.tenant? other
  missing : s.tenant? place = none → s'.tenant? place = none
  home (tenant : Tenant) : s.tenant? place = some tenant →
    ∃ pool, s'.tenant? place = some ⟨pool, tenant.backing⟩ ∧ tenant.pool.SameBut cpu pool
  backing (k : Nat) : (∀ tenant, s.tenant? place = some tenant → tenant.backing ≠ k) →
    s'.backings[k]? = s.backings[k]?

theorem Confined.of_eq (hpools : s'.pools = s.pools) (hbackings : s'.backings = s.backings) :
    s.Confined place cpu s' := by
  have htenant : s'.tenant? = s.tenant? := by
    funext other
    rw [tenant?, tenant?, hpools]
  refine ⟨congrArg Array.size hpools, fun other _ => congrFun htenant other, ?_, ?_, ?_⟩
  · intro hnone
    rwa [htenant]
  · intro tenant hsome
    exact ⟨tenant.pool, by rw [htenant, hsome], .refl cpu tenant.pool⟩
  · intro k _
    rw [hbackings]

/-- What is changed beside pools and backings is of no matter. -/
theorem Confined.congr (h : s.Confined place cpu s') (hpools : s''.pools = s'.pools)
    (hbackings : s''.backings = s'.backings) : s.Confined place cpu s'' := by
  have htenant : s''.tenant? = s'.tenant? := by
    funext other
    rw [tenant?, tenant?, hpools]
  constructor
  all_goals simp only [htenant, hpools, hbackings]
  · exact h.size_eq
  · exact h.elsewhere
  · exact h.missing
  · exact h.home
  · exact h.backing

theorem Confined.trans (h : s.Confined place cpu s') (h' : s'.Confined place cpu s'') :
    s.Confined place cpu s'' where
  size_eq := h'.size_eq.trans h.size_eq
  elsewhere other hother := (h'.elsewhere other hother).trans (h.elsewhere other hother)
  missing hnone := h'.missing (h.missing hnone)
  home tenant htenant := by
    obtain ⟨pool, hpool, hsame⟩ := h.home tenant htenant
    obtain ⟨pool', hpool', hsame'⟩ := h'.home _ hpool
    exact ⟨pool', hpool', hsame.trans hsame'⟩
  backing j hj := by
    refine (h'.backing j fun tenant' htenant' => ?_).trans (h.backing j hj)
    rcases htenant : s.tenant? place with _ | tenant
    · rw [h.missing htenant] at htenant'
      cases htenant'
    · obtain ⟨pool, hpool, -⟩ := h.home tenant htenant
      rw [hpool] at htenant'
      cases htenant'
      exact hj tenant htenant

variable [Backing β] {τ : Type}

/-- **Work of a routine** within its footprint is confined, wherever it ends. -/
theorem confined_onLease (s : Session β) (place cpu : Nat) {f : Pool.Lease → Routine τ}
    (hf : ∀ lease, (f lease).Within lease.cpu) :
    s.Confined place cpu (s.onLease place cpu f).2 := by
  rcases htenant : s.tenant? place with _ | tenant
  · rw [onLease, onWorld_missing htenant]
    exact .of_eq rfl rfl
  rcases hbacking : s.backings[tenant.backing]? with _ | b
  · have hnothing : s.onLease place cpu f = (.error .noPool, s) := by
      simp only [onLease, onWorld, htenant, hbacking]
    rw [hnothing]
    exact .of_eq rfl rfl
  rcases hlease : tenant.pool.leaseOf? cpu with _ | lease
  · rw [onLease_noLease htenant hbacking hlease]
    exact .of_eq rfl rfl
  obtain ⟨rfl, -⟩ := Pool.leaseOf?_eq_some hlease
  have hsame := (hf ⟨tenant.pool.id, cpu⟩).run ⟨tenant.pool, b, s.events⟩
  rcases hrun : (f ⟨tenant.pool.id, cpu⟩).run ⟨tenant.pool, b, s.events⟩ with
    ⟨answer, pool, b', events⟩
  rw [hrun] at hsame
  rw [onLease_eq htenant hbacking hlease hrun]
  let changed : Session β :=
    { s with pools := s.pools.setIfInBounds place (some ⟨pool, tenant.backing⟩) }
  have hpools : ∀ other, changed.tenant? other =
      if place = other then some ⟨pool, tenant.backing⟩ else s.tenant? other :=
    tenant?_of_set rfl htenant
  refine ⟨Array.size_setIfInBounds .., ?_, ?_, ?_, ?_⟩
  · intro other hother
    exact (hpools other).trans (if_neg hother.symm)
  · intro hnone
    cases htenant.symm.trans hnone
  · intro tenant' htenant'
    cases htenant.symm.trans htenant'
    exact ⟨pool, (hpools place).trans (if_pos rfl), hsame⟩
  · intro k hk
    exact Array.getElem?_setIfInBounds_ne (hk tenant htenant)

theorem confined_allocate (s : Session β) (place cpu : Nat) (flags : AllocFlags) :
    s.Confined place cpu (s.allocate place cpu flags).2 := by
  have hwork := s.confined_onLease place cpu fun lease => lease.allocate_within flags
  unfold allocate
  split
  · next hrun =>
    rw [hrun] at hwork
    exact hwork
  · next hrun =>
    rw [hrun] at hwork
    exact hwork
  · next hrun =>
    rw [hrun] at hwork
    split
    · exact hwork
    · exact hwork.congr rfl rfl

theorem confined_free (s : Session β) (place cpu : Nat) (pick : Pick) :
    s.Confined place cpu (s.free place cpu pick).2 := by
  unfold free
  split
  · exact .of_eq rfl rfl
  split
  · exact .of_eq rfl rfl
  split
  · exact .of_eq rfl rfl
  next at_ holding _ =>
  have hwork := confined_onLease { s with held := s.held.eraseIdx at_ } place cpu fun lease =>
    lease.free_within holding.element
  have hhere : s.Confined place cpu (onLease { s with held := s.held.eraseIdx at_ } place cpu
      fun lease => lease.free holding.element).2 :=
    ⟨hwork.size_eq, hwork.elsewhere, hwork.missing, hwork.home, hwork.backing⟩
  dsimp only
  split
  · next hrun =>
    rw [hrun] at hhere
    exact hhere
  · next hrun =>
    rw [hrun] at hhere
    exact hhere.congr rfl rfl

end Steps

/-! ## Numbers of pools -/

section Numbers

variable {β : Type} [Backing β] {s s' : Session β} {place id : Nat}

/-- The number was given to a pool at this place, and no other has it. -/
structure Reserved (s : Session β) (place id : Nat) : Prop where
  lt : id < s.nextId
  place_eq {other : Nat} {tenant : Tenant} :
    s.tenant? other = some tenant → tenant.pool.id = id → other = place

namespace Reserved

/-- **A step** leaves the number reserved, also when the pool is destroyed. -/
theorem transition (h : s.Reserved place id) {a : Action} {problem : Option Problem}
    (ht : s.Transition a problem s') : s'.Reserved place id := by
  cases ht with
  | idle | forgot | misfreed => exact ⟨h.lt, h.place_eq⟩
  | abandoned => exact ⟨Nat.lt_succ_of_lt h.lt, h.place_eq⟩
  | @dealt _ _ at_ cpu tenant b b' pool taken given held rest events htenant _ _ hdeal =>
    refine ⟨h.lt, ?_⟩
    intro other tenant' htenant' hid
    rw [tenant?_of_set rfl htenant] at htenant'
    split at htenant'
    · next heq =>
      subst heq
      cases htenant'
      exact h.place_eq htenant (hdeal.shape_eq.1.symm.trans hid)
    · exact h.place_eq htenant' hid
  | @built plan k cpus b b' pool events _ _ hbuilt =>
    refine ⟨Nat.lt_succ_of_lt h.lt, ?_⟩
    intro other tenant' htenant' hid
    rw [tenant?_of_push rfl] at htenant'
    split at htenant'
    · cases htenant'
      -- the new pool has the next number
      obtain ⟨items, hstock⟩ := hbuilt.exists_stock_eq
      have hnext : pool.id = s.nextId := congrArg Stock.id hstock
      exact absurd (hid.symm.trans hnext) (Nat.ne_of_lt h.lt)
    · exact h.place_eq htenant' hid
  | @destroyed at_ tenant b b' events htenant =>
    refine ⟨h.lt, ?_⟩
    intro other tenant' htenant' hid
    rw [tenant?_of_set rfl htenant] at htenant'
    split at htenant'
    · cases htenant'
    · exact h.place_eq htenant' hid

variable [LawfulBacking β]

theorem follow (h : s.Reserved place id) (hs : s.WF) (actions : List Action) :
    (s.follow actions).Reserved place id := by
  induction actions generalizing s with
  | nil => exact h
  | cons a actions ih => exact ih (h.transition (hs.act a)) (hs.act_wf a)

/-- The number of an element is reserved for the pool that hands it out. -/
theorem of_allocate (hs : s.WF) {cpu : Nat} {flags : AllocFlags} {e : Element}
    (h : (s.allocate place cpu flags).1 = .ok e) : s.Reserved place e.pool := by
  rcases htenant : s.tenant? place with _ | tenant
  · rw [allocate_missing htenant] at h
    cases h
  obtain ⟨b, hbacking⟩ := hs.backing htenant
  rcases hlease : tenant.pool.leaseOf? cpu with _ | lease
  · rw [allocate_noLease htenant hbacking hlease] at h
    cases h
  obtain ⟨answer, d, pool, events, -, -, -, hallocate⟩ :=
    hs.allocate_eq htenant hbacking hlease flags
  rw [hallocate] at h
  cases answer with
  | none => cases h
  | some x =>
    cases h
    exact ⟨hs.id_lt htenant, fun htenant' hid => hs.id_inj htenant' htenant hid⟩

end Reserved

end Numbers

/-! ## Calls of a pool to its backing -/

section Calls

variable {β : Type} {s s' : Session (Recorded β)} {k place : Nat} {calls : List BackingCall}

/-- The calls that a backing received between two states of a session. -/
def receivedAt (k : Nat) (s s' : Session (Recorded β)) : List BackingCall :=
  match s.backings[k]?, s'.backings[k]? with
  | some r, some r' => callsSince r r'
  | _, _ => []

/-- The calls that the pool at a place makes to a backing in these steps. -/
def issuedOn [Backing β] (k place : Nat) : Session (Recorded β) → List Action → List BackingCall
  | _, [] => []
  | s, a :: rest =>
    (if a.worker? s.pools.size (s.act a).1 = some place then receivedAt k s (s.act a).2 else []) ++
      issuedOn k place (s.act a).2 rest

theorem receivedAt_of_eq (h : s'.backings[k]? = s.backings[k]?) : receivedAt k s s' = [] := by
  unfold receivedAt
  rw [h]
  cases s.backings[k]? with
  | none => rfl
  | some r => exact callsSince_self r

theorem receivedAt_set {r r' : Recorded β} {more : List BackingCall}
    (hget : s.backings[k]? = some r) (hcalls : r'.calls.toList = r.calls.toList ++ more)
    (hset : s'.backings = s.backings.setIfInBounds k r') : receivedAt k s s' = more := by
  obtain ⟨hlt, -⟩ := Array.getElem?_eq_some_iff.1 hget
  unfold receivedAt
  rw [hset, Array.getElem?_setIfInBounds_self_of_lt hlt, hget]
  dsimp only
  rw [callsSince, hcalls, List.drop_left]

end Calls

/-! ## Traced elements -/

section Traced

/-- The elements of a pool that callers have or have lost. -/
def strayHandles {β : Type} (s : Session β) (id : Nat) : Multiset Handle :=
  (s.strays.filter fun holding => holding.element.pool = id).map fun holding =>
    holding.element.handle

theorem strayHandles_of_holdings {β : Type} {s : Session β} {tenant : Tenant}
    {handles : List Handle} {rest : Multiset Holding}
    (hstrays : s.strays = holdings tenant handles + rest) :
    s.strayHandles tenant.pool.id = ↑handles +
      (rest.filter fun holding => holding.element.pool = tenant.pool.id).map
        fun holding => holding.element.handle := by
  have hall : (holdings tenant handles).filter
      (fun holding => holding.element.pool = tenant.pool.id) = holdings tenant handles :=
    Multiset.filter_eq_self.2 fun holding hmem => (of_mem_holdings hmem).1
  rw [strayHandles, hstrays, Multiset.filter_add, Multiset.map_add, hall, holdings, Multiset.map_coe,
    List.map_map]
  congr 2
  exact List.map_id handles

theorem strayHandles_of_ne {β : Type} {s s' : Session β} {tenant : Tenant}
    {taken given : List Handle} {rest : Multiset Holding}
    (hstrays : s.strays = holdings tenant taken + rest)
    (hstrays' : s'.strays = holdings tenant given + rest) {id : Nat} (hid : tenant.pool.id ≠ id) :
    s'.strayHandles id = s.strayHandles id := by
  have hnone : ∀ handles, (holdings tenant handles).filter
      (fun holding => holding.element.pool = id) = 0 := fun handles =>
    Multiset.filter_eq_nil.2 fun holding hmem heq => hid ((of_mem_holdings hmem).1.symm.trans heq)
  rw [strayHandles, strayHandles, hstrays, hstrays', Multiset.filter_add, Multiset.filter_add, hnone,
    hnone]

variable {β : Type} [Backing β] [LawfulBacking β] {s s' : Session (Recorded β)} {k place : Nat}
  {calls : List BackingCall}

/-- What a pool holds and what callers took from it is among the elements out of its backing. -/
theorem WF.elements_le {γ : Type} [Backing γ] [LawfulBacking γ] {s : Session γ} (h : s.WF)
    {tenant : Tenant} (htenant : s.tenant? place = some tenant) :
    tenant.pool.stock.elements + s.strayHandles tenant.pool.id ≤ s.elementsOn tenant.backing := by
  obtain ⟨others, hsum, -⟩ := exists_sum_elementsAt tenant.backing htenant
  have hhome : s.strays.filter (fun holding => holding.element.pool = tenant.pool.id) ≤
      s.strays.filter fun holding => holding.backing = tenant.backing := by
    rw [Multiset.le_filter]
    refine ⟨Multiset.filter_le _ _, fun holding hmem => ?_⟩
    obtain ⟨hstray, hid⟩ := Multiset.mem_filter.1 hmem
    exact h.stray_home hstray htenant hid
  rw [elementsOn, hsum, elementsAt, if_pos rfl, add_assoc]
  refine add_le_add_right ?_ _
  exact (Multiset.map_le_map hhome).trans (Multiset.le_add_left _ others)

/-- These are all the calls that the pool at a place has made to a backing. If it is its backing,
they account for the elements of the pool. -/
structure Traced (s : Session (Recorded β)) (k place : Nat) (calls : List BackingCall) : Prop where
  fresh : s.pools.size ≤ place → calls = []
  exists_account {tenant : Tenant} : s.tenant? place = some tenant → tenant.backing = k →
    ∃ own, calls.foldlM BackingCall.account [] = some own ∧
      (own : Multiset Handle) = tenant.pool.stock.elements + s.strayHandles tenant.pool.id

namespace Traced

omit [Backing β] [LawfulBacking β] in
/-- A step in which the pool made no calls, and no element of it changed hands. -/
theorem same (h : s.Traced k place calls) (hsize : s.pools.size ≤ s'.pools.size)
    (hsame : ∀ tenant, s'.tenant? place = some tenant → s.tenant? place = some tenant ∧
      s'.strayHandles tenant.pool.id = s.strayHandles tenant.pool.id) : s'.Traced k place calls := by
  refine ⟨fun hle => h.fresh (Nat.le_trans hsize hle), ?_⟩
  intro tenant htenant hk
  obtain ⟨hbefore, hstrays⟩ := hsame tenant htenant
  rw [hstrays]
  exact h.exists_account hbefore hk

omit [Backing β] [LawfulBacking β] in
/-- A step in which pools and backings stay as they are, and no element is passed on. -/
theorem quiet (h : s.Traced k place calls) (hpools : s'.pools = s.pools)
    (hbackings : s'.backings = s.backings) (hstrays : s'.strays = s.strays)
    (worker? : Option Nat) :
    s'.Traced k place (calls ++ if worker? = some place then receivedAt k s s' else []) := by
  rw [receivedAt_of_eq (by rw [hbackings]), ite_self, List.append_nil]
  apply h.same (Nat.le_of_eq (congrArg Array.size hpools.symm))
  intro tenant htenant
  rw [tenant?, hpools] at htenant
  exact ⟨htenant, by rw [strayHandles, strayHandles, hstrays]⟩

/-- **A dealing** of the pool adds its calls, which account for what it brings. -/
theorem dealt (h : s.Traced k place calls) (hs : s.WF) {at_ cpu : Nat} {tenant : Tenant}
    {b b' : Recorded β} {pool : Pool} {taken given : List Handle} {rest : Multiset Holding}
    (htenant : s.tenant? at_ = some tenant) (hbacking : s.backings[tenant.backing]? = some b)
    (hdeal : Dealing cpu ⟨tenant.pool.stock, b⟩ taken given ⟨pool.stock, b'⟩)
    (hpools : s'.pools = s.pools.setIfInBounds at_ (some ⟨pool, tenant.backing⟩))
    (hbackings : s'.backings = s.backings.setIfInBounds tenant.backing b')
    (hstrays : s.strays = holdings tenant taken + rest)
    (hstrays' : s'.strays = holdings tenant given + rest) :
    s'.Traced k place (calls ++ if some at_ = some place then receivedAt k s s' else []) := by
  obtain ⟨hlt, -⟩ := Array.getElem?_eq_some_iff.1 (tenant?_eq_some.1 htenant)
  have hsize : s'.pools.size = s.pools.size := by rw [hpools, Array.size_setIfInBounds]
  have hid : pool.id = tenant.pool.id := hdeal.shape_eq.1
  by_cases hplace : at_ = place
  · subst hplace
    rw [if_pos rfl]
    refine ⟨fun hle => absurd hlt (by omega), ?_⟩
    intro tenant' htenant' hk
    rw [tenant?_of_set hpools htenant, if_pos rfl] at htenant'
    cases htenant'
    subst hk
    obtain ⟨own, hcount, hown⟩ := h.exists_account htenant rfl
    have hmem : ∀ x ∈ own, x ∈ s.elementsOn tenant.backing := by
      intro x hx
      rw [← Multiset.mem_coe, hown] at hx
      exact Multiset.mem_of_le (hs.elements_le htenant) hx
    rw [strayHandles_of_holdings hstrays, ← add_assoc] at hown
    obtain ⟨more, own', hcalls, hmore, hown'⟩ :=
      hdeal.exists_account (hs.out hbacking) hown hmem
    refine ⟨own', ?_, ?_⟩
    · rw [receivedAt_set hbacking hcalls hbackings, List.foldlM_append, hcount]
      exact hmore
    · have hgiven : s'.strays = holdings ⟨pool, tenant.backing⟩ given + rest := by
        rw [hstrays', holdings, holdings, hid]
      rw [strayHandles_of_holdings hgiven, hown', ← add_assoc, hid]
  · rw [if_neg fun heq => hplace (Option.some.inj heq), List.append_nil]
    apply h.same (Nat.le_of_eq hsize.symm)
    intro other hother
    rw [tenant?_of_set hpools htenant, if_neg hplace] at hother
    exact ⟨hother, strayHandles_of_ne hstrays hstrays' fun heq =>
      hplace (hs.id_inj htenant hother heq)⟩

/-- **A new pool** accounts for what it was granted while it was built. -/
theorem built (h : s.Traced k place calls) (hs : s.WF) {plan : Plan} {j cpus : Nat}
    {b b' : Recorded β} {pool : Pool} (hbacking : s.backings[j]? = some b)
    (hbuilt : plan.Constructed s.nextId cpus b (.ok pool) b')
    (hpools : s'.pools = s.pools.push (some ⟨pool, j⟩))
    (hbackings : s'.backings = s.backings.setIfInBounds j b') (hstrays : s'.strays = s.strays) :
    s'.Traced k place
      (calls ++ if some s.pools.size = some place then receivedAt k s s' else []) := by
  have hsize : s'.pools.size = s.pools.size + 1 := by rw [hpools, Array.size_push]
  by_cases hplace : s.pools.size = place
  · rw [if_pos (congrArg some hplace), h.fresh (Nat.le_of_eq hplace), List.nil_append]
    refine ⟨fun hle => by omega, ?_⟩
    intro tenant htenant hk
    rw [tenant?_of_push hpools, if_pos hplace.symm] at htenant
    cases htenant
    subst hk
    cases hbuilt with
    | @built items _ _ hsupply _ _ hstock =>
      obtain ⟨more, hcalls, haccount⟩ :=
        Recorded.exists_account_supply (hs.out hbacking) plan.flags plan.preallocate
      rw [hsupply] at hcalls haccount
      obtain ⟨own, hmore, hown⟩ := haccount [] fun x hmem => by cases hmem
      refine ⟨own, ?_, ?_⟩
      · rw [receivedAt_set hbacking hcalls hbackings]
        exact hmore
      · -- nobody has an element of a pool that was not there
        have hid : pool.id = s.nextId := congrArg Stock.id hstock
        have hnone : s'.strayHandles pool.id = 0 := by
          rw [strayHandles, hstrays, Multiset.filter_eq_nil.2, Multiset.map_zero]
          intro holding hmem heq
          exact absurd (heq.trans hid) (Nat.ne_of_lt (hs.stray_lt hmem))
        rw [hown, hnone, hstock, ← Stock.coe_contents, Plan.contents_stocked, Multiset.coe_nil]
  · rw [if_neg fun heq => hplace (Option.some.inj heq), List.append_nil]
    apply h.same (by omega)
    intro tenant htenant
    rw [tenant?_of_push hpools, if_neg (Ne.symm hplace)] at htenant
    exact ⟨htenant, by rw [strayHandles, strayHandles, hstrays]⟩

/-- **One step** keeps the trace, with the calls of the step added if it is the work of the pool. -/
theorem transition (h : s.Traced k place calls) (hs : s.WF) {a : Action}
    {problem : Option Problem} (ht : s.Transition a problem s') :
    s'.Traced k place
      (calls ++ if a.worker? s.pools.size problem = some place then receivedAt k s s' else []) := by
  cases ht with
  | idle => exact h.quiet (by exact rfl) (by exact rfl) (by exact rfl) _
  | forgot hpicked =>
    refine h.quiet (by exact rfl) (by exact rfl) ?_ _
    exact strays_lose hpicked
  | misfreed htenant hpicked hforeign =>
    refine h.quiet (by exact rfl) (by exact rfl) ?_ _
    exact strays_lose hpicked
  | abandoned =>
    rw [if_neg (by simp [Action.worker?]), List.append_nil]
    exact h.same (Nat.le_refl _) fun _ ht => ⟨ht, rfl⟩
  | @dealt _ _ at_ cpu tenant b b' pool taken given held rest events htenant hbacking _ hdeal hheld
      hheld' _ hplace =>
    rw [Action.worker?_of_place? hplace]
    have hstrays : s.strays = holdings tenant taken + (rest + ↑s.lost) := by
      rw [strays, hheld, add_assoc]
    refine h.dealt hs htenant hbacking hdeal rfl rfl hstrays ?_
    rw [strays, hheld', add_assoc]
  | built hbacking hplan hbuilt =>
    rw [Action.worker?, Option.isNone_none, if_pos rfl]
    exact h.built hs hbacking hbuilt rfl rfl rfl
  | @destroyed at_ tenant b b' events htenant hbacking hreclaim =>
    obtain ⟨hlt, -⟩ := Array.getElem?_eq_some_iff.1 (tenant?_eq_some.1 htenant)
    rw [Action.worker?_of_place? rfl]
    by_cases hplace : at_ = place
    · subst hplace
      refine ⟨fun hle => absurd hlt ?_, fun ht => ?_⟩
      · rw [Array.size_setIfInBounds] at hle
        omega
      · rw [tenant?_of_set rfl htenant, if_pos rfl] at ht
        cases ht
    · rw [if_neg fun heq => hplace (Option.some.inj heq), List.append_nil]
      apply h.same (Nat.le_of_eq (Array.size_setIfInBounds ..).symm)
      intro other hother
      rw [tenant?_of_set rfl htenant, if_neg hplace] at hother
      exact ⟨hother, rfl⟩

/-- **A run** keeps the trace, with the calls that the pool makes in it added. -/
theorem follow (h : s.Traced k place calls) (hs : s.WF) (actions : List Action) :
    (s.follow actions).Traced k place (calls ++ issuedOn k place s actions) := by
  induction actions generalizing s calls with
  | nil =>
    rw [issuedOn, List.append_nil]
    exact h
  | cons a actions ih =>
    rw [issuedOn, ← List.append_assoc]
    exact ih (h.transition hs (hs.act a)) (hs.act_wf a)

end Traced

end Traced

/-! ## Isolation -/

/-- **Isolation.** After every run over new stores, an allocation or a free on a CPU of a pool
leaves all other pools alone, all other backings, and of its own pool what belongs to other CPUs.
An element that another pool handed out in the run, whether this is still there or not, is refused
with a fault that leaves all pools and backings alone. And what a pool asked of its backing and
returned to it, read on its own, accounts for the elements in its queues and those that callers took
from it: each was granted to this pool, and has not been returned by it since. -/
theorem after_isolates {backings : Array (Recorded Store)} (hnew : ∀ r ∈ backings, r.IsNew)
    (actions : List Action) :
    let s := after backings actions
    (∀ place cpu flags, s.Confined place cpu (s.allocate place cpu flags).2) ∧
    (∀ place cpu pick, s.Confined place cpu (s.free place cpu pick).2) ∧
    (∀ (before later : List Action) (owner cpu : Nat) (flags : AllocFlags) (e : Element),
      actions = before ++ .allocate owner cpu flags :: later →
      ((after backings before).allocate owner cpu flags).1 = .ok e →
      ∀ (place cpu : Nat) (pick : Pick) (tenant : Tenant) (at_ : Nat) (holding : Holding),
        place ≠ owner → s.tenant? place = some tenant → (tenant.pool.leaseOf? cpu).isSome →
        s.picked? pick = some (at_, holding) → holding.element = e →
        (s.free place cpu pick).1 = .error (.fault (.foreignElement e.pool tenant.pool.id)) ∧
        (s.free place cpu pick).2.pools = s.pools ∧
        (s.free place cpu pick).2.backings = s.backings) ∧
    ∀ (place : Nat) (tenant : Tenant), s.tenant? place = some tenant →
      ∃ own : List Handle,
        (issuedOn tenant.backing place { backings } actions).foldlM BackingCall.account [] =
          some own ∧
        own.Perm (tenant.pool.contents ++
          ((s.held ++ s.lost).filter fun holding => holding.element.pool = tenant.pool.id).map
            fun holding => holding.element.handle) := by
  intro s
  have hstart : ({ backings } : Session (Recorded Store)).WF :=
    WF.of_backings fun r hmem => (hnew r hmem).out
  have hrun : s.WF := hstart.follow actions
  refine ⟨s.confined_allocate, s.confined_free, ?_, ?_⟩
  · intro before later owner cpu' flags e hactions hallocate place cpu pick tenant at_ holding hplace
      htenant hleased hpicked heq
    subst heq
    have hbefore : (after backings before).WF := hstart.follow before
    have hreserved : s.Reserved owner holding.element.pool := by
      have hs : s = (after backings before).follow (.allocate owner cpu' flags :: later) := by
        rw [after, ← follow_append, ← hactions]
        rfl
      rw [hs]
      exact (Reserved.of_allocate hbefore hallocate).follow hbefore _
    have hforeign : holding.element.pool ≠ tenant.pool.id := fun hid =>
      hplace (hreserved.place_eq htenant hid.symm)
    obtain ⟨b, hbacking⟩ := hrun.backing htenant
    obtain ⟨lease, hlease⟩ := Option.isSome_iff_exists.1 hleased
    rw [free_foreign htenant hbacking hlease hpicked hforeign]
    exact ⟨rfl, rfl, rfl⟩
  · intro place tenant htenant
    have hfresh : ({ backings } : Session (Recorded Store)).Traced tenant.backing place [] :=
      ⟨fun _ => rfl, fun ht => by cases ht⟩
    obtain ⟨own, hcount, hown⟩ := (hfresh.follow hstart actions).exists_account htenant rfl
    refine ⟨own, hcount, ?_⟩
    rw [← Multiset.coe_eq_coe, hown, ← Stock.coe_contents, Pool.stock_contents, strayHandles, strays,
      Multiset.coe_add, Multiset.filter_coe, Multiset.map_coe, Multiset.coe_add]
    rfl

/-- Two pools draw on one heap, and an element of the first outlives it. -/
def outlive : List Action :=
  [.build { localSize := 16, sharedSize := 64, cpus := some 1 } (some 0),
    .build { localSize := 16, sharedSize := 64, cpus := some 1 } (some 0),
    .lease 0 0, .lease 1 0, .allocate 0 0 .none, .allocate 1 0 .none, .destroy 0]

/-- The second pool refuses the element; it has what the first left of the heap. -/
theorem after_isolates_outlive :
    (∀ r ∈ smallHeap, r.IsNew) ∧
    ((after smallHeap outlive).free 1 0 .first).1 = .error (.fault (.foreignElement 1 2)) ∧
    ((after smallHeap outlive).free 1 0 .first).2.pools = (after smallHeap outlive).pools ∧
    ∃ own : List Handle,
      (issuedOn 0 1 { backings := smallHeap } outlive).foldlM BackingCall.account [] = some own ∧
      own.length = 7 := by
  have hpool : ((after smallHeap outlive).tenant? 1).map (fun tenant =>
      (tenant.pool.id, tenant.backing, tenant.pool.contents.length,
        (tenant.pool.leaseOf? 0).isSome)) = some (2, 0, 6, true) := by decide +kernel
  have hallocate : ((after smallHeap (outlive.take 4)).allocate 0 0 .none).1 = .ok ⟨0, 1⟩ := by
    decide +kernel
  have hpicked : (after smallHeap outlive).picked? .first = some (0, ⟨⟨0, 1⟩, 0⟩) := by
    decide +kernel
  have hstrays : (after smallHeap outlive).held ++ (after smallHeap outlive).lost =
      [⟨⟨0, 1⟩, 0⟩, ⟨⟨33, 2⟩, 0⟩] := by decide +kernel
  obtain ⟨tenant, htenant, hpool⟩ := Option.map_eq_some_iff.1 hpool
  simp only [Prod.mk.injEq] at hpool
  obtain ⟨hid, hbacking, hlength, hleased⟩ := hpool
  obtain ⟨-, -, hforeign, htraced⟩ := after_isolates smallHeap_isNew outlive
  obtain ⟨hfault, hpools, -⟩ := hforeign (outlive.take 4) (outlive.drop 5) 0 0 .none ⟨0, 1⟩ rfl
    hallocate 1 0 .first tenant 0 ⟨⟨0, 1⟩, 0⟩ (by decide) htenant hleased hpicked rfl
  obtain ⟨own, hcount, hperm⟩ := htraced 1 tenant htenant
  rw [hid] at hfault hperm
  rw [hbacking] at hcount
  refine ⟨smallHeap_isNew, hfault, hpools, own, hcount, ?_⟩
  rw [hperm.length_eq, List.length_append, hlength, hstrays]
  rfl

end Session

end TieredPool
