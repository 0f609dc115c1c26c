import TieredPool.Proofs.Session.Transition

/-!
# Runs of a session

Every transition keeps a session in order (`Session.Transition.wf`), and so does every run
(`Session.WF.follow`). A transition changes the pool at one place and one backing at most; what is
said of the other pools and backings carries over (`Session.WF.set`, `Session.WF.push`).
-/

namespace TieredPool

namespace Session

variable {β : Type} {s s' : Session β}

/-! ## One step -/

theorem countP_holdings (tenant : Tenant) (handles : List Handle) :
    (holdings tenant handles).countP (fun holding => holding.element.pool = tenant.pool.id) =
      handles.length := by
  rw [Multiset.countP_eq_card.2, holdings, Multiset.coe_card, List.length_map]
  intro holding hmem
  obtain ⟨handle, -, rfl⟩ := List.mem_map.1 (Multiset.mem_coe.1 hmem)
  rfl

theorem countP_holdings_of_ne {tenant : Tenant} {id : Nat} (hid : tenant.pool.id ≠ id)
    (handles : List Handle) :
    (holdings tenant handles).countP (fun holding => holding.element.pool = id) = 0 := by
  rw [Multiset.countP_eq_zero]
  intro holding hmem
  obtain ⟨handle, -, rfl⟩ := List.mem_map.1 (Multiset.mem_coe.1 hmem)
  exact hid

theorem of_mem_holdings {tenant : Tenant} {handles : List Handle} {holding : Holding}
    (h : holding ∈ holdings tenant handles) :
    holding.element.pool = tenant.pool.id ∧ holding.backing = tenant.backing := by
  obtain ⟨handle, -, rfl⟩ := List.mem_map.1 (Multiset.mem_coe.1 h)
  exact ⟨rfl, rfl⟩

section Dealt

variable {place : Nat} {tenant : Tenant} {other : Option Tenant} {taken given : List Handle}
  {rest : Multiset Holding}

theorem strayCount_of_ne (hstrays : s.strays = holdings tenant taken + rest)
    (hstrays' : s'.strays = holdings tenant given + rest) {id : Nat} (hid : tenant.pool.id ≠ id) :
    s'.strayCount id = s.strayCount id := by
  rw [strayCount, strayCount, hstrays, hstrays', Multiset.countP_add, Multiset.countP_add,
    countP_holdings_of_ne hid, countP_holdings_of_ne hid]

/-- A backing with which the changed pool has nothing to do. -/
theorem elementsOn_of_ne (htenant : s.tenant? place = some tenant)
    (hpools : s'.pools = s.pools.setIfInBounds place other)
    (hstrays : s.strays = holdings tenant taken + rest)
    (hstrays' : s'.strays = holdings tenant given + rest)
    (hother : ∀ t, other = some t → t.backing = tenant.backing) {k : Nat}
    (hk : tenant.backing ≠ k) : s'.elementsOn k = s.elementsOn k := by
  obtain ⟨others, hsum, hsum'⟩ := exists_sum_elementsAt k htenant
  have hold : elementsAt k (some tenant) = 0 := if_neg hk
  have hnew : elementsAt k other = 0 := by
    cases other with
    | none => rfl
    | some t => exact if_neg (hother t rfl ▸ hk)
  rw [elementsOn, elementsOn, hpools, hsum, hsum', hold, hnew, hstrays, hstrays', handlesOn_add,
    handlesOn_add, handlesOn_holdings_of_ne hk, handlesOn_holdings_of_ne hk]

end Dealt

variable [Backing β] [LawfulBacking β]

namespace WF

/-- A session with the same pools and the same elements with callers is in order as well, if the
elements out of its backings are the same. -/
theorem congr (h : s.WF) (hpools : s'.pools = s.pools) (hstrays : s'.strays = s.strays)
    (hnextId : s.nextId ≤ s'.nextId) (hsize : s'.backings.size = s.backings.size)
    (hout : ∀ {k b}, s'.backings[k]? = some b → LawfulBacking.Out b (s.elementsOn k)) : s'.WF := by
  have htenant : s'.tenant? = s.tenant? := by
    funext place
    rw [tenant?, tenant?, hpools]
  have hcount : s'.strayCount = s.strayCount := by
    funext id
    rw [strayCount, strayCount, hstrays]
  have helements : s'.elementsOn = s.elementsOn := by
    funext k
    rw [elementsOn, elementsOn, hpools, hstrays]
  constructor
  all_goals simp only [htenant, hcount, helements, hstrays, hsize]
  · exact h.tenant
  · exact h.backing_lt
  · exact fun ht => Nat.lt_of_lt_of_le (h.id_lt ht) hnextId
  · exact h.id_inj
  · exact fun hmem => Nat.lt_of_lt_of_le (h.stray_lt hmem) hnextId
  · exact h.stray_home
  · exact h.accounts
  · exact hout

theorem out_of_set (h : s.WF) {k : Nat} {b' : β} {m : Nat → Multiset Handle}
    (hbackings : s'.backings = s.backings.setIfInBounds k b') (hout : LawfulBacking.Out b' (m k))
    (hsame : ∀ j, k ≠ j → m j = s.elementsOn j) {j : Nat} {b : β}
    (hget : s'.backings[j]? = some b) : LawfulBacking.Out b (m j) := by
  rw [hbackings, Array.getElem?_setIfInBounds] at hget
  split at hget
  · next heq =>
    subst heq
    split at hget
    · cases hget
      exact hout
    · cases hget
  · next hne =>
    rw [hsame j hne]
    exact h.out hget

/-- Changing or removing one pool, with its backing and some of its elements with callers. -/
theorem set (h : s.WF) {place : Nat} {tenant : Tenant} {other : Option Tenant} {b' : β}
    {taken given : List Handle} {rest : Multiset Holding} (htenant : s.tenant? place = some tenant)
    (hpools : s'.pools = s.pools.setIfInBounds place other)
    (hbackings : s'.backings = s.backings.setIfInBounds tenant.backing b')
    (hnextId : s'.nextId = s.nextId) (hstrays : s.strays = holdings tenant taken + rest)
    (hstrays' : s'.strays = holdings tenant given + rest)
    (hother : ∀ t, other = some t → t.WF ∧ t.backing = tenant.backing ∧
      t.pool.id = tenant.pool.id ∧ t.pool.stock.Accounts (s'.strayCount tenant.pool.id))
    (hout : LawfulBacking.Out b' (s'.elementsOn tenant.backing)) : s'.WF := by
  -- a pool of the new session is the changed one or one of the others
  have hcases : ∀ {place' : Nat} {t : Tenant}, s'.tenant? place' = some t →
      (place = place' ∧ other = some t) ∨ (place ≠ place' ∧ s.tenant? place' = some t) := by
    intro place' t ht
    rw [tenant?_of_set hpools htenant] at ht
    split at ht
    · next heq => exact .inl ⟨heq, ht⟩
    · next hne => exact .inr ⟨hne, ht⟩
  have hrest : ∀ {holding}, holding ∈ rest → holding ∈ s.strays := fun hmem => by
    rw [hstrays]
    exact Multiset.mem_add.2 (.inr hmem)
  have hsplit : ∀ {holding}, holding ∈ s'.strays →
      holding ∈ holdings tenant given ∨ holding ∈ rest := fun hmem => by
    rw [hstrays'] at hmem
    exact Multiset.mem_add.1 hmem
  refine
    { tenant := fun ht => ?_, backing_lt := fun ht => ?_, id_lt := fun ht => ?_,
      id_inj := fun ht ht' heq => ?_, stray_lt := fun hmem => ?_,
      stray_home := fun hmem ht heq => ?_, accounts := fun ht => ?_, out := fun {k b} hget => ?_ }
  · rcases hcases ht with ⟨-, ho⟩ | ⟨-, ht⟩
    · exact (hother _ ho).1
    · exact h.tenant ht
  · rw [hbackings, Array.size_setIfInBounds]
    rcases hcases ht with ⟨-, ho⟩ | ⟨-, ht⟩
    · rw [(hother _ ho).2.1]
      exact h.backing_lt htenant
    · exact h.backing_lt ht
  · rw [hnextId]
    rcases hcases ht with ⟨-, ho⟩ | ⟨-, ht⟩
    · rw [(hother _ ho).2.2.1]
      exact h.id_lt htenant
    · exact h.id_lt ht
  · rcases hcases ht with ⟨rfl, ho⟩ | ⟨hne, ht⟩ <;> rcases hcases ht' with ⟨rfl, ho'⟩ | ⟨hne', ht'⟩
    · rfl
    · rw [(hother _ ho).2.2.1] at heq
      exact h.id_inj htenant ht' heq
    · rw [(hother _ ho').2.2.1] at heq
      exact h.id_inj ht htenant heq
    · exact h.id_inj ht ht' heq
  · rw [hnextId]
    rcases hsplit hmem with hmem | hmem
    · rw [(of_mem_holdings hmem).1]
      exact h.id_lt htenant
    · exact h.stray_lt (hrest hmem)
  · rcases hcases ht with ⟨-, ho⟩ | ⟨hne, ht⟩
    · obtain ⟨-, hbacking, hid, -⟩ := hother _ ho
      rcases hsplit hmem with hmem | hmem
      · rw [hbacking, (of_mem_holdings hmem).2]
      · rw [hbacking]
        exact h.stray_home (hrest hmem) htenant (heq.trans hid)
    · rcases hsplit hmem with hmem | hmem
      · rw [(of_mem_holdings hmem).1] at heq
        exact absurd (h.id_inj htenant ht heq) hne
      · exact h.stray_home (hrest hmem) ht heq
  · rcases hcases ht with ⟨-, ho⟩ | ⟨hne, ht⟩
    · obtain ⟨-, -, hid, haccounts⟩ := hother _ ho
      rwa [hid]
    · have hid : tenant.pool.id ≠ _ := fun heq => hne (h.id_inj htenant ht heq)
      rw [strayCount_of_ne hstrays hstrays' hid]
      exact h.accounts ht
  · exact h.out_of_set hbackings hout (fun j hne => elementsOn_of_ne htenant hpools hstrays
      hstrays' (fun t ht => (hother t ht).2.1) hne) hget

/-- A new pool, with the next number. -/
theorem push (h : s.WF) {k : Nat} {b b' : β} {pool : Pool} (hbacking : s.backings[k]? = some b)
    (hpools : s'.pools = s.pools.push (some ⟨pool, k⟩))
    (hbackings : s'.backings = s.backings.setIfInBounds k b') (hnextId : s'.nextId = s.nextId + 1)
    (hstrays : s'.strays = s.strays) (hid : pool.id = s.nextId) (htenant : Tenant.WF ⟨pool, k⟩)
    (haccounts : pool.stock.Accounts 0)
    (hout : LawfulBacking.Out b' (pool.stock.elements + s.elementsOn k)) : s'.WF := by
  have hcases : ∀ {place : Nat} {t : Tenant}, s'.tenant? place = some t →
      (place = s.pools.size ∧ t = ⟨pool, k⟩) ∨ s.tenant? place = some t := by
    intro place t ht
    rw [tenant?_of_push hpools] at ht
    split at ht
    · next heq => exact .inl ⟨heq, (Option.some.inj ht).symm⟩
    · exact .inr ht
  have hcount : s'.strayCount = s.strayCount := by
    funext id
    rw [strayCount, strayCount, hstrays]
  refine
    { tenant := fun ht => ?_, backing_lt := fun ht => ?_, id_lt := fun ht => ?_,
      id_inj := fun ht ht' heq => ?_, stray_lt := fun hmem => ?_,
      stray_home := fun hmem ht heq => ?_, accounts := fun ht => ?_, out := fun {j b} hget => ?_ }
  · rcases hcases ht with ⟨-, rfl⟩ | ht
    · exact htenant
    · exact h.tenant ht
  · rw [hbackings, Array.size_setIfInBounds]
    rcases hcases ht with ⟨-, rfl⟩ | ht
    · exact (Array.getElem?_eq_some_iff.1 hbacking).1
    · exact h.backing_lt ht
  · rw [hnextId]
    rcases hcases ht with ⟨-, rfl⟩ | ht
    · exact Nat.lt_succ_of_le (Nat.le_of_eq hid)
    · exact Nat.lt_succ_of_lt (h.id_lt ht)
  · rcases hcases ht with ⟨rfl, rfl⟩ | ht <;> rcases hcases ht' with ⟨rfl, rfl⟩ | ht'
    · rfl
    · exact absurd (heq.symm.trans hid) (Nat.ne_of_lt (h.id_lt ht'))
    · exact absurd (heq.trans hid) (Nat.ne_of_lt (h.id_lt ht))
    · exact h.id_inj ht ht' heq
  · rw [hnextId]
    rw [hstrays] at hmem
    exact Nat.lt_succ_of_lt (h.stray_lt hmem)
  · rw [hstrays] at hmem
    rcases hcases ht with ⟨-, rfl⟩ | ht
    · exact absurd (heq.trans hid) (Nat.ne_of_lt (h.stray_lt hmem))
    · exact h.stray_home hmem ht heq
  · rw [hcount]
    rcases hcases ht with ⟨-, rfl⟩ | ht
    · -- no caller has an element of a number not used before
      have hnone : s.strayCount pool.id = 0 := by
        rw [strayCount, Multiset.countP_eq_zero]
        intro holding hmem heq
        exact absurd (heq.trans hid) (Nat.ne_of_lt (h.stray_lt hmem))
      rwa [hnone]
    · exact h.accounts ht
  · have hsum : ∀ j, s'.elementsOn j = elementsAt j (some ⟨pool, k⟩) + s.elementsOn j := by
      intro j
      rw [elementsOn, elementsOn, hpools, hstrays, Array.toList_push, List.map_append,
        List.sum_append, List.map_singleton, List.sum_singleton]
      abel
    refine h.out_of_set hbackings ?_ (fun j hne => ?_) hget
    · rwa [hsum, elementsAt, if_pos rfl]
    · rw [hsum, elementsAt, if_neg hne, zero_add]

end WF

/-- **A transition** keeps a session in order. -/
theorem Transition.wf {a : Action} {problem : Option Problem} (ht : s.Transition a problem s')
    (h : s.WF) : s'.WF := by
  cases ht with
  | idle => exact h.congr rfl rfl (Nat.le_refl _) rfl h.out
  | @dealt _ _ place cpu tenant b b' pool taken given held rest events htenant hbacking hwf hdeal
      hheld hheld' hproblem =>
    have hstrays : s.strays = holdings tenant taken + (rest + ↑s.lost) := by
      rw [strays, hheld, add_assoc]
    have hstrays' : (held : Multiset Holding) + ↑s.lost =
        holdings tenant given + (rest + ↑s.lost) := by
      rw [hheld', add_assoc]
    refine h.set htenant rfl rfl rfl hstrays hstrays' (fun t ht => ?_) ?_
    · cases ht
      have hold := h.tenant htenant
      have haccounts := h.accounts htenant
      rw [strayCount, hstrays, Multiset.countP_add, countP_holdings, Nat.add_comm] at haccounts
      refine ⟨⟨hwf, hdeal.sound hold.sound, hdeal.flow hold.flow⟩, rfl, hdeal.shape_eq.1, ?_⟩
      rw [strayCount, strays, hstrays', Multiset.countP_add, countP_holdings, Nat.add_comm]
      exact hdeal.accounts haccounts
    · have hout := h.out hbacking
      obtain ⟨others, hsum, hsum'⟩ := exists_sum_elementsAt tenant.backing htenant
      rw [elementsOn, hsum, elementsAt, if_pos rfl, hstrays, handlesOn_add, handlesOn_holdings,
        add_add_add_comm] at hout
      rw [elementsOn, hsum', elementsAt, if_pos rfl, strays, hstrays', handlesOn_add,
        handlesOn_holdings, add_add_add_comm]
      exact hdeal.out hout
  | forgot hpicked =>
    exact h.congr rfl (strays_lose hpicked) (Nat.le_refl _) rfl h.out
  | misfreed htenant hpicked hforeign =>
    exact h.congr rfl (strays_lose hpicked) (Nat.le_refl _) rfl h.out
  | built hbacking hplan hbuilt =>
    obtain ⟨hwf, hid, hsound, hflow, haccounts, hout⟩ := hbuilt.of_ok hplan (h.out hbacking)
    exact h.push hbacking rfl rfl rfl rfl hid ⟨hwf, hsound, hflow⟩ haccounts hout
  | abandoned hbacking hfailed hproblem =>
    exact h.congr rfl rfl (Nat.le_succ _) (Array.size_setIfInBounds ..)
      (h.out_of_set rfl (hfailed.of_error (h.out hbacking)).1 fun _ _ => rfl)
  | @destroyed place tenant b b' events htenant hbacking hreclaim =>
    have hstrays : s.strays = holdings tenant [] + s.strays := (zero_add _).symm
    refine h.set htenant rfl rfl rfl hstrays hstrays (fun t ht => by cases ht) ?_
    have hout := h.out hbacking
    obtain ⟨others, hsum, hsum'⟩ := exists_sum_elementsAt tenant.backing htenant
    rw [elementsOn, hsum, elementsAt, if_pos rfl, ← Stock.coe_contents, add_assoc] at hout
    obtain ⟨final, hfinal, hleft⟩ := LawfulBacking.out_reclaim hout
    rw [hreclaim] at hfinal
    cases hfinal
    rw [elementsOn, hsum', elementsAt, zero_add]
    exact hleft

/-! ## Runs -/

omit [LawfulBacking β] in
theorem follow_append (s : Session β) (first second : List Action) :
    s.follow (first ++ second) = (s.follow first).follow second := by
  induction first generalizing s with
  | nil => rfl
  | cons a first ih => exact ih (s.act a).2

namespace WF

theorem act_wf (h : s.WF) (a : Action) : (s.act a).2.WF := (h.act a).wf h

/-- **A run** keeps a session in order. -/
theorem follow (h : s.WF) (actions : List Action) : (s.follow actions).WF := by
  induction actions generalizing s with
  | nil => exact h
  | cons a actions ih => exact ih (h.act_wf a)

/-- A session over backings with nothing out, in which nothing was done, is in order. -/
theorem of_backings {backings : Array β} (hnew : ∀ b ∈ backings, LawfulBacking.Out b 0) :
    ({ backings } : Session β).WF := by
  have hnone : ∀ place, ({ backings } : Session β).tenant? place = none := fun place => rfl
  refine
    { tenant := fun ht => ?_, backing_lt := fun ht => ?_, id_lt := fun ht => ?_,
      id_inj := fun ht => ?_, stray_lt := fun hmem => ?_, stray_home := fun hmem => ?_,
      accounts := fun ht => ?_, out := fun hget => hnew _ (Array.mem_of_getElem? hget) }
  · cases (hnone _).symm.trans ht
  · cases (hnone _).symm.trans ht
  · cases (hnone _).symm.trans ht
  · cases (hnone _).symm.trans ht
  · cases hmem
  · cases hmem
  · cases (hnone _).symm.trans ht

/-- **Every session** over backings with nothing out is in order. -/
theorem after {backings : Array β} (hnew : ∀ b ∈ backings, LawfulBacking.Out b 0)
    (actions : List Action) : (Session.after backings actions).WF :=
  (of_backings hnew).follow actions

end WF

end Session

end TieredPool
