import TieredPool.Proofs.Session.Issue
import TieredPool.Proofs.Session.Laws

/-!
# Destroying a pool

A pool that is destroyed gives back all that is in its queues and nothing else, and nothing else of
the session changes. What the backing counts as live falls by as much. So if all elements that the
pool handed out had come back to it, the backing got back in its steps what it gave in them.
-/

namespace TieredPool

open BackingCall (grants returns)

theorem Pool.WF.length_contents {p : Pool} (h : p.WF) :
    p.contents.length = p.statistics.sharedLength +
      (p.allCpuStatistics.map CpuStatistics.localLength).sum := by
  have hlocal : p.allCpuStatistics.map CpuStatistics.localLength =
      p.stock.shelves.map fun shelf => shelf.items.length :=
    h.map_allCpuStatistics fun cache hcache _ => hcache.queue.length_toList.symm
  have hshared : p.stock.shared.length = p.statistics.sharedLength := h.shared.length_toList
  rw [← Pool.stock_contents, ← Multiset.coe_card, Stock.coe_contents, Stock.card_elements, hlocal,
    hshared]

namespace Session

section Step

variable {s : Session (Recorded Store)} {place : Nat} {tenant : Tenant} {r r' : Recorded Store}

/-- A store counts as live what it counted before less what it took back. -/
theorem live_reclaim {items : List Handle} {m : Multiset Handle}
    (hout : Recorded.auditing.Out r (↑items + m))
    (hreclaim : Backing.reclaim items r = (.ok (), r')) :
    r.backing.tally.live = r'.backing.tally.live + items.length := by
  let _ := Recorded.auditing
  obtain ⟨final, hfinal, hleft⟩ := LawfulBacking.out_reclaim hout
  rw [hreclaim] at hfinal
  cases hfinal
  rw [Store.Audited.live_eq hout.1, Store.Audited.live_eq hleft.1, Multiset.card_add,
    Multiset.coe_card, Nat.add_comm]

theorem contents_out (h : @WF _ _ Recorded.auditing s) (htenant : s.tenant? place = some tenant)
    (hbacking : s.backings[tenant.backing]? = some r) :
    ∃ m, Recorded.auditing.Out r (↑tenant.pool.contents + m) := by
  let _ := Recorded.auditing
  obtain ⟨m, hout⟩ := h.exists_out htenant hbacking (held_eq s tenant)
  rw [Multiset.coe_nil, add_zero, ← Stock.coe_contents, Pool.stock_contents] at hout
  exact ⟨m, hout⟩

/-- The calls of a destruction are those that give the contents back. -/
theorem issued_destroy {s' : Session (Recorded Store)}
    (hbacking : s.backings[tenant.backing]? = some r)
    (hreclaim : Backing.reclaim tenant.pool.contents r = (.ok (), r'))
    (hdestroy : (s.destroy place).2 = s')
    (hset : s'.backings = s.backings.setIfInBounds tenant.backing r') :
    issued place s [.destroy place] = tenant.pool.contents.map .freed := by
  have hact : (s.act (.destroy place)).2 = s' := hdestroy
  rw [issued, issued, List.append_nil, Action.worker?_of_place? rfl, if_pos rfl, hact]
  exact received_set hbacking (Recorded.calls_reclaim hreclaim) hset

/-- At its end a pool has obtained what it counted, and has returned what it counted and what was in
its queues. -/
theorem counts_issued_destroy {s' : Session (Recorded Store)} {calls : List BackingCall}
    (hledger : s.Ledger place calls) (htenant : s.tenant? place = some tenant)
    (hbacking : s.backings[tenant.backing]? = some r)
    (hreclaim : Backing.reclaim tenant.pool.contents r = (.ok (), r'))
    (hdestroy : (s.destroy place).2 = s')
    (hset : s'.backings = s.backings.setIfInBounds tenant.backing r') :
    grants (calls ++ issued place s [.destroy place]) = tenant.pool.traffic.allocs ∧
      returns (calls ++ issued place s [.destroy place]) =
        tenant.pool.traffic.frees + tenant.pool.contents.length := by
  obtain ⟨hallocs, hfrees⟩ := hledger.counts htenant
  rw [issued_destroy hbacking hreclaim hdestroy hset, BackingCall.grants_append,
    BackingCall.returns_append, BackingCall.grants_freed, BackingCall.returns_freed, hallocs,
    hfrees]
  exact ⟨rfl, rfl⟩

/-- A pool of which no element is outside its queues obtained what it returned and what it holds. -/
theorem allocs_eq (h : @WF _ _ Recorded.auditing s) (htenant : s.tenant? place = some tenant)
    (hnone : ∀ holding ∈ s.held ++ s.lost, holding.element.pool ≠ tenant.pool.id) :
    tenant.pool.traffic.allocs = tenant.pool.traffic.frees + tenant.pool.contents.length := by
  let _ := Recorded.auditing
  have haccounts := h.accounts htenant
  have hcount : s.strayCount tenant.pool.id = 0 := by
    rw [strayCount, strays, Multiset.coe_add, Multiset.countP_eq_zero]
    intro holding hmem
    exact hnone holding (Multiset.mem_coe.1 hmem)
  rw [Stock.Accounts, hcount, Nat.add_zero, ← Stock.coe_contents, Multiset.coe_card,
    Pool.stock_contents] at haccounts
  exact haccounts

end Step

/-- **Exhaustive destroy.** After every run over new stores, destroying a pool that is there does
not fail. It frees to its backing what is in its queues, each element once: the local queues by CPU
and then the shared one, each oldest first. What the backing counts as live falls by the number of
these. Other pools, other backings and the elements with callers stay as they are. And if no element
of the pool is with a caller or lost, the backing granted in the steps of this pool, from its
construction to its end, as many elements as it got back in them. -/
theorem after_destroys {backings : Array (Recorded Store)} (hnew : ∀ r ∈ backings, r.IsNew)
    (actions : List Action) (place : Nat) (tenant : Tenant)
    (htenant : (after backings actions).tenant? place = some tenant) :
    let s := after backings actions
    let s' := (s.destroy place).2
    (s.destroy place).1 = .ok () ∧
    (∃ r r' : Recorded Store,
      s.backings[tenant.backing]? = some r ∧ s'.backings[tenant.backing]? = some r' ∧
      r'.calls.toList = r.calls.toList ++ tenant.pool.contents.map .freed ∧
      tenant.pool.contents.Nodup ∧
      r.backing.tally.live = r'.backing.tally.live + (tenant.pool.statistics.sharedLength +
        (tenant.pool.allCpuStatistics.map CpuStatistics.localLength).sum)) ∧
    (∀ k, k ≠ tenant.backing → s'.backings[k]? = s.backings[k]?) ∧
    s'.tenant? place = none ∧ (∀ other, other ≠ place → s'.tenant? other = s.tenant? other) ∧
    s'.held = s.held ∧ s'.lost = s.lost ∧
    ((∀ holding ∈ s.held ++ s.lost, holding.element.pool ≠ tenant.pool.id) →
      let calls := issued place { backings } (actions ++ [.destroy place])
      returns calls = grants calls ∧
        s'.events.back? = some (.poolDestroyed tenant.pool.id (grants calls) (returns calls))) := by
  intro s s'
  let _ := Recorded.auditing
  have hstart : ({ backings } : Session (Recorded Store)).WF :=
    WF.of_backings fun r hmem => (hnew r hmem).audited
  have hledger : ({ backings } : Session (Recorded Store)).Ledger place [] :=
    ⟨fun _ => rfl, fun ht => by cases ht⟩
  have hrun : s.WF := hstart.follow actions
  have hcalls : s.Ledger place (issued place { backings } actions) :=
    hledger.follow hstart actions
  obtain ⟨r, hbacking⟩ := hrun.backing htenant
  obtain ⟨r', events, hreclaim, hdestroy⟩ := hrun.destroy_eq htenant hbacking
  obtain ⟨m, hout⟩ := contents_out hrun htenant hbacking
  rw [Pool.stock_contents] at hreclaim hdestroy
  have hs' : s' = _ := congrArg Prod.snd hdestroy
  have hpools : s'.pools = s.pools.setIfInBounds place none := by rw [hs']
  have hbackings : s'.backings = s.backings.setIfInBounds tenant.backing r' := by rw [hs']
  have hlt := hrun.backing_lt htenant
  refine ⟨congrArg Prod.fst hdestroy,
    ⟨r, r', hbacking, ?_, Recorded.calls_reclaim hreclaim, ?_, ?_⟩, fun k hk => ?_, ?_,
    fun other hother => ?_, by rw [hs'], by rw [hs'], fun hnone => ?_⟩
  · rw [hbackings, Array.getElem?_setIfInBounds_self_of_lt hlt]
  · exact (Multiset.nodup_add.1 (LawfulBacking.nodup hout)).1
  · rw [live_reclaim hout hreclaim, (hrun.tenant htenant).pool.length_contents]
  · rw [hbackings, Array.getElem?_setIfInBounds_ne hk.symm]
  · rw [tenant?_of_set hpools htenant, if_pos rfl]
  · rw [tenant?_of_set hpools htenant, if_neg hother.symm]
  · obtain ⟨hgrants, hreturns⟩ :=
      counts_issued_destroy hcalls htenant hbacking hreclaim rfl hbackings
    dsimp only
    rw [issued_append, show follow { backings } actions = s from rfl, hgrants, hreturns]
    refine ⟨(allocs_eq hrun htenant hnone).symm, ?_⟩
    rw [hs', Array.back?_push]

/-- A pool is built and refilled, and the elements that were allocated are freed. -/
def refillAndReturn : List Action :=
  [.build { localSize := 16, sharedSize := 64, preallocate := 3, cpus := some 2 } (some 0),
    .lease 0 1, .allocate 0 1 .none, .allocate 0 1 .none, .free 0 1 .last, .free 0 1 .first]

/-- All 36 elements that the pool obtained are still in its queues, and go back. -/
theorem after_destroys_refillAndReturn :
    (∀ r ∈ smallHeap, r.IsNew) ∧
    (∃ tenant, (after smallHeap refillAndReturn).tenant? 0 = some tenant) ∧
    ((after smallHeap refillAndReturn).destroy 0).1 = .ok () ∧
    returns (issued 0 { backings := smallHeap } (refillAndReturn ++ [.destroy 0])) = 36 := by
  have hthere : ((after smallHeap refillAndReturn).tenant? 0).isSome := by decide +kernel
  have hnone : (after smallHeap refillAndReturn).held ++ (after smallHeap refillAndReturn).lost =
      [] := by decide +kernel
  have hgrants : grants (issued 0 { backings := smallHeap } (refillAndReturn ++ [.destroy 0])) =
      36 := by decide +kernel
  obtain ⟨tenant, htenant⟩ := Option.isSome_iff_exists.1 hthere
  obtain ⟨hok, -, -, -, -, -, -, hbalance⟩ :=
    after_destroys smallHeap_isNew refillAndReturn 0 tenant htenant
  refine ⟨smallHeap_isNew, ⟨tenant, htenant⟩, hok, ?_⟩
  rw [(hbalance (by rw [hnone]; intro holding hmem; cases hmem)).1, hgrants]

end Session

end TieredPool
