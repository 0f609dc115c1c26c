import TieredPool.Proofs.Backing.Accounting
import TieredPool.Proofs.Session.Sizing

/-!
# Heaps that pools share

What a heap counts is said of requests (`Heap.Accounted`), whoever makes them. Pools that share a
heap make requests of the kind it is said of: the calls that a backing received in a session tell
what was asked of it, and only what was out came back. So every session leaves a heap in a state that
permitted requests lead to, and all that is said of those holds of it (`Heap.accounts_serveAll`).
-/

namespace TieredPool

open Backing (Request)
open BackingCall (grants returns refusals request)

/-! ## Requests read off the calls -/

namespace Recorded

variable {β : Type} [Backing β]

/-- The calls list what was asked, in order. -/
theorem map_request_serveAll (r : Recorded β) (requests : List Request) :
    (Backing.serveAll r requests).calls.toList.map request =
      r.calls.toList.map request ++ requests := by
  induction requests generalizing r with
  | nil => simp [Backing.serveAll]
  | cons request requests ih =>
    obtain ⟨call, hcalls, rfl⟩ := exists_calls_serve r request
    have hrest := ih (Backing.serve r call.request)
    rw [hcalls] at hrest
    simp only [Backing.serveAll, List.foldl_cons] at hrest ⊢
    rw [hrest]
    simp

/-- A backing is what serving the requests in its calls makes of a new one. -/
theorem keeps_served (new : Recorded β) :
    Backing.Keeps fun r => Backing.serveAll new (r.calls.toList.map request) = r := by
  have hserve : ∀ {r : Recorded β} (asked : Request),
      Backing.serveAll new (r.calls.toList.map request) = r →
      Backing.serveAll new ((Backing.serve r asked).calls.toList.map request) =
        Backing.serve r asked := by
    intro r asked hr
    obtain ⟨call, hcalls, rfl⟩ := exists_calls_serve r asked
    rw [hcalls, List.map_append, Backing.serveAll_append, hr]
    rfl
  refine ⟨?_, ?_⟩
  · intro r flags hr
    exact hserve (.alloc flags) hr
  · intro r x hr
    exact hserve (.free x) hr

theorem isSome_out?_of_serveAll {r : Recorded β} {requests : List Request}
    (h : (Backing.serveAll r requests).out?.isSome) : r.out?.isSome := by
  induction requests generalizing r with
  | nil => exact h
  | cons request requests ih =>
    have hnext : (Backing.serve r request).out?.isSome := ih h
    obtain ⟨call, hcalls, -⟩ := exists_calls_serve r request
    rw [out?, hcalls, List.foldlM_append] at hnext
    exact Option.isSome_of_isSome_bind hnext

/-- Requests whose calls tell what is out were allowed. -/
theorem permits_of_isSome {r : Recorded β} {requests : List Request}
    (h : (Backing.serveAll r requests).out?.isSome) : r.Permits requests := by
  induction requests generalizing r with
  | nil => trivial
  | cons request requests ih =>
    refine ⟨?_, ih h⟩
    have hnext : (Backing.serve r request).out?.isSome := isSome_out?_of_serveAll h
    cases request with
    | alloc flags => trivial
    | free x =>
      rw [out?, Backing.serve, calls_free, List.foldlM_append] at hnext
      obtain ⟨out, hout⟩ := Option.isSome_iff_exists.1 (Option.isSome_of_isSome_bind hnext)
      rw [hout] at hnext
      have hout' : r.out? = some out := hout
      rw [Allows, hout', Option.getD_some]
      by_cases hmem : x ∈ out
      · exact hmem
      · simp [BackingCall.account, hmem] at hnext

end Recorded

/-- A session makes only such requests of a backing as are permitted. -/
theorem Session.exists_requests {β : Type} [Backing β] [LawfulBacking β]
    {backings : Array (Recorded β)} (hout : ∀ r ∈ backings, LawfulBacking.Out r 0) {k : Nat}
    {new r : Recorded β} (hget : backings[k]? = some new) (hnew : new.calls = #[])
    {actions : List Action} (hr : (after backings actions).backings[k]? = some r) :
    ∃ requests, new.Permits requests ∧ Backing.serveAll new requests = r := by
  have hserved : Backing.serveAll new (r.calls.toList.map request) = r := by
    refine WF.follow_keeps (Recorded.keeps_served new) (WF.of_backings hout) ?_ actions r hr
    intro b hb
    obtain rfl := Option.some.inj (hget.symm.trans hb)
    rw [hnew]
    rfl
  refine ⟨_, ?_, hserved⟩
  apply Recorded.permits_of_isSome
  obtain ⟨-, out, hcalls, -⟩ := (WF.after hout actions).out hr
  rw [hserved, hcalls]
  rfl

namespace Heap

/-- **What a heap counts**, whatever its limit and whatever the system refuses, after any requests of
callers who give back only what is out. The elements held differ, and their number is what is held
against the limit and what the tally counts as live; it is within the limit. The tally counts the
requests met, the elements that came back and the requests refused. A request is refused if the
limit is reached or the system refuses, and in no other case; it then counts as a failure and changes
nothing else. Requests that the system meets are met until the limit is reached. And pools that share
the heap in a session make no other requests. -/
theorem accounts_serveAll (layout : Layout) (limit : Option Nat) (systemRefuses : Nat → Bool)
    (memory : Memory) :
    let new : Recorded Heap := { backing := ⟨layout, limit, 0, {}, systemRefuses, memory⟩ }
    (∀ requests, new.Permits requests →
      let r := Backing.serveAll new requests
      let h := r.backing
      let calls := r.calls.toList
      ∃ held, r.out? = some held ∧ held.Nodup ∧ calls.map request = requests ∧
        h.live = held.length ∧ h.tally.allocations = h.tally.deallocations + held.length ∧
        h.tally.live = held.length ∧ (∀ n, limit = some n → h.live ≤ n) ∧
        h.tally = ⟨grants calls, returns calls, refusals calls⟩ ∧
        (∀ flags, (h.alloc flags).1 = none ↔
          limit = some h.live ∨ systemRefuses (grants calls + refusals calls) = true) ∧
        (∀ flags, (h.alloc flags).1 = none →
          (h.alloc flags).2 = { h with tally := h.tally.failed }) ∧
        ∀ flags count,
          (∀ i < count, systemRefuses (grants calls + refusals calls + i) = false) →
          (∀ n, limit = some n → h.live + count ≤ n) →
          (Backing.supply flags count h).1.length = count) ∧
    ∀ heaps : Array (Recorded Heap), (∀ r ∈ heaps, LawfulBacking.Out r 0) →
      ∀ k : Nat, heaps[k]? = some new → ∀ actions r,
        (Session.after heaps actions).backings[k]? = some r →
        ∃ requests, new.Permits requests ∧ Backing.serveAll new requests = r := by
  intro new
  refine ⟨?_, ?_⟩
  · intro requests hpermits r h calls
    obtain ⟨m, haccounted⟩ := (Accounted.of_new layout : Accounted new 0).serveAll hpermits
    obtain ⟨held, hheld, -, hnodup, hlive, hbalance⟩ := haccounted.exists_held
    have hfixed : h.limit = limit ∧ h.systemRefuses = systemRefuses :=
      (keeps_fixed limit systemRefuses).recorded.serveAll requests ⟨rfl, rfl⟩
    have htally : h.tally = ⟨grants calls, returns calls, refusals calls⟩ := haccounted.tally_eq
    have hasked : h.requests = grants calls + refusals calls := by
      unfold Heap.requests
      rw [htally]
    have hwithin : ∀ n, limit = some n → h.live ≤ n := by
      intro n hn
      exact haccounted.live_le (hfixed.1.trans hn)
    refine ⟨held, hheld, hnodup, Recorded.map_request_serveAll new requests, hlive, hbalance, ?_,
      hwithin, htally, ?_, fun flags => alloc_snd_of_none, ?_⟩
    · unfold Tally.live
      rw [hbalance, Nat.add_sub_cancel_left]
    · intro flags
      rw [alloc_fst_eq_none_iff, Refuses, atLimit_eq_true_iff, hfixed.1, hfixed.2, hasked]
      apply or_congr_left
      constructor
      · rintro ⟨n, hn, hle⟩
        rw [hn, Nat.le_antisymm hle (hwithin n hn)]
      · intro hn
        exact ⟨_, hn, Nat.le_refl _⟩
    · intro flags count hsystem hroom
      apply length_supply_eq
      · rw [hfixed.2, hasked]
        exact hsystem
      · rw [hfixed.1]
        exact hroom
  · intro heaps hout k hget actions r hr
    exact Session.exists_requests hout hget rfl hr

/-- Two elements at most may be out, and the system refuses the second request. -/
def tight : Recorded Heap :=
  { backing := ⟨⟨64, 8⟩, some 2, 0, {}, fun n => n == 1, .untouched⟩ }

/-- Two pools on one heap. The second one allocates until the limit is reached, so the first one gets
nothing; then it gives back what it preallocated. -/
def twoPools : List Session.Action :=
  [.build { localSize := 16, sharedSize := 64, preallocate := 1, cpus := some 1 } (some 0),
    .build { localSize := 16, sharedSize := 64, preallocate := 0, cpus := some 1 } (some 0),
    .lease 1 0, .allocate 1 0 .zero, .allocate 1 0 .none, .lease 0 0, .allocate 0 0 .none,
    .destroy 0]

/-- The place that was reserved before the system refused is taken later, and the fourth request
finds the limit reached. Two pools make such requests, too. -/
theorem accounts_serveAll_tight :
    let requests : List Request :=
      [.alloc .zero, .alloc .none, .alloc .none, .alloc .none, .free 0]
    tight.Permits requests ∧
    (∃ held, (Backing.serveAll tight requests).out? = some held ∧ held = [1] ∧
      (Backing.serveAll tight requests).backing.live = held.length ∧
      (Backing.serveAll tight requests).backing.tally = ⟨2, 1, 2⟩ ∧
      (Backing.supply .none 1 (Backing.serveAll tight requests).backing).1.length = 1) ∧
    (∀ r ∈ #[tight], LawfulBacking.Out r 0) ∧
    ∃ r, (Session.after #[tight] twoPools).backings[0]? = some r ∧
      r.backing.tally = ⟨2, 1, 3⟩ ∧
      ∃ requests, tight.Permits requests ∧ Backing.serveAll tight requests = r := by
  intro requests
  have hpermits : tight.Permits requests := by decide +kernel
  have hout : ∀ r ∈ #[tight], LawfulBacking.Out r 0 := by
    intro r hmem
    obtain rfl := List.mem_singleton.1 (Array.mem_toList_iff.2 hmem)
    exact (Accounted.of_new _).out
  obtain ⟨hserved, hshared⟩ := accounts_serveAll ⟨64, 8⟩ (some 2) (fun n => n == 1) .untouched
  obtain ⟨held, hheld, -, -, hlive, -, -, -, -, -, -, hmet⟩ := hserved requests hpermits
  have hone : (Backing.serveAll tight requests).out? = some [1] := by decide +kernel
  obtain rfl := Option.some.inj (hone.symm.trans hheld)
  have htally : ((Session.after #[tight] twoPools).backings[0]?).map
      (fun r => r.backing.tally) = some ⟨2, 1, 3⟩ := by decide +kernel
  obtain ⟨r, hr, htally⟩ := Option.map_eq_some_iff.1 htally
  refine ⟨hpermits, ⟨[1], hone, rfl, hlive, by decide +kernel, ?_⟩, hout, r, hr, htally,
    hshared _ hout 0 rfl twoPools r hr⟩
  apply hmet .none 1
  · decide +kernel
  · rintro n ⟨⟩
    decide +kernel

end Heap

end TieredPool
