import TieredPool.Proofs.Backing.Grants
import TieredPool.Proofs.Session.Exhaustion
import TieredPool.Proofs.Session.Lessee

/-!
# Refills that are cut short

An allocation that finds nothing in the queues asks the backing for one element and for two batches
more. The backing may refuse any of these requests, and then no other is made. Whatever came before
is kept: the first element goes to the caller, and the others to the end of the shared queue in the
order in which they came.
-/

namespace TieredPool

/-- **A refill** comes to nothing if the first request is refused, and keeps all that the backing
gives if not. -/
theorem Allocation.of_dry {β : Type} [Backing β] {cpu : Nat} {flags : AllocFlags} {d d' : Depot β}
    {answer : Option Handle} {f : Figures} (h : Allocation cpu flags d answer d')
    (hf : d.stock.figures? cpu = some f) (hdry : f.Dry) :
    (answer = none ∧ (Backing.supply flags (1 + batch * refillBatches) d.backing).1 = [] ∧
      d'.stock = d.stock) ∨
    ∃ x xs, answer = some x ∧
      (Backing.supply flags (1 + batch * refillBatches) d.backing).1 = x :: xs ∧
      d'.stock =
        { d.stock with
          shared := d.stock.shared ++ xs
          traffic :=
            { d.stock.traffic with
              allocs := d.stock.traffic.allocs + (1 + xs.length)
              refills := d.stock.traffic.refills + 1 } } := by
  obtain ⟨shelf, hshelf, rfl⟩ := Option.map_eq_some_iff.1 hf
  obtain ⟨hempty, hshort⟩ := hdry
  cases h with
  | cached hshelf' hitems =>
    obtain rfl := Option.some.inj (hshelf.symm.trans hshelf')
    rw [List.eq_nil_of_length_eq_zero hempty] at hitems
    cases hitems
  | @shared _ x xs rest _ _ hshared hlen =>
    have hlength : d.stock.shared.length < batch := hshort
    rw [hshared, List.length_cons, List.length_append, hlen, batch] at hlength
    omega
  | supplied _ _ _ hsupply => exact .inr ⟨_, _, rfl, congrArg Prod.fst hsupply, rfl⟩
  | refused _ _ _ halloc =>
    refine .inl ⟨rfl, ?_, rfl⟩
    rw [Nat.add_comm, Backing.supply, halloc]

namespace Session

/-- **Refills lose nothing.** After every run over backings with nothing out, an allocation on a
leased CPU calls the backing if the local queue is empty and the shared one has fewer than 16
elements, and only then. Every call is a request with the flags of the allocation, and after a
refusal there is none. If the backing refuses the first request, the allocation runs out of memory
and the queues stay as they are. If not, the caller gets the first element, the others are put at
the end of the shared queue in the order in which they came, and nothing else changes in the pool
but the counts of one refill and of the elements that came. The backing gives as many elements as it
grants before it refuses, but 33 at most. -/
theorem after_refills {β : Type} [Backing β] [LawfulBacking β] {backings : Array (Recorded β)}
    (hnew : ∀ r ∈ backings, LawfulBacking.Out r 0) (actions : List Action) {place cpu : Nat}
    {tenant : Tenant} {f : Figures} (htenant : (after backings actions).tenant? place = some tenant)
    (hleased : (tenant.pool.leaseOf? cpu).isSome) (hf : tenant.pool.figures? cpu = some f)
    (flags : AllocFlags) :
    let s := after backings actions
    let result := (s.allocate place cpu flags).1
    let calls := issued place s [.allocate place cpu flags]
    (calls ≠ [] ↔ f.cpu.localLength = 0 ∧ f.pool.sharedLength < 16) ∧
    (calls ≠ [] → ∃ r tenant', s.backings[tenant.backing]? = some r ∧
      (s.allocate place cpu flags).2.tenant? place = some tenant' ∧
      (calls.length : ℕ∞) = min (Backing.grantsAhead flags r + 1) 33 ∧
      (Backing.grantsAhead flags r = 0 →
        result = .error .outOfMemory ∧ calls = [.refused flags] ∧
          tenant'.pool.stock = tenant.pool.stock) ∧
      (Backing.grantsAhead flags r ≠ 0 → ∃ (x : Handle) (xs : List Handle),
        result = .ok ⟨x, tenant.pool.id⟩ ∧
        ((x :: xs).length : ℕ∞) = min (Backing.grantsAhead flags r) 33 ∧
        calls = (x :: xs).map (.granted flags) ++
          (if (x :: xs).length < 33 then [.refused flags] else []) ∧
        tenant'.pool.stock =
          { tenant.pool.stock with
            shared := tenant.pool.stock.shared ++ xs
            traffic :=
              { tenant.pool.stock.traffic with
                allocs := tenant.pool.stock.traffic.allocs + (x :: xs).length
                refills := tenant.pool.stock.traffic.refills + 1 } })) := by
  intro s result calls
  have hs : s.WF := WF.after hnew actions
  obtain ⟨r, hlessee⟩ := hs.exists_lessee htenant hleased hf
  have hcalls : calls = _ := hlessee.issued_allocate flags
  have hreaches : calls ≠ [] ↔ f.Dry :=
    not_iff_comm.1 (hlessee.issued_allocate_eq_nil_iff flags).symm
  refine ⟨hreaches, fun hne => ?_⟩
  have hdry := hreaches.1 hne
  obtain ⟨lease, hlease⟩ := Option.isSome_iff_exists.1 hleased
  rw [(hs.tenant htenant).pool.figures?_eq] at hf
  obtain ⟨answer, d, pool, events, hout, -, hstock, hallocate⟩ :=
    hs.allocate_eq htenant hlessee.backing hlease flags
  have hlength := Backing.length_supply_eq_min flags (1 + batch * refillBatches) r
  have hrequests := Backing.length_requests_eq_min flags (1 + batch * refillBatches) r
  have hcount : 1 + batch * refillBatches = 33 := rfl
  rw [if_pos hdry] at hcalls
  simp only [hcount] at hcalls hlength hrequests
  refine ⟨r, ⟨pool, tenant.backing⟩, hlessee.backing, ?_, ?_, ?_⟩
  · rw [hallocate, tenant?_of_set rfl htenant, if_pos rfl]
  · rw [hcalls, List.length_append, List.length_map, apply_ite List.length]
    exact hrequests
  rcases hout.of_dry hf hdry with ⟨rfl, hnone, hsame⟩ | ⟨x, xs, rfl, hsome, hchanged⟩
  · have hzero := (Backing.supply_eq_nil_iff (by decide) r).1 hnone
    rw [hcount] at hnone
    refine ⟨fun _ => ⟨?_, ?_, hstock.trans hsame⟩, fun hsome => absurd hzero hsome⟩
    · exact congrArg Prod.fst hallocate
    · rw [hcalls, hnone]
      rfl
  · have hgrants : Backing.grantsAhead flags r ≠ 0 := fun hzero =>
      List.cons_ne_nil x xs (hsome ▸ (Backing.supply_eq_nil_iff (by decide) r).2 hzero)
    rw [hcount] at hsome
    rw [hsome] at hcalls hlength
    refine ⟨fun hzero => absurd hzero hgrants, fun _ => ⟨x, xs, ?_, hlength, hcalls, ?_⟩⟩
    · exact congrArg Prod.fst hallocate
    · rw [hstock, hchanged, List.length_cons, Nat.add_comm xs.length]

/-- A pool with three elements in its shared queue and one leased CPU. -/
def threeReady : List Action :=
  [.build { localSize := 16, sharedSize := 64, preallocate := 3, cpus := some 1 } (some 0),
    .lease 0 0]

/-- A heap that may have 20 elements out gives one element and one batch, and refuses the first
request for the second batch. The batch follows the three elements that were there. -/
theorem after_refills_threeReady :
    let s := after (limitedHeap 20) threeReady
    (∀ r ∈ limitedHeap 20, LawfulBacking.Out r 0) ∧
    ∃ tenant f, s.tenant? 0 = some tenant ∧ (tenant.pool.leaseOf? 0).isSome ∧
      tenant.pool.figures? 0 = some f ∧ (issued 0 s [.allocate 0 0 .none]).length = 18 ∧
      ∃ (tenant' : Tenant) (x : Handle) (xs : List Handle), xs.length = 16 ∧
        (s.allocate 0 0 .none).1 = .ok ⟨x, 1⟩ ∧
        (s.allocate 0 0 .none).2.tenant? 0 = some tenant' ∧
        tenant'.pool.stock.shared = tenant.pool.stock.shared ++ xs := by
  intro s
  have hnew : ∀ r ∈ limitedHeap 20, LawfulBacking.Out r 0 := fun r hmem =>
    (limitedHeap_isNew 20 r hmem).out
  have hpool : (s.tenant? 0).map (fun tenant =>
      ((tenant.pool.leaseOf? 0).isSome, tenant.backing, tenant.pool.id,
        tenant.pool.figures? 0)) =
      some (true, 0, 1, some ⟨1, 16, 64, ⟨3, 0, 0, 0, 3, 3⟩, ⟨0, some 0, 0, 0, 0, 0⟩⟩) := by
    decide +kernel
  have hrefused : s.backings[0]?.map (fun r => decide (Backing.RefusesAfter .none 17 r)) =
      some true := by decide +kernel
  have hreaches : issued 0 s [.allocate 0 0 .none] ≠ [] := by decide +kernel
  obtain ⟨tenant, htenant, hpool⟩ := Option.map_eq_some_iff.1 hpool
  simp only [Prod.mk.injEq] at hpool
  obtain ⟨hleased, hhome, hid, hf⟩ := hpool
  obtain ⟨r, tenant', hr, htenant', hcalls, -, hsome⟩ :=
    (after_refills hnew threeReady htenant hleased hf .none).2 hreaches
  rw [hhome] at hr
  rw [hr, Option.map_some, Option.some_inj, decide_eq_true_iff] at hrefused
  have hgrants := Backing.grantsAhead_eq hrefused
  rw [hgrants] at hcalls hsome
  obtain ⟨x, xs, hresult, hlength, -, hstock⟩ := hsome (by decide)
  rw [hid] at hresult
  rw [List.length_cons] at hlength
  refine ⟨hnew, tenant, _, htenant, hleased, hf, ?_, tenant', x, xs, ?_, hresult, htenant',
    congrArg Stock.shared hstock⟩
  · exact Nat.cast_inj.1 (hcalls.trans (min_eq_left (by decide)))
  · exact Nat.succ.inj (Nat.cast_inj.1 (hlength.trans (min_eq_left (by decide))))

end Session

end TieredPool
