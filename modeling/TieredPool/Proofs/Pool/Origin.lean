import TieredPool.Proofs.Backing.Calls
import TieredPool.Proofs.Pool.Building
import TieredPool.Proofs.Pool.Dealing

/-!
# Where the elements of a pool come from

A backing may serve several pools, and then its calls say which elements are out but not which pool
has them. The calls that one pool makes, read on their own and as strictly as those of a backing,
account for the elements of that pool: what it was granted and did not return is what it holds and
what callers have from it (`Dealing.exists_account`). So an element in its queues was granted to the
pool itself, and since then no other pool has returned it.
-/

namespace TieredPool

/-! ## Runs of requests and returns, on an account -/

namespace Recorded

variable {β : Type} [Backing β] [LawfulBacking β]

/-- Whoever has some of the elements that are out can add what a run of requests brings. -/
theorem exists_account_supply {r : Recorded β} {m : Multiset Handle} (h : LawfulBacking.Out r m)
    (flags : AllocFlags) (count : Nat) :
    ∃ calls, (Backing.supply flags count r).2.calls.toList = r.calls.toList ++ calls ∧
      ∀ own : List Handle, (∀ x ∈ own, x ∈ m) → ∃ own',
        calls.foldlM BackingCall.account own = some own' ∧
          (own' : Multiset Handle) = ↑(Backing.supply flags count r).1 + ↑own := by
  induction count generalizing r m with
  | zero => exact ⟨[], (List.append_nil _).symm, fun own _ => ⟨own, rfl, (zero_add _).symm⟩⟩
  | succ count ih =>
    have hcalls := calls_alloc flags r
    rw [Backing.supply]
    rcases halloc : Backing.alloc flags r with ⟨_ | x, r'⟩ <;> rw [halloc] at hcalls
    · exact ⟨[.refused flags], hcalls, fun own _ => ⟨own, rfl, (zero_add _).symm⟩⟩
    · have hout := LawfulBacking.alloc_some h halloc
      have hnew := (Multiset.nodup_cons.1 (LawfulBacking.nodup hout)).1
      obtain ⟨calls, hrest, haccount⟩ := ih hout
      refine ⟨.granted flags x :: calls, ?_, fun own hown => ?_⟩
      · rw [hrest, hcalls, List.append_assoc, List.singleton_append]
      · obtain ⟨own', hcount, heq⟩ := haccount (x :: own) fun y hmem => by
          rcases List.mem_cons.1 hmem with rfl | hmem
          · exact Multiset.mem_cons_self y m
          · exact Multiset.mem_cons_of_mem (hown y hmem)
        refine ⟨own', ?_, ?_⟩
        · rw [List.foldlM_cons, BackingCall.account, if_neg fun hmem => hnew (hown x hmem)]
          exact hcount
        · dsimp only
          rw [heq, ← Multiset.cons_coe, ← Multiset.cons_coe, Multiset.add_cons, Multiset.cons_add]

end Recorded

/-- Whoever has these elements can return them. -/
theorem BackingCall.exists_account_freed {items own : List Handle} {rest : Multiset Handle}
    (hown : (own : Multiset Handle) = ↑items + rest) :
    ∃ own', (items.map freed).foldlM account own = some own' ∧
      (own' : Multiset Handle) = rest := by
  induction items generalizing own with
  | nil => exact ⟨own, rfl, hown.trans (zero_add rest)⟩
  | cons x items ih =>
    rw [← Multiset.cons_coe, Multiset.cons_add] at hown
    have hmem : x ∈ own := by
      rw [← Multiset.mem_coe, hown]
      exact Multiset.mem_cons_self x _
    have hrest : ((own.erase x : List Handle) : Multiset Handle) = ↑items + rest := by
      rw [← Multiset.coe_erase, hown, Multiset.erase_cons_head]
    obtain ⟨own', hcount, heq⟩ := ih hrest
    refine ⟨own', ?_, heq⟩
    rw [List.map_cons, List.foldlM_cons, account, if_pos hmem]
    exact hcount

/-! ## Dealings, on the account of their pool -/

section Dealings

variable {β : Type} [Backing β] [LawfulBacking β] {cpu : Nat} {d d' : Depot (Recorded β)}

/-- **In every dealing** the calls of the pool keep its account, which is of what it holds, what the
caller parts with or gets, and its elements with others. -/
theorem Dealing.exists_account {taken given : List Handle} (h : Dealing cpu d taken given d')
    {m others : Multiset Handle} (hout : LawfulBacking.Out d.backing m) {own : List Handle}
    (hown : (own : Multiset Handle) = d.stock.elements + ↑taken + others)
    (hmem : ∀ x ∈ own, x ∈ m) :
    ∃ calls own', d'.backing.calls.toList = d.backing.calls.toList ++ calls ∧
      calls.foldlM BackingCall.account own = some own' ∧
      (own' : Multiset Handle) = d'.stock.elements + ↑given + others := by
  -- most dealings make no calls
  have hquiet : d'.backing = d.backing →
      d'.stock.elements + ↑given = d.stock.elements + ↑taken →
      ∃ calls own', d'.backing.calls.toList = d.backing.calls.toList ++ calls ∧
        calls.foldlM BackingCall.account own = some own' ∧
        (own' : Multiset Handle) = d'.stock.elements + ↑given + others := by
    intro hbacking helements
    refine ⟨[], own, ?_, rfl, ?_⟩
    · rw [hbacking, List.append_nil]
    · rw [hown, helements]
  cases h with
  | leased =>
    refine hquiet rfl ?_
    dsimp only
    rw [elements_onShelf _ _ (by exact fun _ => rfl)]
  | unleased =>
    refine hquiet rfl ?_
    dsimp only
    rw [elements_onShelf _ _ (by exact fun _ => rfl)]
  | @allocated flags answer d' h =>
    obtain ⟨got, helements, hallocs, -, -⟩ := h.conserves
    have hnothing : d'.stock.traffic.allocs = d.stock.traffic.allocs →
        d'.stock.elements + ↑answer.toList = d.stock.elements + ↑([] : List Handle) := by
      intro hsame
      obtain rfl := List.eq_nil_of_length_eq_zero (show got.length = 0 by omega)
      exact helements
    cases h with
    | cached => exact hquiet rfl (hnothing rfl)
    | shared => exact hquiet rfl (hnothing rfl)
    | @supplied shelf x xs backing hshelf hempty hshort hsupply =>
      obtain ⟨calls, hcalls, haccount⟩ :=
        Recorded.exists_account_supply hout flags (1 + batch * refillBatches)
      rw [hsupply] at hcalls haccount
      obtain ⟨own', hcount, heq⟩ := haccount own hmem
      refine ⟨calls, own', hcalls, hcount, ?_⟩
      rw [heq, hown, Stock.elements_refilled, Option.toList_some, ← Multiset.cons_coe,
        ← Multiset.singleton_add, Multiset.coe_singleton, Multiset.coe_nil]
      abel
    | @refused shelf backing hshelf hempty hshort halloc =>
      have hcalls := Recorded.calls_alloc flags d.backing
      rw [halloc] at hcalls
      exact ⟨_, own, hcalls, rfl, hown⟩
  | @released x d' h =>
    obtain ⟨back, helements, -, hfrees, -⟩ := h.conserves
    have hnothing : d'.stock.traffic.frees = d.stock.traffic.frees →
        d'.stock.elements + ↑([] : List Handle) = d.stock.elements + ↑[x] := by
      intro hsame
      obtain rfl := List.eq_nil_of_length_eq_zero (show back.length = 0 by omega)
      exact helements
    cases h with
    | cached => exact hquiet rfl (hnothing rfl)
    | overflowed => exact hquiet rfl (hnothing rfl)
    | @drained shelf xs rest ys kept backing hshelf hfull hitems hlen hnoroom hshared hys hreclaim =>
      have hsplit : ∀ left : Multiset Handle, left + ↑(x :: xs ++ ys) = d.stock.elements + {x} →
          (own : Multiset Handle) = ↑(x :: xs ++ ys) + (left + others) := by
        intro left hleft
        rw [hown, Multiset.coe_singleton, ← hleft]
        abel
      have hmoved := Stock.elements_drained x d.stock.traffic hshelf hitems hshared
        (f := fun s =>
          { s with items := rest, overflows := s.overflows + 1, drains := s.drains + 1 }) rfl
      obtain ⟨own', hcount, heq⟩ := BackingCall.exists_account_freed (hsplit _ hmoved)
      refine ⟨_, own', Recorded.calls_reclaim hreclaim, hcount, heq.trans ?_⟩
      rw [Multiset.coe_nil, add_zero]
      rfl

end Dealings

end TieredPool
