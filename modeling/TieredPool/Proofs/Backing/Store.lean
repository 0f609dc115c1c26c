import TieredPool.Backing.Store
import TieredPool.Proofs.Backing.Chunks

/-!
# Stores are lawful

A heap hands out serial numbers, so what is out lies below the number of requests met. A recorded
backing knows what is out from its list of calls alone (`Recorded.out?`): the list is read strictly,
so an element that goes out twice or comes back unasked leaves no answer.
-/

namespace TieredPool

namespace Heap

/-- The elements out of a heap: as many as it counts, with serial numbers it has used. -/
structure Out (h : Heap) (m : Multiset Handle) : Prop where
  live_eq : h.live = m.card
  nodup : m.Nodup
  lt : ∀ x ∈ m, x < h.tally.allocations

theorem Out.alloc {h : Heap} {m : Multiset Handle} (hout : h.Out m) (flags : AllocFlags) :
    (h.alloc flags).2.Out (↑(h.alloc flags).1.toList + m) := by
  rw [Heap.alloc, reserve?]
  by_cases hlimit : h.atLimit = true
  · rw [if_pos hlimit, refuse, Option.toList_none, Multiset.coe_nil, Multiset.zero_add]
    exact ⟨hout.live_eq, hout.nodup, hout.lt⟩
  · rw [if_neg hlimit]
    by_cases hsystem : h.systemRefuses h.requests = true
    · simp only [hsystem, ↓reduceIte, refuse, unreserve, Option.toList_none, Multiset.coe_nil,
        Multiset.zero_add]
      exact ⟨hout.live_eq, hout.nodup, hout.lt⟩
    · simp only [hsystem, grant, Bool.false_eq_true, ↓reduceIte, Option.toList_some,
        Multiset.coe_singleton, Multiset.singleton_add]
      refine ⟨?_, ?_, fun x hx => ?_⟩
      · rw [Multiset.card_cons, ← hout.live_eq]
      · exact Multiset.nodup_cons.2 ⟨fun hmem => Nat.lt_irrefl _ (hout.lt _ hmem), hout.nodup⟩
      · rcases Multiset.mem_cons.1 hx with rfl | hx
        · exact Nat.lt_succ_self _
        · exact Nat.lt_succ_of_lt (hout.lt x hx)

theorem Out.free {h : Heap} {m : Multiset Handle} {x : Handle} (hout : h.Out (x ::ₘ m)) :
    (h.free x).Out m := by
  refine ⟨?_, (Multiset.nodup_cons.1 hout.nodup).2, fun y hy => hout.lt y ?_⟩
  · have hlive := hout.live_eq
    rw [Multiset.card_cons] at hlive
    simp only [Heap.free, hlive, Nat.add_sub_cancel]
  · exact Multiset.mem_cons_of_mem hy

end Heap

namespace Store

def Out : Store → Multiset Handle → Prop
  | heap h => h.Out
  | chunks c => c.Out

theorem Out.nodup {s : Store} {m : Multiset Handle} (h : s.Out m) : m.Nodup := by
  cases s with
  | heap _ => exact Heap.Out.nodup h
  | chunks _ => exact Chunks.Out.nodup h

theorem Out.alloc {s : Store} {m : Multiset Handle} (h : s.Out m) (flags : AllocFlags) :
    (s.alloc flags).2.Out (↑(s.alloc flags).1.toList + m) := by
  cases s with
  | heap _ => exact Heap.Out.alloc h flags
  | chunks _ => exact Chunks.Out.alloc h flags

theorem Out.free {s : Store} {m : Multiset Handle} {x : Handle} (h : s.Out (x ::ₘ m)) :
    ∃ s', s.free x = (.ok (), s') ∧ s'.Out m := by
  cases s with
  | heap a => exact ⟨heap (a.free x), rfl, Heap.Out.free h⟩
  | chunks a =>
    obtain ⟨c', hfree, hout⟩ := Chunks.Out.free h
    exact ⟨chunks c', by simp only [Store.free, hfree], hout⟩

instance : LawfulBacking Store where
  Out := Out
  nodup := Out.nodup
  alloc := Out.alloc
  free := Out.free

/-- A store as it is set up: a heap that has answered nothing, whatever its limit and whatever the
system will refuse, or a chunk allocator whose chunks the system has put apart. -/
inductive IsNew : Store → Prop
  | heap (layout : Layout) (limit : Option Nat) (systemRefuses : Nat → Bool) (memory : Memory) :
    IsNew (.heap ⟨layout, limit, 0, {}, systemRefuses, memory⟩)
  | chunks {base : Layout → Nat → Nat → Nat} {layout : Layout} {chunkSize capacity : Nat}
      {c : Chunks} (hreserve : Chunks.reserveAt base layout chunkSize capacity = .ok c)
      (hapart : ∀ i j, i ≠ j →
        c.base i + c.chunkBytes ≤ c.base j ∨ c.base j + c.chunkBytes ≤ c.base i) :
    IsNew (.chunks c)

/-- Chunks that are reserved where a machine puts them are such an allocator. -/
theorem isNew_of_reserve {layout : Layout} {chunkSize capacity : Nat} {machine : Machine}
    {c : Chunks} (h : Chunks.reserve layout chunkSize capacity machine = .ok c) :
    IsNew (.chunks c) := by
  refine .chunks h fun i j hne => ?_
  obtain ⟨-, -, rfl⟩ := Chunks.reserveAt_eq_ok h
  exact machine.apart layout _ i j hne

theorem IsNew.out {s : Store} (h : s.IsNew) : s.Out 0 := by
  cases h with
  | heap => exact ⟨rfl, Multiset.nodup_zero, fun x hx => absurd hx (Multiset.notMem_zero x)⟩
  | chunks hreserve hapart =>
    exact Chunks.out_of_reserveAt hreserve fun i j _ _ hne => hapart i j hne

end Store

/-! ## Records -/

/-- The elements that are out after one more call: none may go out that is out already, and only
one that is out may come back. -/
def BackingCall.account (out : List Handle) : BackingCall → Option (List Handle)
  | granted _ handle => if handle ∈ out then none else some (handle :: out)
  | refused _ => some out
  | freed handle => if handle ∈ out then some (out.erase handle) else none

namespace Recorded

variable {β : Type}

/-- The elements handed out and not got back, as the list of calls has it; `none` if an element was
handed out twice or came back that was not out. -/
def out? (r : Recorded β) : Option (List Handle) := r.calls.toList.foldlM BackingCall.account []

theorem out?_push (backing : β) (calls : Array BackingCall) (c : BackingCall) :
    out? ⟨backing, calls.push c⟩ = (out? ⟨backing, calls⟩).bind (BackingCall.account · c) := by
  simp only [out?, Array.toList_push, List.foldlM_append, List.foldlM_cons, List.foldlM_nil]
  cases List.foldlM BackingCall.account [] calls.toList <;> simp

variable [Backing β] [LawfulBacking β]

/-- The elements out of a recorded backing, on which its list of calls agrees with it. -/
def Out (r : Recorded β) (m : Multiset Handle) : Prop :=
  LawfulBacking.Out r.backing m ∧ ∃ out, r.out? = some out ∧ (out : Multiset Handle) = m

theorem Out.alloc {r : Recorded β} {m : Multiset Handle} (h : r.Out m) (flags : AllocFlags) :
    (r.alloc flags).2.Out (↑(r.alloc flags).1.toList + m) := by
  obtain ⟨hbacking, out, hcalls, rfl⟩ := h
  obtain ⟨backing, calls⟩ := r
  rw [Recorded.alloc]
  rcases halloc : Backing.alloc flags backing with ⟨_ | x, backing'⟩
  · refine ⟨by simpa using LawfulBacking.alloc_none hbacking halloc, out, ?_, by simp⟩
    rw [out?_push, show out? ⟨backing', calls⟩ = some out from hcalls]
    rfl
  · have hout := LawfulBacking.alloc_some hbacking halloc
    have hx : x ∉ out := (Multiset.nodup_cons.1 (LawfulBacking.nodup hout)).1
    refine ⟨by simpa using hout, x :: out, ?_, by simp⟩
    rw [out?_push, show out? ⟨backing', calls⟩ = some out from hcalls]
    simp only [Option.bind_some, BackingCall.account, if_neg hx]

theorem Out.free {r : Recorded β} {m : Multiset Handle} {x : Handle} (h : r.Out (x ::ₘ m)) :
    ∃ r', r.free x = (.ok (), r') ∧ r'.Out m := by
  obtain ⟨hbacking, out, hcalls, hm⟩ := h
  obtain ⟨backing, calls⟩ := r
  obtain ⟨backing', hfree, hout⟩ := LawfulBacking.free hbacking
  have hx : x ∈ out := by
    rw [← Multiset.mem_coe, hm]
    exact Multiset.mem_cons_self x m
  refine ⟨⟨backing', calls.push (.freed x)⟩, by simp only [Recorded.free, hfree], hout,
    out.erase x, ?_, ?_⟩
  · rw [out?_push, show out? ⟨backing', calls⟩ = some out from hcalls]
    simp only [Option.bind_some, BackingCall.account, if_pos hx]
  · rw [← Multiset.coe_erase, hm, Multiset.erase_cons_head]

instance : LawfulBacking (Recorded β) where
  Out := Out
  nodup h := LawfulBacking.nodup h.1
  alloc := Out.alloc
  free := Out.free

/-- A store as it is set up, with no calls yet. -/
def IsNew (r : Recorded Store) : Prop := r.calls = #[] ∧ r.backing.IsNew

theorem IsNew.out {r : Recorded Store} (h : r.IsNew) : LawfulBacking.Out r 0 :=
  ⟨h.2.out, [], by rw [out?, h.1]; rfl, rfl⟩

end Recorded

end TieredPool
