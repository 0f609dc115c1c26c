import Std.Data.HashMap.Lemmas
import TieredPool.Proofs.Backing.Store

/-!
# What elements hold

A store writes to elements in one case only: it fills with zero bytes the element that it hands out
to a request that asks for it. So the elements that a run of such requests brings are all zero in
the end, in whatever order their memory lies (`Recorded.zeroed_supply`). What is written to elements
from outside has no bearing on which elements are out (`Store.Out.withMemory`).
-/

namespace TieredPool

namespace Memory

theorem contents_fill (m : Memory) (x y : Handle) (count : Nat) (byte : UInt8) :
    (m.fill x count byte).contents y =
      if x = y then (m.contents x).fill count byte else m.contents y := by
  rw [contents, fill, Std.HashMap.getD_insert]
  simp only [beq_iff_eq]
  rfl

/-- Elements of a memory in which nothing was written are untouched. -/
theorem contents_of_isEmpty {m : Memory} (h : m.written.isEmpty = true) (x : Handle) :
    m.contents x = Contents.untouched :=
  Std.HashMap.getD_of_isEmpty h

end Memory

namespace Store

/-- All bytes of an element are zero. -/
def Zeroed (s : Store) (x : Handle) : Prop :=
  ∀ offset < s.layout.size, s.memory.contents x offset = 0

/-- What a request changes of the memory. -/
theorem memory_alloc (s : Store) (flags : AllocFlags) :
    (s.alloc flags).2.layout = s.layout ∧
      (s.alloc flags).2.memory =
        match (s.alloc flags).1 with
        | some x => if flags.contains .zero then s.memory.fill x s.layout.size 0 else s.memory
        | none => s.memory := by
  cases s with
  | heap h =>
    by_cases hlimit : h.atLimit = true
    · simp [alloc, Heap.alloc, Heap.reserve?, hlimit, Heap.refuse, layout, memory]
    · by_cases hsystem : h.systemRefuses h.requests = true
      · simp [alloc, Heap.alloc, Heap.reserve?, hlimit, hsystem, Heap.refuse, Heap.unreserve,
          layout, memory]
      · simp [alloc, Heap.alloc, Heap.reserve?, hlimit, hsystem, Heap.grant, layout, memory]
  | chunks c =>
    rcases htake : c.takeSlot? with _ | ⟨slot, c'⟩
    · simp [alloc, Chunks.alloc, htake, layout, memory]
    · obtain ⟨recycled, fresh, rfl⟩ := Chunks.exists_of_takeSlot? htake
      simp [alloc, Chunks.alloc, htake, layout, memory]

/-- A request for zeroed memory leaves its own element zero and every element that was zero. -/
theorem zeroed_alloc {s : Store} {flags : AllocFlags} (hflags : flags.contains .zero = true)
    {x : Handle} (hx : x ∈ (s.alloc flags).1 ∨ s.Zeroed x) : (s.alloc flags).2.Zeroed x := by
  obtain ⟨hlayout, hmemory⟩ := s.memory_alloc flags
  intro offset hoffset
  rw [hlayout] at hoffset
  rw [hmemory]
  rcases hanswer : (s.alloc flags).1 with _ | y
  · rw [hanswer] at hx
    rcases hx with hx | hx
    · cases hx
    · exact hx offset hoffset
  · rw [hanswer] at hx
    simp only [hflags, if_true, Memory.contents_fill]
    by_cases hxy : y = x
    · rw [if_pos hxy, Contents.fill, if_pos hoffset]
    · rw [if_neg hxy]
      rcases hx with hx | hx
      · exact absurd (Option.mem_some.1 hx) hxy
      · exact hx offset hoffset

theorem Out.withMemory {s : Store} {m : Multiset Handle} (h : s.Out m) (memory : Memory) :
    (s.withMemory memory).Out m := by
  cases s with
  | heap _ => exact ⟨h.live_eq, h.nodup, h.lt⟩
  | chunks _ =>
    obtain ⟨hwf, hslots⟩ := h
    exact ⟨hwf.update hwf.fresh_le, hslots⟩

end Store

namespace Recorded

theorem zeroed_alloc {r : Recorded Store} {flags : AllocFlags}
    (hflags : flags.contains .zero = true) {x : Handle}
    (hx : x ∈ (Backing.alloc flags r).1 ∨ r.backing.Zeroed x) :
    (Backing.alloc flags r).2.backing.Zeroed x := by
  have hanswer : (Backing.alloc flags r).1 = (r.backing.alloc flags).1 ∧
      (Backing.alloc flags r).2.backing = (r.backing.alloc flags).2 := by
    obtain ⟨backing, calls⟩ := r
    simp only [Backing.alloc, Recorded.alloc]
    rcases backing.alloc flags with ⟨_ | y, backing'⟩ <;> exact ⟨rfl, rfl⟩
  rw [hanswer.1] at hx
  rw [hanswer.2]
  exact Store.zeroed_alloc hflags hx

/-- **A run of requests** for zeroed memory brings elements that are zero when it ends. -/
theorem zeroed_supply {flags : AllocFlags} (hflags : flags.contains .zero = true) (count : Nat)
    {r : Recorded Store} {x : Handle}
    (hx : x ∈ (Backing.supply flags count r).1 ∨ r.backing.Zeroed x) :
    (Backing.supply flags count r).2.backing.Zeroed x := by
  induction count generalizing r with
  | zero =>
    rcases hx with hx | hx
    · cases hx
    · exact hx
  | succ count ih =>
    have hfirst := zeroed_alloc (r := r) (x := x) hflags
    rw [Backing.supply] at hx ⊢
    rcases halloc : Backing.alloc flags r with ⟨_ | y, r'⟩ <;> rw [halloc] at hx hfirst
    · rcases hx with hx | hx
      · cases hx
      · exact hfirst (.inr hx)
    · -- the first element is zero before the others are asked for, and stays so
      apply ih
      rcases hx with hx | hx
      · rcases List.mem_cons.1 hx with rfl | hx
        · exact .inr (hfirst (.inl rfl))
        · exact .inl hx
      · exact .inr (hfirst (.inr hx))

end Recorded

end TieredPool
