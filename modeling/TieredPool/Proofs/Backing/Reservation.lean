import TieredPool.Proofs.Backing.Slots

/-!
# What a reservation of chunks comes to

What is wrong with a request for chunks can be said of the numbers alone, with the bytes of a chunk
reckoned without a bound (`Chunks.flaw?`). A reservation reports just that flaw, and without one it
makes chunks of just so many bytes and enough of them. There are two exceptions
(`Chunks.reserveAt_answers`). The bytes of a chunk may be no word: such a chunk is invalid too, but
the product faults before its layout is looked at. And the chunks or the slots may be too many for a
list of them.
-/

namespace TieredPool

/-- Padding stays within the words. -/
theorem Layout.stride_lt_bound {l : Layout} (h : isValid l.size l.align = true) :
    l.stride < Word.bound := by
  rw [isValid, Bool.and_eq_true, decide_eq_true_iff] at h
  calc l.stride
    _ ≤ l.size + l.align := l.stride_le
    _ ≤ sizeBound := h.2
    _ < Word.bound := by decide

namespace Chunks

/-- What is wrong with a request for chunks, if anything. -/
def flaw? (layout : Layout) (chunkSize capacity : Nat) : Option Backing.Error :=
  if layout.size = 0 then some .zeroSized
  else if chunkSize = 0 ∨ capacity = 0 then some .zeroCapacity
  else if Layout.isValid (layout.stride * chunkSize) layout.align then none
  else some .invalidLayout

/-- The request fails for the bytes of a chunk, and their number is no word. -/
def Overflows (layout : Layout) (chunkSize capacity : Nat) : Prop :=
  flaw? layout chunkSize capacity = some .invalidLayout ∧ Word.bound ≤ layout.stride * chunkSize

instance (layout : Layout) (chunkSize capacity : Nat) :
    Decidable (Overflows layout chunkSize capacity) :=
  inferInstanceAs (Decidable (_ ∧ _))

section

variable (base : Layout → Nat → Nat → Nat) {layout : Layout} {chunkSize capacity : Nat}

theorem reserveAt_eq_of_overflows (h : Overflows layout chunkSize capacity) :
    reserveAt base layout chunkSize capacity = .error (.fault (.overflow .multiply)) := by
  obtain ⟨hflaw, hbound⟩ := h
  unfold flaw? at hflaw
  split at hflaw
  · cases hflaw
  · next hsize =>
    split at hflaw
    · cases hflaw
    · next hcounts => rw [reserveAt_eq, if_neg hsize, if_neg hcounts, if_neg (Nat.not_lt.2 hbound)]

theorem reserveAt_eq_of_flaw {e : Backing.Error} (h : flaw? layout chunkSize capacity = some e)
    (hword : ¬Overflows layout chunkSize capacity) :
    reserveAt base layout chunkSize capacity = .error (.error e) := by
  rw [Overflows, h] at hword
  unfold flaw? at h
  split at h
  · next hsize =>
    cases h
    rw [reserveAt_eq, if_pos hsize]
  · next hsize =>
    split at h
    · next hcounts =>
      cases h
      rw [reserveAt_eq, if_neg hsize, if_pos hcounts]
    · next hcounts =>
      split at h
      · cases h
      · next hvalid =>
        cases h
        have hlt : layout.stride * chunkSize < Word.bound :=
          Nat.lt_of_not_le fun hbound => hword ⟨rfl, hbound⟩
        rw [reserveAt_eq, if_neg hsize, if_neg hcounts, if_pos hlt, if_pos hvalid]

theorem of_flaw?_eq_none (h : flaw? layout chunkSize capacity = none) :
    layout.size ≠ 0 ∧ 0 < chunkSize ∧ 0 < capacity ∧
      Layout.isValid (layout.stride * chunkSize) layout.align = true := by
  unfold flaw? at h
  split at h
  · cases h
  · next hsize =>
    split at h
    · cases h
    · next hcounts =>
      split at h
      · next hvalid => exact ⟨hsize, by omega, by omega, hvalid⟩
      · cases h

/-- Without a flaw there is an allocator, if the lists of chunks and slots fit. -/
theorem reserveAt_eq_of_no_flaw (h : flaw? layout chunkSize capacity = none) :
    reserveAt base layout chunkSize capacity =
      if listsFit chunkSize capacity then
        .ok ⟨layout, chunkSize, capacity, base layout (layout.stride * chunkSize), [], 0, {},
          .untouched⟩
      else .error (.fault .capacityOverflow) := by
  obtain ⟨hsize, hchunkSize, hcapacity, hvalid⟩ := of_flaw?_eq_none h
  have hlt : layout.stride * chunkSize < Word.bound := by
    have hbytes := hvalid
    rw [Layout.isValid, Bool.and_eq_true, decide_eq_true_iff] at hbytes
    exact Nat.lt_of_le_of_lt (Nat.le_trans (Nat.le_add_right _ _) hbytes.2) (by decide)
  rw [reserveAt_eq, if_neg hsize, if_neg (by omega), if_pos hlt, if_neg (not_not_intro hvalid)]
  by_cases hfits : listsFit chunkSize capacity
  · rw [if_pos hfits]
    exact if_neg (not_not_intro hfits)
  · rw [if_neg hfits]
    exact if_pos hfits

/-- **What a reservation comes to**, for every valid layout and all numbers, wherever the system puts
the chunks. Padding stays within the words. A flaw of the request is reported, unless the bytes of a
chunk are no word: the product of stride and chunk size is then a fault, and no other number
overflows. Without a flaw, and if the lists of chunks and slots are not too long for a memory, there
is an allocator. Its chunks have as many bytes as their slots take, and there are enough chunks for
the capacity and no more. -/
theorem reserveAt_answers (layout : Layout)
    (hlayout : Layout.isValid layout.size layout.align = true) (chunkSize capacity : Nat) :
    let answer := reserveAt base layout chunkSize capacity
    let flaw := flaw? layout chunkSize capacity
    layout.stride < Word.bound ∧
    (∀ e, answer = .error (.error e) ↔ flaw = some e ∧ ¬Overflows layout chunkSize capacity) ∧
    (∀ fault, answer = .error (.fault fault) ↔
      Overflows layout chunkSize capacity ∧ fault = .overflow .multiply ∨
        flaw = none ∧ listsFit chunkSize capacity = false ∧ fault = .capacityOverflow) ∧
    (flaw = none → listsFit chunkSize capacity = true →
      ∃ c, answer = .ok c ∧ c.layout = layout ∧ c.chunkSize = chunkSize ∧ c.capacity = capacity ∧
        c.chunkBytes = layout.stride * chunkSize ∧
        Layout.isValid c.chunkBytes layout.align = true ∧
        capacity ≤ c.chunkCount * chunkSize ∧ c.chunkCount * chunkSize < capacity + chunkSize) := by
  intro answer flaw
  refine ⟨Layout.stride_lt_bound hlayout, ?_⟩
  cases hflaw : flaw with
  | none =>
    have hword : ¬Overflows layout chunkSize capacity := fun h => nomatch hflaw.symm.trans h.1
    have hanswer := reserveAt_eq_of_no_flaw base hflaw
    obtain ⟨-, hchunkSize, -, hvalid⟩ := of_flaw?_eq_none hflaw
    by_cases hfits : listsFit chunkSize capacity
    · rw [if_pos hfits] at hanswer
      refine ⟨by simp [answer, hanswer], by simp [answer, hanswer, hword, hfits], fun _ _ => ?_⟩
      exact ⟨_, hanswer, rfl, rfl, rfl, rfl, hvalid, Word.le_ceilDiv_mul capacity hchunkSize,
        Word.ceilDiv_mul_lt capacity hchunkSize⟩
    · rw [if_neg hfits] at hanswer
      refine ⟨by simp [answer, hanswer], fun fault => ?_, fun _ h => absurd h hfits⟩
      simpa [answer, hanswer, hword, hfits] using eq_comm
  | some found =>
    by_cases hword : Overflows layout chunkSize capacity
    · have hanswer := reserveAt_eq_of_overflows base hword
      refine ⟨by simp [answer, hanswer, hword], fun fault => ?_, fun h => nomatch h⟩
      simpa [answer, hanswer, hword] using eq_comm
    · have hanswer := reserveAt_eq_of_flaw base hflaw hword
      simp [answer, hanswer, hword]

end

/-- Three quarters of the bound on words are a word, but no valid number of bytes. And 2^60 slots are
too many for a list, however few their chunks. -/
theorem reserveAt_answers_threeQuarters :
    Layout.isValid 24 8 = true ∧
      reserveAt descending ⟨24, 8⟩ (1 <<< 59) 5 = .error (.error .invalidLayout) ∧
      reserveAt descending ⟨24, 8⟩ (1 <<< 40) (1 <<< 60) = .error (.fault .capacityOverflow) ∧
      ∃ c, reserveAt descending ⟨24, 8⟩ 2 5 = .ok c ∧ c.chunkBytes = 48 ∧
        5 ≤ c.chunkCount * 2 ∧ c.chunkCount * 2 < 5 + 2 := by
  have hvalid : Layout.isValid 24 8 = true := by decide
  obtain ⟨-, hrefused, -, -⟩ := reserveAt_answers descending ⟨24, 8⟩ hvalid (1 <<< 59) 5
  obtain ⟨-, -, hfaults, -⟩ :=
    reserveAt_answers descending ⟨24, 8⟩ hvalid (1 <<< 40) (1 <<< 60)
  obtain ⟨-, -, -, hgranted⟩ := reserveAt_answers descending ⟨24, 8⟩ hvalid 2 5
  obtain ⟨c, hc, -, -, -, hbytes, -, henough, hnomore⟩ := hgranted (by decide) (by decide)
  exact ⟨hvalid, (hrefused _).2 (by decide), (hfaults _).2 (by decide), c, hc, hbytes, henough,
    hnomore⟩

/-- The bytes of a chunk are no word, and the request faults instead of being refused. -/
theorem faults_oversize :
    let layout : Layout := ⟨24, 8⟩
    let chunkSize := 1152921504606846976
    Layout.isValid layout.size layout.align = true ∧ chunkSize < Word.bound ∧ 5 < Word.bound ∧
      flaw? layout chunkSize 5 = some .invalidLayout ∧
      reserve layout chunkSize 5 = .error (.fault (.overflow .multiply)) ∧
      reserve layout chunkSize 5 ≠ .error (.error .invalidLayout) := by
  intro layout chunkSize
  have hfault : reserve layout chunkSize 5 = .error (.fault (.overflow .multiply)) :=
    reserveAt_eq_of_overflows _ (by decide)
  refine ⟨by decide, by decide, by decide, by decide, hfault, ?_⟩
  rw [hfault]
  exact fun h => nomatch h

end Chunks

end TieredPool
