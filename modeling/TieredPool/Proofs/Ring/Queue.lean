import TieredPool.Proofs.Ring.Paths

/-!
# A ring is a bounded queue

`BoundedQueue` is the queue that a ring is meant to be: a list of at most `capacity` items, to which
an enqueue appends all of its items or none, and from which a dequeue takes so many of the oldest or
none. It has no counters and no slots.

A ring `Represents` a queue if it is in use and its list is the queue's. Any call keeps that and has
the answer that the queue gives (`Represents.perform`), so whatever the sequence of calls, a new
ring answers as an empty queue does, and shows the same counts after each call
(`startingAt_follow`). The counters of the ring may start anywhere: nothing of this depends on how
often they have gone around.
-/

namespace TieredPool

namespace Ring

variable {α : Type}

/-! ## Calls -/

/-- A call on a ring. The enqueue of one item is that of a list of one. -/
inductive Call (α : Type) where
  | enqueue (access : Access) (items : List α)
  | dequeue (access : Access) (n : Nat)
  | dequeueOne (access : Access)
deriving DecidableEq, Repr

def Call.access : Call α → Access
  | .enqueue access _ | .dequeue access _ | .dequeueOne access => access

def Call.side : Call α → Side
  | .enqueue .. => .producer
  | .dequeue .. | .dequeueOne _ => .consumer

/-- The same call by another path. -/
def Call.via (access : Access) : Call α → Call α
  | .enqueue _ items => .enqueue access items
  | .dequeue _ n => .dequeue access n
  | .dequeueOne _ => .dequeueOne access

/-- How many items a call is about. -/
def Call.count : Call α → Nat
  | .enqueue _ items => items.length
  | .dequeue _ n => n
  | .dequeueOne _ => 1

/-- Is this side of the ring reserved for a single user? -/
def Flags.single (flags : Flags) : Side → Bool
  | .producer => flags.singleProducer
  | .consumer => flags.singleConsumer

inductive Answer (α : Type) where
  | added
  | taken (items : List α)
  | takenOne (item : Option α)
  | refused (refusal : Refusal)
deriving DecidableEq, Repr

/-- Does the answer say that there was not enough room or not enough to take, or that the path may
not be used? -/
def Answer.declined : Answer α → Bool
  | .refused _ | .takenOne none => true
  | _ => false

/-- What can be read off a ring without changing it. -/
structure Counts where
  length : Nat
  freeCount : Nat
  isEmpty : Bool
  isFull : Bool
deriving DecidableEq, Repr

def Answer.ofExcept {β : Type} (f : β → Answer α) : Except Refusal β → Answer α
  | .ok b => f b
  | .error refusal => .refused refusal

end Ring

open TieredPool.Ring (Access Answer Counts)

/-! ## The queue -/

/-- A queue of at most so many items, oldest first, with the flags that say who may use it. -/
structure BoundedQueue (α : Type) where
  capacity : Nat
  flags : Ring.Flags
  items : List α
deriving DecidableEq, Repr

namespace BoundedQueue

variable {α : Type}

def empty (capacity : Nat) (flags : Ring.Flags) : BoundedQueue α := ⟨capacity, flags, []⟩

def counts (q : BoundedQueue α) : Counts where
  length := q.items.length
  freeCount := q.capacity - q.items.length
  isEmpty := q.items.isEmpty
  isFull := q.items.length == q.capacity

/-- Does the call take the single-user path of a side that many may use? -/
def forbids (q : BoundedQueue α) (call : Ring.Call α) : Bool :=
  call.access == .single && !q.flags.single call.side

/-- A call that the flags allow. -/
def serve (q : BoundedQueue α) : Ring.Call α → Answer α × BoundedQueue α
  | .enqueue _ items =>
    if items.length ≤ q.capacity - q.items.length then
      (.added, { q with items := q.items ++ items })
    else (.refused .full, q)
  | .dequeue _ n =>
    if n ≤ q.items.length then (.taken (q.items.take n), { q with items := q.items.drop n })
    else (.refused .empty, q)
  | .dequeueOne _ => (.takenOne q.items.head?, { q with items := q.items.tail })

def perform (q : BoundedQueue α) (call : Ring.Call α) : Answer α × BoundedQueue α :=
  if q.forbids call then (.refused (.shared call.side), q) else q.serve call

def follow : List (Ring.Call α) → BoundedQueue α → List (Answer α × Counts) × BoundedQueue α
  | [], q => ([], q)
  | call :: calls, q =>
    let step := q.perform call
    let rest := follow calls step.2
    ((step.1, step.2.counts) :: rest.1, rest.2)

theorem perform_fixed (q : BoundedQueue α) (call : Ring.Call α) :
    (q.perform call).2.capacity = q.capacity ∧ (q.perform call).2.flags = q.flags := by
  rw [perform]
  split
  · exact ⟨rfl, rfl⟩
  · cases call with
    | enqueue | dequeue =>
      rw [serve]
      split <;> exact ⟨rfl, rfl⟩
    | dequeueOne => exact ⟨rfl, rfl⟩

theorem follow_fixed (calls : List (Ring.Call α)) (q : BoundedQueue α) :
    (q.follow calls).2.capacity = q.capacity ∧ (q.follow calls).2.flags = q.flags := by
  induction calls generalizing q with
  | nil => exact ⟨rfl, rfl⟩
  | cons call calls ih =>
    obtain ⟨hcapacity, hflags⟩ := q.perform_fixed call
    obtain ⟨hcapacity', hflags'⟩ := ih (q.perform call).2
    exact ⟨hcapacity'.trans hcapacity, hflags'.trans hflags⟩

end BoundedQueue

namespace Ring

variable {α : Type}

/-! ## The ring under the same calls -/

def counts (r : Ring α) : Counts where
  length := r.length
  freeCount := r.freeCount
  isEmpty := r.isEmpty
  isFull := r.isFull

def perform (r : Ring α) : Call α → Answer α × Ring α
  | .enqueue access items =>
    let (answer, r) := r.enqueue access items
    (.ofExcept (fun _ => .added) answer, r)
  | .dequeue access n =>
    let (answer, r) := r.dequeue access n
    (.ofExcept .taken answer, r)
  | .dequeueOne access =>
    let (answer, r) := r.dequeueOne access
    (.ofExcept .takenOne answer, r)

/-- A call with its path written out, so many exchanges of the head failing on the way. -/
def performBy (failures : Nat) (r : Ring α) : Call α → Option (Answer α × Ring α)
  | .enqueue access items =>
    (r.enqueueBy access failures items).map fun (answer, r) =>
      (.ofExcept (fun _ => .added) answer, r)
  | .dequeue access n =>
    (r.dequeueBy access failures n).map fun (answer, r) => (.ofExcept .taken answer, r)
  | .dequeueOne access =>
    (r.dequeueOneBy access failures).map fun (answer, r) => (.ofExcept .takenOne answer, r)

/-- The answers to a sequence of calls, each with the counts after it, and the ring at the end. -/
def follow : List (Call α) → Ring α → List (Answer α × Counts) × Ring α
  | [], r => ([], r)
  | call :: calls, r =>
    let step := r.perform call
    let rest := follow calls step.2
    ((step.1, step.2.counts) :: rest.1, rest.2)

theorem enqueue_eq_or (r : Ring α) (access : Access) (items : List α) :
    r.enqueue access items = (.ok (), r.publish items) ∨
      ∃ refusal, r.enqueue access items = (.error refusal, r) := by
  unfold enqueue
  split
  · exact Or.inr ⟨_, rfl⟩
  · split
    · exact Or.inr ⟨_, rfl⟩
    · exact Or.inl rfl

theorem dequeue_eq_or (r : Ring α) (access : Access) (n : Nat) :
    n ≤ r.entries ∧
        r.dequeue access n = (.ok (readFrom r.slots r.consumer.head n), r.consume n) ∨
      ∃ refusal, r.dequeue access n = (.error refusal, r) := by
  unfold dequeue
  split
  · exact Or.inr ⟨_, rfl⟩
  · split
    · exact Or.inr ⟨_, rfl⟩
    · next hle => exact Or.inl ⟨Nat.le_of_not_lt hle, rfl⟩

namespace WF

variable {r : Ring α}

/-- A call that is declined and a call for no items leave the ring as it is. -/
theorem perform_unchanged (h : r.WF) {call : Call α}
    (hidle : (r.perform call).1.declined = true ∨ call.count = 0) : (r.perform call).2 = r := by
  cases call with
  | enqueue access items =>
    rcases r.enqueue_eq_or access items with hok | ⟨refusal, herror⟩
    · simp only [Ring.perform, hok] at hidle ⊢
      rcases hidle with hdeclined | hzero
      · cases hdeclined
      · rw [List.eq_nil_of_length_eq_zero hzero, h.publish_nil]
    · rw [Ring.perform, herror]
  | dequeue access n =>
    rcases r.dequeue_eq_or access n with ⟨-, hok⟩ | ⟨refusal, herror⟩
    · simp only [Ring.perform, hok] at hidle ⊢
      rcases hidle with hdeclined | rfl
      · cases hdeclined
      · exact h.consume_zero
    · rw [Ring.perform, herror]
  | dequeueOne access =>
    rcases r.dequeue_eq_or access 1 with ⟨hone, hok⟩ | ⟨refusal, herror⟩
    · -- an item was there, so this is not the answer to an empty ring
      rw [h.entries_eq] at hone
      have hread := h.readFrom_eq hone
      obtain ⟨x, items, hlist⟩ := List.exists_cons_of_length_pos hone
      rw [hlist] at hread
      rcases hidle with hdeclined | hzero
      · simp [Ring.perform, dequeueOne, hok, hread, Answer.ofExcept, Answer.declined] at hdeclined
      · cases hzero
    · rw [Ring.perform, dequeueOne, herror]
      cases refusal <;> rfl

theorem performBy_eq (h : r.WF) (failures : Nat) (call : Call α) :
    r.performBy failures call = some (r.perform call) := by
  cases call with
  | enqueue access items => rw [performBy, h.enqueueBy_eq, Ring.perform, Option.map_some]
  | dequeue access n => rw [performBy, h.dequeueBy_eq, Ring.perform, Option.map_some]
  | dequeueOne access => rw [performBy, h.dequeueOneBy_eq, Ring.perform, Option.map_some]

end WF

/-! ## Representation -/

structure Represents (r : Ring α) (q : BoundedQueue α) : Prop where
  wf : r.WF
  capacity_eq : r.capacity = q.capacity
  flags_eq : r.flags = q.flags
  toList_eq : r.toList = q.items

namespace Represents

variable {r : Ring α} {q : BoundedQueue α}

theorem length_eq (h : r.Represents q) : r.length = q.items.length := by
  rw [← h.toList_eq, h.wf.length_toList]

theorem length_le (h : r.Represents q) : q.items.length ≤ q.capacity := by
  rw [← h.length_eq, ← h.capacity_eq]
  exact h.wf.length_le

theorem counts_eq (h : r.Represents q) : r.counts = q.counts := by
  unfold counts BoundedQueue.counts freeCount isEmpty isFull
  rw [h.length_eq, h.capacity_eq]
  cases q.items <;> rfl

theorem published (h : r.Represents q) {items : List α}
    (hfit : items.length ≤ q.capacity - q.items.length) :
    (r.publish items).Represents { q with items := q.items ++ items } := by
  have hle := h.length_le
  have hroom : r.toList.length + items.length ≤ r.capacity := by
    rw [h.toList_eq, h.capacity_eq]
    omega
  obtain ⟨hwf, hlist⟩ := h.wf.publish hroom
  refine ⟨hwf, ?_, ?_, ?_⟩
  · rw [capacity, ← size, size_publish]
    exact h.capacity_eq
  · rw [flags_publish]
    exact h.flags_eq
  · rw [hlist, h.toList_eq]

theorem consumed (h : r.Represents q) {n : Nat} (hn : n ≤ q.items.length) :
    (r.consume n).Represents { q with items := q.items.drop n } := by
  obtain ⟨hwf, hlist⟩ := h.wf.consume (h.toList_eq ▸ hn)
  refine ⟨hwf, ?_, ?_, ?_⟩
  · rw [capacity, ← size, size_consume]
    exact h.capacity_eq
  · rw [flags_consume]
    exact h.flags_eq
  · rw [hlist, h.toList_eq]

theorem enqueue_eq (h : r.Represents q) (access : Access) (items : List α)
    (ha : (access == .single && !q.flags.singleProducer) = false) :
    r.enqueue access items =
      if items.length ≤ q.capacity - q.items.length then (.ok (), r.publish items)
      else (.error .full, r) := by
  have hle := h.length_le
  rw [h.wf.enqueue_eq items (h.flags_eq ▸ ha), h.toList_eq, h.capacity_eq]
  by_cases hfit : items.length ≤ q.capacity - q.items.length
  · rw [if_pos hfit, if_pos (by omega)]
  · rw [if_neg hfit, if_neg (by omega)]

theorem dequeue_eq (h : r.Represents q) (access : Access) (n : Nat)
    (ha : (access == .single && !q.flags.singleConsumer) = false) :
    r.dequeue access n =
      if n ≤ q.items.length then (.ok (q.items.take n), r.consume n) else (.error .empty, r) := by
  rw [h.wf.dequeue_eq n (h.flags_eq ▸ ha), h.toList_eq]

/-- A call that the flags forbid leaves everything as it is. -/
theorem perform_forbidden (h : r.Represents q) {call : Call α} (hforbids : q.forbids call = true) :
    r.perform call = (.refused (.shared call.side), r) := by
  rw [BoundedQueue.forbids, ← h.flags_eq] at hforbids
  cases call with
  | enqueue access items =>
    have hside : (access == .single && !r.flags.singleProducer) = true := hforbids
    rw [Ring.perform, enqueue, if_pos hside]
    rfl
  | dequeue access n =>
    have hside : (access == .single && !r.flags.singleConsumer) = true := hforbids
    rw [Ring.perform, dequeue, if_pos hside]
    rfl
  | dequeueOne access =>
    have hside : (access == .single && !r.flags.singleConsumer) = true := hforbids
    rw [Ring.perform, dequeueOne, dequeue, if_pos hside]
    rfl

theorem perform_allowed (h : r.Represents q) {call : Call α} (hforbids : q.forbids call = false) :
    (r.perform call).1 = (q.serve call).1 ∧ (r.perform call).2.Represents (q.serve call).2 := by
  cases call with
  | enqueue access items =>
    rw [Ring.perform, h.enqueue_eq access items hforbids, BoundedQueue.serve]
    by_cases hfit : items.length ≤ q.capacity - q.items.length
    · simp only [if_pos hfit]
      exact ⟨rfl, h.published hfit⟩
    · simp only [if_neg hfit]
      exact ⟨rfl, h⟩
  | dequeue access n =>
    rw [Ring.perform, h.dequeue_eq access n hforbids, BoundedQueue.serve]
    by_cases hn : n ≤ q.items.length
    · simp only [if_pos hn]
      exact ⟨rfl, h.consumed hn⟩
    · simp only [if_neg hn]
      exact ⟨rfl, h⟩
  | dequeueOne access =>
    rw [Ring.perform, dequeueOne, h.dequeue_eq access 1 hforbids, BoundedQueue.serve]
    by_cases hone : 1 ≤ q.items.length
    · simp only [if_pos hone, ← List.drop_one]
      refine ⟨?_, h.consumed hone⟩
      rw [Answer.ofExcept, List.head?_take, if_neg Nat.one_ne_zero]
    · have hnil : q.items = [] := List.eq_nil_of_length_eq_zero (by omega)
      simp only [hnil]
      exact ⟨rfl, h.wf, h.capacity_eq, h.flags_eq, h.toList_eq.trans hnil⟩

/-- **One call**: the ring answers as the queue does, and represents the queue after it. -/
theorem perform (h : r.Represents q) (call : Call α) :
    (r.perform call).1 = (q.perform call).1 ∧
      (r.perform call).2.Represents (q.perform call).2 := by
  rw [BoundedQueue.perform]
  by_cases hforbids : q.forbids call = true
  · rw [h.perform_forbidden hforbids, if_pos hforbids]
    exact ⟨rfl, h⟩
  · rw [if_neg hforbids]
    exact h.perform_allowed (eq_false_of_ne_true hforbids)

/-- **Any sequence of calls**. -/
theorem follow (h : r.Represents q) (calls : List (Call α)) :
    (Ring.follow calls r).1 = (BoundedQueue.follow calls q).1 ∧
      (Ring.follow calls r).2.Represents (BoundedQueue.follow calls q).2 := by
  induction calls generalizing r q with
  | nil => exact ⟨rfl, h⟩
  | cons call calls ih =>
    obtain ⟨hanswer, hnext⟩ := h.perform call
    obtain ⟨hanswers, hend⟩ := ih hnext
    refine ⟨?_, hend⟩
    rw [Ring.follow, BoundedQueue.follow, hanswer, hnext.counts_eq, hanswers]

/-- A call that the flags allow on either path has one outcome on both. -/
theorem performBy_via (h : r.Represents q) {call : Call α}
    (hallowed : q.flags.single call.side = true) (failures failures' : Nat) :
    r.performBy failures (call.via .single) = r.performBy failures' (call.via .multi) := by
  rw [h.wf.performBy_eq, h.wf.performBy_eq, Option.some_inj]
  rw [← h.flags_eq] at hallowed
  cases call with
  | enqueue access items =>
    have hside : r.flags.singleProducer = true := hallowed
    simp [Call.via, Ring.perform, enqueue, hside]
  | dequeue access n =>
    have hside : r.flags.singleConsumer = true := hallowed
    simp [Call.via, Ring.perform, dequeue, hside]
  | dequeueOne access =>
    have hside : r.flags.singleConsumer = true := hallowed
    simp [Call.via, Ring.perform, dequeueOne, dequeue, hside]

end Represents

theorem startingAt_represents {base : UInt64} {size : Nat} {flags : Flags} {r : Ring α}
    (hsize : size < 2 ^ 64) (hr : startingAt base size flags = .ok r) :
    r.Represents (.empty (size - 1) flags) := by
  obtain ⟨hwf, hlist, hrsize, hflags⟩ := startingAt_wf hsize hr
  exact ⟨hwf, congrArg (· - 1) hrsize, hflags, hlist⟩

/-- **A new ring is a bounded queue**, wherever its counters start: to any calls it gives the
answers of the queue and shows the queue's counts after each, and what it holds at the end is what
the queue holds. A call that is declined then, or is for no items, changes nothing; either path
written out ends, as the call does, and both paths have one outcome where the flags allow both. -/
theorem startingAt_follow {base : UInt64} {size : Nat} {flags : Flags} {r : Ring α}
    (hsize : size < 2 ^ 64) (hr : startingAt base size flags = .ok r) (calls : List (Call α)) :
    let run := r.follow calls
    let spec := (BoundedQueue.empty (size - 1) flags).follow calls
    run.1 = spec.1 ∧ run.2.toList = spec.2.items ∧ run.2.counts = spec.2.counts ∧
      spec.2.items.length ≤ size - 1 ∧
      (∀ call : Call α, (run.2.perform call).1.declined = true ∨ call.count = 0 →
        (run.2.perform call).2 = run.2) ∧
      (∀ (call : Call α) failures, run.2.performBy failures call = some (run.2.perform call)) ∧
      ∀ (call : Call α) failures failures', flags.single call.side = true →
        run.2.performBy failures (call.via .single) =
          run.2.performBy failures' (call.via .multi) := by
  intro run spec
  obtain ⟨hanswers, hend⟩ := (startingAt_represents hsize hr).follow calls
  have hfixed : spec.2.capacity = size - 1 ∧ spec.2.flags = flags :=
    BoundedQueue.follow_fixed calls _
  refine ⟨hanswers, hend.toList_eq, hend.counts_eq, ?_, ?_, ?_, ?_⟩
  · rw [← hfixed.1]
    exact hend.length_le
  · intro call hidle
    exact hend.wf.perform_unchanged hidle
  · intro call failures
    exact hend.wf.performBy_eq failures call
  · intro call failures failures' hallowed
    apply hend.performBy_via
    rw [hfixed.2]
    exact hallowed

/-- Three items, of which the last is the first beyond the wrap of the counters, and a fourth that
finds the ring full. -/
theorem startingAt_follow_acrossWrap :
    ∃ r : Ring Nat, startingAt 0xFFFFFFFFFFFFFFFE 4 .spsc = .ok r ∧
      (r.follow [.enqueue .single [7, 8, 9], .enqueue .multi [10], .dequeue .single 2,
          .dequeueOne .multi, .dequeueOne .single]).1 =
        [(.added, ⟨3, 0, false, true⟩), (.refused .full, ⟨3, 0, false, true⟩),
          (.taken [7, 8], ⟨1, 2, false, false⟩), (.takenOne (some 9), ⟨0, 3, true, false⟩),
          (.takenOne none, ⟨0, 3, true, false⟩)] := by
  have hsize : 4 < 2 ^ 64 := by decide
  have hnew : startingAt 0xFFFFFFFFFFFFFFFE 4 .spsc = .ok (_ : Ring Nat) := rfl
  refine ⟨_, hnew, ?_⟩
  rw [(startingAt_follow hsize hnew _).1]
  decide

end Ring

end TieredPool
