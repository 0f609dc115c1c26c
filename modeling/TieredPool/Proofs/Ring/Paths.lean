import TieredPool.Proofs.Ring.Fifo

/-!
# The two paths through a ring

An enqueue reserves positions by moving its side's head, writes their slots, and publishes them by
moving its side's tail; a dequeue does the same and reads. The single-user path moves the head by a
plain write and the tail at once. The multi-user path exchanges the head: if the exchange fails it
begins again from the head that it found, and before it moves the tail it waits until all that was
reserved earlier is published.

Here both are written out, one access to a counter at a time (`Ring.enqueueBy`, `Ring.dequeueBy`).
On a ring in use the head and the tail of a side agree, so the multi-user path finds the head where
it read it and has nothing to wait for: both paths come to what `Ring.enqueue` and `Ring.dequeue`
say, however often an exchange fails without cause.
-/

namespace TieredPool.Ring

variable {α : Type}

/-! ## Accesses to the counters -/

def cursor (r : Ring α) : Side → Cursor
  | .producer => r.producer
  | .consumer => r.consumer

def withCursor (r : Ring α) (c : Cursor) : Side → Ring α
  | .producer => { r with producer := c }
  | .consumer => { r with consumer := c }

/-- The positions that a side may reserve from `head` on: free ones, or published ones. -/
def available (r : Ring α) (head : UInt64) : Side → Nat
  | .producer => (r.capacity.toUInt64 + r.consumer.tail - head).toNat
  | .consumer => (r.producer.tail - head).toNat

/-- The ring once a side has reserved so many positions from `head` on. -/
def reserved (side : Side) (count : Nat) (r : Ring α) (head : UInt64) : Ring α :=
  r.withCursor { r.cursor side with head := head + count.toUInt64 } side

/--
Reserves so many positions from the head that was read, and answers where they begin; `none` if
there are too few. On the multi-user path so many exchanges of the head fail before the one that
decides, and there is no answer at all if the head is not where it was read then.
-/
def reserve (side : Side) (access : Access) (count : Nat) (r : Ring α) :
    (failures : Nat) → (head : UInt64) → Option (Option (UInt64 × Ring α))
  | 0, head =>
    if r.available head side < count then some none
    else if access == .single || (r.cursor side).head == head then
      some (some (head, r.reserved side count head))
    else none
  | failures + 1, head =>
    if r.available head side < count then some none
    else if access == .single then some (some (head, r.reserved side count head))
    else reserve side access count r failures (r.cursor side).head

/-- Moves a side's tail. The multi-user path waits for earlier reservations to be published, so
there is no answer if the tail is not where they end. -/
def announce (side : Side) (access : Access) (first next : UInt64) (r : Ring α) :
    Option (Ring α) :=
  let moved := r.withCursor { r.cursor side with tail := next } side
  match access with
  | .single => some moved
  | .multi => if (r.cursor side).tail == first then some moved else none

/-! ## The paths -/

/-- Adds all items, in order, or none, by one of the two paths. -/
def enqueueBy (access : Access) (failures : Nat) (items : List α) (r : Ring α) :
    Option (Except Refusal Unit × Ring α) :=
  if access == .single && !r.flags.singleProducer then some (.error (.shared .producer), r)
  else if items.isEmpty then some (.ok (), r)
  else
    match r.reserve .producer access items.length failures r.producer.head with
    | none => none
    | some none => some (.error .full, r)
    | some (some (first, reserved)) =>
      let written := { reserved with slots := writeFrom reserved.slots first items }
      (written.announce .producer access first (first + items.length.toUInt64)).map fun r =>
        (.ok (), r)

/-- Takes the `n` oldest items, in order, or none, by one of the two paths. -/
def dequeueBy (access : Access) (failures : Nat) (n : Nat) (r : Ring α) :
    Option (Except Refusal (List α) × Ring α) :=
  if access == .single && !r.flags.singleConsumer then some (.error (.shared .consumer), r)
  else if n == 0 then some (.ok [], r)
  else
    match r.reserve .consumer access n failures r.consumer.head with
    | none => none
    | some none => some (.error .empty, r)
    | some (some (first, reserved)) =>
      (reserved.announce .consumer access first (first + n.toUInt64)).map fun r =>
        (.ok (readFrom reserved.slots first n), r)

/-- Takes the oldest item, if there is one, by one of the two paths. -/
def dequeueOneBy (access : Access) (failures : Nat) (r : Ring α) :
    Option (Except Refusal (Option α) × Ring α) :=
  (r.dequeueBy access failures 1).map fun
    | (.ok items, r) => (.ok items.head?, r)
    | (.error .empty, r) => (.ok none, r)
    | (.error refusal, r) => (.error refusal, r)

/-! ## Both paths come to the same -/

/-- A reservation from the side's own head succeeds iff there are enough positions, whatever the
path and however many exchanges fail. -/
theorem reserve_head (side : Side) (access : Access) (count failures : Nat) (r : Ring α) :
    r.reserve side access count failures (r.cursor side).head =
      some (if r.available (r.cursor side).head side < count then none
        else some ((r.cursor side).head, r.reserved side count (r.cursor side).head)) := by
  induction failures with
  | zero =>
    rw [reserve, beq_self_eq_true, Bool.or_true, if_pos rfl]
    split <;> rfl
  | succ failures ih =>
    rw [reserve, ih]
    cases access <;> split <;> rfl

theorem announce_tail {side : Side} (access : Access) {first : UInt64} (next : UInt64) {r : Ring α}
    (h : (r.cursor side).tail = first) :
    r.announce side access first next =
      some (r.withCursor { r.cursor side with tail := next } side) := by
  cases access
  · rfl
  · simp [announce, h]

namespace WF

variable {r : Ring α}

theorem publish_nil (h : r.WF) : r.publish [] = r := by
  obtain ⟨slots, flags, producer, consumer⟩ := r
  have hproducer : producer.head = producer.tail := h.producer_eq
  cases producer
  simp_all [Ring.publish, writeFrom]

theorem consume_zero (h : r.WF) : r.consume 0 = r := by
  obtain ⟨slots, flags, producer, consumer⟩ := r
  have hconsumer : consumer.head = consumer.tail := h.consumer_eq
  cases consumer
  simp_all [Ring.consume]

/-- **An enqueue** by either path is the enqueue of the ring. -/
theorem enqueueBy_eq (h : r.WF) (access : Access) (failures : Nat) (items : List α) :
    r.enqueueBy access failures items = some (r.enqueue access items) := by
  rw [enqueueBy, enqueue]
  by_cases hforbidden : (access == .single && !r.flags.singleProducer) = true
  · rw [if_pos hforbidden, if_pos hforbidden]
  rw [if_neg hforbidden, if_neg hforbidden]
  cases items with
  | nil => simp [h.publish_nil]
  | cons x items =>
    have hreserve := r.reserve_head .producer access (x :: items).length failures
    have hroom : r.available (r.cursor .producer).head .producer = r.room := rfl
    rw [hroom] at hreserve
    rw [List.isEmpty_cons, if_neg Bool.false_ne_true, show r.producer.head =
      (r.cursor .producer).head from rfl, hreserve]
    by_cases hfull : r.room < (x :: items).length
    · rw [if_pos hfull, if_pos hfull]
    · rw [if_neg hfull, if_neg hfull]
      dsimp only
      rw [announce_tail access _ (by exact h.producer_eq.symm)]
      rfl

/-- **A dequeue** by either path is the dequeue of the ring. -/
theorem dequeueBy_eq (h : r.WF) (access : Access) (failures n : Nat) :
    r.dequeueBy access failures n = some (r.dequeue access n) := by
  rw [dequeueBy, dequeue]
  by_cases hforbidden : (access == .single && !r.flags.singleConsumer) = true
  · rw [if_pos hforbidden, if_pos hforbidden]
  rw [if_neg hforbidden, if_neg hforbidden]
  cases n with
  | zero => simp [h.consume_zero, readFrom]
  | succ n =>
    have hreserve := r.reserve_head .consumer access (n + 1) failures
    have hentries : r.available (r.cursor .consumer).head .consumer = r.entries := rfl
    rw [hentries] at hreserve
    rw [show (n + 1 == 0) = false from rfl, if_neg Bool.false_ne_true, show r.consumer.head =
      (r.cursor .consumer).head from rfl, hreserve]
    by_cases hempty : r.entries < n + 1
    · rw [if_pos hempty, if_pos hempty]
    · rw [if_neg hempty, if_neg hempty]
      dsimp only
      rw [announce_tail access _ (by exact h.consumer_eq.symm)]
      rfl

theorem dequeueOneBy_eq (h : r.WF) (access : Access) (failures : Nat) :
    r.dequeueOneBy access failures = some (r.dequeueOne access) := by
  rw [dequeueOneBy, h.dequeueBy_eq]
  rfl

end WF

end TieredPool.Ring
