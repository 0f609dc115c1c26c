import TieredPool.Pool.Retirement
import TieredPool.Proofs.Ring.Fifo

/-!
# Pools as lists

A `Stock` is a pool with its rings replaced by the lists that they hold, and a `Depot` is a stock
with its backing: a world without the reports. `Depot.perform` answers the calls of a routine on
lists. A pool whose rings are all in use (`Pool.WF`) stays so under every call, and what a routine
does to it is what the routine does to its stock (`Routine.run_matches`). So what follows of routines
is said of lists, and holds of rings wherever their counters stand.
-/

namespace TieredPool

/-- A local tier with its queue as a list. -/
structure Shelf where
  items : List Handle := []
  refills : Nat := 0
  overflows : Nat := 0
  drains : Nat := 0
  owner : Option Nat := none
  leased : Bool := false
deriving DecidableEq, Repr

/-- A pool with its queues as lists, each oldest first. -/
structure Stock where
  id : Nat
  flags : AllocFlags
  preallocated : Nat
  localSize : Nat
  sharedSize : Nat
  shared : List Handle
  shelves : List Shelf
  traffic : Traffic
deriving DecidableEq, Repr

def Cache.shelf (c : Cache) : Shelf :=
  ⟨c.queue.toList, c.refills, c.overflows, c.drains, c.owner, c.leased⟩

def Pool.stock (p : Pool) : Stock :=
  ⟨p.id, p.flags, p.preallocated, p.localSize, p.sharedSize, p.shared.toList,
    p.caches.toList.map Cache.shelf, p.traffic⟩

namespace Stock

/-- The items of a queue; a CPU that the pool does not have is a fault. -/
def items (s : Stock) : Queue → Except Fault (List Handle)
  | .shared => .ok s.shared
  | .cache cpu =>
    match s.shelves[cpu]? with
    | some shelf => .ok shelf.items
    | none => .error (.outOfRange cpu s.shelves.length)

/-- The size of a queue, which is one more than the items it can hold. -/
def size (s : Stock) : Queue → Nat
  | .shared => s.sharedSize
  | .cache _ => s.localSize

def onShelf (s : Stock) (cpu : Nat) (f : Shelf → Shelf) : Stock :=
  { s with shelves := s.shelves.modify cpu f }

def setItems (s : Stock) (items : List Handle) : Queue → Stock
  | .shared => { s with shared := items }
  | .cache cpu => s.onShelf cpu fun shelf => { shelf with items }

def step (s : Stock) : Counter → Stock
  | .sharedRefills => { s with traffic := { s.traffic with refills := s.traffic.refills + 1 } }
  | .backingDrains => { s with traffic := { s.traffic with drains := s.traffic.drains + 1 } }
  | .refills cpu => s.onShelf cpu fun shelf => { shelf with refills := shelf.refills + 1 }
  | .overflows cpu => s.onShelf cpu fun shelf => { shelf with overflows := shelf.overflows + 1 }
  | .drains cpu => s.onShelf cpu fun shelf => { shelf with drains := shelf.drains + 1 }

/-- Counts so many elements obtained from the backing. -/
def countAllocs (s : Stock) (n : Nat) : Stock :=
  { s with traffic := { s.traffic with allocs := s.traffic.allocs + n } }

/-- Counts so many elements returned to the backing. -/
def countFrees (s : Stock) (n : Nat) : Stock :=
  { s with traffic := { s.traffic with frees := s.traffic.frees + n } }

@[simp] theorem countAllocs_countAllocs (s : Stock) (m n : Nat) :
    (s.countAllocs m).countAllocs n = s.countAllocs (m + n) := by
  simp only [countAllocs, Nat.add_assoc]

@[simp] theorem countFrees_countFrees (s : Stock) (m n : Nat) :
    (s.countFrees m).countFrees n = s.countFrees (m + n) := by
  simp only [countFrees, Nat.add_assoc]

end Stock

/-- The single-user path is closed on the shared queue and open on the local ones. -/
def Queue.forbids (queue : Queue) (access : Ring.Access) : Bool :=
  access == .single && queue == .shared

/-- A stock with its backing. -/
structure Depot (β : Type) where
  stock : Stock
  backing : β

def World.depot {β : Type} (w : World β) : Depot β := ⟨w.pool.stock, w.backing⟩

namespace Depot

variable {β : Type} [Backing β]

/-- Works on the items of a queue. -/
def onItems {τ : Type} (d : Depot β) (queue : Queue)
    (f : List Handle → Except Fault τ × Depot β) : Except Fault τ × Depot β :=
  match d.stock.items queue with
  | .ok items => f items
  | .error fault => (.error fault, d)

/-- Answers a single call. -/
def perform : (c : Call) → Depot β → Except Fault c.Answer × Depot β
  | .push queue access more, d => d.onItems queue fun items =>
    if queue.forbids access then (.error (.sharedSide .producer), d)
    else if items.length + more.length < d.stock.size queue then
      (.ok true, { d with stock := d.stock.setItems (items ++ more) queue })
    else (.ok false, d)
  | .pull queue access count, d => d.onItems queue fun items =>
    if queue.forbids access then (.error (.sharedSide .consumer), d)
    else if count ≤ items.length then
      (.ok (some (items.take count)),
        { d with stock := d.stock.setItems (items.drop count) queue })
    else (.ok none, d)
  | .length queue, d => d.onItems queue fun items => (.ok items.length, d)
  | .request flags, d =>
    match Backing.alloc flags d.backing with
    | (some handle, backing) => (.ok (some handle), ⟨d.stock.countAllocs 1, backing⟩)
    | (none, backing) => (.ok none, { d with backing })
  | .giveBack handle, d =>
    match Backing.free handle d.backing with
    | (.ok (), backing) => (.ok (), ⟨d.stock.countFrees 1, backing⟩)
    | (.error fault, backing) => (.error fault, { d with backing })
  | .count counter, d => (.ok (), { d with stock := d.stock.step counter })
  | .report _, d => (.ok (), d)

end Depot

/-- Answers all calls of a routine on lists. -/
def Routine.runOn {α β : Type} [Backing β] : Routine α → Depot β → Except Fault α × Depot β
  | done result, d => (.ok result, d)
  | abort fault, d => (.error fault, d)
  | call c next, d =>
    match d.perform c with
    | (.ok answer, d) => (next answer).runOn d
    | (.error fault, d) => (.error fault, d)

/-! ## The invariant of a pool -/

/-- A local tier in use: its ring is, and is reserved for a single user. -/
structure Cache.WF (c : Cache) (size : Nat) : Prop where
  queue : c.queue.WF
  flags_eq : c.queue.flags = .spsc
  size_eq : c.queue.size = size

/-- A pool in use: all its rings are. -/
structure Pool.WF (p : Pool) : Prop where
  shared : p.shared.WF
  flags_eq : p.shared.flags = .mpmc
  caches : ∀ c ∈ p.caches.toList, c.WF p.localSize

namespace Pool

/-- Working on the tier of a CPU that the pool has changes that tier alone. -/
theorem onCache_of_lt {τ : Type} (p : Pool) {cpu : Nat} (h : cpu < p.caches.size)
    (f : Cache → τ × Cache) :
    p.onCache cpu f =
      (some (f p.caches[cpu]).1, { p with caches := p.caches.set cpu (f p.caches[cpu]).2 h }) := by
  obtain ⟨id, flags, preallocated, localSize, shared, caches, traffic⟩ := p
  simp only [onCache, takeCache, Array.swapAt, h, ↓reduceDIte]
  simp [Array.setIfInBounds, Array.size_set, h, Array.set_set]

theorem onCache_of_not_lt {τ : Type} (p : Pool) {cpu : Nat} (h : ¬cpu < p.caches.size)
    (f : Cache → τ × Cache) : p.onCache cpu f = (none, p) := by
  obtain ⟨id, flags, preallocated, localSize, shared, caches, traffic⟩ := p
  simp only [onCache, h, ↓reduceDIte]

theorem stock_shelves_getElem? (p : Pool) (cpu : Nat) :
    p.stock.shelves[cpu]? = p.caches[cpu]?.map Cache.shelf := by
  rw [stock, List.getElem?_map, Array.getElem?_toList]

theorem stock_set (p : Pool) {cpu : Nat} (h : cpu < p.caches.size) (c : Cache)
    {f : Shelf → Shelf} (hf : f p.caches[cpu].shelf = c.shelf) :
    ({ p with caches := p.caches.set cpu c h } : Pool).stock = p.stock.onShelf cpu f := by
  have hshelves : (p.caches.set cpu c h).toList.map Cache.shelf =
      (p.caches.toList.map Cache.shelf).modify cpu f := by
    apply List.ext_getElem?
    intro i
    rw [Array.toList_set, List.map_set, List.getElem?_set, List.getElem?_modify]
    by_cases hi : cpu = i
    · subst hi
      simp [h, hf]
    · simp [hi]
  simp only [stock, Stock.onShelf, hshelves, sharedSize]

namespace WF

variable {p : Pool}

theorem cache (h : p.WF) {cpu : Nat} (hcpu : cpu < p.caches.size) :
    p.caches[cpu].WF p.localSize :=
  h.caches _ (by simp)

theorem set (h : p.WF) {cpu : Nat} (hcpu : cpu < p.caches.size) {c : Cache}
    (hc : c.WF p.localSize) : ({ p with caches := p.caches.set cpu c hcpu } : Pool).WF := by
  refine ⟨h.shared, h.flags_eq, fun c' hc' => ?_⟩
  rw [Array.toList_set] at hc'
  rcases List.mem_or_eq_of_mem_set hc' with hmem | rfl
  · exact h.caches c' hmem
  · exact hc

end WF

end Pool

/-! ## One call -/

namespace Ring

variable {r : Ring Handle}

theorem WF.tryEnqueue_eq (h : r.WF) {access : Access} (items : List Handle)
    (ha : (access == .single && !r.flags.singleProducer) = false) :
    r.tryEnqueue access items =
      if r.toList.length + items.length < r.size then (.ok true, r.publish items)
      else (.ok false, r) := by
  have hcap : r.capacity = r.size - 1 := rfl
  have hsize := h.size_pos
  rw [tryEnqueue, h.enqueue_eq items ha]
  by_cases hfit : r.toList.length + items.length ≤ r.capacity
  · rw [if_pos hfit, if_pos (by omega)]
  · rw [if_neg hfit, if_neg (by omega)]

theorem WF.tryDequeue_eq (h : r.WF) {access : Access} (n : Nat)
    (ha : (access == .single && !r.flags.singleConsumer) = false) :
    r.tryDequeue access n =
      if n ≤ r.toList.length then (.ok (some (r.toList.take n)), r.consume n)
      else (.ok none, r) := by
  rw [tryDequeue, h.dequeue_eq n ha]
  by_cases hn : n ≤ r.toList.length
  · rw [if_pos hn, if_pos hn]
  · rw [if_neg hn, if_neg hn]

end Ring

def Queue.flags : Queue → Ring.Flags
  | .shared => .mpmc
  | .cache _ => .spsc

/-- The work `f` on a ring that holds `items` answers `answer` and leaves a ring in use, of the same
size and flags, that holds `items'`. -/
structure Ring.Mirrors {τ : Type} (f : Ring Handle → Except Fault τ × Ring Handle) (r : Ring Handle)
    (answer : Except Fault τ) (items' : List Handle) : Prop where
  answer_eq : (f r).1 = answer
  wf : (f r).2.WF
  toList_eq : (f r).2.toList = items'
  size_eq : (f r).2.size = r.size
  flags_eq : (f r).2.flags = r.flags

theorem Stock.setItems_self {s : Stock} {queue : Queue} {items : List Handle}
    (h : s.items queue = .ok items) : s.setItems items queue = s := by
  cases queue with
  | shared =>
    cases h
    rfl
  | cache cpu =>
    have hmodify : s.shelves.modify cpu (fun shelf => { shelf with items }) = s.shelves := by
      apply List.ext_getElem?
      intro i
      rw [List.getElem?_modify]
      by_cases hi : cpu = i
      · subst hi
        simp only [Stock.items] at h
        split at h
        · next shelf hshelf =>
          cases h
          simp [hshelf]
        · cases h
      · simp [hi]
    simp only [setItems, onShelf, hmodify]

namespace Pool

variable {p : Pool} {τ : Type} {f : Ring Handle → Except Fault τ × Ring Handle}

/-- Work on a queue that the pool does not have is a fault and changes nothing. -/
theorem onQueue_missing {queue : Queue} {fault : Fault} (h : p.stock.items queue = .error fault) :
    p.onQueue queue f = (.error fault, p) := by
  cases queue with
  | shared => cases h
  | cache cpu =>
    simp only [Stock.items, stock_shelves_getElem?] at h
    by_cases hcpu : cpu < p.caches.size
    · rw [Array.getElem?_eq_getElem hcpu] at h
      cases h
    · rw [Array.getElem?_eq_none (Nat.le_of_not_lt hcpu)] at h
      cases h
      simp [onQueue, p.onCache_of_not_lt hcpu, stock, cpus]

/-- Work on a queue is work on its list. -/
theorem WF.onQueue (h : p.WF) {queue : Queue} {items items' : List Handle}
    {answer : Except Fault τ} (hitems : p.stock.items queue = .ok items)
    (hf : ∀ r : Ring Handle, r.WF → r.toList = items → r.size = p.stock.size queue →
      r.flags = queue.flags → r.Mirrors f answer items') :
    (p.onQueue queue f).1 = answer ∧ (p.onQueue queue f).2.WF ∧
      (p.onQueue queue f).2.stock = p.stock.setItems items' queue := by
  cases queue with
  | shared =>
    have hm := hf p.shared h.shared (by cases hitems; rfl) rfl h.flags_eq
    refine ⟨hm.answer_eq, ⟨hm.wf, hm.flags_eq.trans h.flags_eq, h.caches⟩, ?_⟩
    simp only [Pool.onQueue, onShared, stock, Stock.setItems, hm.toList_eq, sharedSize, hm.size_eq]
  | cache cpu =>
    simp only [Stock.items, stock_shelves_getElem?] at hitems
    by_cases hcpu : cpu < p.caches.size
    · rw [Array.getElem?_eq_getElem hcpu] at hitems
      have hcache := h.cache hcpu
      have hm := hf p.caches[cpu].queue hcache.queue (by cases hitems; rfl) hcache.size_eq
        hcache.flags_eq
      simp only [Pool.onQueue, p.onCache_of_lt hcpu]
      refine ⟨hm.answer_eq, h.set hcpu ?_, p.stock_set hcpu _ ?_⟩
      · exact ⟨hm.wf, hm.flags_eq.trans hcache.flags_eq, hm.size_eq.trans hcache.size_eq⟩
      · simp only [Cache.shelf, Cache.onQueue, hm.toList_eq]
    · rw [Array.getElem?_eq_none (Nat.le_of_not_lt hcpu)] at hitems
      cases hitems

/-- Changing what a tier counts, in its cache and on its shelf. -/
theorem WF.onCache (h : p.WF) (cpu : Nat) {f : Cache → Unit × Cache} {g : Shelf → Shelf}
    (hqueue : ∀ c, (f c).2.queue = c.queue) (hshelf : ∀ c, g c.shelf = (f c).2.shelf) :
    (p.onCache cpu f).2.WF ∧ (p.onCache cpu f).2.stock = p.stock.onShelf cpu g := by
  by_cases hcpu : cpu < p.caches.size
  · have hcache := h.cache hcpu
    rw [p.onCache_of_lt hcpu]
    refine ⟨h.set hcpu ⟨?_, ?_, ?_⟩, p.stock_set hcpu _ (hshelf _)⟩ <;> rw [hqueue]
    · exact hcache.queue
    · exact hcache.flags_eq
    · exact hcache.size_eq
  · rw [p.onCache_of_not_lt hcpu]
    refine ⟨h, ?_⟩
    rw [Stock.onShelf, List.modify_eq_self (by simpa [stock] using hcpu)]

theorem WF.step (h : p.WF) (counter : Counter) :
    (p.step counter).WF ∧ (p.step counter).stock = p.stock.step counter := by
  cases counter with
  | sharedRefills => exact ⟨⟨h.shared, h.flags_eq, h.caches⟩, rfl⟩
  | backingDrains => exact ⟨⟨h.shared, h.flags_eq, h.caches⟩, rfl⟩
  | refills cpu => exact h.onCache cpu (fun _ => rfl) (fun _ => rfl)
  | overflows cpu => exact h.onCache cpu (fun _ => rfl) (fun _ => rfl)
  | drains cpu => exact h.onCache cpu (fun _ => rfl) (fun _ => rfl)

end Pool

section Mirrors

variable {r : Ring Handle} {queue : Queue} {access : Ring.Access}

theorem Ring.WF.mirrors_self {τ : Type} {f : Ring Handle → Except Fault τ × Ring Handle}
    (h : r.WF) {answer : Except Fault τ} (heq : f r = (answer, r)) :
    r.Mirrors f answer r.toList := by
  constructor <;> rw [heq]
  exact h

theorem Ring.allowed_of_flags (hflags : r.flags = queue.flags) (ha : queue.forbids access = false) :
    (access == .single && !r.flags.singleProducer) = false ∧
      (access == .single && !r.flags.singleConsumer) = false := by
  cases access <;> cases queue <;>
    simp_all [Queue.flags, Queue.forbids, Ring.Flags.spsc]

theorem Ring.WF.mirrors_enqueue (h : r.WF) (hflags : r.flags = queue.flags)
    (ha : queue.forbids access = false) {more : List Handle}
    (hfit : r.toList.length + more.length < r.size) :
    r.Mirrors (Ring.tryEnqueue access more) (.ok true) (r.toList ++ more) := by
  have hcap : r.capacity = r.size - 1 := rfl
  have hp := h.publish (show r.toList.length + more.length ≤ r.capacity by omega)
  have heq := h.tryEnqueue_eq more (Ring.allowed_of_flags hflags ha).1
  rw [if_pos hfit] at heq
  constructor <;> rw [heq]
  · exact hp.1
  · exact hp.2
  · exact Ring.size_publish _ _
  · exact Ring.flags_publish _ _

theorem Ring.WF.mirrors_dequeue (h : r.WF) (hflags : r.flags = queue.flags)
    (ha : queue.forbids access = false) {count : Nat} (hcount : count ≤ r.toList.length) :
    r.Mirrors (Ring.tryDequeue access count) (.ok (some (r.toList.take count)))
      (r.toList.drop count) := by
  have hc := h.consume hcount
  have heq := h.tryDequeue_eq count (Ring.allowed_of_flags hflags ha).2
  rw [if_pos hcount] at heq
  constructor <;> rw [heq]
  · exact hc.1
  · exact hc.2
  · exact Ring.size_consume _ _
  · exact Ring.flags_consume _ _

end Mirrors

namespace World

variable {β : Type} {w : World β}

/-- An outcome on a world leaves its pool in use and is the outcome `d` on its depot. -/
def Matches {τ : Type} (outcome : Except Fault τ × World β) (d : Except Fault τ × Depot β) : Prop :=
  outcome.2.pool.WF ∧ d = (outcome.1, outcome.2.depot)

theorem matches_onQueue {τ : Type} {f : Ring Handle → Except Fault τ × Ring Handle}
    (h : w.pool.WF) {queue : Queue} {items items' : List Handle} {answer : Except Fault τ}
    (hitems : w.depot.stock.items queue = .ok items)
    (hf : ∀ r : Ring Handle, r.WF → r.toList = items → r.size = w.depot.stock.size queue →
      r.flags = queue.flags → r.Mirrors f answer items') :
    Matches (w.onQueue queue f)
      (answer, { w.depot with stock := w.depot.stock.setItems items' queue }) := by
  obtain ⟨hanswer, hwf, hstock⟩ := h.onQueue hitems hf
  refine ⟨hwf, ?_⟩
  simp only [onQueue, depot, hanswer, hstock]

theorem matches_onQueue_self {τ : Type} {f : Ring Handle → Except Fault τ × Ring Handle}
    (h : w.pool.WF) {queue : Queue} {items : List Handle} {answer : Except Fault τ}
    (hitems : w.depot.stock.items queue = .ok items)
    (hf : ∀ r : Ring Handle, r.WF → r.toList = items → r.size = w.depot.stock.size queue →
      r.flags = queue.flags → f r = (answer, r)) :
    Matches (w.onQueue queue f) (answer, w.depot) := by
  have := matches_onQueue h hitems fun r hr hlist hsize hflags =>
    hlist ▸ hr.mirrors_self (hf r hr hlist hsize hflags)
  rwa [Stock.setItems_self hitems] at this

theorem matches_missing {τ : Type} {f : Ring Handle → Except Fault τ × Ring Handle}
    (h : w.pool.WF) {queue : Queue} {fault : Fault}
    (hitems : w.depot.stock.items queue = .error fault) :
    Matches (w.onQueue queue f) (.error fault, w.depot) := by
  simp only [Matches, onQueue, Pool.onQueue_missing hitems]
  exact ⟨h, trivial⟩

variable [Backing β]

theorem matches_push (h : w.pool.WF) (queue : Queue) (access : Ring.Access) (more : List Handle) :
    Matches (w.perform (.push queue access more)) (w.depot.perform (.push queue access more)) := by
  simp only [Depot.perform, Depot.onItems]
  split
  · next items hitems =>
    split
    · next hforbidden =>
      refine matches_onQueue_self h hitems fun r _ _ _ hflags => ?_
      cases access <;> cases queue <;>
        simp_all [Queue.forbids, Ring.tryEnqueue, Ring.enqueue, Queue.flags, Ring.Flags.mpmc]
    · next hallowed =>
      rw [Bool.not_eq_true] at hallowed
      split
      · next hfit =>
        refine matches_onQueue h hitems fun r hr hlist hsize hflags => ?_
        subst hlist
        exact hr.mirrors_enqueue hflags hallowed (hsize ▸ hfit)
      · next hfit =>
        refine matches_onQueue_self h hitems fun r hr hlist hsize hflags => ?_
        subst hlist
        rw [hr.tryEnqueue_eq more (Ring.allowed_of_flags hflags hallowed).1, hsize, if_neg hfit]
  · next hmissing => exact matches_missing h hmissing

theorem matches_pull (h : w.pool.WF) (queue : Queue) (access : Ring.Access) (count : Nat) :
    Matches (w.perform (.pull queue access count)) (w.depot.perform (.pull queue access count)) := by
  simp only [Depot.perform, Depot.onItems]
  split
  · next items hitems =>
    split
    · next hforbidden =>
      refine matches_onQueue_self h hitems fun r _ _ _ hflags => ?_
      cases access <;> cases queue <;>
        simp_all [Queue.forbids, Ring.tryDequeue, Ring.dequeue, Queue.flags, Ring.Flags.mpmc]
    · next hallowed =>
      rw [Bool.not_eq_true] at hallowed
      split
      · next hcount =>
        refine matches_onQueue h hitems fun r hr hlist hsize hflags => ?_
        subst hlist
        exact hr.mirrors_dequeue hflags hallowed hcount
      · next hcount =>
        refine matches_onQueue_self h hitems fun r hr hlist hsize hflags => ?_
        subst hlist
        rw [hr.tryDequeue_eq count (Ring.allowed_of_flags hflags hallowed).2, if_neg hcount]
  · next hmissing => exact matches_missing h hmissing

/-- **One call** does to a world what it does to its depot. -/
theorem matches_perform (h : w.pool.WF) (c : Call) : Matches (w.perform c) (w.depot.perform c) := by
  cases c with
  | push queue access more => exact matches_push h queue access more
  | pull queue access count => exact matches_pull h queue access count
  | length queue =>
    simp only [Depot.perform, Depot.onItems]
    split
    · next items hitems =>
      refine matches_onQueue_self h hitems fun r hr hlist _ _ => ?_
      rw [← hlist, hr.length_toList]
    · next hmissing => exact matches_missing h hmissing
  | request flags =>
    obtain ⟨pool, backing, events⟩ := w
    simp only [Matches, perform, request, Depot.perform, depot]
    cases Backing.alloc flags backing with
    | mk answer backing =>
      cases answer with
      | none => exact ⟨h, rfl⟩
      | some handle => exact ⟨⟨h.shared, h.flags_eq, h.caches⟩, rfl⟩
  | giveBack handle =>
    obtain ⟨pool, backing, events⟩ := w
    simp only [Matches, perform, giveBack, Depot.perform, depot]
    cases Backing.free handle backing with
    | mk answer backing =>
      cases answer with
      | error fault => exact ⟨h, rfl⟩
      | ok _ => exact ⟨⟨h.shared, h.flags_eq, h.caches⟩, rfl⟩
  | count counter =>
    obtain ⟨pool, backing, events⟩ := w
    obtain ⟨hwf, hstock⟩ := h.step counter
    exact ⟨hwf, by simp only [Depot.perform, perform, depot, hstock]⟩
  | report event => exact ⟨h, rfl⟩

end World

/-- **A routine** does to a world what it does to its depot, and leaves a pool in use. -/
theorem Routine.run_matches {α β : Type} [Backing β] (r : Routine α) {w : World β}
    (h : w.pool.WF) : World.Matches (r.run w) (r.runOn w.depot) := by
  induction r generalizing w with
  | done result => exact ⟨h, rfl⟩
  | abort fault => exact ⟨h, rfl⟩
  | call c next ih =>
    obtain ⟨hwf, heq⟩ := World.matches_perform h c
    rw [run, runOn, heq]
    rcases hp : w.perform c with ⟨answer | answer, w'⟩ <;> rw [hp] at hwf
    · exact ⟨hwf, rfl⟩
    · exact ih answer hwf

/-- What a routine comes to on lists is what it comes to on the pool. -/
theorem Routine.exists_run_eq {α β : Type} [Backing β] {r : Routine α} {w : World β}
    {answer : Except Fault α} {d : Depot β} (h : w.pool.WF) (hrun : r.runOn w.depot = (answer, d)) :
    ∃ pool events, r.run w = (answer, ⟨pool, d.backing, events⟩) ∧ pool.WF ∧
      pool.stock = d.stock := by
  obtain ⟨hwf, hmatch⟩ := r.run_matches h
  rcases hw : r.run w with ⟨answer', ⟨pool, backing, events⟩⟩
  rw [hrun, hw] at hmatch
  rw [hw] at hwf
  cases hmatch
  exact ⟨pool, events, rfl, hwf, rfl⟩

end TieredPool
