import TieredPool.Settings.Load

/-!
# Settings, one by one

A reading of all settings reads each of them on its own, from the value that is written for it, if
one is: a value gives some settings iff its sections are in order and every setting has what its own
value says (`Settings.ofValue_eq_ok_iff`). What settings are written as gives them back
(`Settings.ofValue_toValue`).
-/

namespace TieredPool

open Reading (Reader)

/-- The sections that settings stand in. -/
inductive Section where
  | pool
  | workload
  | telemetry
deriving DecidableEq, Repr

def Section.key : Section → String
  | pool => "pool"
  | workload => "workload"
  | telemetry => "telemetry"

/-- A setting, by the type of what it is set to. -/
inductive Setting : Type → Type 1 where
  | localCapacity : Setting Nat
  | sharedCapacity : Setting Nat
  | preallocate : Setting Nat
  | cpus : Setting Nat
  | elementSize : Setting Nat
  | elementAlign : Setting Nat
  | backing : Setting BackingKind
  | backingLimit : Setting (Option Nat)
  | threads : Setting Nat
  | iterations : Setting Nat
  | burst : Setting Nat
  | crossCpuFree : Setting Bool
  | logFilter : Setting String
  | metrics : Setting Bool

namespace Setting

variable {α : Type}

/-- What the setting is set to. -/
def of : {α : Type} → Setting α → Settings → α
  | _, localCapacity, s => s.pool.localCapacity
  | _, sharedCapacity, s => s.pool.sharedCapacity
  | _, preallocate, s => s.pool.preallocate
  | _, cpus, s => s.pool.cpus
  | _, elementSize, s => s.pool.elementSize
  | _, elementAlign, s => s.pool.elementAlign
  | _, backing, s => s.pool.backing
  | _, backingLimit, s => s.pool.backingLimit
  | _, threads, s => s.workload.threads
  | _, iterations, s => s.workload.iterations
  | _, burst, s => s.workload.burst
  | _, crossCpuFree, s => s.workload.crossCpuFree
  | _, logFilter, s => s.telemetry.logFilter
  | _, metrics, s => s.telemetry.metrics

/-- The section that the setting stands in. -/
def home : Setting α → Section
  | localCapacity | sharedCapacity | preallocate | cpus | elementSize | elementAlign | backing
  | backingLimit => .pool
  | threads | iterations | burst | crossCpuFree => .workload
  | logFilter | metrics => .telemetry

/-- Its key, in a section that is a map. -/
def key : Setting α → String
  | localCapacity => "local_capacity"
  | sharedCapacity => "shared_capacity"
  | preallocate => "preallocate"
  | cpus => "cpus"
  | elementSize => "element_size"
  | elementAlign => "element_align"
  | backing => "backing"
  | backingLimit => "backing_limit"
  | threads => "threads"
  | iterations => "iterations"
  | burst => "burst"
  | crossCpuFree => "cross_cpu_free"
  | logFilter => "log_filter"
  | metrics => "metrics"

/-- Its place, in a section that is a list. -/
def place : Setting α → Nat
  | localCapacity | threads | logFilter => 0
  | sharedCapacity | iterations | metrics => 1
  | preallocate | burst => 2
  | cpus | crossCpuFree => 3
  | elementSize => 4
  | elementAlign => 5
  | backing => 6
  | backingLimit => 7

/-- How a value is read that is written for it. -/
def read : {α : Type} → Setting α → Reader α
  | _, localCapacity => Reading.count
  | _, sharedCapacity => Reading.count
  | _, preallocate => Reading.count
  | _, cpus => Reading.count
  | _, elementSize => Reading.count
  | _, elementAlign => Reading.count
  | _, backing => Reading.kind
  | _, backingLimit => Reading.optionalCount
  | _, threads => Reading.count
  | _, iterations => Reading.count
  | _, burst => Reading.count
  | _, crossCpuFree => Reading.flag
  | _, logFilter => Reading.text
  | _, metrics => Reading.flag

end Setting

namespace Settings

def ofEach (value : {α : Type} → Setting α → α) : Settings where
  pool :=
    { localCapacity := value .localCapacity
      sharedCapacity := value .sharedCapacity
      preallocate := value .preallocate
      cpus := value .cpus
      elementSize := value .elementSize
      elementAlign := value .elementAlign
      backing := value .backing
      backingLimit := value .backingLimit }
  workload :=
    { threads := value .threads
      iterations := value .iterations
      burst := value .burst
      crossCpuFree := value .crossCpuFree }
  telemetry :=
    { logFilter := value .logFilter
      metrics := value .metrics }

@[simp] theorem of_ofEach (value : {α : Type} → Setting α → α) {α : Type} (x : Setting α) :
    x.of (ofEach value) = value x := by
  cases x <;> rfl

end Settings

/-! ## Values for settings -/

namespace Value

/-- Can the value be read as a section? -/
def isSection : Value → Bool
  | scalar .. => false
  | _ => true

def part? (key : String) (place : Nat) : Value → Option Value
  | map _ entries => lookup? key entries
  | list _ items => items[place]?
  | scalar .. => none

/-- The sections of the value are maps or lists, as far as they are there. -/
def Sectioned (v : Value) : Prop :=
  (∃ source entries, v = map source entries) ∧
    ∀ (home : Section) (w : Value), v.at? [home.key] = some w → w.isSection = true

theorem at?_map (source : Source) (entries : List (String × Value)) (key : String) :
    (map source entries).at? [key] = lookup? key entries := by
  rw [at?]
  cases lookup? key entries <;> rfl

end Value

/-- What is given by the value written for a setting: the default if there is none. -/
def Gives {α : Type} (default : α) (read : Reader α) (written : Option Value) (a : α) : Prop :=
  match written with
  | none => a = default
  | some v => read v = .ok a

namespace Setting

variable {α : Type}

def written? (x : Setting α) (v : Value) : Option Value :=
  (v.at? [x.home.key]).bind (Value.part? x.key x.place)

/-- In the settings the setting has what a value gives it. -/
def IsGiven (x : Setting α) (d : Settings) (v : Value) (a : α) : Prop :=
  Gives (x.of d) x.read (x.written? v) a

end Setting

/-! ## Results -/

theorem bind_eq_ok {ε α γ : Type} {r : Except ε α} {f : α → Except ε γ} {c : γ} :
    r >>= f = .ok c ↔ ∃ a, r = .ok a ∧ f a = .ok c := by
  cases r with
  | error e =>
    constructor
    · intro h
      cases h
    · rintro ⟨a, ha, -⟩
      cases ha
  | ok a =>
    refine ⟨fun h => ⟨a, rfl, h⟩, ?_⟩
    rintro ⟨a', ha', h⟩
    cases ha'
    exact h

theorem mapError_eq_ok {ε ε' α : Type} {r : Except ε α} {f : ε → ε'} {a : α} :
    r.mapError f = .ok a ↔ r = .ok a := by
  cases r with
  | error e =>
    constructor
    · intro h
      cases h
    · intro h
      cases h
  | ok a' =>
    constructor
    · intro h
      cases h
      rfl
    · intro h
      cases h
      rfl

namespace Reading

variable {α : Type} {default a : α} {read : Reader α}

theorem field_eq_ok_iff {entries : List (String × Value)} {key : String} :
    field entries key default read = .ok a ↔ Gives default read (Value.lookup? key entries) a := by
  unfold field Gives
  cases Value.lookup? key entries with
  | none => rw [Except.ok.injEq, eq_comm]
  | some v => exact mapError_eq_ok

theorem item_eq_ok_iff {items : List Value} {place : Nat} :
    item items place default read = .ok a ↔ Gives default read items[place]? a := by
  unfold item Gives
  cases items[place]? with
  | none => rw [Except.ok.injEq, eq_comm]
  | some v => exact mapError_eq_ok

end Reading

/-! ## Sections -/

namespace Settings

variable {v : Value} {d s : Settings}

/-- In the settings, all settings of a section have what the section gives them. -/
def HasSection (home : Section) (v : Value) (d s : Settings) : Prop :=
  ∀ (α : Type) (x : Setting α), x.home = home →
    Gives (x.of d) x.read (v.part? x.key x.place) (x.of s)

theorem pool_eq_ok_iff :
    Reading.pool d.pool v = .ok s.pool ↔ v.isSection = true ∧ HasSection .pool v d s := by
  obtain ⟨p, w, t⟩ := s
  constructor
  · intro h
    cases v with
    | scalar => cases h
    | map =>
      simp only [Reading.pool, bind_eq_ok, Reading.field_eq_ok_iff] at h
      obtain ⟨backing, hbacking, limit, hlimit, cpus, hcpus, align, halign, size, hsize,
        localCapacity, hlocal, preallocate, hpreallocate, sharedCapacity, hshared, hp⟩ := h
      cases hp
      refine ⟨rfl, fun α x hx => ?_⟩
      cases x <;> first | assumption | cases hx
    | list =>
      simp only [Reading.pool, bind_eq_ok, Reading.item_eq_ok_iff] at h
      obtain ⟨localCapacity, hlocal, sharedCapacity, hshared, preallocate, hpreallocate, cpus, hcpus,
        size, hsize, align, halign, backing, hbacking, limit, hlimit, hp⟩ := h
      cases hp
      refine ⟨rfl, fun α x hx => ?_⟩
      cases x <;> first | assumption | cases hx
  · rintro ⟨hsection, h⟩
    cases v with
    | scalar => cases hsection
    | map =>
      simp only [Reading.pool, bind_eq_ok, Reading.field_eq_ok_iff]
      exact ⟨_, h _ .backing rfl, _, h _ .backingLimit rfl, _, h _ .cpus rfl,
        _, h _ .elementAlign rfl, _, h _ .elementSize rfl, _, h _ .localCapacity rfl,
        _, h _ .preallocate rfl, _, h _ .sharedCapacity rfl, rfl⟩
    | list =>
      simp only [Reading.pool, bind_eq_ok, Reading.item_eq_ok_iff]
      exact ⟨_, h _ .localCapacity rfl, _, h _ .sharedCapacity rfl, _, h _ .preallocate rfl,
        _, h _ .cpus rfl, _, h _ .elementSize rfl, _, h _ .elementAlign rfl, _, h _ .backing rfl,
        _, h _ .backingLimit rfl, rfl⟩

theorem workload_eq_ok_iff :
    Reading.workload d.workload v = .ok s.workload ↔
      v.isSection = true ∧ HasSection .workload v d s := by
  obtain ⟨p, w, t⟩ := s
  constructor
  · intro h
    cases v with
    | scalar => cases h
    | map =>
      simp only [Reading.workload, bind_eq_ok, Reading.field_eq_ok_iff] at h
      obtain ⟨burst, hburst, cross, hcross, iterations, hiterations, threads, hthreads, hw⟩ := h
      cases hw
      refine ⟨rfl, fun α x hx => ?_⟩
      cases x <;> first | assumption | cases hx
    | list =>
      simp only [Reading.workload, bind_eq_ok, Reading.item_eq_ok_iff] at h
      obtain ⟨threads, hthreads, iterations, hiterations, burst, hburst, cross, hcross, hw⟩ := h
      cases hw
      refine ⟨rfl, fun α x hx => ?_⟩
      cases x <;> first | assumption | cases hx
  · rintro ⟨hsection, h⟩
    cases v with
    | scalar => cases hsection
    | map =>
      simp only [Reading.workload, bind_eq_ok, Reading.field_eq_ok_iff]
      exact ⟨_, h _ .burst rfl, _, h _ .crossCpuFree rfl, _, h _ .iterations rfl,
        _, h _ .threads rfl, rfl⟩
    | list =>
      simp only [Reading.workload, bind_eq_ok, Reading.item_eq_ok_iff]
      exact ⟨_, h _ .threads rfl, _, h _ .iterations rfl, _, h _ .burst rfl,
        _, h _ .crossCpuFree rfl, rfl⟩

theorem telemetry_eq_ok_iff :
    Reading.telemetry d.telemetry v = .ok s.telemetry ↔
      v.isSection = true ∧ HasSection .telemetry v d s := by
  obtain ⟨p, w, t⟩ := s
  constructor
  · intro h
    cases v with
    | scalar => cases h
    | map =>
      simp only [Reading.telemetry, bind_eq_ok, Reading.field_eq_ok_iff] at h
      obtain ⟨filter, hfilter, metrics, hmetrics, ht⟩ := h
      cases ht
      refine ⟨rfl, fun α x hx => ?_⟩
      cases x <;> first | assumption | cases hx
    | list =>
      simp only [Reading.telemetry, bind_eq_ok, Reading.item_eq_ok_iff] at h
      obtain ⟨filter, hfilter, metrics, hmetrics, ht⟩ := h
      cases ht
      refine ⟨rfl, fun α x hx => ?_⟩
      cases x <;> first | assumption | cases hx
  · rintro ⟨hsection, h⟩
    cases v with
    | scalar => cases hsection
    | map =>
      simp only [Reading.telemetry, bind_eq_ok, Reading.field_eq_ok_iff]
      exact ⟨_, h _ .logFilter rfl, _, h _ .metrics rfl, rfl⟩
    | list =>
      simp only [Reading.telemetry, bind_eq_ok, Reading.item_eq_ok_iff]
      exact ⟨_, h _ .logFilter rfl, _, h _ .metrics rfl, rfl⟩

theorem section_eq_ok_iff {σ : Type} {home : Section} {get : Settings → σ}
    {read : σ → Reader σ} (entries : List (String × Value))
    (hread : ∀ v, read (get d) v = .ok (get s) ↔ v.isSection = true ∧ HasSection home v d s)
    (hget : get s = get d ↔ ∀ (α : Type) (x : Setting α), x.home = home → x.of s = x.of d) :
    Reading.field entries home.key (get d) (read (get d)) = .ok (get s) ↔
      (∀ w, Value.lookup? home.key entries = some w → w.isSection = true) ∧
        ∀ (α : Type) (x : Setting α), x.home = home →
          Gives (x.of d) x.read ((Value.lookup? home.key entries).bind (Value.part? x.key x.place))
            (x.of s) := by
  rw [Reading.field_eq_ok_iff]
  cases Value.lookup? home.key entries with
  | none =>
    refine hget.trans ⟨fun h => ⟨?_, h⟩, fun h => h.2⟩
    intro w hw
    cases hw
  | some w =>
    refine (hread w).trans ⟨fun h => ⟨?_, h.2⟩, fun h => ⟨h.1 w rfl, h.2⟩⟩
    intro w' hw'
    cases hw'
    exact h.1

theorem pool_eq_iff :
    s.pool = d.pool ↔ ∀ (α : Type) (x : Setting α), x.home = .pool → x.of s = x.of d := by
  constructor
  · intro h α x hx
    cases x <;> cases hx <;> simp only [Setting.of, h]
  · intro h
    obtain ⟨⟨a, b, c, n, size, align, kind, limit⟩, w, t⟩ := s
    obtain ⟨⟨a', b', c', n', size', align', kind', limit'⟩, w', t'⟩ := d
    rw [PoolSettings.mk.injEq]
    exact ⟨h _ .localCapacity rfl, h _ .sharedCapacity rfl, h _ .preallocate rfl, h _ .cpus rfl,
      h _ .elementSize rfl, h _ .elementAlign rfl, h _ .backing rfl, h _ .backingLimit rfl⟩

theorem workload_eq_iff :
    s.workload = d.workload ↔
      ∀ (α : Type) (x : Setting α), x.home = .workload → x.of s = x.of d := by
  constructor
  · intro h α x hx
    cases x <;> cases hx <;> simp only [Setting.of, h]
  · intro h
    obtain ⟨p, ⟨threads, iterations, burst, cross⟩, t⟩ := s
    obtain ⟨p', ⟨threads', iterations', burst', cross'⟩, t'⟩ := d
    rw [WorkloadSettings.mk.injEq]
    exact ⟨h _ .threads rfl, h _ .iterations rfl, h _ .burst rfl, h _ .crossCpuFree rfl⟩

theorem telemetry_eq_iff :
    s.telemetry = d.telemetry ↔
      ∀ (α : Type) (x : Setting α), x.home = .telemetry → x.of s = x.of d := by
  constructor
  · intro h α x hx
    cases x <;> cases hx <;> simp only [Setting.of, h]
  · intro h
    obtain ⟨p, w, ⟨filter, metrics⟩⟩ := s
    obtain ⟨p', w', ⟨filter', metrics'⟩⟩ := d
    rw [TelemetrySettings.mk.injEq]
    exact ⟨h _ .logFilter rfl, h _ .metrics rfl⟩

/-- **Settings are read one by one.** -/
theorem ofValue_eq_ok_iff :
    ofValue v d = .ok s ↔
      v.Sectioned ∧ ∀ (α : Type) (x : Setting α), x.IsGiven d v (x.of s) := by
  cases v with
  | scalar | list =>
    constructor
    · intro h
      cases h
    · rintro ⟨⟨⟨source, entries, h⟩, -⟩, -⟩
      cases h
  | map source entries =>
    have hpool := section_eq_ok_iff entries (fun _ => pool_eq_ok_iff)
      (pool_eq_iff (s := s) (d := d))
    have htelemetry := section_eq_ok_iff entries (fun _ => telemetry_eq_ok_iff)
      (telemetry_eq_iff (s := s) (d := d))
    have hworkload := section_eq_ok_iff entries (fun _ => workload_eq_ok_iff)
      (workload_eq_iff (s := s) (d := d))
    simp only [Value.Sectioned, Setting.IsGiven, Setting.written?, Value.at?_map]
    constructor
    · intro h
      simp only [ofValue, bind_eq_ok] at h
      obtain ⟨p, hp, t, ht, w, hw, hs⟩ := h
      cases hs
      obtain ⟨hpoolSection, hpoolGiven⟩ := hpool.1 hp
      obtain ⟨htelemetrySection, htelemetryGiven⟩ := htelemetry.1 ht
      obtain ⟨hworkloadSection, hworkloadGiven⟩ := hworkload.1 hw
      refine ⟨⟨⟨source, entries, rfl⟩, fun home => ?_⟩, fun α x => ?_⟩
      · cases home
        · exact hpoolSection
        · exact hworkloadSection
        · exact htelemetrySection
      · rcases hx : x.home
        · exact hpoolGiven α x hx
        · exact hworkloadGiven α x hx
        · exact htelemetryGiven α x hx
    · rintro ⟨⟨-, hsection⟩, hgiven⟩
      simp only [ofValue, bind_eq_ok]
      refine ⟨s.pool, hpool.2 ⟨hsection .pool, fun α x hx => hx ▸ hgiven α x⟩,
        s.telemetry, htelemetry.2 ⟨hsection .telemetry, fun α x hx => hx ▸ hgiven α x⟩,
        s.workload, hworkload.2 ⟨hsection .workload, fun α x hx => hx ▸ hgiven α x⟩, rfl⟩

/-! ## Settings written out -/

def numbers (s : Settings) : List Nat :=
  [s.pool.localCapacity, s.pool.sharedCapacity, s.pool.preallocate, s.pool.cpus, s.pool.elementSize,
    s.pool.elementAlign, s.workload.threads, s.workload.iterations, s.workload.burst] ++
    s.pool.backingLimit.toList

/-- The numbers among the settings fit a word. -/
def InWords (s : Settings) : Prop := ∀ n ∈ s.numbers, n < Word.bound

instance (s : Settings) : Decidable s.InWords :=
  inferInstanceAs (Decidable (∀ n ∈ s.numbers, n < Word.bound))

theorem count_natural {source : Source} {n : Nat} (h : n < Word.bound) :
    Reading.count (.scalar source (.natural n)) = .ok n := by
  rw [Reading.count, if_pos]
  exact decide_eq_true h

theorem kind_name (source : Source) (kind : BackingKind) :
    Reading.kind (.scalar source (.text kind.name)) = .ok kind := by
  cases kind <;> rfl

theorem isGiven_toValue (h : s.InWords) (source : Source) {α : Type} (x : Setting α) :
    x.IsGiven d (toValue source s) (x.of s) := by
  cases x with
  | backing => exact kind_name source s.pool.backing
  | backingLimit =>
    obtain ⟨⟨_, _, _, _, _, _, _, _ | limit⟩, _, _⟩ := s
    · rfl
    · show some <$> Reading.count (.scalar source (.natural limit)) = .ok (some limit)
      rw [count_natural (h limit (by simp [numbers]))]
      rfl
  | crossCpuFree => rfl
  | logFilter => rfl
  | metrics => rfl
  | localCapacity => exact count_natural (h _ (by simp [numbers]))
  | sharedCapacity => exact count_natural (h _ (by simp [numbers]))
  | preallocate => exact count_natural (h _ (by simp [numbers]))
  | cpus => exact count_natural (h _ (by simp [numbers]))
  | elementSize => exact count_natural (h _ (by simp [numbers]))
  | elementAlign => exact count_natural (h _ (by simp [numbers]))
  | threads => exact count_natural (h _ (by simp [numbers]))
  | iterations => exact count_natural (h _ (by simp [numbers]))
  | burst => exact count_natural (h _ (by simp [numbers]))

theorem sectioned_toValue (source : Source) : (toValue source s).Sectioned := by
  refine ⟨⟨_, _, rfl⟩, fun home w hw => ?_⟩
  cases home <;> cases hw <;> rfl

/-- **Settings that are written out** are read back, whatever the defaults. -/
theorem ofValue_toValue (h : s.InWords) (source : Source) : ofValue (toValue source s) d = .ok s :=
  ofValue_eq_ok_iff.2 ⟨sectioned_toValue source, fun _ x => isGiven_toValue h source x⟩

end Settings

end TieredPool
