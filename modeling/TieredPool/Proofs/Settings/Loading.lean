import TieredPool.Program
import TieredPool.Proofs.Settings.Effective

/-!
# Settings in effect

The program's settings are those that the layers behind its command line make, with the options over
them (`Program.settings_eq_effective`). They are checked twice, when they are loaded and under the
options, so that a value can be refused although an option replaces it.
-/

namespace TieredPool.Program

open Settings (effective)

variable {a : Arguments} {files : Files} {vars : Variables} {d : Settings} {layers : List Value}

def presentPaths (a : Arguments) (files : Files) (vars : Variables) : List String :=
  (paths a vars).filter fun path => (files path).isSome

/-- The layers behind a command line, the highest first, if they are well formed: the variables,
over the files that are there, a later one over those before it. -/
def layers? (a : Arguments) (files : Files) (vars : Variables) : Option (List Value) := do
  let environment ← (Environment.layer vars).toOption
  let below ← (Settings.fileLayers files (presentPaths a files vars)).toOption
  return environment :: below.reverse

/-- Nothing is wrong with what is behind a command line: the file that it names is there, and the
layers are well formed and have the right types, each on its own. -/
structure Layered (a : Arguments) (files : Files) (vars : Variables) (d : Settings)
    (layers : List Value) : Prop where
  named : ∀ path, a.config = some path → (files path).isSome = true
  wellFormed : layers? a files vars = some layers
  reads : ∀ layer ∈ layers, ∃ s, Settings.ofValue layer d = .ok s

namespace Layered

theorem eq_cons (h : Layered a files vars d layers) :
    ∃ environment below, Environment.layer vars = .ok environment ∧
      Settings.fileLayers files (presentPaths a files vars) = .ok below ∧
      layers = environment :: below.reverse := by
  have hlayers := h.wellFormed
  unfold layers? at hlayers
  rcases henvironment : Environment.layer vars with e | environment
  · rw [henvironment] at hlayers
    cases hlayers
  · rcases hbelow : Settings.fileLayers files (presentPaths a files vars) with e | below
    · rw [henvironment, hbelow] at hlayers
      cases hlayers
    · rw [henvironment, hbelow] at hlayers
      cases hlayers
      exact ⟨environment, below, rfl, rfl, rfl⟩

theorem isLayer (h : Layered a files vars d layers) :
    ∀ layer ∈ layers, Settings.IsLayer d layer := by
  intro layer hmem
  refine ⟨?_, h.reads layer hmem⟩
  obtain ⟨environment, below, henvironment, hbelow, rfl⟩ := h.eq_cons
  rcases List.mem_cons.1 hmem with rfl | hfile
  · exact Environment.distinct_layer vars layer henvironment
  · exact Settings.distinct_fileLayers hbelow layer (List.mem_reverse.1 hfile)

theorem ofFiles_eq (h : Layered a files vars d layers) (hd : d.InWords) :
    Settings.ofFiles files vars (presentPaths a files vars) d =
      (effective d layers).checked.mapError .error := by
  have hvalue := Settings.ofValue_stack hd h.isLayer
  obtain ⟨environment, below, henvironment, hbelow, rfl⟩ := h.eq_cons
  have hstack : environment :: below.reverse = (below ++ [environment]).reverse := by
    rw [List.reverse_append]
    rfl
  rw [hstack, Settings.stack_reverse, ← hstack] at hvalue
  rw [Settings.ofFiles, henvironment]
  show (Settings.ofLayers _ environment d >>= Settings.checked).mapError Failure.error = _
  rw [hbelow, Settings.ofLayers]
  show ((Settings.ofValue _ d).mapError LoadError.misfit >>= Settings.checked).mapError _ = _
  rw [hvalue]
  rfl

theorem settings_eq (h : Layered a files vars d layers) (hd : d.InWords) :
    (settings a files vars d).1 =
      (effective d layers).checked.mapError .error >>=
        fun s => (a.override s).checked.mapError .error := by
  rw [← h.ofFiles_eq hd, settings, presentPaths, paths]
  rcases hconfig : a.config with _ | path
  · rfl
  · have hfile := h.named path hconfig
    have hpresent : [path].filter (fun path => (files path).isSome) = [path] :=
      List.filter_cons_of_pos hfile
    have hnone : ¬ (files path).isNone = true := by
      rw [← Option.not_isSome, hfile]
      decide
    dsimp only
    rw [Settings.loadFrom, if_neg hnone, hpresent]

end Layered

/-- The settings are those loaded, with the options of a command line over them. -/
structure Overrides (a : Arguments) (loaded s : Settings) : Prop where
  pool : s.pool = loaded.pool
  logFilter : s.telemetry.logFilter = loaded.telemetry.logFilter
  metrics : s.telemetry.metrics = (loaded.telemetry.metrics || a.metrics)
  stress : ∀ o, a.command = .stress o → s.workload =
    { threads := o.threads.getD loaded.workload.threads
      iterations := o.iterations.getD loaded.workload.iterations
      burst := o.burst.getD loaded.workload.burst
      crossCpuFree := loaded.workload.crossCpuFree || o.crossCpuFree }
  others : (∀ o, a.command ≠ .stress o) → s.workload = loaded.workload

theorem overrides_override (a : Arguments) (loaded : Settings) :
    Overrides a loaded (a.override loaded) := by
  obtain ⟨config, metrics, command⟩ := a
  cases command with
  | stress o =>
    refine ⟨rfl, rfl, rfl, fun o' h => ?_, fun h => absurd rfl (h o)⟩
    cases h
    rfl
  | scenario | config => exact ⟨rfl, rfl, rfl, fun o h => (nomatch h), fun _ => rfl⟩

theorem checked_eq (s : Settings) :
    s.checked = if s.isValid then .ok s else .error (.invalid s.violations) := rfl

/-- **The settings in effect** are those that the layers make, with the options over them, if they
are valid both without the options and with them. Otherwise it is said what is wrong with them, first
without the options. -/
theorem settings_eq_effective (hd : d.InWords) (h : Layered a files vars d layers) :
    ∃ e, Overrides a (effective d layers) e ∧
      (settings a files vars d).1 =
        if (effective d layers).isValid then
          if e.isValid then .ok e else .error (.error (.invalid e.violations))
        else .error (.error (.invalid (effective d layers).violations)) := by
  refine ⟨a.override (effective d layers), overrides_override a _, ?_⟩
  rw [h.settings_eq hd, checked_eq]
  split
  · show (a.override (effective d layers)).checked.mapError Failure.error = _
    rw [checked_eq]
    split <;> rfl
  · rfl

theorem exists_layered {P : List Value → Bool}
    (hnamed : ∀ path, a.config = some path → (files path).isSome = true)
    (h : (layers? a files vars).any fun layers =>
      (layers.all fun layer => (Settings.ofValue layer d).isOk) && P layers) :
    ∃ layers, Layered a files vars d layers ∧ P layers = true := by
  rw [Option.any_eq_true] at h
  obtain ⟨layers, hlayers, h⟩ := h
  rw [Bool.and_eq_true, List.all_eq_true] at h
  refine ⟨layers, ⟨hnamed, hlayers, fun layer hmem => ?_⟩, h.2⟩
  have hlayer := h.1 layer hmem
  rcases hvalue : Settings.ofValue layer d with m | s
  · rw [hvalue] at hlayer
    cases hlayer
  · exact ⟨s, rfl⟩

def filesOf (texts : List (String × String)) : Files := fun path => (texts.lookup path).map .text

/-- Two files that set some settings, two of them both. -/
def staged : Files := filesOf
  [("config/qmempool.yaml", "pool:\n  preallocate: 16\nworkload:\n  threads: 8\n  burst: 4\n"),
    ("config/production.yaml", "workload:\n  threads: 2\n  burst: 5\n")]

def stagedVariables : Variables := [("QMEMPOOL_WORKLOAD__BURST", "6")]

def stagedArguments : Arguments :=
  { metrics := true, command := .stress { iterations := some 3, crossCpuFree := true } }

theorem settings_eq_effective_staged :
    ∃ layers, Settings.InWords {} ∧ Layered stagedArguments staged stagedVariables {} layers ∧
      (settings stagedArguments staged stagedVariables).1 = .ok
        { pool := { preallocate := 16 }
          workload := { threads := 2, iterations := 3, burst := 6, crossCpuFree := true }
          telemetry := { metrics := true } } := by
  have hwords : Settings.InWords {} := by decide
  obtain ⟨layers, hlayered, heffective⟩ : ∃ layers,
      Layered stagedArguments staged stagedVariables {} layers ∧ decide (effective {} layers =
        { pool := { preallocate := 16 }, workload := { threads := 2, burst := 6 } }) = true :=
    exists_layered (fun path hpath => (nomatch hpath)) (by decide +kernel)
  obtain ⟨e, hover, hsettings⟩ := settings_eq_effective hwords hlayered
  rw [of_decide_eq_true heffective] at hover hsettings
  have he : e =
      { pool := { preallocate := 16 }
        workload := { threads := 2, iterations := 3, burst := 6, crossCpuFree := true }
        telemetry := { metrics := true } } := by
    obtain ⟨pool, workload, logFilter, metrics⟩ := e
    obtain ⟨hpool, hfilter, hmetrics, hstress, -⟩ := hover
    cases hpool
    cases hfilter
    cases hmetrics
    cases hstress _ rfl
    rfl
  subst he
  refine ⟨layers, hwords, hlayered, hsettings.trans ?_⟩
  rw [if_pos (by decide +kernel), if_pos (by decide +kernel)]

/-- A count of workers that the command line replaces, but that is refused when it is loaded. -/
def idleVariables : Variables := [("QMEMPOOL_WORKLOAD__THREADS", "0")]

def oneWorker : Arguments :=
  { command := .stress { threads := some 1, iterations := some 1, burst := some 1 } }

/-- A workload that is a list, which a variable replaces by a map with one setting. -/
def listed : Files := filesOf [("config/qmempool.yaml", "workload: [2, 5, 6]\n")]

def threadsVariables : Variables := [("QMEMPOOL_WORKLOAD__THREADS", "3")]

/-- Two files that name a backing by a map. -/
def mapped : Files := filesOf
  [("config/qmempool.yaml", "pool:\n  backing:\n    chunk:\n"),
    ("config/production.yaml", "pool:\n  backing:\n    heap:\n")]

/-- The highest layer that sets a setting does not always decide. What a layer says that the options
replace can be refused; a map over a list leaves nothing of what the list sets; and of two maps that
name a backing, the upper one need not stand. -/
theorem highest_not_decisive :
    (∃ layers, Layered oneWorker (filesOf []) idleVariables {} layers ∧
      (oneWorker.override (effective {} layers)).isValid = true ∧
      (settings oneWorker (filesOf []) idleVariables).1 =
        .error (.error (.invalid [⟨"workload.threads", [.range]⟩]))) ∧
    (∃ layers, Layered { command := .config } listed threadsVariables {} layers ∧
      (layers.find? Setting.iterations.isSetBy).map (Setting.iterations.alone {}) = some 5 ∧
      (settings { command := .config } listed threadsVariables).1 =
        .ok { workload := { threads := 3 } }) ∧
    ∃ layers, Layered { command := .config } mapped [] {} layers ∧
      (layers.find? Setting.backing.isSetBy).map (Setting.backing.alone {}) = some .heap ∧
      (settings { command := .config } mapped []).1 = .ok { pool := { backing := .chunk } } := by
  have hrefused : ∃ layers, Layered oneWorker (filesOf []) idleVariables {} layers ∧
      (oneWorker.override (effective {} layers)).isValid = true :=
    exists_layered (fun path hpath => (nomatch hpath)) (by decide +kernel)
  have hlisted : ∃ layers, Layered { command := .config } listed threadsVariables {} layers ∧
      decide ((layers.find? Setting.iterations.isSetBy).map (Setting.iterations.alone {}) =
        some 5) = true :=
    exists_layered (fun path hpath => (nomatch hpath)) (by decide +kernel)
  have hmapped : ∃ layers, Layered { command := .config } mapped [] {} layers ∧
      decide ((layers.find? Setting.backing.isSetBy).map (Setting.backing.alone {}) =
        some .heap) = true :=
    exists_layered (fun path hpath => (nomatch hpath)) (by decide +kernel)
  refine ⟨?_, ?_, ?_⟩
  · obtain ⟨layers, hlayered, hvalid⟩ := hrefused
    exact ⟨layers, hlayered, hvalid, by decide +kernel⟩
  · obtain ⟨layers, hlayered, hhighest⟩ := hlisted
    exact ⟨layers, hlayered, of_decide_eq_true hhighest, by decide +kernel⟩
  · obtain ⟨layers, hlayered, hhighest⟩ := hmapped
    exact ⟨layers, hlayered, of_decide_eq_true hhighest, by decide +kernel⟩

end TieredPool.Program
