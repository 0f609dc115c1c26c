import Mathlib.Data.List.Perm.Basic
import TieredPool.Proofs.Settings.Ranges

/-!
# Findings

What is wrong with settings is found section by section, and so it forms a tree: a section that is
not in order has entries for its settings, or one for itself. A report is made by walking through
the tree. The entries of a section are kept in no order, and so a walk may take any of them first
(`Finding.Visits`); whatever it does, it comes to the same blocks (`Finding.Visits.perm`). The report
of settings is one of these walks (`Settings.visits_violations`).
-/

namespace TieredPool

/-- What is found in a value. -/
inductive Finding where
  /-- The rules that the value breaks. -/
  | rules (rules : List Rule)
  /-- Findings in the value's parts, each under its key. -/
  | inside (entries : List (String × Finding))
  /-- Findings in the parts of a list's items, each under its index. -/
  | items (items : List (Nat × List (String × Finding)))

namespace Finding

/-- The key of what is found about a value as a whole. -/
def wholeKey : String := "__all__"

/-- The path of a part. A whole has the path of the value it is, and outside all values there is no
path to begin with. -/
def pathOf (path key : String) : String :=
  if key = wholeKey then path else if path = "" then key else path ++ "." ++ key

def pathAt (path : String) (index : Nat) : String := path ++ "[" ++ toString index ++ "]"

/-- Walks through findings and gives a block for all rules found in one place. -/
inductive Visits : String → Finding → List Violation → Prop where
  | rules (path : String) (broken : List Rule) : Visits path (.rules broken) [⟨path, broken⟩]
  | nothing (path : String) : Visits path (.inside []) []
  /-- Any entry may come first. -/
  | entry {path key : String} {finding : Finding} {entries rest : List (String × Finding)}
      {blocks more : List Violation} (hpick : entries.Perm ((key, finding) :: rest))
      (hfirst : Visits (pathOf path key) finding blocks) (hrest : Visits path (.inside rest) more) :
      Visits path (.inside entries) (blocks ++ more)
  | noItem (path : String) : Visits path (.items []) []
  | item {path : String} {index : Nat} {entries : List (String × Finding)}
      {rest : List (Nat × List (String × Finding))} {blocks more : List Violation}
      (hfirst : Visits (pathAt path index) (.inside entries) blocks)
      (hrest : Visits path (.items rest) more) :
      Visits path (.items ((index, entries) :: rest)) (blocks ++ more)

/-! ## A walk in the order of the entries -/

mutual

/-- The blocks of findings, the entries taken in their order. -/
def blocks (path : String) : Finding → List Violation
  | rules broken => [⟨path, broken⟩]
  | inside entries => blocksInside path entries
  | items list => blocksAmong path list

/-- The blocks of entries. -/
def blocksInside (path : String) : List (String × Finding) → List Violation
  | [] => []
  | (key, finding) :: rest => finding.blocks (pathOf path key) ++ blocksInside path rest

/-- The blocks of items. -/
def blocksAmong (path : String) : List (Nat × List (String × Finding)) → List Violation
  | [] => []
  | (index, entries) :: rest => blocksInside (pathAt path index) entries ++ blocksAmong path rest

end

mutual

theorem visits_blocks (path : String) : ∀ finding : Finding, Visits path finding (finding.blocks path)
  | rules broken => by
    unfold blocks
    exact .rules path broken
  | inside entries => by
    unfold blocks
    exact visits_blocksInside path entries
  | items list => by
    unfold blocks
    exact visits_blocksAmong path list

theorem visits_blocksInside (path : String) : ∀ entries : List (String × Finding),
    Visits path (.inside entries) (blocksInside path entries)
  | [] => by
    unfold blocksInside
    exact .nothing path
  | (key, finding) :: rest => by
    unfold blocksInside
    exact .entry (List.Perm.refl _) (visits_blocks (pathOf path key) finding)
      (visits_blocksInside path rest)

theorem visits_blocksAmong (path : String) : ∀ list : List (Nat × List (String × Finding)),
    Visits path (.items list) (blocksAmong path list)
  | [] => by
    unfold blocksAmong
    exact .noItem path
  | (index, entries) :: rest => by
    unfold blocksAmong
    exact .item (visits_blocksInside (pathAt path index) entries) (visits_blocksAmong path rest)

end

theorem blocksInside_eq_flatMap (path : String) (entries : List (String × Finding)) :
    blocksInside path entries = entries.flatMap fun entry => entry.2.blocks (pathOf path entry.1) := by
  induction entries with
  | nil => unfold blocksInside; rfl
  | cons entry rest ih => rw [blocksInside, ih, List.flatMap_cons]

theorem blocksInside_append (path : String) (left right : List (String × Finding)) :
    blocksInside path (left ++ right) = blocksInside path left ++ blocksInside path right := by
  simp only [blocksInside_eq_flatMap, List.flatMap_append]

/-- **The order does not matter**: all walks through the same findings give the same blocks. -/
theorem Visits.perm {path : String} {finding : Finding} {blocks : List Violation}
    (h : Visits path finding blocks) : blocks.Perm (finding.blocks path) := by
  induction h with
  | rules path broken => rw [Finding.blocks]
  | nothing path => rw [Finding.blocks, blocksInside]
  | @entry path key finding entries rest blocks more hpick _ _ ihfirst ihrest =>
    rw [Finding.blocks] at ihrest ⊢
    have hsame : (blocksInside path ((key, finding) :: rest)).Perm (blocksInside path entries) := by
      rw [blocksInside_eq_flatMap, blocksInside_eq_flatMap]
      exact hpick.symm.flatMap_right _
    rw [blocksInside] at hsame
    exact (ihfirst.append ihrest).trans hsame
  | noItem path => rw [Finding.blocks, blocksAmong]
  | item _ _ ihfirst ihrest =>
    simp only [Finding.blocks, blocksAmong] at ihfirst ihrest ⊢
    exact ihfirst.append ihrest

/-! ## Sections -/

/-- What is found in a section: the rules its settings break, or else those it breaks as a whole. -/
def ofSection (settings : List (String × List Rule)) (whole : List Rule) :
    List (String × Finding) :=
  let broken := (settings.filter fun s => !s.2.isEmpty).map fun s => (s.1, rules s.2)
  if !broken.isEmpty then broken else if whole.isEmpty then [] else [(wholeKey, rules whole)]

/-- A section is entered if anything was found in it. -/
def nested (name : String) (entries : List (String × Finding)) : List (String × Finding) :=
  if entries.isEmpty then [] else [(name, inside entries)]

theorem blocksInside_nested {name : String} (hname : name ≠ wholeKey)
    (entries : List (String × Finding)) :
    blocksInside "" (nested name entries) = blocksInside name entries := by
  unfold nested
  cases entries with
  | nil => rw [List.isEmpty_nil, if_pos rfl, blocksInside, blocksInside]
  | cons entry rest =>
    have hpath : pathOf "" name = name := by rw [pathOf, if_neg hname, if_pos rfl]
    rw [List.isEmpty_cons, if_neg Bool.false_ne_true, blocksInside, blocks, hpath,
      blocksInside.eq_def "" [], List.append_nil]

/-- **The report of a section** is a walk through what is found in it. -/
theorem blocksInside_ofSection {name : String} (hname : name ≠ "")
    {settings : List (String × List Rule)} (hkeys : ∀ setting ∈ settings, setting.1 ≠ wholeKey)
    (whole : List Rule) :
    blocksInside name (ofSection settings whole) = Validation.report name settings whole := by
  unfold ofSection Validation.report
  dsimp only
  rw [List.isEmpty_map]
  cases hbroken : (settings.filter fun s => !s.2.isEmpty).isEmpty with
  | true =>
    rw [Bool.not_true, if_neg Bool.false_ne_true, if_pos rfl]
    split
    · rw [blocksInside]
    · rw [blocksInside, blocks, blocksInside, List.append_nil, pathOf, if_pos rfl]
  | false =>
    rw [Bool.not_false, if_pos rfl, if_neg Bool.false_ne_true, blocksInside_eq_flatMap,
      List.flatMap_map, List.map_eq_flatMap]
    apply List.flatMap_congr
    intro setting hmem
    have hkey := hkeys setting (List.mem_of_mem_filter hmem)
    rw [blocks, pathOf, if_neg hkey, if_neg hname]

end Finding

/-- What is found in settings. -/
def Settings.findings (s : Settings) : List (String × Finding) :=
  Finding.nested "pool" (Finding.ofSection s.pool.brokenRules s.pool.brokenWhole) ++
  Finding.nested "workload" (Finding.ofSection s.workload.brokenRules s.workload.brokenWhole) ++
  Finding.nested "telemetry" (Finding.ofSection s.telemetry.brokenRules [])

theorem Settings.blocks_findings (s : Settings) :
    Finding.blocks "" (.inside s.findings) = s.violations := by
  have hpool : Finding.blocksInside "pool"
      (Finding.ofSection s.pool.brokenRules s.pool.brokenWhole) = s.pool.violations :=
    Finding.blocksInside_ofSection (by decide)
      (by simp [PoolSettings.brokenRules, Finding.wholeKey]) _
  have hworkload : Finding.blocksInside "workload"
      (Finding.ofSection s.workload.brokenRules s.workload.brokenWhole) = s.workload.violations :=
    Finding.blocksInside_ofSection (by decide)
      (by simp [WorkloadSettings.brokenRules, Finding.wholeKey]) _
  have htelemetry : Finding.blocksInside "telemetry"
      (Finding.ofSection s.telemetry.brokenRules []) = s.telemetry.violations :=
    Finding.blocksInside_ofSection (by decide)
      (by simp [TelemetrySettings.brokenRules, Finding.wholeKey]) _
  rw [Finding.blocks, findings, Finding.blocksInside_append, Finding.blocksInside_append,
    Finding.blocksInside_nested (by decide), Finding.blocksInside_nested (by decide),
    Finding.blocksInside_nested (by decide), hpool, hworkload, htelemetry, violations]

/-- **The report** of settings is a walk through what is found in them. -/
theorem Settings.visits_violations (s : Settings) :
    Finding.Visits "" (.inside s.findings) s.violations := by
  have hvisits := Finding.visits_blocks "" (.inside s.findings)
  rwa [s.blocks_findings] at hvisits

/-- Every other walk through what is found gives the report in another order. -/
theorem Settings.perm_violations {s : Settings} {blocks : List Violation}
    (h : Finding.Visits "" (.inside s.findings) blocks) : blocks.Perm s.violations := by
  have hperm := h.perm
  rwa [s.blocks_findings] at hperm

end TieredPool
