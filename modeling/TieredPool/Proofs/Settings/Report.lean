import TieredPool.Settings.Load
import TieredPool.Proofs.Settings.Findings

/-!
# The report of invalid settings

Which rules settings break is said here without regard to how it is found out: `Breaks` for the rules
of single settings, `BreaksWhole` for those of a section. A section is complained of under its own
path only if none of its settings is (`Complaint`). The report is then shown to be complete and sound
(`Settings.report_exact`): it has one block for each path that is complained of, with one line for
each rule that is broken there, and no other lines.
-/

namespace TieredPool

open Validation

/-! ## Lines -/

/-- The code of a rule. -/
def Rule.code : Rule → String
  | range => "range"
  | length => "length"
  | powerOfTwo => "must_be_power_of_two"
  | preallocation _ _ => "preallocate_exceeds_shared"
  | alignment => "align_exceeds_size"
  | secondWorker => "cross_cpu_free_needs_two_threads"

/-- The message of a rule that has one. -/
def Rule.message? : Rule → Option String
  | preallocation preallocate sharedCapacity =>
    some s!"preallocate ({preallocate}) must be below shared_capacity ({sharedCapacity})"
  | _ => none

theorem Rule.text_eq (rule : Rule) : rule.text = rule.message?.getD rule.code := by
  cases rule <;> rfl

/-- The lines of a block: its heading, and the message of each rule or else its code. -/
def Violation.lines (v : Violation) : List String :=
  ("Field '" ++ v.path ++ "':") :: v.rules.map fun rule => "  - " ++ rule.message?.getD rule.code

/-- The lines of the error that settings with such a report come to. -/
def Violation.errorLines (blocks : List Violation) : List String :=
  "Invalid configuration:" :: blocks.flatMap lines

/-- The text that has these lines, each with its end. -/
def Text.unlines (lines : List String) : String := String.join (lines.map (· ++ "\n"))

namespace Text

theorem unlines_cons (line : String) (lines : List String) :
    unlines (line :: lines) = line ++ "\n" ++ unlines lines := by
  rw [unlines, List.map_cons, String.join_cons]
  rfl

theorem unlines_append (first second : List String) :
    unlines (first ++ second) = unlines first ++ unlines second := by
  rw [unlines, List.map_append, String.join_append]
  rfl

theorem unlines_cons_eq_intercalate (line : String) (lines : List String) :
    unlines (line :: lines) = "\n".intercalate (line :: lines) ++ "\n" := by
  induction lines generalizing line with
  | nil =>
    rw [unlines_cons, String.intercalate_singleton]
    exact String.append_empty
  | cons next lines ih =>
    rw [unlines_cons, ih, String.intercalate_cons_cons]
    simp only [String.append_assoc]

theorem unlines_toList (lines : List String) :
    (unlines lines).toList = ['\n'].intercalate ((lines ++ [""]).map String.toList) := by
  induction lines with
  | nil => rfl
  | cons line lines ih =>
    have hmore : (lines ++ [""]).map String.toList ≠ [] := by simp
    rw [unlines_cons, String.toList_append, String.toList_append, ih, List.cons_append,
      List.map_cons, List.intercalate_cons_of_ne_nil hmore]
    rfl

/-- **A text has the lines it was made of**, and nothing after the end of the last. -/
theorem splitOn_unlines {lines : List String} (h : ∀ line ∈ lines, '\n' ∉ line.toList) :
    (unlines lines).toList.splitOn '\n' = (lines ++ [""]).map String.toList := by
  rw [unlines_toList]
  apply List.splitOn_intercalate
  · intro line hline
    obtain ⟨line, hmem, rfl⟩ := List.mem_map.1 hline
    rcases List.mem_append.1 hmem with hmem | hmem
    · exact h line hmem
    · rw [List.mem_singleton.1 hmem]
      exact List.not_mem_nil
  · simp

theorem newline_not_mem_repr (n : Nat) : '\n' ∉ n.repr.toList := by
  intro hmem
  rw [Nat.toList_repr] at hmem
  have hdigit : '\n'.isDigit = true := Nat.isDigit_of_mem_toDigits (by decide) (by decide) hmem
  exact absurd hdigit (by decide)

end Text

theorem Violation.text_newline (v : Violation) : v.text ++ "\n" = Text.unlines v.lines := by
  unfold text lines
  simp only [Text.unlines_cons_eq_intercalate, Rule.text_eq]
  rfl

theorem LoadError.message_invalid_eq (blocks : List Violation) :
    (LoadError.invalid blocks).message = Text.unlines (Violation.errorLines blocks) := by
  have hblocks : String.join (blocks.map fun v => v.text ++ "\n") =
      Text.unlines (blocks.flatMap Violation.lines) := by
    induction blocks with
    | nil => rfl
    | cons block blocks ih =>
      rw [List.map_cons, String.join_cons, ih, block.text_newline, List.flatMap_cons,
        Text.unlines_append]
  have hmessage : (LoadError.invalid blocks).message =
      "Invalid configuration:\n" ++ String.join (blocks.map fun v => v.text ++ "\n") := rfl
  have hheading : "Invalid configuration:\n" = "Invalid configuration:" ++ "\n" := by simp
  rw [hmessage, hblocks, Violation.errorLines, Text.unlines_cons, hheading]

theorem Rule.newline_not_mem_text (rule : Rule) : '\n' ∉ rule.text.toList := by
  cases rule with
  | preallocation preallocate sharedCapacity =>
    have htext : (preallocation preallocate sharedCapacity).text =
        "preallocate (" ++ preallocate.repr ++ ") must be below shared_capacity (" ++
          sharedCapacity.repr ++ ")" := rfl
    have hpunctuation : '\n' ∉ "preallocate (".toList ∧
        '\n' ∉ ") must be below shared_capacity (".toList ∧ '\n' ∉ ")".toList := by decide
    simp only [htext, String.toList_append, List.mem_append, not_or]
    exact ⟨⟨⟨⟨hpunctuation.1, Text.newline_not_mem_repr _⟩, hpunctuation.2.1⟩,
      Text.newline_not_mem_repr _⟩, hpunctuation.2.2⟩
  | _ => decide

/-- No line of a block is broken, if its path is not. -/
theorem Violation.newline_not_mem_lines {v : Violation} (hpath : '\n' ∉ v.path.toList) :
    ∀ line ∈ v.lines, '\n' ∉ line.toList := by
  have hpunctuation : '\n' ∉ "Field '".toList ∧ '\n' ∉ "':".toList ∧ '\n' ∉ "  - ".toList := by
    decide
  intro line hline
  unfold lines at hline
  rcases List.mem_cons.1 hline with hline | hline
  · simp only [hline, String.toList_append, List.mem_append, not_or]
    exact ⟨⟨hpunctuation.1, hpath⟩, hpunctuation.2.1⟩
  · obtain ⟨rule, -, hline⟩ := List.mem_map.1 hline
    rw [← rule.text_eq] at hline
    rw [← hline, String.toList_append, List.mem_append, not_or]
    exact ⟨hpunctuation.2.2, rule.newline_not_mem_text⟩

theorem LoadError.splitOn_message {blocks : List Violation}
    (hpaths : ∀ block ∈ blocks, '\n' ∉ block.path.toList) :
    (LoadError.invalid blocks).message.toList.splitOn '\n' =
      (Violation.errorLines blocks ++ [""]).map String.toList := by
  have hheading : '\n' ∉ "Invalid configuration:".toList := by decide
  rw [message_invalid_eq]
  apply Text.splitOn_unlines
  intro line hline
  rcases List.mem_cons.1 hline with hline | hline
  · rw [hline]
    exact hheading
  · obtain ⟨block, hblock, hline⟩ := List.mem_flatMap.1 hline
    exact block.newline_not_mem_lines (hpaths block hblock) line hline

/-! ## The report of a section -/

namespace Validation

theorem mem_require {holds : Bool} {rule broken : Rule} :
    broken ∈ require holds rule ↔ holds = false ∧ broken = rule := by
  unfold require
  cases holds <;> simp

theorem mem_within {low high n : Nat} {broken : Rule} :
    broken ∈ within low high n ↔ (n < low ∨ high < n) ∧ broken = .range := by
  rw [within, mem_require, Bool.and_eq_false_iff, decide_eq_false_iff_not, decide_eq_false_iff_not,
    Nat.not_le, Nat.not_le]

theorem mem_atLeast {low n : Nat} {broken : Rule} :
    broken ∈ atLeast low n ↔ n < low ∧ broken = .range := by
  rw [atLeast, mem_require, decide_eq_false_iff_not, Nat.not_le]

theorem mem_powerOfTwo {n : Nat} {broken : Rule} :
    broken ∈ powerOfTwo n ↔ (∀ k, n ≠ 1 <<< k) ∧ broken = .powerOfTwo := by
  rw [powerOfTwo, mem_require, ← Bool.not_eq_true, Word.isPowerOfTwo_iff, not_exists]

theorem nodup_require (holds : Bool) (rule : Rule) : (require holds rule).Nodup := by
  unfold require
  cases holds <;> simp

/-- A range and a power of two are two rules. -/
theorem nodup_within_append_powerOfTwo (low high n m : Nat) :
    (within low high n ++ powerOfTwo m).Nodup := by
  refine List.nodup_append.2 ⟨nodup_require _ _, nodup_require _ _, ?_⟩
  intro first hfirst second hsecond
  rw [(mem_within.1 hfirst).2, (mem_powerOfTwo.1 hsecond).2]
  decide

variable {name : String} {settings : List (String × List Rule)} {whole : List Rule}

theorem mem_report {v : Violation} : v ∈ report name settings whole ↔
    (∃ setting ∈ settings, setting.2 ≠ [] ∧ v = ⟨name ++ "." ++ setting.1, setting.2⟩) ∨
      (∀ setting ∈ settings, setting.2 = []) ∧ whole ≠ [] ∧ v = ⟨name, whole⟩ := by
  unfold report
  dsimp only
  split
  · next hnone =>
    rw [List.isEmpty_iff, List.filter_eq_nil_iff] at hnone
    have hown : ∀ setting ∈ settings, setting.2 = [] := by
      intro setting hmem
      simpa using hnone setting hmem
    have hsome : ¬∃ setting ∈ settings, setting.2 ≠ [] ∧
        v = ⟨name ++ "." ++ setting.1, setting.2⟩ := by
      rintro ⟨setting, hmem, hbroken, -⟩
      exact hbroken (hown setting hmem)
    simp only [hsome, false_or, and_iff_right hown]
    cases whole <;> simp
  · next hsome =>
    rw [List.isEmpty_iff, List.filter_eq_nil_iff] at hsome
    have hown : ¬∀ setting ∈ settings, setting.2 = [] := by
      intro hown
      apply hsome
      intro setting hmem
      simp [hown setting hmem]
    simp only [hown, false_and, or_false, List.mem_map, List.mem_filter]
    constructor
    · rintro ⟨setting, ⟨hmem, hbroken⟩, rfl⟩
      exact ⟨setting, hmem, by simpa using hbroken, rfl⟩
    · rintro ⟨setting, hmem, hbroken, rfl⟩
      exact ⟨setting, ⟨hmem, by simpa using hbroken⟩, rfl⟩

/-- The paths of a report stand in the order of the section. -/
theorem report_paths_sublist : ((report name settings whole).map Violation.path).Sublist
    (name :: settings.map fun s => name ++ "." ++ s.1) := by
  unfold report
  dsimp only
  split
  · split
    · exact List.nil_sublist _
    · exact (List.nil_sublist _).cons_cons name
  · rw [List.map_map]
    exact (List.filter_sublist.map _).cons name

theorem rules_of_mem_report (hown : ∀ setting ∈ settings, setting.2.Nodup) (hwhole : whole.Nodup)
    {v : Violation} (h : v ∈ report name settings whole) : v.rules ≠ [] ∧ v.rules.Nodup := by
  rcases mem_report.1 h with ⟨setting, hmem, hbroken, rfl⟩ | ⟨-, hbroken, rfl⟩
  · exact ⟨hbroken, hown setting hmem⟩
  · exact ⟨hbroken, hwhole⟩

end Validation

/-- What is complained of in a section: the rules that its settings break, under their paths, or, if
there are none, the rules that it breaks as a whole, under its own. -/
inductive Complaint (name : String) (own : String → Rule → Prop) (whole : Rule → Prop) :
    String → Rule → Prop where
  | setting {setting : String} {rule : Rule} (hbroken : own setting rule) :
      Complaint name own whole (name ++ "." ++ setting) rule
  | whole {rule : Rule} (hown : ∀ setting other, ¬own setting other) (hbroken : whole rule) :
      Complaint name own whole name rule

/-- **The report of a section** has the rules that are complained of, each under its path. -/
theorem Validation.report_iff (name : String) {settings : List (String × List Rule)}
    {whole : List Rule} {Own : String → Rule → Prop} {Whole : Rule → Prop}
    (hown : ∀ setting rule, Own setting rule ↔ ∃ rules, (setting, rules) ∈ settings ∧ rule ∈ rules)
    (hwhole : ∀ rule, Whole rule ↔ rule ∈ whole) (path : String) (rule : Rule) :
    (∃ block ∈ report name settings whole, block.path = path ∧ rule ∈ block.rules) ↔
      Complaint name Own Whole path rule := by
  constructor
  · rintro ⟨block, hblock, rfl, hrule⟩
    rcases mem_report.1 hblock with ⟨⟨setting, rules⟩, hmem, -, rfl⟩ | ⟨hnone, -, rfl⟩
    · exact .setting ((hown setting rule).2 ⟨rules, hmem, hrule⟩)
    · refine .whole ?_ ((hwhole rule).2 hrule)
      intro setting other hbroken
      obtain ⟨rules, hmem, hother⟩ := (hown setting other).1 hbroken
      rw [show rules = [] from hnone (setting, rules) hmem] at hother
      exact absurd hother List.not_mem_nil
  · intro h
    cases h with
    | @setting setting _ hbroken =>
      obtain ⟨rules, hmem, hrule⟩ := (hown setting rule).1 hbroken
      refine ⟨_, mem_report.2 (.inl ⟨(setting, rules), hmem, ?_, rfl⟩), rfl, hrule⟩
      exact List.ne_nil_of_mem hrule
    | whole hnone hbroken =>
      have hrule := (hwhole rule).1 hbroken
      refine ⟨_, mem_report.2 (.inr ⟨?_, List.ne_nil_of_mem hrule, rfl⟩), rfl, hrule⟩
      rintro ⟨setting, rules⟩ hmem
      apply List.eq_nil_iff_forall_not_mem.2
      intro other hother
      exact hnone setting other ((hown setting other).2 ⟨rules, hmem, hother⟩)

/-! ## The rules of the sections -/

namespace PoolSettings

/-- The settings that must lie in a range, with their value and the range. -/
def ranges (s : PoolSettings) : List (String × Nat × Nat × Nat) :=
  [("local_capacity", s.localCapacity, 16, 65536), ("shared_capacity", s.sharedCapacity, 64, 1048576),
    ("cpus", s.cpus, 1, 4096), ("element_size", s.elementSize, 1, 1048576),
    ("element_align", s.elementAlign, 1, 4096)]

/-- The settings that must be powers of two, with their value. -/
def powers (s : PoolSettings) : List (String × Nat) :=
  [("local_capacity", s.localCapacity), ("shared_capacity", s.sharedCapacity),
    ("element_align", s.elementAlign)]

/-- A setting breaks a rule of its own. -/
inductive Breaks (s : PoolSettings) : String → Rule → Prop where
  | range {setting : String} {n low high : Nat} (hsetting : (setting, n, low, high) ∈ s.ranges)
      (hout : n < low ∨ high < n) : Breaks s setting .range
  | powerOfTwo {setting : String} {n : Nat} (hsetting : (setting, n) ∈ s.powers)
      (hnot : ∀ k, n ≠ 1 <<< k) : Breaks s setting .powerOfTwo
  | limit (hzero : s.backingLimit = some 0) : Breaks s "backing_limit" .range

/-- The settings together break a rule. What is wrong with the alignment is only said if what is
preallocated has room. -/
inductive BreaksWhole (s : PoolSettings) : Rule → Prop where
  | preallocation (hfull : s.sharedCapacity ≤ s.preallocate) :
      BreaksWhole s (.preallocation s.preallocate s.sharedCapacity)
  | alignment (hroom : s.preallocate < s.sharedCapacity) (hless : s.elementSize < s.elementAlign) :
      BreaksWhole s .alignment

variable {s : PoolSettings}

theorem Breaks.of_within {setting : String} {n low high : Nat} {rule : Rule}
    (hsetting : (setting, n, low, high) ∈ s.ranges) (h : rule ∈ within low high n) :
    s.Breaks setting rule := by
  obtain ⟨hout, rfl⟩ := mem_within.1 h
  exact .range hsetting hout

theorem Breaks.of_powerOfTwo {setting : String} {n : Nat} {rule : Rule}
    (hsetting : (setting, n) ∈ s.powers) (h : rule ∈ Validation.powerOfTwo n) :
    s.Breaks setting rule := by
  obtain ⟨hnot, rfl⟩ := mem_powerOfTwo.1 h
  exact .powerOfTwo hsetting hnot

theorem breaks_iff (setting : String) (rule : Rule) :
    s.Breaks setting rule ↔ ∃ rules, (setting, rules) ∈ s.brokenRules ∧ rule ∈ rules := by
  constructor
  · intro h
    cases h with
    | range hsetting hout =>
      have hrule := mem_within.2 ⟨hout, rfl⟩
      simp only [ranges, List.mem_cons, List.not_mem_nil, or_false, Prod.mk.injEq] at hsetting
      rcases hsetting with ⟨rfl, rfl, rfl, rfl⟩ | ⟨rfl, rfl, rfl, rfl⟩ | ⟨rfl, rfl, rfl, rfl⟩ |
          ⟨rfl, rfl, rfl, rfl⟩ | ⟨rfl, rfl, rfl, rfl⟩ <;>
        simp [brokenRules, hrule]
    | powerOfTwo hsetting hnot =>
      have hrule := mem_powerOfTwo.2 ⟨hnot, rfl⟩
      simp only [powers, List.mem_cons, List.not_mem_nil, or_false, Prod.mk.injEq] at hsetting
      rcases hsetting with ⟨rfl, rfl⟩ | ⟨rfl, rfl⟩ | ⟨rfl, rfl⟩ <;> simp [brokenRules, hrule]
    | limit hzero => simp [brokenRules, hzero, mem_atLeast]
  · rintro ⟨rules, hmem, hrule⟩
    simp only [brokenRules, List.mem_cons, List.not_mem_nil, or_false, Prod.mk.injEq] at hmem
    rcases hmem with ⟨rfl, rfl⟩ | ⟨rfl, rfl⟩ | ⟨-, rfl⟩ | ⟨rfl, rfl⟩ | ⟨rfl, rfl⟩ | ⟨rfl, rfl⟩ |
      ⟨-, rfl⟩ | ⟨rfl, rfl⟩
    case inl | inr.inl | inr.inr.inr.inr.inr.inl =>
      -- a range and a power of two
      rcases List.mem_append.1 hrule with hrange | hpower
      · exact .of_within (by simp [ranges]) hrange
      · exact .of_powerOfTwo (by simp [powers]) hpower
    case inr.inr.inr.inl | inr.inr.inr.inr.inl => exact .of_within (by simp [ranges]) hrule
    case inr.inr.inr.inr.inr.inr.inr =>
      cases hlimit : s.backingLimit with
      | none =>
        rw [hlimit] at hrule
        exact absurd hrule List.not_mem_nil
      | some limit =>
        rw [hlimit] at hrule
        obtain ⟨hless, rfl⟩ := mem_atLeast.1 hrule
        rw [Nat.lt_one_iff.1 hless] at hlimit
        exact .limit hlimit
    -- the other settings have no rules
    all_goals exact absurd hrule List.not_mem_nil

theorem breaksWhole_iff (rule : Rule) : s.BreaksWhole rule ↔ rule ∈ s.brokenWhole := by
  unfold brokenWhole
  constructor
  · intro h
    cases h with
    | preallocation hfull => rw [if_pos hfull]; exact List.mem_singleton_self _
    | alignment hroom hless =>
      rw [if_neg (Nat.not_le.2 hroom), mem_require, decide_eq_false_iff_not, Nat.not_le]
      exact ⟨hless, rfl⟩
  · intro h
    split at h
    · next hfull =>
      rw [List.mem_singleton.1 h]
      exact .preallocation hfull
    · next hroom =>
      rw [mem_require, decide_eq_false_iff_not, Nat.not_le] at h
      obtain ⟨hless, rfl⟩ := h
      exact .alignment (Nat.not_le.1 hroom) hless

theorem nodup_of_mem_brokenRules : ∀ setting ∈ s.brokenRules, setting.2.Nodup := by
  intro setting hmem
  simp only [brokenRules, List.mem_cons, List.not_mem_nil, or_false] at hmem
  rcases hmem with rfl | rfl | rfl | rfl | rfl | rfl | rfl | rfl
  case inl | inr.inl | inr.inr.inr.inr.inr.inl => exact nodup_within_append_powerOfTwo ..
  case inr.inr.inr.inl | inr.inr.inr.inr.inl => exact nodup_require ..
  case inr.inr.inr.inr.inr.inr.inr =>
    cases s.backingLimit with
    | none => exact List.nodup_nil
    | some limit => exact nodup_require ..
  all_goals exact List.nodup_nil

theorem nodup_brokenWhole : s.brokenWhole.Nodup := by
  unfold brokenWhole
  split
  · exact List.nodup_cons.2 ⟨List.not_mem_nil, List.nodup_nil⟩
  · exact nodup_require ..

end PoolSettings

namespace WorkloadSettings

/-- The settings that must lie in a range, with their value and the range. -/
def ranges (s : WorkloadSettings) : List (String × Nat × Nat × Nat) :=
  [("threads", s.threads, 1, 4096), ("burst", s.burst, 1, 65536)]

/-- A setting breaks a rule of its own. -/
inductive Breaks (s : WorkloadSettings) : String → Rule → Prop where
  | range {setting : String} {n low high : Nat} (hsetting : (setting, n, low, high) ∈ s.ranges)
      (hout : n < low ∨ high < n) : Breaks s setting .range
  | iterations (hzero : s.iterations = 0) : Breaks s "iterations" .range

/-- The settings together break a rule. -/
inductive BreaksWhole (s : WorkloadSettings) : Rule → Prop where
  | secondWorker (hcross : s.crossCpuFree = true) (hfew : s.threads < 2) :
      BreaksWhole s .secondWorker

variable {s : WorkloadSettings}

theorem breaks_iff (setting : String) (rule : Rule) :
    s.Breaks setting rule ↔ ∃ rules, (setting, rules) ∈ s.brokenRules ∧ rule ∈ rules := by
  constructor
  · intro h
    cases h with
    | range hsetting hout =>
      have hrule := mem_within.2 ⟨hout, rfl⟩
      simp only [ranges, List.mem_cons, List.not_mem_nil, or_false, Prod.mk.injEq] at hsetting
      rcases hsetting with ⟨rfl, rfl, rfl, rfl⟩ | ⟨rfl, rfl, rfl, rfl⟩ <;>
        simp [brokenRules, hrule]
    | iterations hzero => simp [brokenRules, hzero, mem_atLeast]
  · rintro ⟨rules, hmem, hrule⟩
    simp only [brokenRules, List.mem_cons, List.not_mem_nil, or_false, Prod.mk.injEq] at hmem
    rcases hmem with ⟨rfl, rfl⟩ | ⟨rfl, rfl⟩ | ⟨rfl, rfl⟩ | ⟨-, rfl⟩
    case inr.inl =>
      obtain ⟨hless, rfl⟩ := mem_atLeast.1 hrule
      exact .iterations (Nat.lt_one_iff.1 hless)
    case inr.inr.inr => exact absurd hrule List.not_mem_nil
    all_goals
      obtain ⟨hout, rfl⟩ := mem_within.1 hrule
      exact .range (by simp [ranges]) hout

theorem breaksWhole_iff (rule : Rule) : s.BreaksWhole rule ↔ rule ∈ s.brokenWhole := by
  rw [brokenWhole, mem_require, Bool.or_eq_false_iff, Bool.not_eq_false', decide_eq_false_iff_not,
    Nat.not_le]
  constructor
  · intro h
    cases h with
    | secondWorker hcross hfew => exact ⟨⟨hcross, hfew⟩, rfl⟩
  · rintro ⟨⟨hcross, hfew⟩, rfl⟩
    exact .secondWorker hcross hfew

theorem nodup_of_mem_brokenRules : ∀ setting ∈ s.brokenRules, setting.2.Nodup := by
  intro setting hmem
  simp only [brokenRules, List.mem_cons, List.not_mem_nil, or_false] at hmem
  rcases hmem with rfl | rfl | rfl | rfl
  case inr.inr.inr => exact List.nodup_nil
  all_goals exact nodup_require ..

end WorkloadSettings

namespace TelemetrySettings

/-- A setting breaks a rule of its own. -/
inductive Breaks (s : TelemetrySettings) : String → Rule → Prop where
  | logFilter (hempty : s.logFilter = "") : Breaks s "log_filter" .length

variable {s : TelemetrySettings}

theorem breaks_iff (setting : String) (rule : Rule) :
    s.Breaks setting rule ↔ ∃ rules, (setting, rules) ∈ s.brokenRules ∧ rule ∈ rules := by
  constructor
  · intro h
    cases h with
    | logFilter hempty => simp [brokenRules, hempty, mem_require]
  · rintro ⟨rules, hmem, hrule⟩
    simp only [brokenRules, List.mem_cons, List.not_mem_nil, or_false, Prod.mk.injEq] at hmem
    rcases hmem with ⟨rfl, rfl⟩ | ⟨-, rfl⟩
    · rw [mem_require, Bool.not_eq_false', String.isEmpty_iff] at hrule
      obtain ⟨hempty, rfl⟩ := hrule
      exact .logFilter hempty
    · exact absurd hrule List.not_mem_nil

theorem nodup_of_mem_brokenRules : ∀ setting ∈ s.brokenRules, setting.2.Nodup := by
  intro setting hmem
  simp only [brokenRules, List.mem_cons, List.not_mem_nil, or_false] at hmem
  rcases hmem with rfl | rfl
  · exact nodup_require ..
  · exact List.nodup_nil

end TelemetrySettings

/-! ## The report of all sections -/

namespace Settings

/-- What is complained of in the settings, each rule under its path. -/
def Complains (s : Settings) (path : String) (rule : Rule) : Prop :=
  Complaint "pool" s.pool.Breaks s.pool.BreaksWhole path rule ∨
  Complaint "workload" s.workload.Breaks s.workload.BreaksWhole path rule ∨
  Complaint "telemetry" s.telemetry.Breaks (fun _ => False) path rule

/-- The paths there are, of sections and their settings. -/
def paths : List String :=
  ["pool", "pool.local_capacity", "pool.shared_capacity", "pool.preallocate", "pool.cpus",
    "pool.element_size", "pool.element_align", "pool.backing", "pool.backing_limit",
    "workload", "workload.threads", "workload.iterations", "workload.burst",
    "workload.cross_cpu_free", "telemetry", "telemetry.log_filter", "telemetry.metrics"]

theorem paths_nodup : paths.Nodup := by decide

theorem newline_not_mem_paths : ∀ path ∈ paths, '\n' ∉ path.toList := by decide

theorem violations_paths_sublist (s : Settings) :
    (s.violations.map Violation.path).Sublist paths := by
  rw [violations, List.map_append, List.map_append]
  exact (report_paths_sublist.append report_paths_sublist).append report_paths_sublist

theorem violations_iff {s : Settings} (path : String) (rule : Rule) :
    (∃ block ∈ s.violations, block.path = path ∧ rule ∈ block.rules) ↔ s.Complains path rule := by
  have hpool := report_iff "pool" s.pool.breaks_iff s.pool.breaksWhole_iff path rule
  have hworkload :=
    report_iff "workload" s.workload.breaks_iff s.workload.breaksWhole_iff path rule
  have hnone : ∀ rule : Rule, False ↔ rule ∈ [] := by simp
  have htelemetry := report_iff "telemetry" s.telemetry.breaks_iff hnone path rule
  rw [Complains, ← hpool, ← hworkload, ← htelemetry]
  simp only [violations, List.mem_append, or_and_right, exists_or, or_assoc]
  rfl

theorem rules_of_mem_violations {s : Settings} {v : Violation} (h : v ∈ s.violations) :
    v.rules ≠ [] ∧ v.rules.Nodup := by
  rw [violations, List.mem_append, List.mem_append] at h
  rcases h with (hpool | hworkload) | htelemetry
  · exact rules_of_mem_report PoolSettings.nodup_of_mem_brokenRules PoolSettings.nodup_brokenWhole
      hpool
  · exact rules_of_mem_report WorkloadSettings.nodup_of_mem_brokenRules (nodup_require ..) hworkload
  · exact rules_of_mem_report TelemetrySettings.nodup_of_mem_brokenRules List.nodup_nil htelemetry

/-- **The report of invalid settings is complete and sound.** They are refused with their report,
which is a walk through what is found in them. Whatever order a walk takes, the text it comes to has
the lines of its blocks under the heading, and no others. There is at least one block; no two have
the same path; and the rules listed under a path, each once, are those complained of there. -/
theorem report_exact {s : Settings} (hinvalid : s.isValid = false) :
    s.checked = .error (.invalid s.violations) ∧
    Finding.Visits "" (.inside s.findings) s.violations ∧
    ∀ blocks, Finding.Visits "" (.inside s.findings) blocks →
      (LoadError.invalid blocks).message.toList.splitOn '\n' =
        (Violation.errorLines blocks ++ [""]).map String.toList ∧
      blocks ≠ [] ∧ (blocks.map Violation.path).Nodup ∧
      (∀ block ∈ blocks, block.rules ≠ [] ∧ block.rules.Nodup) ∧
      ∀ path rule,
        (∃ block ∈ blocks, block.path = path ∧ rule ∈ block.rules) ↔ s.Complains path rule := by
  have hsome : s.violations.isEmpty = false := hinvalid
  refine ⟨by rw [checked, hsome, if_neg Bool.false_ne_true], s.visits_violations, ?_⟩
  intro blocks hvisits
  have hperm := perm_violations hvisits
  have hpaths : ∀ block ∈ blocks, '\n' ∉ block.path.toList := by
    intro block hblock
    have hmem := List.mem_map_of_mem (f := Violation.path) (hperm.mem_iff.1 hblock)
    exact newline_not_mem_paths _ (s.violations_paths_sublist.subset hmem)
  refine ⟨LoadError.splitOn_message hpaths, ?_, ?_, ?_, ?_⟩
  · intro hnil
    rw [hnil] at hperm
    rw [hperm.nil_eq.symm, List.isEmpty_nil] at hsome
    cases hsome
  · exact (hperm.map Violation.path).nodup_iff.2 (paths_nodup.sublist s.violations_paths_sublist)
  · intro block hblock
    exact rules_of_mem_violations (hperm.mem_iff.1 hblock)
  · intro path rule
    rw [← violations_iff]
    simp only [hperm.mem_iff]

/-- Settings of which three are wrong, one of them twice, and a workload that is wrong as a whole. -/
def patchy : Settings where
  pool := { localCapacity := 12, sharedCapacity := 32, preallocate := 40, backingLimit := some 0 }
  workload := { crossCpuFree := true }

/-- The pool is not complained of as a whole, though it has no room for what is preallocated. -/
theorem report_exact_patchy :
    patchy.isValid = false ∧
    (LoadError.invalid patchy.violations).message.toList.splitOn '\n' =
      ["Invalid configuration:", "Field 'pool.local_capacity':", "  - range",
        "  - must_be_power_of_two", "Field 'pool.shared_capacity':", "  - range",
        "Field 'pool.backing_limit':", "  - range", "Field 'workload':",
        "  - cross_cpu_free_needs_two_threads", ""].map String.toList ∧
    patchy.Complains "workload" .secondWorker ∧ ¬patchy.Complains "pool" (.preallocation 40 32) := by
  have hinvalid : patchy.isValid = false := by decide +kernel
  have hviolations : patchy.violations =
      [⟨"pool.local_capacity", [.range, .powerOfTwo]⟩, ⟨"pool.shared_capacity", [.range]⟩,
        ⟨"pool.backing_limit", [.range]⟩, ⟨"workload", [.secondWorker]⟩] := by decide +kernel
  obtain ⟨-, hvisits, hall⟩ := report_exact hinvalid
  obtain ⟨hlines, -, -, -, hiff⟩ := hall _ hvisits
  have herror : Violation.errorLines patchy.violations =
      ["Invalid configuration:", "Field 'pool.local_capacity':", "  - range",
        "  - must_be_power_of_two", "Field 'pool.shared_capacity':", "  - range",
        "Field 'pool.backing_limit':", "  - range", "Field 'workload':",
        "  - cross_cpu_free_needs_two_threads"] := by decide +kernel
  rw [herror] at hlines
  refine ⟨hinvalid, hlines, (hiff _ _).1 ?_, fun h => ?_⟩
  · rw [hviolations]
    decide
  · have hpool := (hiff _ _).2 h
    rw [hviolations] at hpool
    revert hpool
    decide

end Settings

end TieredPool
