import TieredPool.Proofs.Settings.Fields
import TieredPool.Proofs.Settings.Keys

/-!
# Layers over each other

What a layer does to a section it is put over is one of three things (`Settings.stack_cases`): it
leaves the section alone, it replaces it, or its map goes over the map that is there. For a single
setting this comes to three cases again (`Setting.stack_cases`).

Which layers count for a section is said without any merging (`Section.counting`). A setting has
what the highest of them says that sets it (`Setting.isGiven_highest`), unless it can be written as
a map itself.
-/

namespace TieredPool

namespace Value

/-! ## Merging -/

def isMap : Value → Bool
  | map .. => true
  | _ => false

@[simp] theorem isMap_scalar (source : Source) (s : Scalar) : (scalar source s).isMap = false := rfl

@[simp] theorem isMap_list (source : Source) (items : List Value) :
    (list source items).isMap = false := rfl

@[simp] theorem isMap_map (source : Source) (entries : List (String × Value)) :
    (map source entries).isMap = true := rfl

theorem merge_of_not_isMap {upper : Value} (h : upper.isMap = false) (lower : Value) :
    lower.merge upper = upper := by
  cases upper with
  | map => cases h
  | scalar | list => rw [merge]; rintro _ _ ⟨⟩

theorem merge_of_not_isMap_left {lower : Value} (h : lower.isMap = false) (upper : Value) :
    lower.merge upper = upper := by
  cases upper with
  | scalar | list => rw [merge]; rintro _ _ ⟨⟩
  | map =>
    cases lower with
    | map => cases h
    | scalar | list => rfl

@[simp] theorem isMap_merge (lower upper : Value) : (lower.merge upper).isMap = upper.isMap := by
  rcases hupper : upper.isMap with _ | _
  · rw [merge_of_not_isMap hupper, hupper]
  · cases upper with
    | scalar | list => cases hupper
    | map =>
      rcases hlower : lower.isMap with _ | _
      · rw [merge_of_not_isMap_left hlower]
        rfl
      · cases lower with
        | scalar | list => cases hlower
        | map => rw [merge]; rfl

theorem mergeOver_of_not_isMap {upper : Value} (h : upper.isMap = false) (lower : Option Value) :
    mergeOver lower upper = upper := by
  cases lower with
  | none => rfl
  | some lower => exact merge_of_not_isMap h lower

theorem mergeOver_of_not_isMap_left {lower : Option Value} (h : lower.any isMap = false)
    (upper : Value) : mergeOver lower upper = upper := by
  cases lower with
  | none => rfl
  | some lower => exact merge_of_not_isMap_left h upper

@[simp] theorem isMap_mergeOver (lower : Option Value) (upper : Value) :
    (mergeOver lower upper).isMap = upper.isMap := by
  cases lower with
  | none => rfl
  | some lower => exact isMap_merge lower upper

theorem Distinct.keys {source : Source} {entries : List (String × Value)}
    (h : (Value.map source entries).Distinct) : (entries.map Prod.fst).Nodup := by
  cases h with
  | map hkeys => exact hkeys

theorem Distinct.lookup? {source : Source} {entries : List (String × Value)}
    (h : (Value.map source entries).Distinct) {key : String} {v : Value}
    (hv : Value.lookup? key entries = some v) : v.Distinct := by
  cases h with
  | map _ hvalues => exact hvalues _ (mem_of_lookup? hv)

theorem Distinct.at? {v w : Value} (h : v.Distinct) {key : String} (hw : v.at? [key] = some w) :
    w.Distinct := by
  cases v with
  | scalar | list => cases hw
  | map =>
    rw [at?_map] at hw
    exact h.lookup? hw

/-- A key of a merge has what the upper value says, over what the lower one says. -/
theorem at?_merge {lower upper : Value} (hlower : lower.isMap = true) (hupper : upper.isMap = true)
    (hdistinct : upper.Distinct) (key : String) :
    (lower.merge upper).at? [key] =
      match upper.at? [key] with
      | none => lower.at? [key]
      | some v => some (mergeOver (lower.at? [key]) v) := by
  cases lower with
  | scalar | list => cases hlower
  | map =>
    cases upper with
    | scalar | list => cases hupper
    | map =>
      rw [merge, at?_map, at?_map, at?_map]
      exact lookup?_mergeEntries hdistinct.keys key _

end Value

namespace Section

/-- Does a layer write the section as a map? -/
def isMapIn (home : Section) (layer : Value) : Bool := (layer.at? [home.key]).any Value.isMap

/-- The layers that count for a section, of layers with the highest first. One that does not write
the section does not count. Below a list nothing counts, and below a map only maps do. -/
def counting (home : Section) : List Value → List Value
  | [] => []
  | layer :: lower =>
    match layer.at? [home.key] with
    | none => counting home lower
    | some (.map ..) => layer :: (counting home lower).filter home.isMapIn
    | some _ => [layer]

end Section

namespace Settings

variable {d : Settings} {layer : Value} {layers lower : List Value}

/-- The defaults with layers over them, the highest first. -/
def stack (d : Settings) : List Value → Value
  | [] => toValue .defaults d
  | layer :: lower => (stack d lower).merge layer

theorem stack_reverse (d : Settings) (layers : List Value) :
    stack d layers.reverse = (toValue .defaults d).mergeAll layers := by
  rw [Value.mergeAll, ← List.foldr_reverse]
  induction layers.reverse with
  | nil => rfl
  | cons layer lower ih => rw [stack, ih]; rfl

/-- A layer that can be read alone, in whose maps all keys are different. -/
structure IsLayer (d : Settings) (layer : Value) : Prop where
  distinct : layer.Distinct
  reads : ∃ s, ofValue layer d = .ok s

namespace IsLayer

theorem sectioned (h : IsLayer d layer) : layer.Sectioned := by
  obtain ⟨s, hs⟩ := h.reads
  exact (ofValue_eq_ok_iff.1 hs).1

theorem isMap (h : IsLayer d layer) : layer.isMap = true := by
  obtain ⟨⟨source, entries, rfl⟩, -⟩ := h.sectioned
  rfl

end IsLayer

theorem isMap_stack (hlayers : ∀ layer ∈ layers, IsLayer d layer) :
    (stack d layers).isMap = true := by
  cases layers with
  | nil => rfl
  | cons layer lower =>
    rw [stack, Value.isMap_merge]
    exact (hlayers layer List.mem_cons_self).isMap

theorem at?_stack_cons (hlayers : ∀ l ∈ layer :: lower, IsLayer d l) (home : Section) :
    (stack d (layer :: lower)).at? [home.key] =
      match layer.at? [home.key] with
      | none => (stack d lower).at? [home.key]
      | some v => some (.mergeOver ((stack d lower).at? [home.key]) v) := by
  obtain ⟨hlayer, hlower⟩ := List.forall_mem_cons.1 hlayers
  exact Value.at?_merge (isMap_stack hlower) hlayer.isMap hlayer.distinct home.key

/-- The layers that count all write maps if the section is one in the end. If it is not, a list
counts, and no map does. -/
theorem filter_counting (hlayers : ∀ layer ∈ layers, IsLayer d layer) (home : Section) :
    (home.counting layers).filter home.isMapIn =
      if home.isMapIn (stack d layers) then home.counting layers else [] := by
  induction layers with
  | nil => simp [Section.counting]
  | cons layer lower ih =>
    have hlayer : home.isMapIn layer = (layer.at? [home.key]).any Value.isMap := rfl
    have hstack : home.isMapIn (stack d (layer :: lower)) = _ :=
      congrArg (Option.any Value.isMap) (at?_stack_cons hlayers home)
    rw [Section.counting, hstack]
    rcases hsection : layer.at? [home.key] with _ | v
    · exact ih (List.forall_mem_cons.1 hlayers).2
    · rw [hsection] at hlayer
      cases v <;> simp [hlayer]

/-- **A layer over others** leaves a section alone, replaces it, or puts a map over a map. -/
theorem stack_cases (hlayers : ∀ l ∈ layer :: lower, IsLayer d l) (home : Section) :
    (layer.at? [home.key] = none ∧
      (stack d (layer :: lower)).at? [home.key] = (stack d lower).at? [home.key] ∧
      home.counting (layer :: lower) = home.counting lower) ∨
    (∃ v, layer.at? [home.key] = some v ∧
      (stack d (layer :: lower)).at? [home.key] = some v ∧
      home.counting (layer :: lower) = [layer]) ∨
    (∃ source entries source' below, layer.at? [home.key] = some (.map source entries) ∧
      (stack d lower).at? [home.key] = some (.map source' below) ∧
      (stack d (layer :: lower)).at? [home.key] =
        some (.map source (Value.mergeEntries below entries)) ∧
      home.counting (layer :: lower) = layer :: home.counting lower) := by
  have hlower := (List.forall_mem_cons.1 hlayers).2
  rw [at?_stack_cons hlayers, Section.counting]
  rcases hlayer : layer.at? [home.key] with _ | v
  · exact .inl ⟨rfl, rfl, rfl⟩
  · cases v with
    | scalar | list =>
      refine .inr (.inl ⟨_, rfl, ?_, rfl⟩)
      exact congrArg some (Value.mergeOver_of_not_isMap rfl _)
    | map source entries =>
      -- what was there is kept only if it is a map, and then all layers below that count write maps
      dsimp only
      rw [filter_counting hlower]
      rcases hmap : home.isMapIn (stack d lower) with _ | _
      · refine .inr (.inl ⟨_, rfl, ?_, rfl⟩)
        exact congrArg some (Value.mergeOver_of_not_isMap_left hmap _)
      · unfold Section.isMapIn at hmap
        rcases hbelow : (stack d lower).at? [home.key] with _ | w
        · rw [hbelow] at hmap
          cases hmap
        · rw [hbelow] at hmap
          cases w with
          | scalar | list => cases hmap
          | map source' below =>
            refine .inr (.inr ⟨source, entries, source', below, rfl, rfl, ?_, rfl⟩)
            rw [Value.mergeOver, Value.merge]

end Settings

/-! ## Single settings -/

namespace Setting

open Settings (stack IsLayer)

/-- Does the setting have one part only, which no map can be written for? -/
def isScalar : Setting α → Bool
  | backing => false
  | _ => true

variable {α : Type} {x : Setting α} {d : Settings} {layer : Value} {layers lower : List Value}

/-- Does the layer set the setting? A list sets all settings of its section. -/
def isSetBy (x : Setting α) (layer : Value) : Bool :=
  match layer.at? [x.home.key] with
  | some (.map _ entries) => (Value.lookup? x.key entries).isSome
  | some (.list ..) => true
  | _ => false

/-- The layers that set the setting and count, of layers with the highest first. -/
def setters (x : Setting α) (layers : List Value) : List Value :=
  (x.home.counting layers).filter x.isSetBy

/-- What the setting is set to by a layer alone. -/
def alone (x : Setting α) (d : Settings) (layer : Value) : α :=
  match Settings.ofValue layer d with
  | .ok s => x.of s
  | .error _ => x.of d

/-- What the setting is set to by the highest layer that sets it and counts. -/
def highest (x : Setting α) (d : Settings) (layers : List Value) : α :=
  match x.setters layers with
  | [] => x.of d
  | layer :: _ => x.alone d layer

theorem written?_of_isSetBy_eq_false (h : x.isSetBy layer = false) : x.written? layer = none := by
  unfold isSetBy at h
  unfold written?
  rcases hsection : layer.at? [x.home.key] with _ | w
  · rfl
  · rw [hsection] at h
    cases w with
    | scalar => rfl
    | list => cases h
    | map => exact Option.isNone_iff_eq_none.1 (Option.isSome_eq_false_iff.1 h)

theorem isGiven_alone (h : IsLayer d layer) (x : Setting α) :
    x.IsGiven d layer (x.alone d layer) := by
  obtain ⟨s, hs⟩ := h.reads
  rw [alone, hs]
  exact (Settings.ofValue_eq_ok_iff.1 hs).2 α x

theorem alone_of_isSetBy_eq_false (h : IsLayer d layer) (hset : x.isSetBy layer = false) :
    x.alone d layer = x.of d := by
  have hgiven := isGiven_alone h x
  rwa [IsGiven, written?_of_isSetBy_eq_false hset] at hgiven

/-- **A layer over others** leaves what is written for a setting alone, replaces it, or goes over
it. -/
theorem stack_cases (hlayers : ∀ l ∈ layer :: lower, IsLayer d l) (x : Setting α) :
    (x.written? (stack d (layer :: lower)) = x.written? (stack d lower) ∧
      x.setters (layer :: lower) = x.setters lower) ∨
    (x.written? (stack d (layer :: lower)) = x.written? layer ∧
      x.setters (layer :: lower) = [layer].filter x.isSetBy) ∨
    (∃ v, v.Distinct ∧ x.written? layer = some v ∧
      x.written? (stack d (layer :: lower)) = some (.mergeOver (x.written? (stack d lower)) v) ∧
      x.setters (layer :: lower) = layer :: x.setters lower) := by
  have hlayer := hlayers layer List.mem_cons_self
  unfold setters written?
  rcases Settings.stack_cases hlayers x.home with ⟨-, hstack, hcounting⟩ |
    ⟨v, hv, hstack, hcounting⟩ | ⟨source, entries, source', below, hv, hbelow, hstack, hcounting⟩
  · exact .inl ⟨by rw [hstack], by rw [hcounting]⟩
  · exact .inr (.inl ⟨by rw [hstack, hv], by rw [hcounting]⟩)
  · have hdistinct := hlayer.distinct.at? hv
    rw [hstack, hbelow, hcounting, hv]
    simp only [Option.bind_some, Value.part?, Value.lookup?_mergeEntries hdistinct.keys]
    -- the layer writes the section as a map, but may say nothing about this setting
    rcases hkey : Value.lookup? x.key entries with _ | v
    · refine .inl ⟨rfl, List.filter_cons_of_neg ?_⟩
      simp [isSetBy, hv, hkey]
    · refine .inr (.inr ⟨v, hdistinct.lookup? hkey, rfl, rfl, List.filter_cons_of_pos ?_⟩)
      simp [isSetBy, hv, hkey]

theorem isMap_of_read (hx : x.isScalar = true) {v : Value} {a : α} (h : x.read v = .ok a) :
    v.isMap = false := by
  cases v with
  | scalar | list => rfl
  | map =>
    cases x with
    | backing => cases hx
    | _ => cases h

theorem isGiven_highest (hx : x.isScalar = true) (hd : d.InWords)
    (hlayers : ∀ layer ∈ layers, IsLayer d layer) :
    x.IsGiven d (stack d layers) (x.highest d layers) := by
  induction layers with
  | nil => exact Settings.isGiven_toValue hd .defaults x
  | cons layer lower ih =>
    obtain ⟨hlayer, hlower⟩ := List.forall_mem_cons.1 hlayers
    have halone := isGiven_alone hlayer x
    unfold IsGiven highest at *
    rcases stack_cases hlayers x with ⟨hwritten, hsetters⟩ | ⟨hwritten, hsetters⟩ |
      ⟨v, -, hv, hwritten, hsetters⟩
    · rw [hwritten, hsetters]
      exact ih hlower
    · rw [hwritten, hsetters]
      rcases hset : x.isSetBy layer with _ | _
      · rw [List.filter_cons_of_neg (by rw [hset]; exact Bool.false_ne_true)]
        rwa [alone_of_isSetBy_eq_false hlayer hset] at halone
      · rwa [List.filter_cons_of_pos hset]
    · rw [hv] at halone
      rw [hwritten, hsetters, Value.mergeOver_of_not_isMap (isMap_of_read hx halone)]
      exact halone

end Setting

end TieredPool
