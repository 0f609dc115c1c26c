import Mathlib.Data.String.Basic
import TieredPool.Proofs.Settings.Layers

/-!
# Settings that layers make

The settings of layers are said setting by setting, from what each layer says on its own
(`Settings.effective`). Reading the layers put over one another gives just these
(`Settings.ofValue_stack`), and so no value counts that a higher layer replaces.

Only a backing can be said by several layers together: maps that name one are put over each other
like any maps, and then the name that comes first stands (`kind_mergeEntries`).
-/

namespace TieredPool

/-! ## Backings -/

namespace Value

variable {entries : List (String × Value)} {key : String} {v : Value}

theorem least?_eq_none_iff : least? entries = none ↔ entries = [] := by
  constructor
  · intro h
    cases entries with
    | nil => rfl
    | cons e rest =>
      rw [least?] at h
      split at h
      · cases h
      · split at h <;> cases h
  · rintro rfl
    rfl

theorem lookup?_least? {e : String × Value} (h : least? entries = some e) :
    lookup? e.1 entries = some e.2 ∧ ∀ k ∈ entries.map Prod.fst, e.1 ≤ k := by
  induction entries generalizing e with
  | nil => cases h
  | cons e' rest ih =>
    obtain ⟨k, w⟩ := e'
    rw [least?] at h
    rcases hrest : least? rest with _ | least
    · rw [hrest] at h
      cases h
      rw [least?_eq_none_iff.1 hrest]
      simp [lookup?]
    · obtain ⟨hlookup, hleast⟩ := ih hrest
      rw [hrest] at h
      dsimp only at h
      rw [List.map_cons]
      split at h
      · next hlt =>
        cases h
        rw [lookup?, if_neg (ne_of_gt hlt)]
        exact ⟨hlookup, List.forall_mem_cons.2 ⟨le_of_lt hlt, hleast⟩⟩
      · next hlt =>
        cases h
        rw [lookup?, if_pos rfl]
        refine ⟨rfl, List.forall_mem_cons.2 ⟨le_refl k, fun k' hk' => ?_⟩⟩
        exact le_trans (not_lt.1 hlt) (hleast k' hk')

theorem least?_eq_some_iff :
    least? entries = some (key, v) ↔
      lookup? key entries = some v ∧ ∀ k ∈ entries.map Prod.fst, key ≤ k := by
  refine ⟨lookup?_least?, ?_⟩
  rintro ⟨hlookup, hleast⟩
  rcases h : least? entries with _ | ⟨k, w⟩
  · rw [least?_eq_none_iff.1 h] at hlookup
    cases hlookup
  · obtain ⟨hlookup', hleast'⟩ := lookup?_least? h
    have hkey : k = key := le_antisymm
      (hleast' key (List.mem_map_of_mem (mem_of_lookup? hlookup)))
      (hleast k (List.mem_map_of_mem (mem_of_lookup? hlookup')))
    subst hkey
    rw [hlookup'] at hlookup
    cases hlookup
    rfl

end Value

theorem kindOfName_eq_ok_iff {source : Source} {name : String} {kind : BackingKind} :
    Reading.kindOfName source name = .ok kind ↔ name = kind.name := by
  constructor
  · intro h
    unfold Reading.kindOfName BackingKind.ofName? at h
    split at h
    · next heq =>
      split at heq <;> cases heq <;> cases h <;> rfl
    · cases h
  · rintro rfl
    cases kind <;> rfl

/-- A map names a backing by its least key, with nothing under it. -/
theorem kind_map_eq_ok_iff {source : Source} {entries : List (String × Value)}
    {kind : BackingKind} :
    Reading.kind (.map source entries) = .ok kind ↔
      (∃ source', Value.lookup? kind.name entries = some (.scalar source' .null)) ∧
        ∀ key ∈ entries.map Prod.fst, kind.name ≤ key := by
  constructor
  · intro h
    unfold Reading.kind at h
    dsimp only at h
    rcases hleast : Value.least? entries with _ | ⟨name, v⟩
    · rw [hleast] at h
      cases h
    · rw [hleast] at h
      rw [mapError_eq_ok, bind_eq_ok] at h
      obtain ⟨kind', hname, h⟩ := h
      rw [kindOfName_eq_ok_iff] at hname
      subst hname
      split at h
      · next source' =>
        cases h
        obtain ⟨hlookup, hall⟩ := Value.lookup?_least? hleast
        exact ⟨⟨source', hlookup⟩, hall⟩
      · cases h
  · rintro ⟨⟨source', hlookup⟩, hall⟩
    unfold Reading.kind
    dsimp only
    rw [Value.least?_eq_some_iff.2 ⟨hlookup, hall⟩]
    dsimp only
    rw [kindOfName_eq_ok_iff.2 rfl]
    rfl

/-- The one of two backings whose name comes first. -/
def BackingKind.first (a b : BackingKind) : BackingKind := if a = .chunk then .chunk else b

theorem BackingKind.name_first_le (a b : BackingKind) :
    (a.first b).name ≤ a.name ∧ (a.first b).name ≤ b.name := by
  cases a <;> cases b <;> decide

/-- **A map that names a backing over another one**: the name that comes first stands. -/
theorem kind_mergeEntries {source source' : Source} {below upper : List (String × Value)}
    (hkeys : (upper.map Prod.fst).Nodup) {a b : BackingKind}
    (hbelow : Reading.kind (.map source' below) = .ok a)
    (hupper : Reading.kind (.map source upper) = .ok b) :
    Reading.kind (.map source (Value.mergeEntries below upper)) = .ok (a.first b) := by
  rw [kind_map_eq_ok_iff] at *
  obtain ⟨⟨sa, ha⟩, hleastBelow⟩ := hbelow
  obtain ⟨⟨sb, hb⟩, hleastUpper⟩ := hupper
  obtain ⟨hfirstA, hfirstB⟩ := a.name_first_le b
  constructor
  · rw [Value.lookup?_mergeEntries hkeys]
    by_cases hfirst : a.first b = b
    · rw [hfirst, hb]
      exact ⟨sb, congrArg some (Value.mergeOver_of_not_isMap rfl (Value.lookup? b.name below))⟩
    · -- the name below comes before all keys of the map above, which says nothing about it
      have hchunk : a = .chunk ∧ b = .heap := by
        revert hfirst
        cases a <;> cases b <;> decide
      obtain ⟨rfl, rfl⟩ := hchunk
      have hnone : Value.lookup? (BackingKind.chunk.first .heap).name upper = none := by
        rw [Value.lookup?_eq_none_iff]
        intro hmem
        exact absurd (hleastUpper _ hmem) (by decide)
      rw [hnone]
      exact ⟨sa, ha⟩
  · intro key hmem
    by_cases hkey : key ∈ upper.map Prod.fst
    · exact le_trans hfirstB (hleastUpper key hkey)
    · refine le_trans hfirstA (hleastBelow key ?_)
      by_contra hkey'
      rw [← Value.lookup?_eq_none_iff] at hkey hkey'
      refine Value.lookup?_eq_none_iff.1 ?_ hmem
      rw [Value.lookup?_mergeEntries hkeys, hkey]
      exact hkey'

theorem kind_mergeOver {lower : Option Value} {upper : Value} (hdistinct : upper.Distinct)
    (hlowerMap : lower.any Value.isMap = true) (hupperMap : upper.isMap = true)
    {default a b : BackingKind} (hlower : Gives default Reading.kind lower a)
    (hupper : Reading.kind upper = .ok b) :
    Reading.kind (.mergeOver lower upper) = .ok (a.first b) := by
  rcases lower with _ | lower
  · cases hlowerMap
  · cases lower with
    | scalar | list => cases hlowerMap
    | map source' below =>
      cases upper with
      | scalar | list => cases hupperMap
      | map source upper =>
        rw [Value.mergeOver, Value.merge]
        exact kind_mergeEntries hdistinct.keys hlower hupper

namespace Settings

open Setting (backing isGiven_alone alone_of_isSetBy_eq_false written?_of_isSetBy_eq_false)

variable {d : Settings} {layer : Value} {layers lower : List Value}

def mapsBacking (layer : Value) : Bool := (backing.written? layer).any Value.isMap

/-- The backing that layers say, all of which set it, the highest first: what the highest one says.
Where it and the next one write maps, the one whose name comes first stands. -/
def kindBy (d : Settings) : List Value → BackingKind
  | [] => d.pool.backing
  | layer :: lower =>
    if mapsBacking layer && lower.head?.any mapsBacking then
      (kindBy d lower).first (backing.alone d layer)
    else backing.alone d layer

theorem kindBy_singleton : kindBy d [layer] = backing.alone d layer := by
  simp [kindBy]

theorem mapsBacking_stack (hlayers : ∀ layer ∈ layers, IsLayer d layer) :
    mapsBacking (stack d layers) = (backing.setters layers).head?.any mapsBacking := by
  induction layers with
  | nil => rfl
  | cons layer lower ih =>
    rcases Setting.stack_cases hlayers backing with ⟨hwritten, hsetters⟩ | ⟨hwritten, hsetters⟩ |
      ⟨v, -, hv, hwritten, hsetters⟩
    · rw [mapsBacking, hwritten, hsetters]
      exact ih (List.forall_mem_cons.1 hlayers).2
    · rw [mapsBacking, hwritten, hsetters]
      rcases hset : backing.isSetBy layer with _ | _
      · simp [hset, written?_of_isSetBy_eq_false hset]
      · simp [hset, mapsBacking]
    · rw [mapsBacking, hwritten, hsetters]
      simp [hv, mapsBacking]

theorem isGiven_kindBy (hd : d.InWords) (hlayers : ∀ layer ∈ layers, IsLayer d layer) :
    backing.IsGiven d (stack d layers) (kindBy d (backing.setters layers)) := by
  induction layers with
  | nil => exact isGiven_toValue hd .defaults backing
  | cons layer lower ih =>
    obtain ⟨hlayer, hlower⟩ := List.forall_mem_cons.1 hlayers
    have halone := isGiven_alone hlayer backing
    specialize ih hlower
    unfold Setting.IsGiven at *
    rcases Setting.stack_cases hlayers backing with ⟨hwritten, hsetters⟩ | ⟨hwritten, hsetters⟩ |
      ⟨v, hdistinct, hv, hwritten, hsetters⟩
    · rwa [hwritten, hsetters]
    · rw [hwritten, hsetters]
      rcases hset : backing.isSetBy layer with _ | _
      · rw [List.filter_cons_of_neg (by rw [hset]; exact Bool.false_ne_true)]
        rwa [alone_of_isSetBy_eq_false hlayer hset] at halone
      · rw [List.filter_cons_of_pos hset, List.filter_nil, kindBy_singleton]
        exact halone
    · rw [hwritten, hsetters, kindBy, ← mapsBacking_stack hlower]
      rw [hv] at halone
      split
      · next hmaps =>
        rw [Bool.and_eq_true, mapsBacking, mapsBacking, hv] at hmaps
        exact kind_mergeOver hdistinct hmaps.2 hmaps.1 ih halone
      · -- a value that is not put over a map by a map stands as it is
        next hmaps =>
        rw [Bool.and_eq_true, not_and_or, Bool.not_eq_true, Bool.not_eq_true] at hmaps
        have hover : Value.mergeOver (backing.written? (stack d lower)) v = v := by
          rcases hmaps with hmap | hmap
          · rw [mapsBacking, hv] at hmap
            exact Value.mergeOver_of_not_isMap hmap _
          · exact Value.mergeOver_of_not_isMap_left hmap v
        rw [hover]
        exact halone

/-- What layers set a setting to, the highest first. -/
def decided (d : Settings) (layers : List Value) : {α : Type} → Setting α → α
  | _, .backing => kindBy d (backing.setters layers)
  | _, x => x.highest d layers

/-- The settings that layers make, the highest first. -/
def effective (d : Settings) (layers : List Value) : Settings := ofEach (decided d layers)

theorem isGiven_decided (hd : d.InWords) (hlayers : ∀ layer ∈ layers, IsLayer d layer) {α : Type}
    (x : Setting α) : x.IsGiven d (stack d layers) (decided d layers x) := by
  cases x with
  | backing => exact isGiven_kindBy hd hlayers
  | _ => exact Setting.isGiven_highest rfl hd hlayers

theorem sectioned_stack (hlayers : ∀ layer ∈ layers, IsLayer d layer) :
    (stack d layers).Sectioned := by
  induction layers with
  | nil => exact sectioned_toValue .defaults
  | cons layer lower ih =>
    obtain ⟨hlayer, hlower⟩ := List.forall_mem_cons.1 hlayers
    constructor
    · have hmap := isMap_stack hlayers
      cases hstack : stack d (layer :: lower) with
      | scalar | list => rw [hstack] at hmap; cases hmap
      | map source entries => exact ⟨source, entries, rfl⟩
    · intro home w hw
      rcases stack_cases hlayers home with ⟨-, hstack, -⟩ | ⟨v, hv, hstack, -⟩ |
        ⟨source, entries, source', below, -, -, hstack, -⟩
      · rw [hstack] at hw
        exact (ih hlower).2 home w hw
      · rw [hstack, ← hv] at hw
        exact hlayer.sectioned.2 home w hw
      · rw [hstack] at hw
        cases hw
        rfl

/-- **A stack of layers** is read as the settings that the layers make. -/
theorem ofValue_stack (hd : d.InWords) (hlayers : ∀ layer ∈ layers, IsLayer d layer) :
    ofValue (stack d layers) d = .ok (effective d layers) := by
  rw [ofValue_eq_ok_iff]
  refine ⟨sectioned_stack hlayers, fun α x => ?_⟩
  rw [effective, of_ofEach]
  exact isGiven_decided hd hlayers x

theorem distinct_fileLayers {files : Files} {paths : List String}
    (h : fileLayers files paths = .ok layers) : ∀ layer ∈ layers, layer.Distinct := by
  induction paths generalizing layers with
  | nil =>
    cases h
    intro layer hmem
    cases hmem
  | cons path paths ih =>
    rw [fileLayers] at h
    split at h
    · next layer layers' hlayer hlayers =>
      cases h
      refine List.forall_mem_cons.2 ⟨?_, ih hlayers⟩
      unfold fileLayer at hlayer
      dsimp only at hlayer
      split at hlayer
      · exact Document.distinct_layer _ _ layer hlayer
      · cases hlayer
        exact .empty
    all_goals cases h

end Settings

end TieredPool
