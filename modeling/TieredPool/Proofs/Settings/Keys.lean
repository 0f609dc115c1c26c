import Mathlib.Data.List.Nodup
import TieredPool.Settings.Load

/-!
# Keys of layers

The maps of a layer have different keys, wherever the layer comes from: of entries with one key, a
document and a variable keep the last (`Document.distinct_layer`, `Environment.distinct_layer`). For
such layers a merge is what it is meant to be, key by key (`Value.lookup?_mergeEntries`).

Maps inside lists are left out, since nothing is ever merged into them.
-/

namespace TieredPool

namespace Value

/-- The maps in a value, lists left out, have different keys. -/
inductive Distinct : Value → Prop
  | scalar {source : Source} {s : Scalar} : Distinct (.scalar source s)
  | list {source : Source} {items : List Value} : Distinct (.list source items)
  | map {source : Source} {entries : List (String × Value)}
      (hkeys : (entries.map Prod.fst).Nodup) (hvalues : ∀ e ∈ entries, Distinct e.2) :
      Distinct (.map source entries)

theorem Distinct.empty {source : Source} : (Value.empty source).Distinct :=
  .map List.nodup_nil (List.forall_mem_nil _)

/-! ## Entries -/

theorem lookup?_eq_none_iff {key : String} {entries : List (String × Value)} :
    lookup? key entries = none ↔ key ∉ entries.map Prod.fst := by
  induction entries with
  | nil => simp [lookup?]
  | cons e rest ih =>
    obtain ⟨k, v⟩ := e
    by_cases h : k = key
    · simp [lookup?, h]
    · simp [lookup?, h, ih, Ne.symm h]

theorem mem_of_lookup? {key : String} {v : Value} {entries : List (String × Value)}
    (h : lookup? key entries = some v) : (key, v) ∈ entries := by
  induction entries with
  | nil => cases h
  | cons e rest ih =>
    obtain ⟨k, w⟩ := e
    rw [lookup?] at h
    split at h
    · next hk =>
      cases h
      rw [hk]
      exact List.mem_cons_self
    · exact List.mem_cons_of_mem _ (ih h)

theorem keys_put (key : String) (v : Value) (entries : List (String × Value)) :
    (put key v entries).map Prod.fst =
      if key ∈ entries.map Prod.fst then entries.map Prod.fst
      else entries.map Prod.fst ++ [key] := by
  induction entries with
  | nil => simp [put]
  | cons e rest ih =>
    obtain ⟨k, w⟩ := e
    by_cases h : k = key
    · simp [put, h]
    · rw [put, if_neg h, List.map_cons, ih]
      by_cases hmem : key ∈ rest.map Prod.fst
      · simp [hmem]
      · simp [hmem, Ne.symm h]

theorem nodup_put {key : String} {v : Value} {entries : List (String × Value)}
    (h : (entries.map Prod.fst).Nodup) : ((put key v entries).map Prod.fst).Nodup := by
  rw [keys_put]
  split
  · exact h
  · next hkey =>
    rw [List.nodup_append]
    refine ⟨h, List.nodup_singleton key, fun k hk k' hk' heq => hkey ?_⟩
    rw [List.mem_singleton.1 hk'] at heq
    rwa [heq] at hk

theorem mem_put {key : String} {v : Value} {entries : List (String × Value)}
    {e : String × Value} (h : e ∈ put key v entries) : e.2 = v ∨ e ∈ entries := by
  induction entries with
  | nil =>
    rw [put, List.mem_singleton] at h
    exact .inl (congrArg Prod.snd h)
  | cons e' rest ih =>
    obtain ⟨k, w⟩ := e'
    rw [put] at h
    split at h
    · rcases List.mem_cons.1 h with rfl | hrest
      · exact .inl rfl
      · exact .inr (List.mem_cons_of_mem _ hrest)
    · rcases List.mem_cons.1 h with rfl | hrest
      · exact .inr List.mem_cons_self
      · exact (ih hrest).imp_right (List.mem_cons_of_mem _)

/-! ## Merging -/

/-- A value over another one, if there is one. -/
def mergeOver (lower : Option Value) (upper : Value) : Value :=
  match lower with
  | none => upper
  | some lower => lower.merge upper

/-- **A merge** goes key by key. -/
theorem lookup?_mergeEntries {upper : List (String × Value)} (hkeys : (upper.map Prod.fst).Nodup)
    (key : String) (below : List (String × Value)) :
    lookup? key (mergeEntries below upper) =
      match lookup? key upper with
      | none => lookup? key below
      | some v => some (mergeOver (lookup? key below) v) := by
  induction upper generalizing below with
  | nil => rw [mergeEntries]; rfl
  | cons e rest ih =>
    obtain ⟨k, v⟩ := e
    rw [List.map_cons, List.nodup_cons] at hkeys
    rw [mergeEntries, ih hkeys.2, lookup?]
    by_cases hk : k = key
    · -- no other entry has this key, so that nothing goes over what is put for it
      subst hk
      rw [lookup?_eq_none_iff.2 hkeys.1, if_pos rfl]
      exact lookup?_put_self ..
    · rw [if_neg hk, lookup?_put_of_ne (Ne.symm hk)]

theorem distinct_mergeEntries {upper : List (String × Value)}
    (hupper : ∀ e ∈ upper, e.2.Distinct ∧
      ∀ lower : Value, lower.Distinct → (merge lower e.2).Distinct)
    {below : List (String × Value)} (hkeys : (below.map Prod.fst).Nodup)
    (hbelow : ∀ e ∈ below, e.2.Distinct) :
    ((mergeEntries below upper).map Prod.fst).Nodup ∧
      ∀ e ∈ mergeEntries below upper, e.2.Distinct := by
  induction upper generalizing below with
  | nil =>
    rw [mergeEntries]
    exact ⟨hkeys, hbelow⟩
  | cons e rest ih =>
    obtain ⟨k, v⟩ := e
    rw [mergeEntries]
    obtain ⟨hv, hmerge⟩ := hupper (k, v) List.mem_cons_self
    refine ih (fun e he => hupper e (List.mem_cons_of_mem _ he)) (nodup_put hkeys) fun e he => ?_
    rcases mem_put he with heq | hmem
    · rw [heq]
      rcases hlookup : lookup? k below with _ | lower
      · exact hv
      · exact hmerge lower (hbelow _ (mem_of_lookup? hlookup))
    · exact hbelow e hmem

namespace Distinct

theorem merge {lower upper : Value} (hlower : lower.Distinct) (hupper : upper.Distinct) :
    (lower.merge upper).Distinct := by
  induction hupper generalizing lower with
  | scalar =>
    rw [Value.merge]
    · exact .scalar
    · intro _ _ h
      cases h
  | list =>
    rw [Value.merge]
    · exact .list
    · intro _ _ h
      cases h
  | @map source entries hkeys hvalues ih =>
    cases hlower with
    | scalar => exact .map hkeys hvalues
    | list => exact .map hkeys hvalues
    | @map _ below hkeys' hvalues' =>
      rw [Value.merge]
      obtain ⟨hnodup, hall⟩ := distinct_mergeEntries
        (fun e he => ⟨hvalues e he, fun _ hlower => ih e he hlower⟩) hkeys' hvalues'
      exact .map hnodup hall

theorem mergeAll {lowest : Value} {layers : List Value} (hlowest : lowest.Distinct)
    (hlayers : ∀ layer ∈ layers, layer.Distinct) : (lowest.mergeAll layers).Distinct := by
  induction layers generalizing lowest with
  | nil => exact hlowest
  | cons layer layers ih =>
    refine ih (hlowest.merge (hlayers layer List.mem_cons_self)) fun layer' hmem => ?_
    exact hlayers layer' (List.mem_cons_of_mem _ hmem)

theorem nest {v : Value} (h : v.Distinct) (source : Source) (path : List String) :
    (Value.nest source path v).Distinct := by
  induction path with
  | nil => exact h
  | cons key path ih =>
    refine .map (List.nodup_singleton key) fun e he => ?_
    rw [List.mem_singleton.1 he]
    exact ih

end Distinct

theorem moveEntriesTo_eq_map (source : Source) (entries : List (String × Value)) :
    moveEntriesTo source entries = entries.map fun e => (e.1, e.2.moveTo source) := by
  induction entries with
  | nil => rw [moveEntriesTo]; rfl
  | cons e rest ih => rw [moveEntriesTo, ih]; rfl

theorem Distinct.moveTo {v : Value} (h : v.Distinct) (source : Source) :
    (v.moveTo source).Distinct := by
  induction h with
  | scalar =>
    rw [Value.moveTo]
    exact .scalar
  | list =>
    rw [Value.moveTo]
    exact .list
  | map hkeys _ ih =>
    rw [Value.moveTo, moveEntriesTo_eq_map]
    refine .map ?_ fun e he => ?_
    · rw [List.map_map]
      exact hkeys
    · obtain ⟨e', he', rfl⟩ := List.mem_map.1 he
      exact ih e' he'

end Value

/-! ## Results of readings -/

/-- Every result has the property. -/
def Results {ε α : Type} (x : Except ε α) (P : α → Prop) : Prop := ∀ a, x = .ok a → P a

namespace Results

variable {ε α γ : Type} {P : α → Prop} {Q : γ → Prop}

theorem pure {a : α} (h : P a) : Results (Pure.pure a : Except ε α) P := by
  intro a' heq
  cases heq
  exact h

theorem error (e : ε) : Results (.error e) P := by
  intro a heq
  cases heq

theorem trivial (x : Except ε α) : Results x fun _ => True := fun _ _ => True.intro

theorem bind {x : Except ε α} {f : α → Except ε γ} (hx : Results x P)
    (hf : ∀ a, P a → Results (f a) Q) : Results (x >>= f) Q := by
  intro b heq
  cases x with
  | error e => cases heq
  | ok a => exact hf a (hx a rfl) b heq

theorem map {x : Except ε α} {f : α → γ} (hx : Results x P) (hf : ∀ a, P a → Q (f a)) :
    Results (x.map f) Q := by
  intro b heq
  cases x with
  | error e => cases heq
  | ok a =>
    cases heq
    exact hf a (hx a rfl)

theorem mapM {f : γ → Except ε α} (hf : ∀ c, Results (f c) P) (items : List γ) :
    Results (items.mapM f) fun results => ∀ a ∈ results, P a := by
  induction items with
  | nil =>
    rw [List.mapM_nil]
    exact pure (List.forall_mem_nil P)
  | cons item items ih =>
    rw [List.mapM_cons]
    refine bind (hf item) fun a ha => bind ih fun rest hrest => pure fun a' ha' => ?_
    rcases List.mem_cons.1 ha' with rfl | hmem
    · exact ha
    · exact hrest a' hmem

end Results

/-! ## Documents -/

namespace Document

theorem keys_lastOfEach (entries : List (String × Value)) :
    ((lastOfEach entries).map Prod.fst).Nodup ∧ ∀ e ∈ lastOfEach entries, e ∈ entries := by
  induction entries with
  | nil => exact ⟨List.nodup_nil, fun e he => he⟩
  | cons e rest ih =>
    obtain ⟨key, v⟩ := e
    rw [lastOfEach]
    split
    · exact ⟨ih.1, fun e he => List.mem_cons_of_mem _ (ih.2 e he)⟩
    · next hnone =>
      rw [Option.not_isSome_iff_eq_none, Value.lookup?_eq_none_iff] at hnone
      refine ⟨List.nodup_cons.2 ⟨hnone, ih.1⟩, fun e he => ?_⟩
      rcases List.mem_cons.1 he with rfl | hrest
      · exact List.mem_cons_self
      · exact List.mem_cons_of_mem _ (ih.2 e hrest)

/-- Every result of a reading has the property, however many aliases may still be followed. -/
def Yields {α : Type} (r : Reading α) (P : α → Prop) : Prop :=
  ∀ n, Results (r n) fun result => P result.1

namespace Yields

variable {α γ : Type} {P : α → Prop} {Q : γ → Prop}

theorem pure {a : α} (h : P a) : Yields (Pure.pure a) P := fun _ => Results.pure h

theorem throw (problem : Yaml.Problem) : Yields (throw problem) P := fun _ => Results.error problem

theorem trivial (r : Reading α) : Yields r fun _ => True := fun n => Results.trivial (r n)

theorem bind {r : Reading α} {f : α → Reading γ} (hr : Yields r P)
    (hf : ∀ a, P a → Yields (f a) Q) :
    Yields (r >>= f) Q :=
  fun n => (hr n).bind fun result h => hf result.1 h result.2

theorem mapM {f : γ → Reading α} (hf : ∀ c, Yields (f c) P) (items : List γ) :
    Yields (items.mapM f) fun results => ∀ a ∈ results, P a := by
  induction items with
  | nil =>
    rw [List.mapM_nil]
    exact pure (List.forall_mem_nil P)
  | cons item items ih =>
    rw [List.mapM_cons]
    refine bind (hf item) fun a ha => bind ih fun rest hrest => pure fun a' ha' => ?_
    rcases List.mem_cons.1 ha' with rfl | hmem
    · exact ha
    · exact hrest a' hmem

end Yields

/-- What an entry of a mapping says is in order. -/
def Entry.Distinct : Entry → Prop
  | entry _ v => v.Distinct
  | whole v => v.Distinct
  | place _ => True

theorem distinct_ofEntries {source : Source} {entries : List Entry}
    (h : ∀ e ∈ entries, e.Distinct) : (ofEntries source entries).Distinct := by
  have hwhole : ∀ v, (entries.filterMap Entry.whole?).getLast? = some v → v.Distinct := by
    intro v hv
    obtain ⟨e, he, heq⟩ := List.mem_filterMap.1 (List.mem_of_getLast? hv)
    have hdistinct := h e he
    cases e with
    | whole w =>
      cases heq
      exact hdistinct
    | entry => cases heq
    | place => cases heq
  rw [ofEntries]
  split
  · refine .map (keys_lastOfEach _).1 fun e he => ?_
    obtain ⟨e', he', heq⟩ := List.mem_filterMap.1 ((keys_lastOfEach _).2 e he)
    have hdistinct := h e' he'
    cases e' with
    | entry key v =>
      cases heq
      exact hdistinct
    | whole => cases heq
    | place => cases heq
  · next v hv _ => exact hwhole v hv
  · next v n hv _ =>
    split
    · exact hwhole v hv
    · exact (hwhole v hv).moveTo .unknown

theorem distinct_named {source : Source} {p : Yaml.Properties} {v : Value} (h : v.Distinct) :
    (named source p v).Distinct := by
  rw [named]
  split
  · exact h.nest source _
  · exact h

theorem yields_value (source : Source) (anchored : Anchored) (levels : Nat) (tree : Yaml.Tree) :
    Yields (value source anchored levels tree) Value.Distinct := by
  induction levels generalizing tree with
  | zero =>
    rw [value]
    refine (Yields.trivial _).bind fun node _ => ?_
    cases node with
    | scalar p text isPlain =>
      refine (Yields.trivial _).bind fun s _ => .pure ?_
      exact distinct_named .scalar
    | sequence => exact .throw _
    | mapping => exact .throw _
    | reference => exact .throw _
  | succ levels ih =>
    rw [value]
    refine (Yields.trivial _).bind fun node _ => ?_
    cases node with
    | scalar p text isPlain =>
      refine (Yields.trivial _).bind fun s _ => .pure ?_
      exact distinct_named .scalar
    | sequence p items =>
      refine (Yields.trivial _).bind fun values _ => .pure ?_
      exact distinct_named .list
    | mapping p entries =>
      refine (Yields.mapM (P := Entry.Distinct) (fun e => ?_) entries).bind fun entries h =>
        .pure (distinct_named (distinct_ofEntries h))
      obtain ⟨k, v⟩ := e
      refine (Yields.trivial _).bind fun key _ => ?_
      split
      · exact (Yields.trivial _).bind fun n _ => .pure True.intro
      · refine (ih v).bind fun v hv => .pure ?_
        split
        · exact hv
        · exact hv
    | reference => exact .throw _

theorem yields_topEntries (source : Source) (anchored : Anchored)
    (entries : List (Yaml.Tree × Yaml.Tree)) :
    Yields (topEntries source anchored entries) fun es => ∀ e ∈ es, e.2.Distinct := by
  refine .mapM (fun e => ?_) entries
  obtain ⟨k, v⟩ := e
  refine (Yields.trivial _).bind fun key _ => ?_
  exact (yields_value source anchored _ v).bind fun v hv => .pure hv

/-- **A document's layer** has different keys in each of its maps. -/
theorem distinct_layer (source : Source) (text : String) :
    Results (layer source text) Value.Distinct := by
  rw [layer]
  refine (Results.trivial _).bind fun tree? _ => ?_
  split
  · exact .pure .empty
  · exact .pure .empty
  · next p entries =>
    refine .bind (.map (yields_topEntries source _ entries _)
      (Q := fun es : List (String × Value) => ∀ e ∈ es, e.2.Distinct) fun _ h => h)
      fun es hes => .pure ?_
    refine .map (keys_lastOfEach _).1 fun e he => hes e ((keys_lastOfEach _).2 e he)
  · exact .error _

end Document

/-! ## Variables -/

namespace Environment

/-- Entries with different keys, whose values are in order. -/
def DistinctEntries (es : List (String × Value)) : Prop :=
  (es.map Prod.fst).Nodup ∧ ∀ e ∈ es, e.2.Distinct

theorem distinctEntries_cons {key : String} {v : Value} {es : List (String × Value)}
    (hv : v.Distinct) (hes : DistinctEntries es) (hkey : Value.lookup? key es = none) :
    DistinctEntries ((key, v) :: es) := by
  rw [Value.lookup?_eq_none_iff] at hkey
  refine ⟨List.nodup_cons.2 ⟨hkey, hes.1⟩, fun e he => ?_⟩
  rcases List.mem_cons.1 he with rfl | hmem
  · exact hv
  · exact hes.2 e hmem

theorem distinct_read (fuel : Nat) :
    (∀ text, Results (readValue fuel text) fun result => result.1.Distinct) ∧
    ∀ text, Results (readEntries fuel text) fun result => DistinctEntries result.1 := by
  have hnil : DistinctEntries [] := ⟨List.nodup_nil, List.forall_mem_nil _⟩
  induction fuel with
  | zero =>
    refine ⟨fun text => ?_, fun text => ?_⟩
    · rw [readValue]
      exact .error _
    · rw [readEntries]
      exact .error _
  | succ fuel ih =>
    obtain ⟨ihValue, ihEntries⟩ := ih
    refine ⟨fun text => ?_, fun text => ?_⟩
    · rw [readValue]
      dsimp only
      split
      all_goals
        refine .bind (P := fun result : Value × List Char => result.1.Distinct) ?_
          fun result h => .pure h
      · exact .pure .scalar
      · exact .pure .scalar
      · exact .map (ihEntries _) fun result h => .map h.1 h.2
      · exact .map (Results.trivial _) fun result _ => .list
      · exact .map (Results.trivial _) fun result _ => .scalar
      · exact .pure .scalar
      · exact .error _
      · exact .pure .scalar
    · unfold readEntries
      split
      · exact .pure hnil
      · refine (Results.trivial _).bind fun result _ => ?_
        obtain ⟨key, afterKey⟩ := result
        refine (ihValue _).bind fun result hv => ?_
        obtain ⟨v, afterValue⟩ := result
        dsimp only
        split
        · refine (ihEntries _).bind fun result hes => ?_
          split
          · exact .pure hes
          · next hkey => exact .pure (distinctEntries_cons hv hes hkey)
        · refine .bind (P := fun result => DistinctEntries result.1) (.pure hnil)
            fun result hes => ?_
          split
          · exact .pure hes
          · next hkey => exact .pure (distinctEntries_cons hv hes hkey)
        · exact .error _

theorem distinct_value (text : String) : Results (value text) Value.Distinct := by
  have hread := (distinct_read (2 * text.length + 2)).1 text.toList
  rw [value]
  split
  · next v hv => exact .pure (hread _ hv)
  · exact .error _
  · exact .pure .scalar

/-- **The layer of the variables** has different keys in each of its maps. -/
theorem distinct_layer (vars : List (String × String)) : Results (layer vars) Value.Distinct := by
  have hsetting : ∀ var : String × String, Results (setting? var.1 var.2) fun setting =>
      ∀ v, setting = some v → v.Distinct := by
    intro var
    rw [setting?]
    split
    · refine .pure fun v hv => ?_
      cases hv
    · next path _ =>
      refine (distinct_value var.2).bind fun v hv => .pure fun v' hv' => ?_
      cases hv'
      exact hv.nest .environment path
  rw [layer]
  refine (Results.mapM hsetting vars).bind fun settings hsettings => .pure ?_
  refine Value.Distinct.mergeAll .empty fun v hv => ?_
  obtain ⟨setting, hmem, heq⟩ := List.mem_filterMap.1 hv
  exact hsettings setting hmem v heq

end Environment

end TieredPool
