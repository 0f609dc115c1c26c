import TieredPool.Decimal.Shortest
import TieredPool.Text.Quoted

/-!
# Values of settings

Settings come in layers: the defaults, files, and the environment. A layer is a tree of values, in
which each value knows where it was set. `Value.merge` puts a layer over another: maps are merged
key by key, and anything else replaces what was there. Keys that no setting has are kept and never
looked at.
-/

namespace TieredPool

/-- Where a value was set. -/
inductive Source where
  | defaults
  /-- A file, by the path it is shown with. -/
  | file (path : String)
  | environment
  /-- A place of which nothing is known. -/
  | unknown
deriving DecidableEq, Repr

/-- A value without parts. An integer that is written with a minus is a `signed` one. -/
inductive Scalar where
  | null
  | bool (b : Bool)
  | natural (n : Nat)
  | signed (i : Int)
  | decimal (x : Binary64)
  | text (t : String)
  /-- A single character, where a text can be told from it. -/
  | letter (c : Char)
deriving DecidableEq, Repr

/-- A value of a layer. The entries of a map have different keys. -/
inductive Value where
  | scalar (source : Source) (s : Scalar)
  | list (source : Source) (items : List Value)
  | map (source : Source) (entries : List (String × Value))

namespace Scalar

def fitsWord (n : Nat) : Bool := n < 1 <<< 64

def fitsSignedWord (i : Int) : Bool := -Int.ofNat (1 <<< 63) ≤ i && i < Int.ofNat (1 <<< 63)

/-- The scalar as it is named in an error. -/
def found : Scalar → String
  | null => "unit"
  | bool b => if b then "bool true" else "bool false"
  | natural n => if fitsWord n then s!"unsigned int `{n}`" else s!"integer `{n}` as u128"
  | signed i => if fitsSignedWord i then s!"signed int `{i}`" else s!"integer `{i}` as i128"
  | decimal x => s!"float `{x.toDecimal}`"
  | text t => "string " ++ Text.Quoted.encode t
  | letter c => "string " ++ Text.Quoted.encode (String.singleton c)

end Scalar

namespace Value

/-- Where the value was set. -/
def source : Value → Source
  | scalar source _ => source
  | list source _ => source
  | map source _ => source

/-- The value as it is named in an error. -/
def found : Value → String
  | scalar _ s => s.found
  | list .. => "sequence"
  | map .. => "map"

/-! ## Entries of maps -/

/-- The value of a key among entries. -/
def lookup? (key : String) : List (String × Value) → Option Value
  | [] => none
  | (k, v) :: rest => if k = key then some v else lookup? key rest

/-- The entries with a key set. -/
def put (key : String) (value : Value) : List (String × Value) → List (String × Value)
  | [] => [(key, value)]
  | (k, v) :: rest => if k = key then (k, value) :: rest else (k, v) :: put key value rest

@[simp] theorem lookup?_put_self (key : String) (value : Value) (entries : List (String × Value)) :
    lookup? key (put key value entries) = some value := by
  induction entries with
  | nil => simp [put, lookup?]
  | cons e rest ih =>
    obtain ⟨k, v⟩ := e
    by_cases h : k = key <;> simp [put, lookup?, h, ih]

theorem lookup?_put_of_ne {key other : String} (h : other ≠ key) (value : Value)
    (entries : List (String × Value)) :
    lookup? other (put key value entries) = lookup? other entries := by
  induction entries with
  | nil => simp [put, lookup?, h.symm]
  | cons e rest ih =>
    obtain ⟨k, v⟩ := e
    by_cases hk : k = key
    · subst hk
      simp [put, lookup?, h.symm]
    · by_cases ho : k = other
      · subst ho
        simp [put, lookup?, hk]
      · simp [put, lookup?, hk, ho, ih]

/-- The entry with the least key. -/
def least? : List (String × Value) → Option (String × Value)
  | [] => none
  | e :: rest =>
    match least? rest with
    | none => some e
    | some least => if least.1 < e.1 then some least else some e

/-- The value at a path of keys. -/
def at? : Value → List String → Option Value
  | v, [] => some v
  | map _ entries, key :: path => (lookup? key entries).bind fun v => v.at? path
  | _, _ :: _ => none

/-- A value under a path of keys. -/
def nest (source : Source) : List String → Value → Value
  | [], v => v
  | key :: path, v => map source [(key, nest source path v)]

mutual

/-- The value as if it and all its parts had been set elsewhere. -/
def moveTo (source : Source) : Value → Value
  | scalar _ s => scalar source s
  | list _ items => list source (moveItemsTo source items)
  | map _ entries => map source (moveEntriesTo source entries)

/-- The items as if they had been set elsewhere. -/
def moveItemsTo (source : Source) : List Value → List Value
  | [] => []
  | item :: items => item.moveTo source :: moveItemsTo source items

/-- The entries as if they had been set elsewhere. -/
def moveEntriesTo (source : Source) : List (String × Value) → List (String × Value)
  | [] => []
  | (key, value) :: entries => (key, value.moveTo source) :: moveEntriesTo source entries

end

def empty (source : Source) : Value := map source []

/-! ## Layers -/

mutual

/-- A value with another one over it. -/
def merge (lower : Value) : Value → Value
  | map source entries =>
    match lower with
    | map _ below => map source (mergeEntries below entries)
    | _ => map source entries
  | upper => upper

/-- Entries with others over them. -/
def mergeEntries (below : List (String × Value)) :
    List (String × Value) → List (String × Value)
  | [] => below
  | (key, value) :: rest =>
    let merged := match lookup? key below with
      | none => value
      | some lower => merge lower value
    mergeEntries (put key merged below) rest

end

/-- A value with layers over it, the lowest first. -/
def mergeAll (lowest : Value) (layers : List Value) : Value := layers.foldl merge lowest

end Value

end TieredPool
