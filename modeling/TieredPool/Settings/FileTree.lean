import TieredPool.Settings.Load

/-!
# Files in memory

A tree of files below a working directory. A path is followed part by part: a point stays, two
points lead up, and any other part must lead on from a directory. Above the working directory are
directories in which nothing else is found. Below the root directory is what every system has.
-/

namespace TieredPool

/-- Files and directories by the parts of their paths. Directories on the way to them exist too. -/
structure FileTree where
  entries : List (List String × Entry) := []

namespace FileTree

/-- Where a path has led to so far: inside the tree, above it, or from the root on. -/
inductive Position where
  | inside (parts : List String)
  | above
  | fromRoot (parts : List String)
deriving DecidableEq, Repr

/-- The directories that every system has, and the device that is always empty. -/
def system : List (List String × Entry) :=
  ([], .directory) :: (["dev", "null"], .text "") ::
    ["bin", "dev", "etc", "proc", "sys", "tmp", "usr", "var"].map fun name => ([name], .directory)

/-- The parts of a path that lead somewhere. -/
def partsOf (path : String) : List String :=
  (path.splitOn "/").filter fun part => part != "" && part != "."

/-- The tree with another file or directory. -/
def insert (t : FileTree) (path : String) (e : Entry) : FileTree :=
  ⟨t.entries ++ [(partsOf path, e)]⟩

/-- What the parts of a path lead to. The last file of a path counts. -/
def at? (t : FileTree) (parts : List String) : Option Entry :=
  match t.entries.reverse.lookup parts with
  | some e => some e
  | none =>
    if parts.isEmpty || t.entries.any fun e => parts.isPrefixOf e.1 then some .directory else none

/-- What a position is, and nothing where it is not. -/
def entry (t : FileTree) : Position → Option Entry
  | .inside parts => t.at? parts
  | .above => some .directory
  | .fromRoot parts => system.lookup parts

def step (t : FileTree) (p : Position) (part : String) : Option Position :=
  if t.entry p != some .directory then none
  else if part == "" || part == "." then some p
  else
    match p with
    | .above => if part == ".." then some .above else none
    | .fromRoot parts =>
      some (.fromRoot (if part == ".." then parts.dropLast else parts ++ [part]))
    | .inside parts =>
      if part == ".." then
        some (if parts.isEmpty then .above else .inside parts.dropLast)
      else some (.inside (parts ++ [part]))

def find (t : FileTree) : Files := fun path =>
  if path.isEmpty then none
  else
    let start : Position := if path.startsWith "/" then .fromRoot [] else .inside []
    ((path.splitOn "/").foldlM t.step start).bind t.entry

end FileTree

end TieredPool
