import DocSite.Command

/-!
# Command line

Takes the directories a command line names from the disk into a tree, runs the
command on the tree, and brings the disk up to date.
-/

namespace DocSite.Disk

open Files

/-- The place a path leads to, by its text alone. -/
def placeOf (workDir : Place) (path : String) : Place :=
  (parts path).foldl
    (fun place name =>
      if name = "." then place else if name = ".." then place.dropLast else place ++ [name])
    (if isAbsolute path then [] else workDir)

def pathOf (p : Place) : String := "/" ++ "/".intercalate p

/-- The names in a directory, if there is one. -/
def namesIn? (p : Place) : IO (Option (List String)) := do
  let base ← IO.currentDir
  match ← (base / pathOf p).readDir.toBaseIO with
  | .ok found => return some (found.toList.map (·.fileName))
  | .error _ => return none

/-- Adds what lies at a place, with everything below it. -/
partial def load (t : Tree) (p : Place) : IO Tree := do
  match ← namesIn? p with
  | some names => names.foldlM (fun t name => load t (p ++ [name])) (t.put p .directory)
  | none =>
    match ← (IO.FS.readBinFile (pathOf p)).toBaseIO with
    | .ok bytes => return t.put p (.file bytes.data.toList)
    | .error _ => return t

/-- Adds the directories on the way to a place. -/
def loadAbove (t : Tree) (p : Place) : IO Tree :=
  ((List.range (p.length - 1)).map fun n => p.take (n + 1)).foldlM (fun t above => do
    return if (← namesIn? above).isSome then t.put above .directory else t) t

def loadPaths (paths : List String) : IO Tree := do
  let workDir := parts (← IO.currentDir).toString
  paths.foldlM (fun t path => do
    let p := placeOf workDir path
    load (← loadAbove t p) p) (.ofWorkDir workDir)

/-- Brings the disk from one tree to another. -/
def update (old new : Tree) : IO Unit := do
  for (p, _) in old.entries do
    if (new.get? p).isNone then IO.FS.removeFile (pathOf p)
  for (p, e) in new.entries do
    if old.get? p ≠ some e then
      match e with
      | .directory => IO.FS.createDirAll (pathOf p)
      | .file bytes => IO.FS.writeBinFile (pathOf p) ⟨bytes.toArray⟩

/-- Runs a command line on the disk and gives what it prints. -/
def run (arguments : List String) : IO Exit := do
  let paths := match Invocation.ofArguments arguments with
    | .ok i => i.command.paths
    | .error _ => []
  let tree ← loadPaths paths
  let (exit, after) := runArguments arguments tree
  update tree after
  return exit

end DocSite.Disk

def main (arguments : List String) : IO UInt32 := do
  let exit ← DocSite.Disk.run arguments
  IO.print exit.stdout
  IO.eprint exit.stderr
  return exit.code.toUInt32
