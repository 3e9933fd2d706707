import DocSite.Failure
import DocSite.Source.Reader

/-!
# Library roots

The directory of a library holds a manifest and a directory of sources. All
files with the source extension below that directory belong to the library, in
the order of their paths.
-/

namespace DocSite.LibraryRoot

open Files

def manifestFile : String := "qll.info"

def sourceExtension : String := "ql"

/-- Reads the manifest of a library. -/
def manifest (t : Tree) (root : String) : Except Failure Metadata :=
  let path := join root manifestFile
  match t.readText path with
  | .error e => .error (.read path e)
  | .ok text =>
    match Metadata.ofManifest text with
    | .error e => .error (.manifest path e)
    | .ok m => .ok m

-- ---------------------------------------------------------------------------
-- Sources
-- ---------------------------------------------------------------------------

/-- A name with the source extension, which may be the whole name. -/
def isSourceName (name : String) : Bool :=
  ('.' :: sourceExtension.toList).isSuffixOf name.toList

/-- Places are ordered name by name. -/
def placeBefore : Place → Place → Bool
  | [], _ => true
  | _ :: _, [] => false
  | a :: p, b :: q => if a = b then placeBefore p q else decide (a < b)

/-- The source files below a directory, in order. -/
def sourcesBelow (t : Tree) (dir : String) : List Place :=
  ((t.filesBelow dir).filter fun p => (p.getLast?).any isSourceName).mergeSort placeBefore

/-- The parts of a path, empty ones included. -/
def pieces (path : String) : List String :=
  (Text.splitAll (· == '/') path.toList).map String.ofList

/-- Goes on from a path that has been followed. The work directory has no path of its own, so a
name replaces it; it cannot be left by an empty name. -/
def advance (path : Option String) (piece : String) : Option String :=
  match path with
  | some "." => if piece.isEmpty then none else some piece
  | some path => some (join path piece)
  | none => none

/-- The path by which a directory's files are told: dots in front have fallen away, and so have
doubled slashes. A directory that has none is taken to hold no files. -/
def searchPath? (dir : String) : Option String :=
  if isAbsolute dir then some ((pieces dir).tail.foldl join "/")
  else (pieces dir).foldl advance (some ".")

def slashed (p : Place) : String := "/".intercalate p

/-- A file is told by its path below the source directory; where that was given with a dot in
front, by its whole path. -/
def importPath (dir found : String) (p : Place) : String :=
  if (pieces dir).head? == some "." then slashed ((parts found).filter (· ≠ ".") ++ p)
  else slashed p

/-- Reads one source file of a library. -/
def source (t : Tree) (library dir found : String) (p : Place) : Except Failure SourceFile :=
  let path := join found (slashed p)
  match t.readText path with
  | .error e => .error (.read path e)
  | .ok text => .ok (Source.parse ⟨library, importPath dir found p⟩ text)

/-- Reads all sources of a library. -/
def sources (t : Tree) (library root : String) : Except Failure (List SourceFile) :=
  let dir := join root sourceDir
  if t.isDir dir then
    match searchPath? dir with
    | none => .ok []
    | some found => (sourcesBelow t dir).mapM (source t library dir found)
  else .error (.noSources root)

end DocSite.LibraryRoot
