import DocSite.Catalog
import DocSite.Files.Tree
import DocSite.Wire.CacheFile

/-!
# Cache stores

A store is a directory with one cache file per library, named for the library.
Writing replaces the file. A store that does not exist yet is empty; a file that
cannot be read or decoded fails the operation that needs it, with its path.
-/

namespace DocSite

structure Store where
  dir : String
  deriving DecidableEq, Repr

namespace Store

open Files

inductive Error where
  | io (path : String) (cause : Files.Error)
  | corrupt (path : String) (cause : Wire.Corruption)
  deriving DecidableEq, Repr

def Error.causeMessage : Error → String
  | .io _ cause => cause.message
  | .corrupt _ cause => cause.message

def Error.message : Error → String
  | .io path cause => "cache I/O failed for " ++ path ++ ": " ++ cause.message
  | .corrupt path cause => "corrupt cache file " ++ path ++ ": " ++ cause.message

def extension : String := "cache"

/-- Where the cache file of a library lies. -/
def path (s : Store) (library : String) : String := join s.dir (library ++ "." ++ extension)

def contains (s : Store) (t : Tree) (library : String) : Bool := t.isFile (s.path library)

-- ---------------------------------------------------------------------------
-- Writing
-- ---------------------------------------------------------------------------

/-- An operation on the tree, with its failures told as those of a path. -/
def onPath (path : String) {α : Type} (a : Tree.Action α) : EStateM Error Tree α := fun t =>
  match a t with
  | .ok v t => .ok v t
  | .error e t => .error (.io path e) t

/-- Removes a file that may be missing. -/
def discard (path : String) : Tree.Action Unit := fun t =>
  match Tree.removeFile path t with
  | .error .notFound t => .ok () t
  | r => r

/-- Writes the cache file of a library and gives its size. The old file is gone
before the new one is written. -/
def write (s : Store) (c : Catalog) : EStateM Error Tree Nat := do
  let file := s.path c.name
  let bytes := Wire.encodeRecord c.record
  onPath s.dir (Tree.makeDirs s.dir)
  onPath file (discard file)
  onPath file (Tree.write file bytes)
  return bytes.length

-- ---------------------------------------------------------------------------
-- Reading
-- ---------------------------------------------------------------------------

/-- What a cache file held, and how long it was. -/
structure Cached where
  record : Record
  size : Nat

/-- The cached library of a name, if there is one. -/
def read (s : Store) (t : Tree) (library : String) : Except Error (Option Cached) :=
  match t.read (s.path library) with
  | .error .notFound => .ok none
  | .error e => .error (.io (s.path library) e)
  | .ok bytes =>
    match Wire.decodeRecord bytes with
    | .error e => .error (.corrupt (s.path library) e)
    | .ok record => .ok (some ⟨record, bytes.length⟩)

/-- The card in a cache file. -/
def card (t : Tree) (file : String) : Except Error Metadata :=
  match t.read file with
  | .error e => .error (.io file e)
  | .ok bytes =>
    match Wire.decodeMetadata bytes with
    | .error e => .error (.corrupt file e)
    | .ok m => .ok m

/-- The paths of the cache files in a directory. -/
def cacheFiles (s : Store) (t : Tree) (names : List String) : List String :=
  ((names.filter (hasExtension extension)).map (join s.dir)).filter t.isFile

/-- The cards of all cached libraries, by name. -/
def list (s : Store) (t : Tree) : Except Error (List Metadata) :=
  match t.children s.dir with
  | .error .notFound => .ok []
  | .error e => .error (.io s.dir e)
  | .ok names =>
    match (s.cacheFiles t names).mapM (card t) with
    | .error e => .error e
    | .ok cards => .ok (cards.mergeSort fun a b => a.name ≤ b.name)

end Store

end DocSite
