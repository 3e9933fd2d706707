import DocSite.LibraryRoot
import DocSite.Page
import DocSite.Page.Search
import DocSite.Site.Event

/-!
# Sites

A site is an output directory fed from a store of cached libraries. Processing a
library writes its pages, its search index and its cache file, and gives the
extension functions it declares. Those are then spliced into the libraries they
extend, which are taken from the store, extended and written again. What a
failing step has written stays written.
-/

namespace DocSite

structure Site where
  store : Store
  output : String
  links : Page.Links
  deriving Repr

/-- What a run works on: the files, and the events so far. -/
structure Session where
  tree : Files.Tree
  events : List Event := []

namespace Site

open Files (Tree)

abbrev Act := EStateM Failure Session

def tell (e : Event) : Act Unit := modify fun s => { s with events := s.events ++ [e] }

/-- An operation that changes the tree, with its failure told by `why`. -/
def change {ε α : Type} (why : ε → Failure) (a : EStateM ε Tree α) : Act α := fun s =>
  match a s.tree with
  | .ok v tree => .ok v { s with tree := tree }
  | .error e tree => .error (why e) { s with tree := tree }

/-- A look at the tree, with its failure told by `why`. -/
def look {ε α : Type} (why : ε → Failure) (f : Tree → Except ε α) : Act α := fun s =>
  match f s.tree with
  | .ok v => .ok v s
  | .error e => .error (why e) s

/-- The outcome of an action; this never fails. -/
def attempt {α : Type} (a : Act α) : Act (Except Failure α) := fun s =>
  match a s with
  | .ok v s => .ok (.ok v) s
  | .error e s => .ok (.error e) s

-- ---------------------------------------------------------------------------
-- Writing
-- ---------------------------------------------------------------------------

/-- Writes a text file, with the directories it needs. -/
def writeFile (path text : String) : Act Unit := do
  match Files.parent? path with
  | some dir => change (.makeDir dir) (Tree.makeDirs dir)
  | none => pure ()
  change (.write path) (Tree.write path (Files.textBytes text))

def writePage (s : Site) (p : Page) : Act Unit :=
  writeFile (Files.join s.output p.path) (p.render s.links)

/-- Makes the output directory with what all pages share. -/
def init (s : Site) : Act Unit := do
  change (.makeOutput s.output) (Tree.makeDirs s.output)
  writeFile (Files.join s.output "style.css") Page.styleSheet

def writePages (s : Site) (c : Catalog) : Act Unit := do
  let pages := Page.ofLibrary c
  pages.forM s.writePage
  tell (.pagesWritten c.name pages.length)

def searchPath (s : Site) (library : String) : String :=
  Files.join (Files.join (Files.join s.output "library") library) "index.json"

def writeSearch (s : Site) (c : Catalog) : Act Unit := do
  let entries := s.links.searchIndex c
  writeFile (s.searchPath c.name) (SearchEntry.document entries)
  tell (.searchWritten c.name entries.length)

def saveCache (s : Site) (c : Catalog) : Act Unit := do
  let size ← change (.saveCache c.name) (s.store.write c)
  tell (.cacheWritten (s.store.path c.name) size)

/-- Writes all there is of a library. -/
def publish (s : Site) (c : Catalog) : Act Unit := do
  s.writePages c
  s.writeSearch c
  s.saveCache c

-- ---------------------------------------------------------------------------
-- Libraries from their sources
-- ---------------------------------------------------------------------------

def classify (s : Site) (r : Record) : Act Catalog := do
  let e := Catalog.classify s.links.stdName r
  if r.metadata.name ≠ s.links.stdName ∧ !r.natives.isEmpty then
    tell (.nativesIgnored r.metadata.name r.natives.length)
  e.skipped.forM fun why => tell (.notAttached r.metadata.name why)
  return e.catalog

/-- Documents a library and gives the extension functions it declares. -/
def process (s : Site) (metadata : Metadata) (files : List SourceFile) : Act (List Item) := do
  let c ← s.classify ⟨metadata, files, []⟩
  s.publish c
  let extensions := c.extensions.map (·.2)
  tell (.processed c.name c.files.length extensions.length)
  return extensions

/-- Documents the library of a directory and gives its name too. -/
def processRoot (s : Site) (root : String) : Act (String × List Item) := do
  let metadata ← look id (LibraryRoot.manifest · root)
  let files ← look (.parse metadata.name) (LibraryRoot.sources · metadata.name root)
  let extensions ← s.process metadata files
  return (metadata.name, extensions)

-- ---------------------------------------------------------------------------
-- Extensions
-- ---------------------------------------------------------------------------

inductive Outcome where
  | spliced (added : Nat)
  /-- The library has not been documented; its extensions are dropped. -/
  | missingCache
  | failed (cause : Failure)

/-- A cached library, classified. -/
def load? (s : Site) (library : String) : Act (Option Catalog) := do
  match ← look (.loadCache library) (s.store.read · library) with
  | none => return none
  | some cached =>
    tell (.cacheRead (s.store.path library) cached.size)
    return some (← s.classify cached.record)

/-- Attaches items to the entities of a cached library and writes it again. -/
def splice (s : Site) (library : String) (items : List Item) : Act Outcome := do
  match ← s.load? library with
  | none =>
    tell (.noCache library items.length)
    return .missingCache
  | some c =>
    let e := c.extend items
    e.skipped.forM fun why => tell (.notAttached c.name why)
    tell (.spliced library e.added items.length)
    s.publish e.catalog
    return .spliced e.added

structure Report where
  /-- Documented libraries in order. -/
  processed : List String := []
  /-- Directories that came to nothing. -/
  failed : List (String × Failure) := []
  splices : List (String × Outcome) := []
  unresolved : Nat := 0

def Outcome.failure? : Outcome → Option Failure
  | .failed cause => some cause
  | _ => none

namespace Report

/-- All failures, those of directories first. -/
def failures (r : Report) : List (String × Failure) :=
  r.failed ++ r.splices.filterMap fun (library, o) => o.failure?.map (library, ·)

def hasFailures (r : Report) : Bool := !r.failures.isEmpty

end Report

/-- Splices the items of one library; a failure is told and kept as its outcome. -/
def spliceGroup (s : Site) (group : String × List Item) : Act (String × Outcome) := do
  match ← attempt (s.splice group.1 group.2) with
  | .ok outcome => return (group.1, outcome)
  | .error cause =>
    tell (.failed group.1 cause)
    return (group.1, .failed cause)

/-- Splices every item into the library it extends. -/
def resolve (s : Site) (items : List Item) : Act Report := do
  let routing := Routing.ofItems s.links.stdName items
  routing.unresolved.forM fun i => tell (.unresolved i)
  let splices ← routing.byLibrary.mapM s.spliceGroup
  return { splices := splices, unresolved := routing.unresolved.length }

-- ---------------------------------------------------------------------------
-- Whole runs
-- ---------------------------------------------------------------------------

/-- Writes the page of all cached libraries and counts them. -/
def index (s : Site) : Act Nat := do
  let libraries ← look .listLibraries s.store.list
  s.writePage (.libraries libraries)
  tell (.indexed libraries.length)
  return libraries.length

/-- Documents the library of a directory; a failure is told. -/
def tryRoot (s : Site) (root : String) : Act (String × Except Failure (String × List Item)) := do
  let result ← attempt (s.processRoot root)
  match result with
  | .ok _ => pure ()
  | .error cause => tell (.failed root cause)
  return (root, result)

/-- Documents the libraries of all directories, splices what they declare, and
writes the page of all libraries. -/
def generate (s : Site) (roots : List String) : Act Report := do
  s.init
  let results ← roots.mapM s.tryRoot
  let done := results.filterMap (·.2.toOption)
  let report ← s.resolve (done.flatMap (·.2))
  let _ ← s.index
  return { report with
    processed := done.map (·.1)
    failed := results.filterMap fun (root, r) =>
      match r with
      | .ok _ => none
      | .error cause => some (root, cause) }

end Site

end DocSite
