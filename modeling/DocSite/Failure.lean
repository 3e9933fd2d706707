import DocSite.Manifest
import DocSite.Store

/-!
# Failures

Why a step of a run came to nothing. Each failure says what was attempted and
carries the cause; `Failure.chain` tells it from the outside in.
-/

namespace DocSite

inductive Failure where
  | makeOutput (path : String) (cause : Files.Error)
  | makeDir (path : String) (cause : Files.Error)
  | write (path : String) (cause : Files.Error)
  | read (path : String) (cause : Files.Error)
  | manifest (path : String) (cause : Manifest.Error)
  | noSources (root : String)
  /-- The sources of a library could not be read. -/
  | parse (library : String) (cause : Failure)
  | saveCache (library : String) (cause : Store.Error)
  | loadCache (library : String) (cause : Store.Error)
  | listLibraries (cause : Store.Error)
  | listCaches (dir : String) (cause : Store.Error)

/-- The directory of a library that holds its sources. -/
def sourceDir : String := "qilletni-src"

namespace Failure

/-- A failed store tells its cause in its own words, and the cause follows. -/
def storeChain (e : Store.Error) : List String := [e.message, e.causeMessage]

def chain : Failure → List String
  | .makeOutput path cause => ["failed to create output directory: " ++ path, cause.message]
  | .makeDir path cause => ["failed to create directory: " ++ path, cause.message]
  | .write path cause => ["failed to write " ++ path, cause.message]
  | .read path cause => ["failed to read " ++ path, cause.message]
  | .manifest path cause => ["invalid " ++ path, cause.message]
  | .noSources root => [root ++ " has no " ++ sourceDir ++ " directory"]
  | .parse library cause => ("failed to parse library " ++ library) :: cause.chain
  | .saveCache library cause => ("failed to write cache for " ++ library) :: storeChain cause
  | .loadCache library cause => ("failed to load cache for " ++ library) :: storeChain cause
  | .listLibraries cause => "failed to list cached libraries" :: storeChain cause
  | .listCaches dir cause => ("failed to list caches in " ++ dir) :: storeChain cause

/-- The whole chain on one line. -/
def message (f : Failure) : String := ": ".intercalate f.chain

end Failure

end DocSite
