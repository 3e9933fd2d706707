import DocSite.Text.Cut

/-!
# Paths

Paths are texts with `/` between components, kept as written. Nothing here looks
at files: joining, splitting and the directories above a path are decided by
the text alone.
-/

namespace DocSite.Files

def isAbsolute (path : String) : Bool := path.toList.head? == some '/'

/-- A path that starts at the root replaces what came before. -/
def join (base path : String) : String :=
  if isAbsolute path || base.isEmpty then path
  else if base.toList.getLast? == some '/' then base ++ path
  else base ++ "/" ++ path

/-- What stands between the slashes of a path, also where that is nothing. -/
def segments (path : String) : List (List Char) := Text.splitAll (· == '/') path.toList

/-- The path with the given segments. -/
def ofSegments (segments : List (List Char)) : String := String.ofList (Text.join ['/'] segments)

/-- The segments that are not empty. -/
def named (segments : List (List Char)) : List String :=
  (segments.filter (! ·.isEmpty)).map String.ofList

/-- The parts between slashes that are not empty. -/
def parts (path : String) : List String := named (segments path)

-- ---------------------------------------------------------------------------
-- Directories above a path
-- ---------------------------------------------------------------------------

/-- Whether a segment is a name, given those before it. A dot is a name only at the
very start. -/
def isName (before : List (List Char)) (segment : List Char) : Bool :=
  !segment.isEmpty && !(segment == ['.'] && !before.isEmpty)

/-- The beginnings of a path that end with a name, given the segments before and
after. -/
def fronts (before : List (List Char)) : List (List Char) → List (List (List Char))
  | [] => []
  | segment :: rest =>
    let front := before ++ [segment]
    if isName before segment then front :: fronts front rest else fronts front rest

/-- A path and the directories above it, innermost first. The last one is the
root, or for a relative path the empty path. -/
def ancestors (path : String) : List String :=
  match fronts [] (segments path) with
  | [] => [path]
  | found =>
    path :: (found.dropLast.reverse.map ofSegments) ++ [if isAbsolute path then "/" else ""]

def parent? (path : String) : Option String := (ancestors path)[1]?

-- ---------------------------------------------------------------------------
-- Extensions
-- ---------------------------------------------------------------------------

/-- Whether a file name has an extension. A name that is nothing but the extension
has none. -/
def hasExtension (extension name : String) : Bool :=
  let ending := '.' :: extension.toList
  ending.isSuffixOf name.toList && ending.length < name.length

end DocSite.Files
