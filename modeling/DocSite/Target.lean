import DocSite.Native
import DocSite.Text.Cut

/-!
# Targets of extension functions

An extension function says where it belongs in one of two ways: an `@on` tag
that names library and entity, or a bare `on T` with a built-in type, which the
standard library owns. Anything else has no target.
-/

namespace DocSite

structure Target where
  library : String
  entity : String
  deriving DecidableEq, Repr

namespace Target

def display (t : Target) : String := t.library ++ "." ++ t.entity

/-- `library.Entity`, with exactly one dot and something on both sides. -/
def ofQualified? (name : String) : Option Target :=
  match Text.splitAll (· == '.') name.toList with
  | [library, entity] =>
    if library.isEmpty || entity.isEmpty then none
    else some ⟨String.ofList library, String.ofList entity⟩
  | _ => none

/-- The target an `@on` tag names. Where the type lives is not asked. -/
def ofOnTag? (doc : FunctionDoc) : Option Target :=
  ((doc.on.bind (·.type)).map (·.name)).bind ofQualified?

def ofOnClause? (stdName : String) (f : FunctionSubject) : Option Target :=
  (f.target.filter Native.isNative).map (⟨stdName, ·⟩)

def ofItem? (stdName : String) : Item → Option Target
  | .function f doc => (ofOnTag? doc).or (ofOnClause? stdName f)
  | _ => none

end Target

/-- Extension functions sorted by the library they go to. -/
structure Routing where
  /-- Target libraries in ascending order, each with its items in their order. -/
  byLibrary : List (String × List Item)
  /-- Items without a target. -/
  unresolved : List Item
  deriving Repr

def Routing.ofItems (stdName : String) (items : List Item) : Routing :=
  let library (i : Item) := (Target.ofItem? stdName i).map (·.library)
  { byLibrary := ((items.filterMap library).eraseDups.mergeSort (· ≤ ·)).map fun l =>
      (l, items.filter (library · == some l))
    unresolved := items.filter (library · == none) }

end DocSite
