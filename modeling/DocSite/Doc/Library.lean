import DocSite.Doc.Item

/-!
# Libraries on paper

What is known of a library once its sources have been read: its card
(`Metadata`), its files, and the built-in entities a standard library carries.
-/

namespace DocSite

structure Metadata where
  name : String
  version : String
  author : String
  description : String
  sourceUrl : Option String
  deriving DecidableEq, Repr

/-- One source file. The import path is relative to the library's source
directory and separated by `/`. -/
structure SourceFile where
  name : String
  importPath : String
  items : List Item
  deriving Repr

/-- Everything a cache file holds. -/
structure Record where
  metadata : Metadata
  files : List SourceFile
  natives : List Item
  deriving Repr

end DocSite
