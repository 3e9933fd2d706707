import DocSite.Catalog
import DocSite.Page.Markup
import DocSite.Text.Json

/-!
# Search index

One entry for every entity, for its constructors and functions, and for every
function of a library. An extension function is found on the page of the type it
extends, if that has one.
-/

namespace DocSite

structure SearchEntry where
  id : String
  kind : Kind
  parent : Option String
  title : String
  importPath : String
  url : String
  library : String
  description : String
  deriving DecidableEq, Repr

namespace Page

/-- What tells an item from the others of its file. -/
def searchId : Subject → String
  | .entity e => e.path ++ "-" ++ e.name
  | .constructor c => c.path ++ "-" ++ c.name ++ "-constructor"
  | .field f => f.path ++ "-" ++ f.declaredType ++ "-" ++ f.name
  | .function f => f.path ++ "-" ++ f.name ++ "-" ++ ",".intercalate f.params

/-- The page an item of a library is shown on, inside an entity or not. -/
def Links.shownOn (links : Links) (library : String) (parent : Option String) (s : Subject) : String :=
  match parent, s with
  | some holder, _ => entityUrl library holder
  | none, .function f => (f.target.bind links.scriptType?).getD (libraryUrl library)
  | none, _ => libraryUrl library

def Links.searchUrl (links : Links) (library : String) (parent : Option String) (s : Subject) : String :=
  match s with
  | .entity e => entityUrl library e.name
  | .field _ => links.shownOn library parent s
  | _ => links.shownOn library parent s ++ "#" ++ s.anchor

def Links.searchEntry (links : Links) (library : String) (parent : Option String) (i : Item) :
    SearchEntry where
  id := searchId i.subject
  kind := i.kind
  parent := (i.function?.bind (·.target)).or parent
  title := i.subject.signature
  importPath := i.subject.path
  url := links.searchUrl library parent i.subject
  library := i.subject.library
  description := (i.doc.description.map links.plain).getD ""

/-- An entity and what it holds. Fields are not jumped to. -/
def Links.entityEntries (links : Links) (library : String) (e : Item) : List SearchEntry :=
  let contained := (e.entityDoc?.map (·.contained)).getD []
  links.searchEntry library none e ::
    (contained.filter (·.kind != .field)).map (links.searchEntry library (some e.name))

def Links.searchIndex (links : Links) (c : Catalog) : List SearchEntry :=
  (c.entities.map (·.2)).flatMap (links.entityEntries c.name) ++
    ((c.extensions ++ c.functions).map (·.2)).map (links.searchEntry c.name none)

end Page

def SearchEntry.json (e : SearchEntry) : Text.Json.Object :=
  [("id", some e.id), ("type", some e.kind.word), ("parent", e.parent), ("title", some e.title),
    ("importPath", some e.importPath), ("url", some e.url), ("library", some e.library),
    ("description", some e.description)]

/-- The index as it is written. -/
def SearchEntry.document (entries : List SearchEntry) : String :=
  Text.Json.array (entries.map SearchEntry.json)

end DocSite
