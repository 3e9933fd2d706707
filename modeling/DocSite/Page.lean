import DocSite.Catalog
import DocSite.Files.Path
import DocSite.Page.Markup
import DocSite.Page.Outline

/-!
# Pages

The pages of a site, each with its place and its content. A library has an index
page, a page of its files, and a page for every entity and every source file;
the site as a whole has a page of all libraries.
-/

namespace DocSite

inductive Page where
  | index (library : Catalog)
  | files (library : Catalog)
  | entity (library : Catalog) (entity : Item)
  | source (library : Catalog) (file : SourceFile)
  | libraries (libraries : List Metadata)

namespace Page

open Files (join)

def libraryDir (library : String) : String := join "library" library

/-- Where a page lies below the site's directory. -/
def path : Page → String
  | .index c => join (libraryDir c.name) "index.html"
  | .files c => join (libraryDir c.name) "files.html"
  | .entity c e => join (join (libraryDir c.name) "entity") (e.name ++ ".html")
  | .source c f => join (join (libraryDir c.name) "file") (sourceName f.importPath ++ ".html")
  | .libraries _ => "index.html"

-- ---------------------------------------------------------------------------
-- Index page
-- ---------------------------------------------------------------------------

def Links.entityLine (links : Links) (library : String) (e : Item) : String :=
  "  <li>" ++ anchorTag (entityUrl library e.name) (escape e.name) ++ links.summaryTag e ++ "</li>\n"

def Links.entityList (links : Links) (library : String) (entities : List Item) : String :=
  if entities.isEmpty then ""
  else
    "<h2>Entities</h2>\n<ul>\n" ++ String.join (entities.map (links.entityLine library)) ++ "</ul>\n"

/-- The library's card. -/
def card (m : Metadata) : String :=
  "<h1>" ++ escape m.name ++ "</h1>\n<p>Version " ++ escape m.version ++ " by " ++ escape m.author ++
    "</p>\n" ++
    (match m.sourceUrl with
      | some url => "<p>" ++ anchorTag url "Source" ++ "</p>\n"
      | none => "") ++
    "<p>" ++ escape m.description ++ "</p>\n"

def Links.indexBody (links : Links) (c : Catalog) : String :=
  card c.metadata ++ links.entityList c.name (c.entities.map (·.2)) ++
    links.chapter c.name "Functions" (c.functions.map (·.2)) ++
    links.chapter c.name "Extension functions" (c.extensions.map (·.2)) ++
    links.chapter c.name "Fields" (c.fields.map (·.2))

def searchMeta (library : String) : String :=
  "<meta name=\"search-index\" content=\"" ++ escape (libraryUrl library) ++ "index.json\">\n"

-- ---------------------------------------------------------------------------
-- Files page
-- ---------------------------------------------------------------------------

mutual

def nodeLine (library : String) : Node → String
  | .mk name path isDir children =>
    if isDir then "<li>" ++ escape name ++ "/\n" ++ nodeList library children ++ "</li>\n"
    else "<li>" ++ anchorTag (sourceUrl library path) (escape name) ++ "</li>\n"

def nodeLines (library : String) : List Node → String
  | [] => ""
  | n :: ns => nodeLine library n ++ nodeLines library ns

def nodeList (library : String) (nodes : List Node) : String :=
  "<ul class=\"tree\">\n" ++ nodeLines library nodes ++ "</ul>\n"

end

def filesBody (c : Catalog) : String :=
  "<h1>" ++ escape c.name ++ " source files</h1>\n" ++
    nodeList c.name (outline (c.files.map (·.importPath)))

-- ---------------------------------------------------------------------------
-- Entity and source pages
-- ---------------------------------------------------------------------------

/-- Built-in types are declared in no file. -/
def definedIn (c : Catalog) (e : EntitySubject) : String :=
  if c.files.any (·.importPath == e.path) then
    "<p>Defined in " ++ anchorTag (sourceUrl c.name e.path) (codeTag e.path) ++ "</p>\n"
  else ""

def Links.entityBody (links : Links) (c : Catalog) (i : Item) : String :=
  "<h1>" ++ escape i.name ++ "</h1>\n" ++
    match i with
    | .entity e d =>
      let of (kind : Kind) : List Item := d.contained.filter (·.kind == kind)
      definedIn c e ++ links.prose d.description ++
        links.chapter c.name "Constructors" (of .constructor) ++
        links.chapter c.name "Fields" (of .field) ++
        links.chapter c.name "Functions" (of .function) ++
        links.chapter c.name "Extension functions" d.extensions
    | _ => ""

/-- Entities have pages of their own, so a source page only names them. -/
def Links.sourceItem (links : Links) (library : String) (i : Item) : String :=
  match i with
  | .entity e _ =>
    "<h3>entity " ++ anchorTag (entityUrl library e.name) (escape e.name) ++ "</h3>\n" ++
      links.summaryTag i
  | i => links.section library i

def Links.sourceBody (links : Links) (library : String) (f : SourceFile) : String :=
  "<h1>" ++ codeTag f.importPath ++ "</h1>\n" ++ String.join (f.items.map (links.sourceItem library))

-- ---------------------------------------------------------------------------
-- All libraries
-- ---------------------------------------------------------------------------

def libraryEntry (m : Metadata) : String :=
  "  <dt>" ++ anchorTag (libraryUrl m.name) (escape m.name) ++ " <span class=\"tag\">" ++
    escape m.version ++ "</span></dt>\n  <dd>" ++ escape m.description ++ "</dd>\n"

def librariesBody (ms : List Metadata) : String :=
  "<h1>Libraries</h1>\n" ++
    if ms.isEmpty then "<p><em>No libraries have been documented yet.</em></p>\n"
    else "<dl>\n" ++ String.join (ms.map libraryEntry) ++ "</dl>\n"

-- ---------------------------------------------------------------------------
-- Content
-- ---------------------------------------------------------------------------

def render (links : Links) : Page → String
  | .index c => layout c.name (some c.name) (searchMeta c.name) (links.indexBody c)
  | .files c => layout (c.name ++ " files") (some c.name) "" (filesBody c)
  | .entity c e => layout e.name (some c.name) "" (links.entityBody c e)
  | .source c f => layout f.importPath (some c.name) "" (links.sourceBody c.name f)
  | .libraries ms => layout "Libraries" none "" (librariesBody ms)

/-- All pages of a library, in the order in which they are written. -/
def ofLibrary (c : Catalog) : List Page :=
  [.index c, .files c] ++ (c.entities.map fun r => .entity c r.2) ++
    c.files.map fun f => .source c f

/-- The style sheet of the site. -/
def styleSheet : String :=
  "body \x7b font-family: system-ui, sans-serif; max-width: 56em; margin: 2em auto; padding: 0 1em; \x7d\n" ++
  "nav \x7b margin-bottom: 1.5em; \x7d\n" ++
  "code \x7b background: #f4f4f4; padding: 0.15em 0.3em; border-radius: 3px; \x7d\n" ++
  "pre \x7b background: #f4f4f4; padding: 1em; border-radius: 5px; overflow-x: auto; \x7d\n" ++
  "dt \x7b font-weight: bold; margin-top: 0.5em; \x7d\n" ++
  "dd \x7b margin-left: 1.5em; \x7d\n" ++
  "section.item \x7b border-top: 1px solid #ddd; padding-top: 0.5em; \x7d\n" ++
  ".tag \x7b display: inline-block; font-size: 0.75em; padding: 0.1em 0.4em; border-radius: 3px; " ++
    "margin-left: 0.5em; background: #e0e7ff; \x7d\n" ++
  ".summary \x7b color: #555; \x7d\n" ++
  "ul.tree \x7b list-style: none; padding-left: 1.2em; \x7d\n"

end Page

end DocSite
