import DocSite.Doc.Item
import DocSite.Native
import DocSite.Target
import DocSite.Text.Form

/-!
# Signatures, anchors and links

A declaration is shown by its signature, and a page is jumped into at the form
encoding of one. Pages of libraries, entities and source files have fixed
places; script types lead to entity pages, host classes to the host platform's
own documentation, if its address is known.
-/

namespace DocSite

def FunctionSubject.signature (f : FunctionSubject) : String :=
  (if f.isNative then "native " else "") ++ (if f.isStatic then "static " else "") ++
    "fun " ++ f.name ++ "(" ++ ", ".intercalate f.params ++ ")" ++
    match f.target with
    | some on => " on " ++ on
    | none => ""

def ConstructorSubject.signature (c : ConstructorSubject) : String :=
  c.name ++ "(" ++ ", ".intercalate c.params ++ ")"

def FieldSubject.signature (f : FieldSubject) : String := f.declaredType ++ " " ++ f.name

def FunctionSubject.anchor (f : FunctionSubject) : String := Text.formEncode f.signature

def ConstructorSubject.anchor (c : ConstructorSubject) : String := Text.formEncode c.signature

def FieldSubject.anchor (f : FieldSubject) : String := Text.formEncode f.signature

namespace Page

open Text (formEncode)

/-- The page name of a source file: its path with every separator an underscore. -/
def sourceName (importPath : String) : String :=
  String.ofList (importPath.toList.map fun c => if c == '/' || c == '\\' then '_' else c)

def libraryUrl (library : String) : String := "/library/" ++ formEncode library ++ "/"

def entityUrl (library entity : String) : String :=
  "/library/" ++ formEncode library ++ "/entity/" ++ formEncode entity ++ ".html"

def sourceUrl (library importPath : String) : String :=
  "/library/" ++ formEncode library ++ "/file/" ++ sourceName importPath ++ ".html"

/-- The last part of a dotted name. -/
def shortName (name : String) : String :=
  String.ofList ((Text.splitAll (· == '.') name.toList).getLastD [])

/-- What links depend on: the standard library's name, and where the host
platform is documented. -/
structure Links where
  stdName : String
  hostDocs : Option String
  deriving DecidableEq, Repr

/-- Slashes at the end of the host platform's address are dropped. -/
def Links.ofConfig (stdName : String) (hostDocs : Option String) : Links :=
  ⟨stdName, hostDocs.map fun url =>
    String.ofList (url.toList.reverse.dropWhile (· == '/')).reverse⟩

namespace Links

def scriptType? (links : Links) (name : String) : Option String :=
  if Native.isNative name then some (entityUrl links.stdName name)
  else (Target.ofQualified? name).map fun t => entityUrl t.library t.entity

/-- Only host classes with a package can be looked up. -/
def hostType? (links : Links) (name : String) : Option String :=
  links.hostDocs.bind fun base =>
    if name.toList.contains '.' then
      some (base ++ "/" ++ String.ofList (name.toList.map fun c => if c == '.' then '/' else c) ++
        ".html")
    else none

def type? (links : Links) (t : TypeRef) : Option String :=
  match t.origin with
  | .script => links.scriptType? t.name
  | .host => links.hostType? t.name

end Links

end Page

end DocSite
