import DocSite.Doc.Library
import DocSite.Page.Prose

/-!
# Markup of pages

The frame around every page, and the sections that show one item each. All texts
are escaped where they enter the markup; prose alone comes as HTML already.
-/

namespace DocSite

namespace Page

def escapeChar (c : Char) : List Char :=
  if c == '&' then "&amp;".toList
  else if c == '<' then "&lt;".toList
  else if c == '>' then "&gt;".toList
  else if c == '\x22' then "&quot;".toList
  else [c]

def escape (s : String) : String := String.ofList (s.toList.flatMap escapeChar)

/-- A link with the given markup inside. -/
def anchorTag (url markup : String) : String :=
  "<a href=\"" ++ escape url ++ "\">" ++ markup ++ "</a>"

def codeTag (text : String) : String := "<code>" ++ escape text ++ "</code>"

-- ---------------------------------------------------------------------------
-- The frame
-- ---------------------------------------------------------------------------

def navigation (library : Option String) : String :=
  "<nav>" ++ anchorTag "/index.html" "All libraries" ++
    (match library with
      | some library =>
        " | " ++ anchorTag (libraryUrl library) (escape library) ++
          " | " ++ anchorTag (libraryUrl library ++ "files.html") "Files"
      | none => "") ++
    "</nav>\n"

/-- A page with a title, further lines for its head, and a body. -/
def layout (title : String) (library : Option String) (head body : String) : String :=
  "<!DOCTYPE html>\n<html>\n<head>\n<meta charset=\"utf-8\">\n<title>" ++ escape title ++
    "</title>\n<link rel=\"stylesheet\" href=\"/style.css\">\n" ++ head ++
    "</head>\n<body>\n" ++ navigation library ++ body ++ "</body>\n</html>\n"

-- ---------------------------------------------------------------------------
-- Parts of items
-- ---------------------------------------------------------------------------

/-- A documented type by its short name, linked if it leads anywhere. -/
def Links.typeTag (links : Links) (t : TypeRef) : String :=
  match links.type? t with
  | some url => anchorTag url (codeTag (shortName t.name))
  | none => codeTag (shortName t.name)

def Links.prose (links : Links) : Option Description → String
  | some d => links.html d
  | none => ""

def Links.typed (links : Links) (type : Option TypeRef) (description : Option Description) : String :=
  (match type with
    | some t => "<p>" ++ links.typeTag t ++ "</p>\n"
    | none => "") ++ links.prose description

def Links.param (links : Links) (p : ParamDoc) : String :=
  "  <dt>" ++ codeTag p.name ++
    (match p.type with
      | some t => " " ++ links.typeTag t
      | none => "") ++
    "</dt>\n" ++
    match p.description with
    | some d => "  <dd>" ++ links.html d ++ "</dd>\n"
    | none => ""

def Links.params (links : Links) (ps : List ParamDoc) : String :=
  if ps.isEmpty then ""
  else "<h4>Parameters</h4>\n<dl>\n" ++ String.join (ps.map links.param) ++ "</dl>\n"

def Links.functionDetails (links : Links) (d : FunctionDoc) : String :=
  links.params d.params ++
    (match d.returns with
      | some r => "<h4>Returns</h4>\n" ++ links.typed r.type r.description
      | none => "") ++
    (match d.on with
      | some o => "<h4>On</h4>\n" ++ links.typed o.type o.description
      | none => "") ++
    match d.errors with
    | some e => "<h4>Errors</h4>\n" ++ links.prose e.description
    | none => ""

def Links.details (links : Links) : Doc → String
  | .function d => links.functionDetails d
  | .constructor d => links.params d.params
  | .field d =>
    match d.type with
    | some t => "<h4>Type</h4>\n" ++ links.typed (some t) none
    | none => ""
  | .entity _ => ""

end Page

-- ---------------------------------------------------------------------------
-- Items
-- ---------------------------------------------------------------------------

def Subject.signature : Subject → String
  | .function f => f.signature
  | .constructor c => c.signature
  | .field f => f.signature
  | .entity e => e.name

/-- What an item is jumped to by. -/
def Subject.anchor : Subject → String
  | .function f => f.anchor
  | .constructor c => c.anchor
  | .field f => f.anchor
  | .entity e => e.name

namespace Page

/-- Says where an item comes from, if it is not from the page's library. -/
def originTag (library : String) (s : Subject) : String :=
  if s.library = library then ""
  else
    "<p><span class=\"tag\">from " ++ anchorTag (libraryUrl s.library) (escape s.library) ++
      "</span></p>\n"

/-- One item with all its documentation, on a page of the given library. -/
def Links.section (links : Links) (library : String) (i : Item) : String :=
  "<section class=\"item\" id=\"" ++ escape i.subject.anchor ++ "\">\n<pre>" ++
    codeTag i.subject.signature ++ "</pre>\n" ++ originTag library i.subject ++
    links.prose i.doc.description ++ links.details i.doc ++ "</section>\n"

def Links.sections (links : Links) (library : String) (items : List Item) : String :=
  String.join (items.map (links.section library))

/-- Items under a heading; nothing if there are none. -/
def Links.chapter (links : Links) (library heading : String) (items : List Item) : String :=
  if items.isEmpty then "" else "<h2>" ++ heading ++ "</h2>\n" ++ links.sections library items

/-- How many characters of prose a summary shows. -/
def summaryLength : Nat := 120

def Links.summaryTag (links : Links) (i : Item) : String :=
  match i.doc.description with
  | some d =>
    if d.pieces.isEmpty then ""
    else " <span class=\"summary\">" ++ escape (links.summary summaryLength d) ++ "</span>"
  | none => ""

end Page

end DocSite
