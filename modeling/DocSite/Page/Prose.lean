import DocSite.Markdown.Render
import DocSite.Page.Link

/-!
# Prose on pages

A description becomes Markdown: its line wraps are joined and its references
turn into links, or into code where they lead nowhere. Pages show it as HTML;
the search index and short summaries as plain text.
-/

namespace DocSite.Page

/-- A lone line end is a wrap inside a paragraph and becomes a blank; line ends
in pairs, counted from the left, separate paragraphs and are kept. -/
def joinWraps : List Char → List Char
  | [] => []
  | '\n' :: '\n' :: s => '\n' :: '\n' :: joinWraps s
  | c :: s => (if c == '\n' then ' ' else c) :: joinWraps s

/-- A type in prose: a link, or code without one. -/
def reference (name : String) (url : Option String) : String :=
  match url with
  | some url => " [" ++ name ++ "](" ++ url ++ ") "
  | none => " `" ++ name ++ "` "

def Links.markdownPiece (links : Links) : Piece → String
  | .text text => String.ofList (joinWraps text.toList)
  | .host name => reference (shortName name) (links.hostType? name)
  | .param name => " `" ++ Text.formEncode name ++ "` "
  | .type name => reference (shortName name) (links.scriptType? name)

def Links.markdown (links : Links) (d : Description) : String :=
  String.join (d.pieces.map links.markdownPiece)

def Links.html (links : Links) (d : Description) : String :=
  String.ofList (Markdown.html (links.markdown d).toList)

def Links.plain (links : Links) (d : Description) : String :=
  String.ofList (Text.trim (Markdown.plain (links.markdown d).toList))

/-- Plain text of at most `limit` characters, with dots where it was cut. -/
def Links.summary (links : Links) (limit : Nat) (d : Description) : String :=
  let text := (links.plain d).toList
  if limit < text.length then String.ofList (text.take limit) ++ "..." else String.ofList text

end DocSite.Page
