import DocSite.Markdown.Block
import DocSite.Text.Hex

/-!
# Rendering

Prose as HTML, and as plain text with all markup gone. A block starts on a line
of its own, so the writer remembers whether it stands at the start of one.
-/

namespace DocSite.Markdown

-- ---------------------------------------------------------------------------
-- Escapes in HTML
-- ---------------------------------------------------------------------------

def escapeBody (s : List Char) : List Char :=
  s.flatMap fun c =>
    if c == '&' then "&amp;".toList
    else if c == '<' then "&lt;".toList
    else if c == '>' then "&gt;".toList
    else [c]

def escapeAttribute (s : List Char) : List Char :=
  s.flatMap fun c =>
    if c == '\x22' then "&quot;".toList
    else if c == '\x27' then "&#39;".toList
    else escapeBody [c]

/-- Whether a byte of an address stands for itself. -/
def isHrefSafe (b : UInt8) : Bool :=
  let c := Char.ofUInt8 b
  b < 0x80 && (c.isAlphanum || "!#$%()*+,-./:;=?@_~".toList.contains c)

def escapeHref (s : List Char) : List Char :=
  (String.ofList s).toUTF8.data.toList.flatMap fun b =>
    if isHrefSafe b then [Char.ofUInt8 b]
    else if b = 0x26 then "&amp;".toList
    else if b = 0x27 then "&#x27;".toList
    else '%' :: Text.hexByteUpper b

-- ---------------------------------------------------------------------------
-- HTML
-- ---------------------------------------------------------------------------

/-- What has been written, last piece first, and whether a line starts here. -/
structure Writer where
  pieces : List (List Char) := []
  atStart : Bool := true

namespace Writer

def text (w : Writer) (s : List Char) : Writer := ⟨s :: w.pieces, s.getLast? == some '\n'⟩

/-- Writes markup; nothing written leaves the place as it is. -/
def markup (w : Writer) (s : List Char) : Writer := if s.isEmpty then w else w.text s

def tag (w : Writer) (s : String) : Writer := w.markup s.toList

/-- Goes to the start of a line. -/
def freshLine (w : Writer) : Writer := if w.atStart then w else w.tag "\n"

def content (w : Writer) : List Char := w.pieces.reverse.flatten

end Writer

mutual

/-- The text of an image's content, for readers who do not see it. -/
def alternative : Inline → List Char
  | .text s => escapeAttribute s
  | .code s => escapeAttribute s
  | .html s => escapeAttribute s
  | .softBreak => [' ']
  | .hardBreak => [' ']
  | .emphasis content => alternatives content
  | .strong content => alternatives content
  | .link _ _ _ content => alternatives content
  | .image _ _ content => alternatives content

def alternatives : List Inline → List Char
  | [] => []
  | i :: is => alternative i ++ alternatives is

end

def titleAttribute (title : List Char) : List Char :=
  if title.isEmpty then [] else "\" title=\"".toList ++ escapeAttribute title

mutual

def writeInline (w : Writer) : Inline → Writer
  | .text s => w.text (escapeBody s)
  | .code s => ((w.tag "<code>").markup (escapeBody s)).tag "</code>"
  | .html s => w.markup s
  | .softBreak => w.tag "\n"
  | .hardBreak => w.tag "<br />\n"
  | .emphasis content => (writeInlines (w.tag "<em>") content).tag "</em>"
  | .strong content => (writeInlines (w.tag "<strong>") content).tag "</strong>"
  | .link isMail destination title content =>
    let w := (w.tag (if isMail then "<a href=\"mailto:" else "<a href=\"")).markup
      (escapeHref destination ++ titleAttribute title)
    (writeInlines (w.tag "\">") content).tag "</a>"
  | .image destination title content =>
    ((w.tag "<img src=\"").markup (escapeHref destination ++ "\" alt=\"".toList ++
      alternatives content ++ titleAttribute title)).tag "\" />"

def writeInlines (w : Writer) : List Inline → Writer
  | [] => w
  | i :: is => writeInlines (writeInline w i) is

end

mutual

def writeBlock (isTight : Bool) (w : Writer) : Block (List Inline) → Writer
  | .paragraph content =>
    if isTight then writeInlines w content
    else (writeInlines (w.freshLine.tag "<p>") content).tag "</p>\n"
  | .heading level content =>
    (writeInlines (w.freshLine.tag s!"<h{level}>") content).tag s!"</h{level}>\n"
  | .code info text =>
    let language := ((info.getD []).takeWhile (· != ' '))
    let start := if language.isEmpty then "<pre><code>".toList
      else "<pre><code class=\"language-".toList ++ escapeAttribute language ++ "\">".toList
    ((w.freshLine.markup start).markup (escapeBody text)).tag "</code></pre>\n"
  | .html lines =>
    lines.foldl (fun w (indent, line) => (w.markup (List.replicate indent ' ')).markup line) w
  | .rule => w.freshLine.tag "<hr />\n"
  | .quote blocks => (writeBlocks false (w.freshLine.tag "<blockquote>\n") blocks).tag "</blockquote>\n"
  | .list isTight start items =>
    match start with
    | none => (writeBlocks isTight (w.freshLine.tag "<ul>\n") items).tag "</ul>\n"
    | some n =>
      let start := if n = 1 then "<ol>\n" else s!"<ol start=\"{n}\">\n"
      (writeBlocks isTight (w.freshLine.tag start) items).tag "</ol>\n"
  | .item blocks => (writeBlocks isTight (w.freshLine.tag "<li>") blocks).tag "</li>\n"

def writeBlocks (isTight : Bool) (w : Writer) : List (Block (List Inline)) → Writer
  | [] => w
  | b :: bs => writeBlocks isTight (writeBlock isTight w b) bs

end

def html (s : List Char) : List Char := (writeBlocks false {} (blocks s)).content

-- ---------------------------------------------------------------------------
-- Plain text
-- ---------------------------------------------------------------------------

mutual

def plainInline : Inline → List Char
  | .text s => s
  | .code s => s
  | .html _ => []
  | .softBreak => [' ']
  | .hardBreak => [' ']
  | .emphasis content => plainInlines content
  | .strong content => plainInlines content
  | .link _ _ _ content => plainInlines content
  | .image _ _ content => plainInlines content

def plainInlines : List Inline → List Char
  | [] => []
  | i :: is => plainInline i ++ plainInlines is

end

mutual

/-- Paragraphs, headings and items end a line. -/
def plainBlock (isTight : Bool) : Block (List Inline) → List Char
  | .paragraph content => plainInlines content ++ if isTight then [] else ['\n']
  | .heading _ content => plainInlines content ++ ['\n']
  | .code _ text => text
  | .html lines => lines.flatMap fun (indent, _) => List.replicate indent ' '
  | .rule => []
  | .quote blocks => plainBlocks false blocks
  | .list isTight _ items => plainBlocks isTight items
  | .item blocks => plainBlocks isTight blocks ++ ['\n']

def plainBlocks (isTight : Bool) : List (Block (List Inline)) → List Char
  | [] => []
  | b :: bs => plainBlock isTight b ++ plainBlocks isTight bs

end

def plain (s : List Char) : List Char := plainBlocks false (blocks s)

end DocSite.Markdown
