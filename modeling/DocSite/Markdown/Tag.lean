import DocSite.Markdown.Escape
import DocSite.Text.Cut

/-!
# Markup inside prose

Tags, comments and the like pass through as they are. Here is how far each of
them reaches, and which of them begin a block of their own.
-/

namespace DocSite.Markdown

def isTagSpace (c : Char) : Bool := isInlineSpace c || c == '\n'

-- ---------------------------------------------------------------------------
-- Tags
-- ---------------------------------------------------------------------------

def isAttributeStart (c : Char) : Bool := c.isAlpha || c == '_' || c == ':'

def isAttributeChar (c : Char) : Bool :=
  c.isAlphanum || c == '_' || c == '.' || c == ':' || c == '-'

def isBareValueChar (c : Char) : Bool := !"'\" =><\n\x60".toList.contains c

/-- What follows the value of an attribute. -/
def attributeValue? : List Char → Option (List Char)
  | [] => none
  | c :: s =>
    if c == '\x22' || c == '\x27' then
      match s.dropWhile (· != c) with
      | _ :: rest => some rest
      | [] => none
    else if isBareValueChar c then some (s.dropWhile isBareValueChar)
    else none

/-- What follows an attribute: a name and, after `=`, a value. -/
def attribute? : List Char → Option (List Char)
  | [] => none
  | c :: s =>
    if !isAttributeStart c then none
    else
      let rest := s.dropWhile isAttributeChar
      match rest.dropWhile isTagSpace with
      | '=' :: value => attributeValue? (value.dropWhile isTagSpace)
      | _ => some rest

/-- What follows the attributes of a tag, at its `>` or `/`. Attributes stand
behind white space. -/
def attributesFrom : (fuel : Nat) → List Char → Option (List Char)
  | 0, _ => none
  | fuel + 1, s =>
    let rest := s.dropWhile isTagSpace
    match rest with
    | '/' :: _ => some rest
    | '>' :: _ => some rest
    | _ => if rest == s then none else (attribute? rest).bind (attributesFrom fuel)

/-- What follows an opening or closing tag whose `<` is gone. -/
def afterTag? : List Char → Option (List Char)
  | '/' :: c :: s =>
    if !c.isAlpha then none
    else match (s.dropWhile (fun c => c.isAlphanum || c == '-')).dropWhile isInlineSpace with
      | '>' :: rest => some rest
      | _ => none
  | c :: s =>
    if !c.isAlpha then none
    else do
      match ← attributesFrom (s.length + 1) (s.dropWhile (fun c => c.isAlphanum || c == '-')) with
      | '/' :: '>' :: rest => some rest
      | '>' :: rest => some rest
      | _ => none
  | [] => none

-- ---------------------------------------------------------------------------
-- Comments, instructions, declarations, character data
-- ---------------------------------------------------------------------------

/-- Character data ends at its first run of brackets or not at all. -/
def afterCharacterData? (s : List Char) : Option (List Char) :=
  let tail := s.dropWhile (· != ']')
  match tail.dropWhile (· == ']') with
  | '>' :: rest => if 2 ≤ (tail.takeWhile (· == ']')).length then some rest else none
  | _ => none

/-- What follows any markup whose `<` is gone. -/
def afterMarkup? : List Char → Option (List Char)
  | '?' :: s => (Text.cut? "?>".toList s).map (·.2)
  | '!' :: '-' :: '-' :: s => (Text.cut? "-->".toList ('-' :: '-' :: s)).map (·.2)
  | '!' :: '[' :: s => (Text.after? "CDATA[".toList s).bind afterCharacterData?
  | '!' :: c :: s => if c.isAlpha then (Text.cut? ['>'] s).map (·.2) else none
  | s => afterTag? s

-- ---------------------------------------------------------------------------
-- Automatic links
-- ---------------------------------------------------------------------------

/-- An address with a scheme of 2 to 32 characters, up to the closing `>`. -/
def autoUri? (s : List Char) : Option (List Char × List Char) :=
  let isSchemeChar (c : Char) := c.isAlphanum || c == '.' || c == '-' || c == '+'
  let scheme := s.takeWhile isSchemeChar
  if !(s.head?.any Char.isAlpha) || scheme.length < 2 || 32 < scheme.length then none
  else match s.drop scheme.length with
    | ':' :: path =>
      let isPathChar (c : Char) := ' ' < c && c != '<' && c != '>'
      match path.dropWhile isPathChar with
      | '>' :: rest => some (scheme ++ ':' :: path.takeWhile isPathChar, rest)
      | _ => none
    | _ => none

/-- A part of a mail domain: 1 to 63 letters, digits and hyphens, no hyphen at
either end. -/
def isDomainLabel (s : List Char) : Bool :=
  s.all (fun c => c.isAlphanum || c == '-') && !s.isEmpty && s.length ≤ 63 &&
    s.head? != some '-' && s.getLast? != some '-'

def isMailChar (c : Char) : Bool := c.isAlphanum || ".!#$%&'*+/=?^_\x60\x7b|\x7d~-".toList.contains c

/-- A mail address, up to the closing `>`. -/
def autoMail? (s : List Char) : Option (List Char × List Char) :=
  let user := s.takeWhile isMailChar
  match s.drop user.length with
  | '@' :: tail =>
    let domain := tail.takeWhile (fun c => c.isAlphanum || c == '-' || c == '.')
    match tail.drop domain.length with
    | '>' :: rest =>
      if !user.isEmpty && (Text.splitAll (· == '.') domain).all isDomainLabel then
        some (user ++ '@' :: domain, rest)
      else none
    | _ => none
  | _ => none

-- ---------------------------------------------------------------------------
-- Blocks of markup
-- ---------------------------------------------------------------------------

def blockTags : List String :=
  ["address", "article", "aside", "base", "basefont", "blockquote", "body", "caption", "center",
    "col", "colgroup", "dd", "details", "dialog", "dir", "div", "dl", "dt", "fieldset",
    "figcaption", "figure", "footer", "form", "frame", "frameset", "h1", "h2", "h3", "h4", "h5",
    "h6", "head", "header", "hr", "html", "iframe", "legend", "li", "link", "main", "menu",
    "menuitem", "nav", "noframes", "ol", "optgroup", "option", "p", "param", "search", "section",
    "summary", "table", "tbody", "td", "tfoot", "th", "thead", "title", "tr", "track", "ul"]

def lower (s : List Char) : List Char := s.map Char.toLower

/-- Tags whose text is taken as it is up to the closing tag. -/
def verbatimTags : List String := ["pre", "style", "script", "textarea"]

/-- Blocks that end with the first line that holds a given mark; the mark is
told by what follows the `<`. -/
def endMark? (s : List Char) : Option (List Char) :=
  let verbatim := verbatimTags.find? fun tag =>
    (Text.after? tag.toList (lower (s.take tag.length) ++ s.drop tag.length)).any fun rest =>
      rest.head?.all fun c => isTagSpace c || c == '>'
  match verbatim with
  | some tag => some ("</".toList ++ tag.toList ++ ['>'])
  | none =>
    match s with
    | '!' :: '-' :: '-' :: _ => some "-->".toList
    | '?' :: _ => some "?>".toList
    | '!' :: c :: rest =>
      if c.isAlpha then some ['>']
      else if c == '[' && "CDATA[".toList.isPrefixOf rest then some "]]>".toList
      else none
    | _ => none

/-- Whether a block tag follows the `<`. -/
def startsBlockTag (s : List Char) : Bool :=
  let s := match s with
    | '/' :: rest => rest
    | s => s
  let name := s.takeWhile Char.isAlphanum
  blockTags.contains (String.ofList (lower name)) &&
    match s.drop name.length with
    | [] => true
    | '/' :: c :: _ => c == '>'
    | c :: _ => c == ' ' || c == '\t' || c == '>'

/-- Whether a line is one tag and nothing else, its `<` gone. -/
def isLoneTag (s : List Char) : Bool := (afterTag? s).any (·.all isInlineSpace)

end DocSite.Markdown
