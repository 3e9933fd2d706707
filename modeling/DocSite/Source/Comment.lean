import DocSite.Doc.Item
import DocSite.Source.Reference
import DocSite.Text.Word

/-!
# Documentation comments

A comment is prose followed by tags. A tag starts at the beginning of a line
and takes in the lines up to the next one. `@returns`, `@on`, `@errors` and
`@type` count once, the last of each; every `@param` is kept.
-/

namespace DocSite.Source

open Text (isBlank isWord after?)

structure Comment where
  description : Option Description := none
  params : List ParamDoc := []
  returns : Option ReturnDoc := none
  on : Option OnDoc := none
  errors : Option ErrorsDoc := none
  type : Option TypeRef := none
  deriving DecidableEq, Repr

inductive Tag where
  | param
  | returns
  | on
  | errors
  | type
  deriving DecidableEq, Repr

def Tag.words : List (List Char × Tag) :=
  [("param".toList, .param), ("returns".toList, .returns), ("on".toList, .on),
   ("errors".toList, .errors), ("type".toList, .type)]

/-- The tag a line starts with, and its text. The tag's word must end there,
and its text has to stand on the line. -/
def tag? (line : List Char) : Option (Tag × List Char) :=
  match line with
  | '@' :: s =>
    Tag.words.findSome? fun (word, tag) =>
      (after? word s).bind fun rest =>
        let text := rest.dropWhile isBlank
        if rest.head?.any isWord || text.contains '\n' then none else some (tag, text)
  | _ => none

/-- Prose lines, up to the first tag. -/
def proseLines (lines : List (List Char)) : List (List Char) :=
  lines.takeWhile fun line => (tag? line).isNone

/-- A line that continues a text; an empty text takes the line as it is. -/
def continueText (text line : List Char) : List Char :=
  if text.isEmpty then line else text ++ '\n' :: line

/-- Each tag with its text, continued over the lines up to the next tag. -/
def sections : List (List Char) → List (Tag × List Char)
  | [] => []
  | line :: lines =>
    match tag? line with
    | some (tag, text) => (tag, (proseLines lines).foldl continueText text) :: sections lines
    | none => sections lines

/-- A type given by a leading reference or, failing that, by a bare word. -/
def leadingOrBareType (s : List Char) : Option TypeRef × List Char :=
  match leadingType? s with
  | some (type, rest) => (some type, rest)
  | none =>
    let (word, rest) := Text.splitBlank s
    if word.isEmpty then (none, rest)
    else (some ⟨.script, String.ofList word⟩, Text.trimStart rest)

def typedProse (s : List Char) : Option TypeRef × Option Description :=
  match leadingType? s with
  | some (type, rest) => (some type, description? rest)
  | none => (none, description? s)

def Comment.add (c : Comment) : Tag × List Char → Comment
  | (.param, text) =>
    let (name, rest) := Text.splitBlank (Text.trimStart text)
    let (type, description) := typedProse (Text.trimStart rest)
    { c with params := c.params ++ [⟨String.ofList name, type, description⟩] }
  | (.returns, text) =>
    let (type, description) := typedProse (Text.trimStart text)
    { c with returns := some ⟨type, description⟩ }
  | (.on, text) =>
    let (type, rest) := leadingOrBareType (Text.trimStart text)
    { c with on := some ⟨type, description? rest⟩ }
  | (.errors, text) => { c with errors := some ⟨description? text⟩ }
  | (.type, text) => { c with type := (leadingOrBareType (Text.trimStart text)).1 }

/-- The comment whose lines, freed of their markers, are given. -/
def Comment.ofLines (lines : List (List Char)) : Comment :=
  (sections lines).foldl Comment.add
    { description := description? (Text.join ['\n'] (proseLines lines)) }

/-- Frees a line of a comment's body of its leading star and one space. -/
def bodyLine (line : List Char) : List Char :=
  let line := Text.trim line
  let line := match line with
    | '*' :: rest => rest
    | _ => line
  let line := match line with
    | ' ' :: rest => rest
    | _ => line
  Text.trimEnd line

end DocSite.Source
