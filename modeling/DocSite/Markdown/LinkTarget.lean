import DocSite.Markdown.Escape
import DocSite.Text.CaseFold

/-!
# Link targets

What a link leads to: a destination and a title, written after the link's text
or once for all in a definition that links name by its label.
-/

namespace DocSite.Markdown

structure LinkTarget where
  destination : List Char
  title : List Char

structure Definition where
  label : List Char
  target : LinkTarget

/-- Puts a character in front of what was read. -/
def keep (c : Char) (read : Option (List Char × List Char)) : Option (List Char × List Char) :=
  read.map fun (front, rest) => (c :: front, rest)

-- ---------------------------------------------------------------------------
-- Destinations
-- ---------------------------------------------------------------------------

/-- A destination in angle brackets, the first of them gone. -/
def pointedFrom (escaped : Bool) : List Char → Option (List Char × List Char)
  | [] => none
  | c :: s =>
    if escaped then keep c (pointedFrom false s)
    else if c == '\n' || c == '<' then none
    else if c == '>' then some ([], s)
    else keep c (pointedFrom (escapesNext c s) s)

/-- A destination without brackets. It ends at a blank, at a control character
and at a parenthesis that it did not open; no more than `limit + 1` may be open
at a time. -/
def bareFrom (limit depth : Nat) (escaped : Bool) : List Char → Option (List Char × List Char)
  | [] => if depth = 0 then some ([], []) else none
  | c :: s =>
    if escaped then keep c (bareFrom limit depth false s)
    else if c ≤ ' ' then if depth = 0 then some ([], c :: s) else none
    else if c == '(' then
      if limit < depth then none else keep c (bareFrom limit (depth + 1) false s)
    else if c == ')' then
      if depth = 0 then some ([], c :: s) else keep c (bareFrom limit (depth - 1) false s)
    else keep c (bareFrom limit depth (escapesNext c s) s)

def destination? (limit : Nat) : List Char → Option (List Char × List Char)
  | '<' :: s => pointedFrom false s
  | s => bareFrom limit 0 false s

-- ---------------------------------------------------------------------------
-- Titles
-- ---------------------------------------------------------------------------

def titleFrom (opener closer : Char) (escaped : Bool) : List Char → Option (List Char × List Char)
  | [] => none
  | c :: s =>
    if escaped then keep c (titleFrom opener closer false s)
    else if c == closer then some ([], s)
    else if c == opener then none
    else keep c (titleFrom opener closer (escapesNext c s) s)

def title? : List Char → Option (List Char × List Char)
  | '\x22' :: s => titleFrom '\x22' '\x22' false s
  | '\x27' :: s => titleFrom '\x27' '\x27' false s
  | '(' :: s => titleFrom '(' ')' false s
  | _ => none

/-- Skips blanks and at most one line end. -/
def separator (s : List Char) : List Char :=
  match s.dropWhile isInlineSpace with
  | '\n' :: rest => rest.dropWhile isInlineSpace
  | rest => rest

/-- A target in parentheses behind the text of a link. -/
def inlineTarget? : List Char → Option (LinkTarget × List Char)
  | '(' :: s => do
    let (destination, s) ← destination? 5 (separator s)
    let s := separator s
    let (title, s) := match title? s with
      | some (title, rest) => (title, separator rest)
      | none => ([], s)
    match s with
    | ')' :: rest => some (⟨unescape destination, unescape title⟩, rest)
    | _ => none
  | _ => none

-- ---------------------------------------------------------------------------
-- Labels
-- ---------------------------------------------------------------------------

/-- A label whose opening bracket is gone, as written. It has at most 999
characters and no bracket of its own unless escaped. -/
def labelFrom (room : Nat) (escaped : Bool) : List Char → Option (List Char × List Char)
  | [] => none
  | c :: s =>
    match room with
    | 0 => none
    | room + 1 =>
      if escaped then keep c (labelFrom room false s)
      else if c == '[' then none
      else if c == ']' then some ([], s)
      else keep c (labelFrom room (c == '\\') s)

def isLabelSpace (c : Char) : Bool := isInlineSpace c || c == '\n'

/-- Every run of white space as one space. -/
def collapse : List Char → List Char
  | [] => []
  | c :: s =>
    if !isLabelSpace c then c :: collapse s
    else if s.head?.any isLabelSpace then collapse s
    else ' ' :: collapse s

/-- Labels are the same if they differ in case and in runs of blanks only. -/
def sameLabel (a b : List Char) : Bool := Text.foldCase (collapse a) == Text.foldCase (collapse b)

def label? (s : List Char) : Option (List Char × List Char) :=
  (labelFrom 1000 false s).filter fun (label, _) => !label.all isLabelSpace

def Definition.find? (label : List Char) (definitions : List Definition) : Option LinkTarget :=
  (definitions.find? (sameLabel label ·.label)).map (·.target)

-- ---------------------------------------------------------------------------
-- Definitions
-- ---------------------------------------------------------------------------

/-- What follows on the next lines, if nothing but blanks is left of this one. -/
def lineEnd? (s : List Char) : Option (List Char) :=
  match s.dropWhile isInlineSpace with
  | [] => some []
  | '\n' :: rest => some rest
  | _ => none

/-- Reads a definition at the start of a paragraph. The title may stand on a
line of its own; if it is no title, the definition has none. -/
def definition? : List Char → Option (Definition × List Char)
  | '[' :: s =>
    match label? s with
    | some (label, ':' :: s) =>
      match destination? 1 (separator s) with
      | some (destination, afterDestination) =>
        let define (title : List Char) : Definition :=
          ⟨label, ⟨unescape destination, unescape title⟩⟩
        let titled := if separator afterDestination == afterDestination then none else do
          let (title, s) ← title? (separator afterDestination)
          let rest ← lineEnd? s
          some (define title, rest)
        if (separator s).head? != some '<' && destination.isEmpty then none
        else titled.or ((lineEnd? afterDestination).map (define [], ·))
      | none => none
    | _ => none
  | _ => none

/-- The definitions at the start of a paragraph, and the rest of it. -/
def definitionsFrom : (fuel : Nat) → List Char → List Definition × List Char
  | 0, s => ([], s)
  | fuel + 1, s =>
    match definition? s with
    | some (d, rest) =>
      let (ds, rest) := definitionsFrom fuel rest
      (d :: ds, rest)
    | none => ([], s)

def definitions (s : List Char) : List Definition × List Char := definitionsFrom s.length s

end DocSite.Markdown
