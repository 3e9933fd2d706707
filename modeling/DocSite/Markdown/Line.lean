import DocSite.Markdown.Tag

/-!
# Lines

Blocks are found line by line. A `Cursor` moves over the blanks and markers at
the front of a line by columns, where a tab reaches to the next multiple of
four; the recognisers below say what the rest of a line begins.
-/

namespace DocSite.Markdown

/-- A line and its ending as it stands in verbatim text: `\r\n` counts as `\n`. -/
structure Line where
  text : List Char
  ending : List Char

/-- `seen` holds the current line so far, last character first. -/
def splitLinesFrom (seen : List Char) : List Char → List Line
  | [] => if seen.isEmpty then [] else [⟨seen.reverse, []⟩]
  | '\r' :: '\n' :: s => ⟨seen.reverse, ['\n']⟩ :: splitLinesFrom [] s
  | c :: s =>
    if c == '\n' || c == '\r' then ⟨seen.reverse, [c]⟩ :: splitLinesFrom [] s
    else splitLinesFrom (c :: seen) s

def splitLines (s : List Char) : List Line := splitLinesFrom [] s

-- ---------------------------------------------------------------------------
-- Columns
-- ---------------------------------------------------------------------------

/-- A place in a line: what is left, the columns left of a tab that was begun,
and how many characters lie behind since the last tab. -/
structure Cursor where
  rest : List Char
  spare : Nat
  offset : Nat

def Cursor.ofLine (l : Line) : Cursor := ⟨l.text, 0, 0⟩

/-- Moves over `n` columns of blanks; gives how many are missing. -/
def skipBlanks (offset : Nat) : (n : Nat) → List Char → Nat × Cursor
  | 0, s => (0, ⟨s, 0, offset⟩)
  | n, [] => (n, ⟨[], 0, offset⟩)
  | n + 1, c :: s =>
    if c == ' ' then skipBlanks (offset + 1) n s
    else if c == '\t' then
      let width := 4 - offset % 4
      if width ≤ n + 1 then skipBlanks 0 (n + 1 - width) s else (0, ⟨s, width - (n + 1), 0⟩)
    else (n + 1, ⟨c :: s, 0, offset⟩)

def Cursor.skip (c : Cursor) (n : Nat) : Nat × Cursor :=
  if n ≤ c.spare then (0, { c with spare := c.spare - n })
  else skipBlanks c.offset (n - c.spare) c.rest

/-- Moves over `n` characters of a marker. -/
def Cursor.advance (c : Cursor) (n : Nat) : Cursor :=
  { c with rest := c.rest.drop n, offset := c.offset + n }

/-- The text from here to the end of the line, a begun tab as blanks. -/
def Cursor.verbatim (c : Cursor) (ending : List Char) : List Char :=
  List.replicate c.spare ' ' ++ c.rest ++ ending

def isBlankLine (s : List Char) : Bool := s.all isInlineSpace

def trimLeading (s : List Char) : List Char := s.dropWhile fun c => c == ' ' || c == '\t'

-- ---------------------------------------------------------------------------
-- What a line begins
-- ---------------------------------------------------------------------------

def isRule : List Char → Bool
  | [] => false
  | c :: s =>
    (c == '*' || c == '-' || c == '_') && s.all (fun d => d == c || d == ' ' || d == '\t') &&
      2 ≤ s.count c

/-- The level of a heading that starts with number signs. -/
def headingLevel? (s : List Char) : Option Nat :=
  let level := (s.takeWhile (· == '#')).length
  if 1 ≤ level && level ≤ 6 && (s.drop level).head?.all (isInlineSpace ·) then some level else none

/-- The text of a heading, without the number signs that may close it. -/
def headingText (s : List Char) : List Char :=
  let text := (s.dropWhile isInlineSpace).reverse.dropWhile (· == ' ')
  match text.dropWhile (· == '#') with
  | [] => []
  | ' ' :: front => (front.dropWhile (· == ' ')).reverse
  | _ => text.reverse

/-- A line of `=` or `-` under a paragraph makes it a heading. -/
def underlineLevel? : List Char → Option Nat
  | [] => none
  | c :: s =>
    if (c == '=' || c == '-') && isBlankLine (s.dropWhile (· == c)) then
      some (if c == '=' then 1 else 2)
    else none

structure Fence where
  mark : Char
  length : Nat
  info : List Char

/-- A code fence. One of backticks has none in what follows it. -/
def fence? : List Char → Option Fence
  | [] => none
  | c :: s =>
    let length := (s.takeWhile (· == c)).length + 1
    let info := s.drop (length - 1)
    if (c == '\x60' || c == '~') && 3 ≤ length && !(c == '\x60' && info.contains '\x60') then
      some ⟨c, length, unescape
        ((info.dropWhile isInlineSpace).reverse.dropWhile isInlineSpace).reverse⟩
    else none

def Fence.isClosedBy (f : Fence) (s : List Char) : Bool :=
  f.length ≤ (s.takeWhile (· == f.mark)).length && (s.dropWhile (· == f.mark)).all (· == ' ')

/-- A list marker: the bullet or the character after the number, the number,
and how wide it is. -/
structure Marker where
  mark : Char
  number : Nat
  width : Nat

def marker? : List Char → Option Marker
  | [] => none
  | c :: s =>
    if c == '-' || c == '+' || c == '*' then some ⟨c, 0, 1⟩
    else
      let digits := (c :: s).takeWhile Char.isDigit
      match (c :: s).drop digits.length with
      | d :: _ =>
        if (d == '.' || d == ')') && 1 ≤ digits.length && digits.length ≤ 9 then
          some ⟨d, digits.foldl (fun n c => 10 * n + (c.toNat - 48)) 0, digits.length + 1⟩
        else none
      | [] => none

/-- A list item at the cursor, behind `indent` columns: its marker, how far its
content is indented, and where that starts. A rule is no item, and a marker
stands before a blank or the end of the line. -/
def item? (indent : Nat) (c : Cursor) : Option (Marker × Nat × Cursor) :=
  match marker? c.rest with
  | none => none
  | some m =>
    if isRule c.rest then none
    else
      let (missing, start) := (c.advance m.width).skip 1
      if 0 < missing && !start.rest.isEmpty then none
      else if isBlankLine start.rest then some (m, indent + m.width + 1, start)
      else
        let (missing, content) := start.skip 4
        if missing = 0 then some (m, indent + m.width + 1, start)
        else some (m, indent + m.width + 1 + (4 - missing), content)

/-- Whether a line without leading blanks ends a paragraph before it. Inside
the innermost box an item must have content and a number must be one. -/
def interrupts (isInnermost : Bool) (s : List Char) : Bool :=
  s.isEmpty || isRule s || (headingLevel? s).isSome || (fence? s).isSome || s.head? == some '>' ||
    (match item? 0 ⟨s, 0, 0⟩ with
      | some (m, _, start) =>
        !isInnermost || (!isBlankLine start.rest && (!(m.mark == '.' || m.mark == ')') || m.number = 1))
      | none => false) ||
    (match s with
      | '<' :: tail => (endMark? tail).isSome || startsBlockTag tail
      | _ => false)

end DocSite.Markdown
