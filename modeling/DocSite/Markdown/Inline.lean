import DocSite.Markdown.Emphasis
import DocSite.Markdown.LinkTarget
import DocSite.Markdown.Tag

/-!
# Text with markup

A paragraph's text is read once from left to right. Code, markup and automatic
links bind most tightly; a closing bracket looks back for the bracket that opens
its link; emphasis is settled last, within each link and then for the whole.
-/

namespace DocSite.Markdown

/-- What has been read of a text: finished nodes, runs that are not paired yet,
and opening brackets. -/
inductive Part where
  | node (node : Inline)
  | run (run : Run)
  /-- A bracket with the text after it. Inside a link text no other link opens. -/
  | bracket (isImage isActive : Bool) (after : List Char)

/-- Parts and pending characters, both last first. -/
structure Reading where
  parts : List Part := []
  pending : List Char := []

namespace Reading

def flush (r : Reading) : Reading :=
  if r.pending.isEmpty then r
  else { parts := .node (.text r.pending.reverse) :: r.parts }

def add (r : Reading) (part : Part) : Reading :=
  { parts := part :: r.flush.parts }

def char (r : Reading) (c : Char) : Reading := { r with pending := c :: r.pending }

/-- Ends a line. Two blanks before the end make it a hard one. -/
def lineEnd (r : Reading) : Reading :=
  let blanks := (r.pending.takeWhile isInlineSpace).length
  Reading.add { r with pending := r.pending.drop blanks }
    (.node (if 2 ≤ blanks then .hardBreak else .softBreak))

end Reading

/-- The text of a bracket that opened no link. -/
def bracketText (isImage : Bool) : Inline := .text (if isImage then ['!', '['] else ['['])

/-- Finished content of some parts, given last first. -/
def settle (parts : List Part) : List Inline :=
  pairRuns (parts.reverse.map fun part =>
    match part with
    | .node node => .inl node
    | .run run => .inr run
    | .bracket isImage _ _ => .inl (bracketText isImage))

/-- Splits parts, last first, at the last bracket. -/
def lastBracket? : List Part → Option (List Part × Bool × Bool × List Char × List Part)
  | [] => none
  | .bracket isImage isActive after :: outside => some ([], isImage, isActive, after, outside)
  | part :: parts => (lastBracket? parts).map fun (inside, found) => (part :: inside, found)

/-- Links do not hold links: brackets before a finished link open none. -/
def deactivate (parts : List Part) : List Part :=
  parts.map fun part =>
    match part with
    | .bracket false _ after => .bracket false false after
    | part => part

/-- A code span: what follows a run of `n` backticks up to the next run of
exactly as many. Line ends are blanks, and one blank is dropped at either end
unless all are blanks. -/
def codeEnd? (n : Nat) : (run : Nat) → (seen : List Char) → List Char → Option (List Char × List Char)
  | run, seen, [] => if run = n then some (seen.drop n, []) else none
  | run, seen, c :: s =>
    if c == '\x60' then codeEnd? n (run + 1) (c :: seen) s
    else if run = n && run ≠ 0 then some (seen.drop n, c :: s)
    else codeEnd? n 0 (c :: seen) s

def codeText (raw : List Char) : List Char :=
  let s := raw.map fun c => if c == '\n' then ' ' else c
  if s.head? == some ' ' && s.getLast? == some ' ' && !s.all (· == ' ') then s.tail.dropLast else s

def codeSpan? (n : Nat) (s : List Char) : Option (Inline × List Char) :=
  (codeEnd? n 0 [] s).map fun (seen, rest) => (.code (codeText seen.reverse), rest)

/-- The target of a link whose text has just been closed, and what follows. -/
def linkTarget? (definitions : List Definition) (written : List Char) (s : List Char) :
    Option (LinkTarget × List Char) :=
  let shortcut (rest : List Char) :=
    match label? (written ++ [']']) with
    | some (label, []) => (Definition.find? label definitions).map (·, rest)
    | _ => none
  (inlineTarget? s).or <|
    match s with
    | '[' :: ']' :: rest => shortcut rest
    | '[' :: tail =>
      match label? tail with
      | some (label, rest) => (Definition.find? label definitions).map (·, rest)
      | none => shortcut s
    | _ => shortcut s

/-- How many characters stand before a rest. -/
def lengthBefore (rest s : List Char) : Nat := s.length - rest.length

/-- Closes a bracket; `s` is what follows it. What was read is counted. -/
def closeBracket (definitions : List Definition) (r : Reading) (s : List Char) : Reading × Nat :=
  let r := r.flush
  match lastBracket? r.parts with
  | none => (r.char ']', 0)
  | some (inside, isImage, isActive, after, outside) =>
    let asText : Reading × Nat :=
      ({ parts := inside ++ .node (bracketText isImage) :: outside, pending := [']'] }, 0)
    if !isActive then asText
    else
      match linkTarget? definitions (after.take (lengthBefore s after - 1)) s with
      | none => asText
      | some (target, rest) =>
        let content := settle inside
        if isImage then
          ({ parts := .node (.image target.destination target.title content) :: outside },
            lengthBefore rest s)
        else
          ({ parts := .node (.link false target.destination target.title content) ::
              deactivate outside }, lengthBefore rest s)

/-- Reads an angle bracket: an automatic link, markup, or itself. -/
def openAngle (r : Reading) (s : List Char) : Reading × Nat :=
  match autoUri? s with
  | some (uri, rest) =>
    (r.add (.node (.link false uri [] [.text uri])), lengthBefore rest s)
  | none =>
    match autoMail? s with
    | some (mail, rest) =>
      (r.add (.node (.link true mail [] [.text mail])), lengthBefore rest s)
    | none =>
      match afterMarkup? s with
      | some rest =>
        let n := lengthBefore rest s
        (r.add (.node (.html ('<' :: s.take n))), n)
      | none => (r.char '<', 0)

/-- Reads one construct that starts with `c`; counts what it takes of `s`. -/
def readOne (definitions : List Definition) (before : Option Char) (r : Reading) (c : Char)
    (s : List Char) : Reading × Nat :=
  if c == '\\' then
    match s with
    | '\n' :: _ => (r.add (.node .hardBreak), 1)
    | d :: _ => if Text.isAsciiPunctuation d then (r.char d, 1) else (r.char c, 0)
    | [] => (r.char c, 0)
  else if c == '\n' then (r.lineEnd, 0)
  else if c == '\x60' then
    let ticks := s.takeWhile (· == '\x60')
    match codeSpan? (ticks.length + 1) (s.drop ticks.length) with
    | some (code, rest) => (r.add (.node code), lengthBefore rest s)
    | none => ({ r with pending := c :: (ticks ++ r.pending) }, ticks.length)
  else if c == '<' then openAngle r s
  else if c == '&' then
    match characterReference? s with
    | some (out, rest) => (r.add (.node (.text out)), lengthBefore rest s)
    | none => (r.char c, 0)
  else if c == '*' || c == '_' then
    let more := s.takeWhile (· == c)
    let after := (s.drop more.length).head?
    let opens := canOpen c before after
    let closes := canClose c before after
    if opens || closes then (r.add (.run ⟨c, more.length + 1, opens, closes⟩), more.length)
    else ({ r with pending := c :: (more ++ r.pending) }, more.length)
  else if c == '[' then (r.add (.bracket false true s), 0)
  else if c == '!' then
    match s with
    | '[' :: rest => (r.add (.bracket true true rest), 1)
    | _ => (r.char c, 0)
  else if c == ']' then closeBracket definitions r s
  else (r.char c, 0)

/-- Reads a text; the first `skip` characters belong to what was read before. -/
def readFrom (definitions : List Definition) :
    (skip : Nat) → (before : Option Char) → Reading → List Char → Reading
  | _, _, r, [] => r
  | skip + 1, _, r, c :: s => readFrom definitions skip (some c) r s
  | 0, before, r, c :: s =>
    let (r, taken) := readOne definitions before r c s
    readFrom definitions taken (some c) r s

/-- Reads the text of a paragraph or heading. Blanks at its end are dropped. -/
def inlines (definitions : List Definition) (s : List Char) : List Inline :=
  settle (readFrom definitions 0 none {}
    (s.reverse.dropWhile isInlineSpace).reverse).flush.parts

end DocSite.Markdown
