import DocSite.Markdown.Inline
import DocSite.Markdown.Line

/-!
# Blocks

A text is a sequence of blocks, some of which hold others. Lines are taken one
by one: each first has to get through the boxes that are open (quotes and list
items), may open boxes of its own, and then continues or begins a leaf such as a
paragraph. Link definitions are collected on the way, so the text of paragraphs
is read when all lines are done.
-/

namespace DocSite.Markdown

/-- Blocks whose texts are of type `ι`. The blocks of a list are its items; in a
tight list, paragraphs of items stand without tags. -/
inductive Block (ι : Type) where
  | paragraph (content : ι)
  | heading (level : Nat) (content : ι)
  | code (info : Option (List Char)) (text : List Char)
  /-- Lines of markup, each with the number of blanks before it. -/
  | html (lines : List (Nat × List Char))
  | rule
  | quote (blocks : List (Block ι))
  | list (isTight : Bool) (start : Option Nat) (items : List (Block ι))
  | item (blocks : List (Block ι))

mutual

def Block.map {ι κ : Type} (f : ι → κ) : Block ι → Block κ
  | .paragraph content => .paragraph (f content)
  | .heading level content => .heading level (f content)
  | .code info text => .code info text
  | .html lines => .html lines
  | .rule => .rule
  | .quote blocks => .quote (mapBlocks f blocks)
  | .list isTight start items => .list isTight start (mapBlocks f items)
  | .item blocks => .item (mapBlocks f blocks)

def mapBlocks {ι κ : Type} (f : ι → κ) : List (Block ι) → List (Block κ)
  | [] => []
  | b :: bs => b.map f :: mapBlocks f bs

end

-- ---------------------------------------------------------------------------
-- Open boxes and leaves
-- ---------------------------------------------------------------------------

inductive Box where
  | quote
  | list (isTight : Bool) (marker : Marker)
  | item (indent : Nat)

/-- An open box with its finished blocks, last first. -/
structure Frame where
  box : Box
  blocks : List (Block (List Char))

def Frame.close (f : Frame) : Block (List Char) :=
  match f.box with
  | .quote => .quote f.blocks.reverse
  | .list isTight m =>
    .list isTight (if m.mark == '.' || m.mark == ')' then some m.number else none) f.blocks.reverse
  | .item _ => .item f.blocks.reverse

/-- A block that may go on with the next line; its lines are kept last first. -/
inductive Leaf where
  | paragraph (lines : List (List Char))
  | fenced (fence : Fence) (indent : Nat) (lines : List (List Char))
  /-- Blank lines count only if code follows them. -/
  | indented (lines blanks : List (List Char))
  | html (stop : Option (List Char)) (lines : List (Nat × List Char))

structure State where
  /-- Finished blocks outside all boxes, last first. -/
  blocks : List (Block (List Char)) := []
  /-- Open boxes, innermost first. -/
  frames : List Frame := []
  leaf : Option Leaf := none
  /-- Whether blank lines stand before the next block. -/
  afterBlank : Bool := false
  /-- Whether an item has been opened on a line with no content. -/
  emptyItem : Bool := false
  definitions : List Definition := []

namespace State

def add (s : State) (b : Block (List Char)) : State :=
  match s.frames with
  | [] => { s with blocks := b :: s.blocks }
  | f :: fs => { s with frames := { f with blocks := b :: f.blocks } :: fs }

def closeFrame (s : State) : State :=
  match s.frames with
  | [] => s
  | f :: fs => add { s with frames := fs } f.close

/-- Closes the innermost `n` boxes. -/
def closeFrames : (n : Nat) → State → State
  | 0, s => s
  | n + 1, s => closeFrames n s.closeFrame

def openFrame (s : State) (box : Box) : State := { s with frames := ⟨box, []⟩ :: s.frames }

/-- A paragraph's text: the lines without the definitions in front. -/
def takeDefinitions (s : State) (lines : List (List Char)) : State × List Char :=
  let (found, text) := Markdown.definitions (Text.join ['\n'] lines.reverse)
  ({ s with definitions := s.definitions ++ found }, text)

def closeLeaf (s : State) : State :=
  let done := { s with leaf := none }
  match s.leaf with
  | none => done
  | some (.paragraph lines) =>
    let (s, text) := done.takeDefinitions lines
    if text.all isLabelSpace then s else s.add (.paragraph text)
  | some (.fenced f _ lines) => done.add (.code (some f.info) lines.reverse.flatten)
  | some (.indented lines _) => done.add (.code none lines.reverse.flatten)
  | some (.html _ lines) => done.add (.html lines.reverse)

-- ---------------------------------------------------------------------------
-- Lists
-- ---------------------------------------------------------------------------

/-- An item that begins with two blank lines holds nothing more. -/
def finishEmptyItem (s : State) : State :=
  let ended := s.emptyItem && s.afterBlank
  let s := { s with emptyItem := false }
  match s.frames with
  | ⟨.item _, _⟩ :: _ => if ended then s.closeFrame else s
  | _ => s

/-- Before a block that is no item: ends an open list, and loosens the list
around it if blank lines came before. -/
def finishList (s : State) : State :=
  let s := s.finishEmptyItem
  let s := match s.frames with
    | ⟨.list _ _, _⟩ :: _ => s.closeFrame
    | _ => s
  if !s.afterBlank then s
  else
    let s := { s with afterBlank := false }
    match s.frames with
    | inner :: ⟨.list _ m, blocks⟩ :: fs =>
      { s with frames := inner :: ⟨.list false m, blocks⟩ :: fs }
    | _ => s

/-- Before an item: goes on with the open list if the marker is of its kind. -/
def continueList (s : State) (m : Marker) : State :=
  let s := s.finishEmptyItem
  let fresh (s : State) : State := { s.finishList.openFrame (.list true m) with afterBlank := false }
  match s.frames with
  | ⟨.list isTight m', blocks⟩ :: fs =>
    if m'.mark != m.mark then fresh s
    else { s with
      frames := ⟨.list (isTight && !s.afterBlank) m', blocks⟩ :: fs
      afterBlank := false }
  | _ => fresh s

-- ---------------------------------------------------------------------------
-- Lines
-- ---------------------------------------------------------------------------

/-- Takes a line through open boxes, outermost first; counts those it passes. -/
def passBoxes : List Box → Cursor → Nat × Cursor
  | [], c => (0, c)
  | box :: boxes, c =>
    let next (c : Cursor) : Nat × Cursor :=
      let (n, c) := passBoxes boxes c
      (n + 1, c)
    match box with
    | .list _ _ => next c
    | .quote =>
      let (_, start) := c.skip 3
      match start.rest with
      | '>' :: _ => next ((start.advance 1).skip 1).2
      | _ => (0, c)
    | .item indent =>
      let (missing, start) := c.skip indent
      if missing = 0 || start.rest.isEmpty then next start else (0, c)

def pass (s : State) (l : Line) : Nat × Cursor :=
  passBoxes (s.frames.reverse.map (·.box)) (.ofLine l)

/-- Opens the boxes that begin at the cursor. The cursor is absent if the line
ends with a marker. Every box takes a character at least, which bounds `fuel`. -/
def openBoxes : (fuel : Nat) → State → Cursor → State × Option Cursor
  | 0, s, c => (s, some c)
  | fuel + 1, s, c =>
    let (missing, start) := c.skip 4
    if missing = 0 then (s, some c)
    else
      match item? (4 - missing) start with
      | some (m, indent, content) =>
        let s := (s.continueList m).openFrame (.item indent)
        if isBlankLine content.rest then ({ s with emptyItem := true }, none)
        else openBoxes fuel s content
      | none =>
        match start.rest with
        | '>' :: _ => openBoxes fuel (s.finishList.openFrame .quote) ((start.advance 1).skip 1).2
        | _ => (s, some c)

def blankLine (s : State) : State :=
  match s.frames with
  | ⟨.quote, _⟩ :: _ => s
  | ⟨.item _, blocks⟩ :: fs =>
    { s with
      frames := if s.emptyItem then ⟨.item 0, blocks⟩ :: fs else s.frames
      afterBlank := true }
  | _ => { s with afterBlank := true }

/-- Adds a line to a block of markup; the end mark closes it. -/
def markupLine (s : State) (stop : Option (List Char)) (lines : List (Nat × List Char))
    (indent : Nat) (text ending : List Char) : State :=
  let s := { s with leaf := some (.html stop ((indent, text ++ ending) :: lines)) }
  if stop.any (fun mark => (Text.cut? mark text).isSome) then s.closeLeaf else s

/-- Begins a leaf at the cursor, which stands before something. -/
def openLeaf (s : State) (c : Cursor) (ending : List Char) : State :=
  let s := s.finishList
  let (missing, start) := c.skip 4
  if missing = 0 then { s with leaf := some (.indented [start.verbatim ending] []) }
  else
    let indent := 4 - missing
    let plain : State :=
      if isRule start.rest then s.add .rule
      else match headingLevel? start.rest with
        | some level => s.add (.heading level (headingText (start.rest.drop level)))
        | none =>
          match fence? start.rest with
          | some f => { s with leaf := some (.fenced f indent []) }
          | none => { s with leaf := some (.paragraph [start.rest]) }
    match start.rest with
    | '<' :: tail =>
      match endMark? tail with
      | some stop => s.markupLine (some stop) [] (max c.spare indent) start.rest ending
      | none =>
        if startsBlockTag tail || isLoneTag tail then
          s.markupLine none [] (max c.spare indent) start.rest ending
        else plain
    | _ => plain

/-- A line that goes on with no leaf. -/
def freshLine (s : State) (l : Line) : State :=
  let (n, c) := s.pass l
  match openBoxes l.text.length (s.closeFrames (s.frames.length - n)) c with
  | (s, none) => s
  | (s, some c) => if isBlankLine c.rest then s.blankLine else s.openLeaf c l.ending

/-- Goes on with an open leaf, if the line does. -/
def continueLeaf? (s : State) (l : Line) : Option State :=
  let (n, c) := s.pass l
  let isInnermost := n == s.frames.length
  match s.leaf with
  | none => none
  | some (.paragraph lines) =>
    let (missing, start) := c.skip 4
    let text := trimLeading start.rest
    let more : Option State :=
      if text.isEmpty then none else some { s with leaf := some (.paragraph (text :: lines)) }
    if missing = 0 then more
    else
      match if isInnermost then underlineLevel? start.rest else none with
      | some level =>
        let (done, content) := takeDefinitions { s with leaf := none } lines
        if content.all isLabelSpace then some { done with leaf := some (.paragraph [text]) }
        else some (done.add (.heading level content))
      | none => if interrupts isInnermost start.rest then none else more
  | some (.fenced f indent lines) =>
    if !isInnermost then none
    else
      let (_, start) := c.skip indent
      let (missing, mark) := start.skip (4 - indent)
      if 0 < missing && f.isClosedBy mark.rest then some s.closeLeaf
      else some { s with leaf := some (.fenced f indent (start.verbatim l.ending :: lines)) }
  | some (.indented lines blanks) =>
    let (missing, start) := c.skip 4
    if !isInnermost || (0 < missing && !start.rest.isEmpty) then none
    else
      let text := start.verbatim l.ending
      if isBlankLine start.rest then
        some { s with leaf := some (.indented lines (text :: blanks)), afterBlank := true }
      else some { s with leaf := some (.indented (text :: (blanks ++ lines)) []), afterBlank := false }
  | some (.html stop lines) =>
    if !isInnermost || (stop.isNone && isBlankLine c.rest) then none
    else some (s.markupLine stop lines c.spare c.rest l.ending)

def step (s : State) (l : Line) : State :=
  match s.continueLeaf? l with
  | some next => next
  | none => s.closeLeaf.freshLine l

end State

/-- The blocks of a text, their texts unread, and the definitions in it. -/
def outline (s : List Char) : List (Block (List Char)) × List Definition :=
  let last := ((splitLines s).foldl State.step {}).closeLeaf
  let last := last.closeFrames last.frames.length
  (last.blocks.reverse, last.definitions)

/-- The blocks of a text. -/
def blocks (s : List Char) : List (Block (List Inline)) :=
  let (raw, definitions) := outline s
  mapBlocks (inlines definitions) raw

end DocSite.Markdown
