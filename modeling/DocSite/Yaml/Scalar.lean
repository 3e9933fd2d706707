import DocSite.Text.Hex
import DocSite.Yaml.Place

/-!
# Scalars

Scalars are written plain, in single or double quotes, or as blocks. Blanks
around a line end are folded: one line end becomes a space, further ones are
kept.
-/

namespace DocSite.Yaml

-- ---------------------------------------------------------------------------
-- White space inside scalars
-- ---------------------------------------------------------------------------

/-- White space between two words of a scalar: blanks up to the first line end,
that line end, and the ones after it. -/
structure Gap where
  spaces : List Char := []
  broken : Bool := false
  first : List Char := []
  more : List Char := []

def Gap.fold (g : Gap) : List Char :=
  if !g.broken then g.spaces
  else if g.first == ['\n'] then if g.more.isEmpty then [' '] else g.more
  else g.first ++ g.more

/-- Reads white space. A tab before the column `indent` of a further line is
refused. -/
def gapFrom (indent : Int) : (fuel : Nat) → Gap → Place → Option (Gap × Place)
  | 0, g, p => some (g, p)
  | fuel + 1, g, p =>
    match p.rest with
    | [] => some (g, p)
    | c :: _ =>
      if isSpace c then
        if g.broken && (p.mark.column : Int) < indent && c == '\t' then none
        else if g.broken then gapFrom indent fuel g (p.skip 1)
        else gapFrom indent fuel { g with spaces := g.spaces ++ [c] } (p.skip 1)
      else if isBreak c then
        let (text, p) := p.lineBreak
        if g.broken then gapFrom indent fuel { g with more := g.more ++ text } p
        else gapFrom indent fuel { g with spaces := [], broken := true, first := text } p
      else some (g, p)

def gap (indent : Int) (g : Gap) (p : Place) : Option (Gap × Place) :=
  gapFrom indent p.rest.length g p

-- ---------------------------------------------------------------------------
-- Plain scalars
-- ---------------------------------------------------------------------------

def isFlowMark (c : Char) : Bool := c == ',' || c == '[' || c == ']' || c == '\x7b' || c == '\x7d'

/-- One word of a plain scalar, and what follows it. Inside brackets a colon
must not stand right before a mark of the enclosing collection. -/
def plainWord (inFlow : Bool) : List Char → Option (List Char × List Char)
  | [] => some ([], [])
  | c :: s =>
    if isSpace c || isBreak c then some ([], c :: s)
    else if inFlow && c == ':' && s.head?.any (fun d => isFlowMark d || d == '?') then none
    else if (c == ':' && atBlank s) || (inFlow && isFlowMark c) then some ([], c :: s)
    else (plainWord inFlow s).map fun (word, rest) => (c :: word, rest)

/-- Reads a plain scalar, of which `text` and then `g` have been read. Gives the
text, whether the line changed after it, and the place behind the white space
that follows. -/
def plainFrom (inFlow : Bool) (indent : Int) :
    (fuel : Nat) → (text : List Char) → Gap → Place → Option (List Char × Bool × Place)
  | 0, text, g, p => some (text, g.broken, p)
  | fuel + 1, text, g, p =>
    if p.atDocumentIndicator || p.rest.head? == some '#' then some (text, g.broken, p)
    else do
      let (word, rest) ← plainWord inFlow p.rest
      let text' := if word.isEmpty then text else text ++ g.fold ++ word
      let g' := if word.isEmpty then g else {}
      let p' : Place := ⟨p.mark.skip word.length, rest⟩
      if !(rest.head?.any fun c => isSpace c || isBreak c) then some (text', g'.broken, p')
      else
        let (g'', p'') ← gap indent g' p'
        if !inFlow && (p''.mark.column : Int) < indent then some (text', g''.broken, p'')
        else plainFrom inFlow indent fuel text' g'' p''

def plain (inFlow : Bool) (indent : Int) (p : Place) : Option (List Char × Bool × Place) :=
  plainFrom inFlow indent (p.rest.length + 1) [] {} p

-- ---------------------------------------------------------------------------
-- Quoted scalars
-- ---------------------------------------------------------------------------

/-- The character a single-letter escape stands for. -/
def escape? (c : Char) : Option Char :=
  match c with
  | '0' => some '\x00'
  | 'a' => some '\x07'
  | 'b' => some '\x08'
  | 't' => some '\t'
  | '\t' => some '\t'
  | 'n' => some '\n'
  | 'v' => some '\x0b'
  | 'f' => some '\x0c'
  | 'r' => some '\r'
  | 'e' => some '\x1b'
  | ' ' => some ' '
  | '\x22' => some '\x22'
  | '/' => some '/'
  | '\\' => some '\\'
  | 'N' => some '\x85'
  | '_' => some '\xa0'
  | 'L' => some '\u2028'
  | 'P' => some '\u2029'
  | _ => none

/-- How many hexadecimal digits an escape takes. -/
def escapeDigits? (c : Char) : Option Nat :=
  match c with
  | 'x' => some 2
  | 'u' => some 4
  | 'U' => some 8
  | _ => none

/-- The character written with `n` hexadecimal digits. -/
def hexCharacter? (n : Nat) (s : List Char) : Option Char :=
  let digits := (s.take n).filterMap Text.hexValue?
  let value := digits.foldl (fun v d => 16 * v + d) 0
  if digits.length = n && value.isValidChar then some (Char.ofNat value) else none

/-- Reads an escape behind its backslash: the character, and how many
characters of the text it takes. -/
def escaped? : List Char → Option (Char × Nat)
  | [] => none
  | c :: s =>
    match escapeDigits? c with
    | some n => (hexCharacter? n s).map (·, n + 1)
    | none => (escape? c).map (·, 1)

/-- Reads what stands in quotes, the first of them gone. -/
def quotedFrom (isSingle : Bool) :
    (fuel : Nat) → (text : List Char) → Place → Option (List Char × Place)
  | 0, _, _ => none
  | fuel + 1, text, p =>
    let quote := if isSingle then '\x27' else '\x22'
    if p.atDocumentIndicator then none
    else
      match p.rest with
      | [] => none
      | c :: s =>
        if isSpace c || isBreak c then do
          let (g, p) ← gap 0 {} p
          quotedFrom isSingle fuel (text ++ g.fold) p
        else if isSingle && c == quote && s.head? == some quote then
          quotedFrom isSingle fuel (text ++ [quote]) (p.skip 2)
        else if c == quote then some (text, p.skip 1)
        else if !isSingle && c == '\\' then
          if s.head?.any isBreak then do
            let (_, p) := (p.skip 1).lineBreak
            let (g, p) ← gap 0 { broken := true } p
            quotedFrom isSingle fuel (text ++ g.fold) p
          else do
            let (d, n) ← escaped? s
            quotedFrom isSingle fuel (text ++ [d]) (p.skip (n + 1))
        else quotedFrom isSingle fuel (text ++ [c]) (p.skip 1)

def quoted (isSingle : Bool) (p : Place) : Option (List Char × Place) :=
  quotedFrom isSingle (p.rest.length + 1) [] (p.skip 1)

-- ---------------------------------------------------------------------------
-- Block scalars
-- ---------------------------------------------------------------------------

/-- What is done with the line ends at the end of a block. -/
inductive Chomp where
  | strip
  | clip
  | keep
  deriving DecidableEq

def chomp? : List Char → Option (Chomp × List Char)
  | '+' :: s => some (.keep, s)
  | '-' :: s => some (.strip, s)
  | _ => none

/-- A digit other than zero. Zero is refused, not passed over. -/
def increment? : List Char → Option (Nat × List Char)
  | [] => some (0, [])
  | c :: s =>
    if !c.isDigit then some (0, c :: s)
    else if c == '0' then none
    else some (c.toNat - 48, s)

/-- The indicators behind `|` and `>`: chomping and indentation, in any order. -/
def blockHeader? (s : List Char) : Option (Chomp × Nat × List Char) :=
  match chomp? s with
  | some (chomp, s) => (increment? s).map fun (n, s) => (chomp, n, s)
  | none => do
    let (n, s) ← increment? s
    match if n = 0 then none else chomp? s with
    | some (chomp, s) => some (chomp, n, s)
    | none => some (.clip, n, s)

/-- Skips indentation and empty lines; `indent` is zero while it is not known.
Gives the line ends and the widest column seen. -/
def emptyLines (indent : Nat) :
    (fuel : Nat) → (breaks : List Char) → (widest : Nat) → Place → Option (List Char × Nat × Place)
  | 0, breaks, widest, p => some (breaks, widest, p)
  | fuel + 1, breaks, widest, p =>
    let spaces := (p.rest.takeWhile (· == ' ')).length
    let p := p.skip (if indent = 0 then spaces else min spaces (indent - p.mark.column))
    let widest := max widest p.mark.column
    if (indent = 0 || p.mark.column < indent) && p.rest.head? == some '\t' then none
    else if !(p.rest.head?.any isBreak) then some (breaks, widest, p)
    else
      let (text, p) := p.lineBreak
      emptyLines indent fuel (breaks ++ text) widest p

/-- The text of a block so far: what is finished, the last line end, and the
ones after it. -/
structure BlockText where
  text : List Char := []
  last : List Char := []
  breaks : List Char := []
  /-- Whether the last line started with a blank. -/
  blank : Bool := false

/-- Reads the lines of a block with a known indentation. Folding joins lines
that start with no blank. -/
def blockLines (folds : Bool) (indent : Nat) : (fuel : Nat) → BlockText → Place → Option (BlockText × Place)
  | 0, b, p => some (b, p)
  | fuel + 1, b, p =>
    if p.mark.column ≠ indent || p.rest.isEmpty then some (b, p)
    else do
      let blank := p.rest.head?.any isSpace
      let joined := if folds && b.last == ['\n'] && !b.blank && !blank then
          if b.breaks.isEmpty then [' '] else b.breaks
        else b.last ++ b.breaks
      let line := p.rest.takeWhile (!isBreak ·)
      let (last, p) := (p.skip line.length).lineBreak
      let (breaks, _, p) ← emptyLines indent (p.rest.length + 1) [] 0 p
      blockLines folds indent fuel ⟨b.text ++ joined ++ line, last, breaks, blank⟩ p

/-- Reads a block scalar from its indicator on, inside a collection indented by
`parent`. -/
def block (folds : Bool) (parent : Int) (p : Place) : Option (List Char × Place) := do
  let (chomp, increment, s) ← blockHeader? (p.rest.drop 1)
  let p := (p.skip (p.rest.length - s.length)).skipWhile isSpace
  let p := if p.rest.head? == some '#' then p.skipLine else p
  if !atLineEnd p.rest then none
  else
    let (_, p) := p.lineBreak
    let given := if increment = 0 then 0 else ((max parent 0) + increment).toNat
    let (breaks, widest, p) ← emptyLines given (p.rest.length + 1) [] 0 p
    let indent := if given = 0 then max (max widest (parent + 1).toNat) 1 else given
    let (b, p) ← blockLines folds indent (p.rest.length + 1) { breaks := breaks } p
    let tail := match chomp with
      | .strip => []
      | .clip => b.last
      | .keep => b.last ++ b.breaks
    some (b.text ++ tail, p)

end DocSite.Yaml
