/-!
# Places in a YAML text

A place is what is left of the text and a mark that counts characters, lines
and columns from zero. A line ends at a line feed, a carriage return, both in
that order, or one of three further line ends of Unicode.
-/

namespace DocSite.Yaml

structure Mark where
  index : Nat
  line : Nat
  column : Nat
  deriving DecidableEq, Repr

structure Place where
  mark : Mark
  rest : List Char

def isBreak (c : Char) : Bool :=
  c == '\n' || c == '\r' || c == '\x85' || c == '\u2028' || c == '\u2029'

def isSpace (c : Char) : Bool := c == ' ' || c == '\t'

/-- Whether a text has ended, or goes on with white space. -/
def atBlank (s : List Char) : Bool := s.head?.all fun c => isSpace c || isBreak c

/-- Whether a line has ended here. -/
def atLineEnd (s : List Char) : Bool := s.head?.all isBreak

/-- Letters of names of anchors, handles and directives. -/
def isNameChar (c : Char) : Bool := c.isAlphanum || c == '_' || c == '-'

/-- Characters a text may hold at all. -/
def isAllowed (c : Char) : Bool :=
  let n := c.toNat
  n == 0x9 || n == 0xa || n == 0xd || (0x20 ≤ n && n ≤ 0x7e) || n == 0x85 ||
    (0xa0 ≤ n && n ≤ 0xfffd && n != 0xfeff) || 0x10000 ≤ n

namespace Mark

def next (m : Mark) : Mark := { m with index := m.index + 1, column := m.column + 1 }

def skip (m : Mark) (n : Nat) : Mark := { m with index := m.index + n, column := m.column + n }

/-- The start of the next line, behind a line end of `n` characters. -/
def nextLine (m : Mark) (n : Nat) : Mark := ⟨m.index + n, m.line + 1, 0⟩

end Mark

namespace Place

def ofText (s : List Char) : Place := ⟨⟨0, 0, 0⟩, s⟩

/-- Skips `n` characters of a line. -/
def skip (p : Place) (n : Nat) : Place := ⟨p.mark.skip n, p.rest.drop n⟩

def skipWhile (p : Place) (f : Char → Bool) : Place := p.skip (p.rest.takeWhile f).length

/-- Skips to the end of the line. -/
def skipLine (p : Place) : Place := p.skipWhile (!isBreak ·)

/-- Takes a line end, if there is one. All are read as a line feed, except the
two separators that Unicode has for lines and paragraphs. -/
def lineBreak (p : Place) : List Char × Place :=
  match p.rest with
  | '\r' :: '\n' :: s => (['\n'], ⟨p.mark.nextLine 2, s⟩)
  | c :: s =>
    if c == '\u2028' || c == '\u2029' then ([c], ⟨p.mark.nextLine 1, s⟩)
    else if isBreak c then (['\n'], ⟨p.mark.nextLine 1, s⟩)
    else ([], p)
  | [] => ([], p)

/-- Whether a line starts here with three given characters and a blank. -/
def atIndicator (p : Place) (c : Char) : Bool :=
  p.mark.column = 0 && [c, c, c].isPrefixOf p.rest && atBlank (p.rest.drop 3)

def atDocumentIndicator (p : Place) : Bool := p.atIndicator '-' || p.atIndicator '.'

end Place

end DocSite.Yaml
