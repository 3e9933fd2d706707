import DocSite.Yaml.Scalar

/-!
# Tokens

A text is cut into tokens from left to right. That a scalar or a bracket opened
a mapping shows only at the colon behind it, so such a token is held back while
it may still turn out to be a key; the tokens for the mapping and the key are
put in front of it then. If the text turns out to be broken, what was held back
is lost.
-/

namespace DocSite.Yaml

inductive Token where
  | streamEnd
  | version (major minor : Nat)
  | handle (handle uri : List Char)
  | documentStart
  | documentEnd
  | sequenceStart
  | mappingStart
  | blockEnd
  | flowSequenceStart
  | flowSequenceEnd
  | flowMappingStart
  | flowMappingEnd
  | entry
  | flowEntry
  | key
  | value
  | alias (name : List Char)
  | anchor (name : List Char)
  | tag (handle suffix : List Char)
  | scalar (text : List Char) (isPlain : Bool)
  deriving DecidableEq, Repr

/-- A token with the marks at its start and behind it. -/
structure Placed where
  token : Token
  start : Mark
  stop : Mark
  deriving Repr

/-- A token that may be a key: its number, where it stands, and whether
anything but a key would be wrong there. -/
structure Candidate where
  number : Nat
  mark : Mark
  required : Bool

structure Scanner where
  place : Place
  /-- Tokens so far, last first. -/
  tokens : List Placed := []
  /-- The column of the innermost block collection, and of those around it. -/
  indent : Int := -1
  outer : List Int := []
  /-- One candidate for the block and each open bracket, innermost first. -/
  candidates : List (Option Candidate) := [none]
  keyAllowed : Bool := true

namespace Scanner

def inFlow (s : Scanner) : Bool := 1 < s.candidates.length

def mark (s : Scanner) : Mark := s.place.mark

def count (s : Scanner) : Nat := s.tokens.length

/-- Adds a token that reaches to the given place. -/
def push (s : Scanner) (token : Token) (place : Place) : Scanner :=
  { s with place := place, tokens := ⟨token, s.mark, place.mark⟩ :: s.tokens }

/-- Adds a token of no width. -/
def pushHere (s : Scanner) (token : Token) : Scanner := s.push token s.place

/-- Puts a token in front of the one with a given number. -/
def insert (s : Scanner) (number : Nat) (token : Token) (mark : Mark) : Scanner :=
  let after := s.count - number
  { s with tokens := s.tokens.take after ++ ⟨token, mark, mark⟩ :: s.tokens.drop after }

-- ---------------------------------------------------------------------------
-- Candidates
-- ---------------------------------------------------------------------------

/-- Gives up candidates on earlier lines and those too far back. -/
def dropStale (s : Scanner) : Option Scanner := do
  let candidates ← s.candidates.mapM fun c? =>
    match c? with
    | none => some none
    | some c =>
      if c.mark.line < s.mark.line || c.mark.index + 1024 < s.mark.index then
        if c.required then none else some none
      else some (some c)
  some { s with candidates := candidates }

/-- Gives up the innermost candidate. -/
def dropCandidate (s : Scanner) : Option Scanner :=
  match s.candidates with
  | some c :: cs => if c.required then none else some { s with candidates := none :: cs }
  | _ => some s

/-- Makes the next token a candidate, where keys are allowed. -/
def candidate (s : Scanner) : Option Scanner :=
  if !s.keyAllowed then some s
  else do
    let s ← s.dropCandidate
    let c : Candidate := ⟨s.count, s.mark, !s.inFlow && s.indent == s.mark.column⟩
    some { s with candidates := some c :: s.candidates.tail }

/-- How many tokens are settled: those before the first candidate. -/
def settled (s : Scanner) : Nat :=
  s.candidates.foldl (fun n c? => match c? with
    | some c => min n c.number
    | none => n) s.count

-- ---------------------------------------------------------------------------
-- Indentation
-- ---------------------------------------------------------------------------

/-- Opens a block collection at a column to the right of the current one. -/
def indentTo (s : Scanner) (column : Nat) (opening : Scanner → Scanner) : Scanner :=
  if s.inFlow || (column : Int) ≤ s.indent then s
  else opening { s with indent := column, outer := s.indent :: s.outer }

/-- Closes block collections to the right of a column. -/
def closeTo (column : Int) : List Int → Scanner → Scanner
  | [], s => s
  | i :: is, s =>
    if s.indent ≤ column then s
    else closeTo column is { s.pushHere .blockEnd with indent := i, outer := is }

def dedentTo (s : Scanner) (column : Int) : Scanner :=
  if s.inFlow then s else closeTo column s.outer s

-- ---------------------------------------------------------------------------
-- White space and comments
-- ---------------------------------------------------------------------------

/-- Goes to the next token. Tabs count as white space where no key may start;
after a line end, a key may start again. -/
def skipBlanks : (fuel : Nat) → Scanner → Scanner
  | 0, s => s
  | fuel + 1, s =>
    let tabs := s.inFlow || !s.keyAllowed
    let p := s.place.skipWhile fun c => c == ' ' || (tabs && c == '\t')
    let p := if p.rest.head? == some '#' then p.skipLine else p
    if p.rest.head?.any isBreak then
      skipBlanks fuel { s with place := p.lineBreak.2, keyAllowed := s.keyAllowed || !s.inFlow }
    else { s with place := p }

-- ---------------------------------------------------------------------------
-- Directives
-- ---------------------------------------------------------------------------

/-- A number of one to nine digits. -/
def number? (s : List Char) : Option (Nat × List Char) :=
  let digits := s.takeWhile Char.isDigit
  if digits.isEmpty || 9 < digits.length then none
  else some (digits.foldl (fun n c => 10 * n + (c.toNat - 48)) 0, s.drop digits.length)

def isUriChar (isVerbatim : Bool) (c : Char) : Bool :=
  isNameChar c || ";/?:@&=+$.!~*'()".toList.contains c ||
    (isVerbatim && (c == ',' || c == '[' || c == ']'))

/-- The length of a UTF-8 sequence by its first byte. -/
def sequenceLength? (b : Nat) : Option Nat :=
  if b < 0x80 then some 1
  else if b / 0x20 = 6 then some 2
  else if b / 0x10 = 14 then some 3
  else if b / 0x08 = 30 then some 4
  else none

def percentByte? : List Char → Option (Nat × List Char)
  | '%' :: a :: b :: s =>
    match Text.hexValue? a, Text.hexValue? b with
    | some x, some y => some (16 * x + y, s)
    | _, _ => none
  | _ => none

/-- `n` further bytes of a sequence, each with the bits `10` in front. -/
def percentTail? : (n : Nat) → List Char → Option (List Nat × List Char)
  | 0, s => some ([], s)
  | n + 1, s => do
    let (b, s) ← percentByte? s
    if b / 0x40 ≠ 2 then none
    else
      let (bs, s) ← percentTail? n s
      some (b :: bs, s)

/-- One character written as percent escapes of its bytes. -/
def percentCharacter? (s : List Char) : Option (List Char × List Char) := do
  let (b, s) ← percentByte? s
  let n ← sequenceLength? b
  let (bs, s) ← percentTail? (n - 1) s
  let text ← String.fromUTF8? ⟨((b :: bs).map UInt8.ofNat).toArray⟩
  some (text.toList, s)

def uriFrom (isVerbatim : Bool) : (fuel : Nat) → List Char → Option (List Char × List Char)
  | 0, s => some ([], s)
  | fuel + 1, s =>
    match s with
    | [] => some ([], [])
    | c :: rest =>
      if c == '%' then do
        let (text, rest) ← percentCharacter? s
        let (more, rest) ← uriFrom isVerbatim fuel rest
        some (text ++ more, rest)
      else if isUriChar isVerbatim c then do
        let (more, rest) ← uriFrom isVerbatim fuel rest
        some (c :: more, rest)
      else some ([], s)

def uri? (isVerbatim : Bool) (s : List Char) : Option (List Char × List Char) :=
  uriFrom isVerbatim s.length s

/-- A tag handle: `!`, or a name between two of them. What has no second one is
the start of a tag. -/
def handle? : List Char → Option (List Char × List Char)
  | '!' :: s =>
    let name := s.takeWhile isNameChar
    match s.drop name.length with
    | '!' :: rest => some ('!' :: name ++ ['!'], rest)
    | rest => some ('!' :: name, rest)
  | _ => none

def versionDirective? (s : List Char) : Option (Token × List Char) := do
  let (major, s) ← number? (s.dropWhile isSpace)
  match s with
  | '.' :: s =>
    let (minor, s) ← number? s
    some (.version major minor, s)
  | _ => none

def handleDirective? (s : List Char) : Option (Token × List Char) := do
  let (handle, s) ← handle? (s.dropWhile isSpace)
  if handle != ['!'] && (handle.length < 2 || handle.getLast? != some '!') then none
  else if !(s.head?.any isSpace) then none
  else
    let (uri, s) ← uri? true (s.dropWhile isSpace)
    if uri.isEmpty || !atBlank s then none else some (.handle handle uri, s)

/-- A directive from its `%` on. Only two are known. -/
def directive? (s : List Char) : Option (Token × List Char) := do
  let name := (s.drop 1).takeWhile isNameChar
  let rest := s.drop (name.length + 1)
  if !atBlank rest then none
  else
    let (token, rest) ←
      if name == "YAML".toList then versionDirective? rest
      else if name == "TAG".toList then handleDirective? rest
      else none
    let rest := rest.dropWhile isSpace
    let rest := if rest.head? == some '#' then rest.dropWhile (!isBreak ·) else rest
    if atLineEnd rest then some (token, rest) else none

-- ---------------------------------------------------------------------------
-- Anchors, aliases, tags
-- ---------------------------------------------------------------------------

/-- The name of an anchor or alias, its mark gone. -/
def anchorName? (s : List Char) : Option (List Char × List Char) :=
  let name := s.takeWhile isNameChar
  let rest := s.drop name.length
  if name.isEmpty then none
  else if atBlank rest || rest.head?.any (fun c => "?:,]\x7d%@\x60".toList.contains c) then
    some (name, rest)
  else none

/-- A tag from its `!` on, as handle and suffix. -/
def tag? (inFlow : Bool) (s : List Char) : Option (Token × List Char) := do
  let (token, rest) ← match s with
    | '!' :: '<' :: s => do
      let (uri, rest) ← uri? true s
      match rest with
      | '>' :: rest => if uri.isEmpty then none else some (Token.tag [] uri, rest)
      | _ => none
    | s => do
      let (handle, rest) ← handle? s
      let (suffix, rest) ← uri? false rest
      if 1 < handle.length && handle.getLast? == some '!' then
        if suffix.isEmpty then none else some (Token.tag handle suffix, rest)
      else if handle.length + suffix.length = 1 then some (Token.tag [] ['!'], rest)
      else some (Token.tag ['!'] (handle.tail ++ suffix), rest)
  if atBlank rest || (inFlow && rest.head? == some ',') then some (token, rest) else none

-- ---------------------------------------------------------------------------
-- One token
-- ---------------------------------------------------------------------------

/-- Adds a token that ends where `rest` begins, on the same line. -/
def pushTo (s : Scanner) (token : Token) (rest : List Char) : Scanner :=
  s.push token (s.place.skip (s.place.rest.length - rest.length))

/-- Ends all block collections before something at the top. -/
def atTop (s : Scanner) : Option Scanner := do
  let s ← (s.dedentTo (-1)).dropCandidate
  some { s with keyAllowed := false }

def streamEnd (s : Scanner) : Option Scanner := do
  let m := s.mark
  let s := if m.column = 0 then s else { s with place := ⟨⟨m.index, m.line + 1, 0⟩, [] ⟩ }
  let s ← s.atTop
  some (s.pushHere .streamEnd)

def flowStart (s : Scanner) (token : Token) : Option Scanner := do
  let s ← s.candidate
  some { s.push token (s.place.skip 1) with
    candidates := none :: s.candidates
    keyAllowed := true }

def flowEnd (s : Scanner) (token : Token) : Option Scanner := do
  let s ← s.dropCandidate
  some { s.push token (s.place.skip 1) with
    candidates := if s.inFlow then s.candidates.tail else s.candidates
    keyAllowed := false }

/-- The marks `-`, `?` and, after no key, `:` open a block collection. -/
def blockMark (s : Scanner) (token opening : Token) (keyAllowed : Bool) : Option Scanner :=
  if !s.inFlow && !s.keyAllowed then none
  else do
    let s ← (s.indentTo s.mark.column (·.pushHere opening)).dropCandidate
    some { s.push token (s.place.skip 1) with keyAllowed := keyAllowed }

def value (s : Scanner) : Option Scanner :=
  match s.candidates with
  | some c :: cs =>
    let s := s.insert c.number .key c.mark
    let s := s.indentTo c.mark.column (·.insert c.number .mappingStart c.mark)
    some { s.push .value (s.place.skip 1) with
      candidates := none :: cs
      keyAllowed := false }
  | _ => s.blockMark .value .mappingStart (!s.inFlow)

def blockScalar (s : Scanner) (folds : Bool) : Option Scanner := do
  let s ← s.dropCandidate
  let (text, place) ← block folds s.indent s.place
  some { s.push (.scalar text false) place with keyAllowed := true }

def quotedScalar (s : Scanner) (isSingle : Bool) : Option Scanner := do
  let s ← s.candidate
  let (text, place) ← quoted isSingle s.place
  some { s.push (.scalar text false) place with keyAllowed := false }

def plainScalar (s : Scanner) : Option Scanner := do
  let s ← s.candidate
  let (text, broken, place) ← plain s.inFlow (s.indent + 1) s.place
  some { s.push (.scalar text true) place with keyAllowed := broken }

/-- A token read from the characters at hand; it may be a key. -/
def property (s : Scanner) (read : List Char → Option (Token × List Char)) : Option Scanner := do
  let s ← s.candidate
  let (token, rest) ← read s.place.rest
  some { s.pushTo token rest with keyAllowed := false }

def directive (s : Scanner) : Option Scanner := do
  let s ← s.atTop
  let (token, rest) ← directive? s.place.rest
  some (s.pushTo token rest)

def documentMark (s : Scanner) (token : Token) : Option Scanner := do
  let s ← s.atTop
  some (s.push token (s.place.skip 3))

/-- Whether a plain scalar may start here. -/
def startsPlain (s : Scanner) (c : Char) (rest : List Char) : Bool :=
  !(isSpace c || isBreak c || "-?:,[]\x7b\x7d#&*!|>'\"%@\x60".toList.contains c) ||
    (c == '-' && !(rest.head?.any isSpace)) ||
    (!s.inFlow && (c == '?' || c == ':') && !atBlank rest)

/-- Reads one more token. -/
def fetch (s : Scanner) : Option Scanner := do
  let s := skipBlanks (s.place.rest.length + 1) s
  let s ← s.dropStale
  let s := s.dedentTo s.mark.column
  match s.place.rest with
  | [] => s.streamEnd
  | c :: rest =>
    if s.mark.column = 0 && c == '%' then s.directive
    else if s.place.atIndicator '-' then s.documentMark .documentStart
    else if s.place.atIndicator '.' then s.documentMark .documentEnd
    else if c == '[' then s.flowStart .flowSequenceStart
    else if c == '\x7b' then s.flowStart .flowMappingStart
    else if c == ']' then s.flowEnd .flowSequenceEnd
    else if c == '\x7d' then s.flowEnd .flowMappingEnd
    else if c == ',' then do
      let s ← s.dropCandidate
      some { s.push .flowEntry (s.place.skip 1) with keyAllowed := true }
    else if c == '-' && atBlank rest then s.blockMark .entry .sequenceStart true
    else if c == '?' && (s.inFlow || atBlank rest) then
      s.blockMark .key .mappingStart (!s.inFlow)
    else if c == ':' && (s.inFlow || atBlank rest) then s.value
    else if c == '*' then s.property fun s => (anchorName? (s.drop 1)).map fun (n, r) => (.alias n, r)
    else if c == '&' then s.property fun s => (anchorName? (s.drop 1)).map fun (n, r) => (.anchor n, r)
    else if c == '!' then s.property (tag? s.inFlow)
    else if c == '|' && !s.inFlow then s.blockScalar false
    else if c == '>' && !s.inFlow then s.blockScalar true
    else if c == '\x27' then s.quotedScalar true
    else if c == '\x22' then s.quotedScalar false
    else if s.startsPlain c rest then s.plainScalar
    else none

def isDone (s : Scanner) : Bool :=
  match s.tokens with
  | ⟨.streamEnd, _, _⟩ :: _ => true
  | _ => false

/-- Reads the remaining tokens. If the text is broken, those that were settled
remain. Every token but the last takes a character, which bounds `fuel`. -/
def run : (fuel : Nat) → Scanner → List Placed
  | 0, s => s.tokens.reverse
  | fuel + 1, s =>
    if s.isDone then s.tokens.reverse
    else
      match s.fetch with
      | none => s.tokens.reverse.take s.settled
      | some next =>
        match next.dropStale with
        | none => next.tokens.reverse.take s.settled
        | some next => run fuel next

end Scanner

/-- The tokens of a text. They end in `streamEnd` unless the text is broken. -/
def tokens (text : List Char) : List Placed :=
  let text := match text with
    | '\ufeff' :: rest => rest
    | text => text
  if text.all isAllowed then Scanner.run (text.length + 2) { place := .ofText text } else []

end DocSite.Yaml
