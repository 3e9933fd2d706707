import DocSite.Markdown.NamedCharacter
import DocSite.Text.Hex
import DocSite.Text.Punctuation

/-!
# Escapes

A backslash takes ASCII punctuation out of its role, and a character may be
written as a reference: by name, or by number in decimal or hexadecimal digits.
-/

namespace DocSite.Markdown

open Text (isAsciiPunctuation hexValue?)

/-- White space that does not end a line. -/
def isInlineSpace (c : Char) : Bool := c == ' ' || c == '\t' || c == '\x0b' || c == '\x0c'

/-- Whether a text goes on with a character that a backslash escapes. -/
def escapesNext (c : Char) (s : List Char) : Bool := c == '\\' && s.head?.any isAsciiPunctuation

/-- The character of a number. Zero stands for the replacement character. -/
def numberedCharacter? (n : Nat) : Option (List Char) :=
  if n = 0 then some ['\ufffd']
  else if n.isValidChar then some [Char.ofNat n]
  else none

/-- Reads a number of at most `limit` digits that ends in a semicolon. -/
def numericReference? (base limit : Nat) (s : List Char) : Option (List Char × List Char) :=
  let isDigit (c : Char) := (hexValue? c).any (· < base)
  let digits := s.takeWhile isDigit
  match s.dropWhile isDigit with
  | ';' :: rest =>
    if digits.isEmpty || limit < digits.length then none
    else (numberedCharacter? (digits.foldl (fun n c => base * n + (hexValue? c).getD 0) 0)).map
      (·, rest)
  | _ => none

/-- Reads a character reference whose `&` is gone. -/
def characterReference? : List Char → Option (List Char × List Char)
  | '#' :: 'x' :: s => numericReference? 16 6 s
  | '#' :: 'X' :: s => numericReference? 16 6 s
  | '#' :: s => numericReference? 10 7 s
  | s =>
    match s.dropWhile Char.isAlphanum with
    | ';' :: rest => (namedCharacter? (String.ofList (s.takeWhile Char.isAlphanum))).map (·, rest)
    | _ => none

/-- Resolves escapes and references, after leaving out `skip` characters. -/
def unescapeFrom : (skip : Nat) → List Char → List Char
  | _, [] => []
  | skip + 1, _ :: s => unescapeFrom skip s
  | 0, c :: s =>
    if escapesNext c s then s.take 1 ++ unescapeFrom 1 s
    else if c == '&' then
      match characterReference? s with
      | some (out, rest) => out ++ unescapeFrom (s.length - rest.length) s
      | none => c :: unescapeFrom 0 s
    else c :: unescapeFrom 0 s

def unescape (s : List Char) : List Char := unescapeFrom 0 s

end DocSite.Markdown
