/-!
# Cutting texts

Texts are lists of characters here; the functions say where they are cut and
what is dropped.
-/

namespace DocSite.Text

/-- What follows a given beginning, if the text starts with it. -/
def after? (start s : List Char) : Option (List Char) :=
  if start.isPrefixOf s then some (s.drop start.length) else none

/-- The parts before and after the first occurrence of a text. -/
def cut? (mark : List Char) : List Char → Option (List Char × List Char)
  | [] => if mark.isEmpty then some ([], []) else none
  | c :: s =>
    if mark.isPrefixOf (c :: s) then some ([], (c :: s).drop mark.length)
    else (cut? mark s).map fun (before, rest) => (c :: before, rest)

/-- The part before the first occurrence of a text, or all of it. -/
def before (mark s : List Char) : List Char :=
  match cut? mark s with
  | some (front, _) => front
  | none => s

/-- Splits at every separator; separators are dropped and empty parts kept. -/
def splitAll (isSeparator : Char → Bool) : List Char → List (List Char)
  | [] => [[]]
  | c :: s =>
    if isSeparator c then [] :: splitAll isSeparator s
    else match splitAll isSeparator s with
      | [] => [[c]]
      | part :: parts => (c :: part) :: parts

/-- Parts joined with a separator between them. -/
def join (separator : List Char) (parts : List (List Char)) : List Char :=
  (parts.intersperse separator).flatten

end DocSite.Text
