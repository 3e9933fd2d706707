import DocSite.Text.Cut

/-!
# Braces of a line

Blocks are followed by counting braces. Those inside string literals and after
`//` do not count: literals are emptied first, then the line is cut at the
first `//`.
-/

namespace DocSite.Source

/-- What follows the quote that closes a literal, given what follows the one
that opens it. -/
def afterLiteral? : List Char → Option (List Char)
  | [] => none
  | '"' :: s => some s
  | '\\' :: c :: s => if c = '\n' then none else afterLiteral? s
  | ['\\'] => none
  | _ :: s => afterLiteral? s

theorem length_of_afterLiteral? {s rest : List Char} (h : afterLiteral? s = some rest) :
    rest.length < s.length := by
  fun_induction afterLiteral? s <;> grind

/-- Empties every string literal. A quote that opens none is kept. -/
def emptyLiterals : List Char → List Char
  | [] => []
  | c :: s =>
    if c = '"' then
      match _h : afterLiteral? s with
      | some rest => '"' :: '"' :: emptyLiterals rest
      | none => c :: emptyLiterals s
    else c :: emptyLiterals s
termination_by s => s.length
decreasing_by
  · have := length_of_afterLiteral? _h
    simp only [List.length_cons]
    omega
  all_goals simp

inductive Brace where
  | opening
  | closing
  deriving DecidableEq, Repr

def Brace.ofChar? : Char → Option Brace
  | '{' => some .opening
  | '}' => some .closing
  | _ => none

/-- The braces that count, in order. -/
def braces (line : List Char) : List Brace :=
  (Text.before "//".toList (emptyLiterals line)).filterMap Brace.ofChar?

end DocSite.Source
