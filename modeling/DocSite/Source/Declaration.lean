import DocSite.Text.Blank
import DocSite.Text.Cut
import DocSite.Text.Word

/-!
# Declaration lines

What a single line declares. A line is given trimmed; each reader looks at its
front only, except where it says that the line must end.
-/

namespace DocSite.Source

open Text (isBlank after?)

/-- What follows a word and the blanks after it; at least one blank is due. -/
def keyword? (word s : List Char) : Option (List Char) :=
  match after? word s with
  | some (c :: rest) => if isBlank c then some (rest.dropWhile isBlank) else none
  | _ => none

theorem length_of_keyword? {word s rest : List Char} (h : keyword? word s = some rest) :
    rest.length < s.length := by
  unfold keyword? at h
  split at h
  · rename_i c rest' ha
    split at h
    · cases h
      have h1 : (c :: rest').length ≤ s.length := by
        unfold after? at ha
        split at ha
        · rw [← Option.some.inj ha]; simp
        · cases ha
      have h2 : (rest'.dropWhile isBlank).length ≤ rest'.length :=
        (List.dropWhile_sublist isBlank).length_le
      simp only [List.length_cons] at h1
      omega
    · cases h
  · cases h

/-- The words before `fun`, in any order and number. -/
structure Modifiers where
  isNative : Bool := false
  isStatic : Bool := false
  deriving DecidableEq, Repr

def modifiers (m : Modifiers) (s : List Char) : Modifiers × List Char :=
  match _h : keyword? "native".toList s with
  | some rest => modifiers { m with isNative := true } rest
  | none =>
    match _h' : keyword? "static".toList s with
    | some rest => modifiers { m with isStatic := true } rest
    | none => (m, s)
termination_by s.length
decreasing_by
  · exact length_of_keyword? _h
  · exact length_of_keyword? _h'

/-- A non-empty word at the front of a text. -/
def name? (s : List Char) : Option (List Char × List Char) :=
  let (name, rest) := Text.word s
  if name.isEmpty then none else some (name, rest)

/-- The text between parentheses, blanks before them allowed. The first closing
parenthesis ends it. -/
def parenthesized? (s : List Char) : Option (List Char × List Char) :=
  match s.dropWhile isBlank with
  | '(' :: s =>
    match s.dropWhile (· != ')') with
    | ')' :: rest => some (s.takeWhile (· != ')'), rest)
    | _ => none
  | _ => none

/-- Parameters are divided by commas; blank ones are dropped. -/
def splitParams (s : List Char) : List String :=
  (((Text.splitAll (· == ',') s).map Text.trim).filter (!·.isEmpty)).map String.ofList

structure FunctionLine where
  modifiers : Modifiers
  name : String
  params : List String
  on : Option String
  deriving DecidableEq, Repr

/-- The type after `on`. Without one the line is still a function. -/
def onClause? (s : List Char) : Option String :=
  match s with
  | c :: s =>
    if isBlank c then
      ((keyword? "on".toList (s.dropWhile isBlank)).bind name?).map fun (name, _) =>
        String.ofList name
    else none
  | [] => none

def functionLine? (line : List Char) : Option FunctionLine := do
  let (m, s) := modifiers {} line
  let s ← keyword? "fun".toList s
  let (name, s) ← name? s
  let (params, s) ← parenthesized? s
  return ⟨m, String.ofList name, splitParams params, onClause? s⟩

/-- The name of the entity a line opens. -/
def entityLine? (line : List Char) : Option String := do
  let s ← keyword? "entity".toList line
  let (name, _) ← name? s
  return String.ofList name

/-- Name and parameters of a constructor; nothing may follow them. -/
def constructorLine? (line : List Char) : Option (String × List String) := do
  let (name, s) ← name? line
  let (params, s) ← parenthesized? s
  if s.all isBlank then return (String.ofList name, splitParams params) else none

/-- Type and name of a field, with or without a value. -/
def fieldLine? (line : List Char) : Option (String × String) := do
  let (type, s) ← name? line
  let (type, s) := match s with
    | '[' :: ']' :: s => (type ++ ['[', ']'], s)
    | _ => (type, s)
  let s ← match s with
    | c :: s => if isBlank c then some (s.dropWhile isBlank) else none
    | [] => none
  let (name, s) ← name? s
  let fits := match s.dropWhile isBlank with
    | [] => true
    | '=' :: value => !value.contains '\n'
    | _ => false
  if fits then return (String.ofList type, String.ofList name) else none

end DocSite.Source
