import DocSite.Text.Blank
import DocSite.Text.Punctuation

/-!
# Emphasis

Runs of `*` and `_` open and close emphasis. What a run can do depends on its
neighbours; which runs pair up is settled from left to right, each closer taking
the nearest opener that fits. Runs left over are text.
-/

namespace DocSite.Markdown

/-- Text with its markup. -/
inductive Inline where
  | text (text : List Char)
  | code (text : List Char)
  | html (text : List Char)
  | softBreak
  | hardBreak
  | emphasis (content : List Inline)
  | strong (content : List Inline)
  | link (isMail : Bool) (destination title : List Char) (content : List Inline)
  | image (destination title : List Char) (content : List Inline)

-- ---------------------------------------------------------------------------
-- What a run can do
-- ---------------------------------------------------------------------------

/-- Whether a run of `mark` between two characters can open emphasis. -/
def canOpen (mark : Char) (before after : Option Char) : Bool :=
  match after with
  | none => false
  | some a =>
    if Text.isBlank a then false
    else match before with
      | none => true
      | some b =>
        if mark == '*' && !Text.isPunctuation a then true
        else Text.isBlank b || Text.isPunctuation b

/-- Whether a run of `mark` between two characters can close emphasis. -/
def canClose (mark : Char) (before after : Option Char) : Bool :=
  match before with
  | none => false
  | some b =>
    if Text.isBlank b then false
    else match after with
      | none => true
      | some a =>
        if mark == '*' && !Text.isPunctuation b then true
        else Text.isBlank a || Text.isPunctuation a

/-- A run of emphasis marks. -/
structure Run where
  mark : Char
  length : Nat
  opens : Bool
  closes : Bool

def Run.both (r : Run) : Bool := r.opens && r.closes

-- ---------------------------------------------------------------------------
-- Pairing
-- ---------------------------------------------------------------------------

/-- A run that waits for its closer: how many marks are left of it, and what
came after it, last first. -/
structure Opener where
  run : Run
  left : Nat
  content : List Inline

/-- Whether a closer may take an opener. If either can do both, their lengths
must not add up to a multiple of three, unless both are multiples. -/
def Opener.fits (o : Opener) (closer : Run) : Bool :=
  o.run.mark == closer.mark &&
    ((!closer.both && !o.run.both) || (closer.length + o.run.length) % 3 != 0 ||
      closer.length % 3 == 0)

/-- What has been read: what stands before the first opener, last first, and
the openers, innermost first. -/
structure Pairing where
  front : List Inline
  openers : List Opener

def Pairing.push (p : Pairing) (nodes : List Inline) : Pairing :=
  match p.openers with
  | [] => { p with front := nodes ++ p.front }
  | o :: os => { p with openers := { o with content := nodes ++ o.content } :: os }

def marks (mark : Char) (n : Nat) : Inline := .text (List.replicate n mark)

/-- An opener without its closer, as text, last first. -/
def Opener.spill (o : Opener) : List Inline := o.content ++ [marks o.run.mark o.left]

/-- Content inside `n` pairs of marks, two pairs for strong emphasis. -/
def enclose : (n : Nat) → List Inline → List Inline
  | 0, content => content
  | 1, content => [.emphasis content]
  | n + 2, content => enclose n [.strong content]

/-- The nearest opener for a closer, with the openers inside and outside it. -/
def nearest? (closer : Run) : List Opener → Option (List Opener × Opener × List Opener)
  | [] => none
  | o :: os =>
    if o.fits closer then some ([], o, os)
    else (nearest? closer os).map fun (inside, found, outside) => (o :: inside, found, outside)

/-- Lets a closer with `n` marks take openers as long as it has marks left. -/
def closeRun (closer : Run) (n : Nat) (p : Pairing) : Nat × Pairing :=
  if _h : n = 0 then (0, p)
  else
    match nearest? closer p.openers with
    | none => (n, p)
    | some (inside, o, outside) =>
      let content := (inside.flatMap Opener.spill ++ o.content).reverse
      let pairs := min n o.left
      let nodes := (enclose pairs content).reverse
      let p := if o.left ≤ n then Pairing.push { p with openers := outside } nodes
        else { p with openers := { o with left := o.left - n, content := nodes } :: outside }
      closeRun closer (n - max 1 pairs) p
termination_by n
decreasing_by omega

def Pairing.addRun (p : Pairing) (r : Run) : Pairing :=
  let (n, p) := if r.closes then closeRun r r.length p else (r.length, p)
  if n = 0 then p
  else if r.opens then { p with openers := ⟨r, n, []⟩ :: p.openers }
  else p.push [marks r.mark n]

def Pairing.content (p : Pairing) : List Inline :=
  (p.openers.flatMap Opener.spill ++ p.front).reverse

/-- Pairs up the runs of a text. -/
def pairRuns (parts : List (Inline ⊕ Run)) : List Inline :=
  (parts.foldl (fun p part =>
    match part with
    | .inl node => p.push [node]
    | .inr run => p.addRun run) (⟨[], []⟩ : Pairing)).content

end DocSite.Markdown
