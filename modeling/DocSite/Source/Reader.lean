import DocSite.Doc.Library
import DocSite.Source.Brace
import DocSite.Source.Comment
import DocSite.Source.Declaration
import DocSite.Text.Lines

/-!
# Reading a source file

A file is read line by line. A documentation comment is kept until the next
line of code, which takes it whether or not it declares anything. Declarations
are looked for at one brace depth only: at depth zero, or one level into the
open entity. Deeper lines are bodies and are only counted.
-/

namespace DocSite.Source

/-- The library and import path that everything in a file belongs to. -/
structure Place where
  library : String
  path : String
  deriving DecidableEq, Repr

/-- An entity whose body has not ended. -/
structure OpenEntity where
  name : String
  comment : Comment
  bodyDepth : Nat
  /-- Whether the body's opening brace has been seen. -/
  entered : Bool := false
  items : List Item := []
  deriving Repr

inductive Mode where
  | code
  /-- Inside a documentation comment, with its lines so far. -/
  | comment (lines : List (List Char))
  /-- Inside a plain block comment. -/
  | block
  deriving DecidableEq, Repr

structure State where
  items : List Item := []
  entity : Option OpenEntity := none
  mode : Mode := .code
  pending : Option Comment := none
  depth : Nat := 0
  deriving Repr

def OpenEntity.close (p : Place) (e : OpenEntity) : Item :=
  .entity ⟨p.library, p.path, e.name⟩
    { description := e.comment.description, contained := e.items }

namespace State

/-- The brace depth at which declarations stand. -/
def declarationDepth (s : State) : Nat :=
  match s.entity with
  | some e => e.bodyDepth
  | none => 0

/-- Adds an item to the open entity, or to the file. -/
def push (s : State) (i : Item) : State :=
  match s.entity with
  | some e => { s with entity := some { e with items := e.items ++ [i] } }
  | none => { s with items := s.items ++ [i] }

def brace (s : State) : Brace → State
  | .opening =>
    { s with
      depth := s.depth + 1
      entity := s.entity.map fun e =>
        if e.bodyDepth ≤ s.depth + 1 then { e with entered := true } else e }
  | .closing => { s with depth := s.depth - 1 }

/-- Ends the open entity once its body has been entered and left. -/
def closeBody (p : Place) (s : State) : State :=
  match s.entity with
  | some e =>
    if e.entered ∧ s.depth < e.bodyDepth then
      { s with entity := none, items := s.items ++ [e.close p] }
    else s
  | none => s

/-- Ends the open entity at the end of the file. -/
def finish (p : Place) (s : State) : List Item :=
  match s.entity with
  | some e => s.items ++ [e.close p]
  | none => s.items

end State

def FunctionLine.item (f : FunctionLine) (p : Place) (inEntity : Bool) (c : Comment) : Item :=
  .function
    { library := p.library, path := p.path, name := f.name, params := f.params
      isNative := f.modifiers.isNative, isStatic := f.modifiers.isStatic
      on := if inEntity then none else f.on }
    { description := c.description, params := c.params, returns := c.returns
      on := c.on, errors := c.errors }

/-- What a line of code declares, tried in this order: a function, an entity
where none is open, a constructor of the open entity, a documented field. -/
def declare (p : Place) (s : State) (line : List Char) (doc : Option Comment) : State :=
  let comment := doc.getD {}
  match functionLine? line with
  | some f => s.push (f.item p s.entity.isSome comment)
  | none =>
    match s.entity, entityLine? line with
    | none, some name => { s with entity := some ⟨name, comment, s.depth + 1, false, []⟩ }
    | _, _ =>
      match s.entity.bind fun e => (constructorLine? line).filter (·.1 = e.name) with
      | some (name, params) =>
        s.push (.constructor ⟨p.library, p.path, name, params⟩
          ⟨comment.description, comment.params⟩)
      | none =>
        match doc, fieldLine? line with
        | some c, some (type, name) =>
          s.push (.field ⟨p.library, p.path, type, name⟩ ⟨c.description, c.type⟩)
        | _, _ => s

/-- A line of code: it takes the pending comment, may declare something, and
moves the brace depth. -/
def codeLine (p : Place) (s : State) (line : List Char) : State :=
  let doc := s.pending
  let s := { s with pending := none }
  let s := if s.depth = s.declarationDepth then declare p s line doc else s
  ((braces line).foldl State.brace s).closeBody p

/-- A line of a documentation comment. -/
def commentLine (s : State) (lines : List (List Char)) (line : List Char) : State :=
  match Text.cut? "*/".toList line with
  | some (body, _) =>
    let last := bodyLine body
    let lines := if last.isEmpty then lines else lines ++ [last]
    { s with mode := .code, pending := some (.ofLines lines) }
  | none => { s with mode := .comment (lines ++ [bodyLine line]) }

/-- A line that opens a documentation comment, after its `/**`. -/
def openComment (s : State) (rest : List Char) : State :=
  match Text.cut? "*/".toList rest with
  | some (body, _) => { s with pending := some (.ofLines [bodyLine body]) }
  | none =>
    let first := bodyLine rest
    { s with mode := .comment (if first.isEmpty then [] else [first]) }

def step (p : Place) (s : State) (raw : List Char) : State :=
  let line := Text.trim raw
  match s.mode with
  | .comment lines => commentLine s lines line
  | .block =>
    if (Text.cut? "*/".toList line).isSome then { s with mode := .code } else s
  | .code =>
    match Text.after? "/**".toList line with
    | some rest => openComment s rest
    | none =>
      if "/*".toList.isPrefixOf line then
        if (Text.cut? "*/".toList line).isSome then s else { s with mode := .block }
      else if line.isEmpty || "//".toList.isPrefixOf line then s
      else codeLine p s line

/-- The items of a file given as lines. -/
def parseLines (p : Place) (lines : List (List Char)) : List Item :=
  (lines.foldl (step p) {}).finish p

/-- The last component of an import path. -/
def fileName (path : String) : String :=
  String.ofList ((Text.splitAll (· == '/') path.toList).getLastD [])

def parse (p : Place) (source : String) : SourceFile :=
  { name := fileName p.path, importPath := p.path,
    items := parseLines p (Text.lines source.toList) }

end DocSite.Source
