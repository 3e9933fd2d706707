import DocSite.Yaml.Token

/-!
# Events

The nodes of a document, in the order in which they are written: collections
open and close, scalars and aliases stand for themselves. If the tokens do not
fit together, the events up to that point remain and the document is broken.
-/

namespace DocSite.Yaml

inductive Event where
  | scalar (text : List Char) (tag : Option (List Char)) (isPlain : Bool)
  /-- Stands for the node that starts with the event of this number. -/
  | alias (number : Nat)
  | sequenceStart
  | sequenceEnd
  | mappingStart
  | mappingEnd
  deriving DecidableEq, Repr

structure Marked where
  event : Event
  mark : Mark
  deriving Repr

/-- The first document of a text. -/
structure Document where
  events : List Marked
  /-- Where the text ends, if it holds no document at all. -/
  empty : Option Mark
  /-- Whether the document was read to its end and nothing follows it. -/
  isWhole : Bool

/-- Tokens still to be read and events so far, last first. -/
structure Reader where
  tokens : List Placed
  events : List Marked := []
  /-- Anchors with the number of the event they are at, last first. -/
  anchors : List (List Char × Nat) := []
  /-- What tag handles stand for. -/
  handles : List (List Char × List Char) := []

/-- A reader keeps its events when it fails. -/
abbrev Read := EStateM Unit Reader

namespace Read

def fail {α : Type} : Read α := throw ()

/-- The next token, which stays. -/
def peek : Read Placed := do
  match (← get).tokens with
  | t :: _ => pure t
  | [] => fail

def skip : Read Unit := modify fun r => { r with tokens := r.tokens.drop 1 }

def emit (event : Event) (mark : Mark) : Read Unit :=
  modify fun r => { r with events := ⟨event, mark⟩ :: r.events }

/-- A node that is not written. -/
def emitEmpty (mark : Mark) : Read Unit := emit (.scalar [] none true) mark

/-- Names the next event. -/
def name (anchor : Option (List Char)) : Read Unit :=
  match anchor with
  | none => pure ()
  | some a => modify fun r => { r with anchors := (a, r.events.length) :: r.anchors }

/-- An alias names the last anchor of its name; there has to be one. -/
def emitAlias (anchor : List Char) (mark : Mark) : Read Unit := do
  match (← get).anchors.lookup anchor with
  | some number => emit (.alias number) mark
  | none => fail

-- ---------------------------------------------------------------------------
-- Properties of nodes
-- ---------------------------------------------------------------------------

/-- Anchor and tag of a node, in any order, and where the node starts. -/
structure Properties where
  anchor : Option (List Char) := none
  tag : Option (List Char × List Char) := none
  start : Mark

def anchor? : Read (Option (List Char)) := do
  match (← peek).token with
  | .anchor a => do
    skip
    pure (some a)
  | _ => pure none

def tag? : Read (Option (List Char × List Char)) := do
  match (← peek).token with
  | .tag handle suffix => do
    skip
    pure (some (handle, suffix))
  | _ => pure none

def properties : Read Properties := do
  let start := (← peek).start
  match ← anchor? with
  | some a => do
    let tag ← tag?
    pure ⟨some a, tag, start⟩
  | none => do
    match ← tag? with
    | some tag => do
      let anchor ← anchor?
      pure ⟨anchor, some tag, start⟩
    | none => pure ⟨none, none, start⟩

/-- A tag in full. Its handle has to be known. -/
def resolve : Option (List Char × List Char) → Read (Option (List Char))
  | none => pure none
  | some ([], suffix) => pure (some suffix)
  | some (handle, suffix) => do
    match (← get).handles.lookup handle with
    | some uri => pure (some (uri ++ suffix))
    | none => fail

-- ---------------------------------------------------------------------------
-- Nodes
-- ---------------------------------------------------------------------------

/-- Whether a token ends a node of a flow collection before it began. -/
def endsFlowNode (closing : Token) (t : Token) : Bool :=
  t == .value || t == .flowEntry || t == closing

/-- Whether a token ends a node of a block mapping before it began. -/
def endsBlockNode (t : Token) : Bool := t == .key || t == .value || t == .blockEnd

mutual

/-- Reads a node. Block collections are allowed outside brackets; inside a
block mapping a sequence need not be indented. Each call has a token of its own
or comes right after one that has, which bounds `fuel`. -/
def node (isBlock mayHang : Bool) : (fuel : Nat) → Read Unit
  | 0 => fail
  | fuel + 1 => do
    match ← peek with
    | ⟨.alias a, start, _⟩ => do
      emitAlias a start
      skip
    | _ => do
      let p ← properties
      let tag ← resolve p.tag
      name p.anchor
      match ← peek with
      | ⟨.scalar text isPlain, _, _⟩ => do
        emit (.scalar text (tag.filter (· != ['!'])) (isPlain)) p.start
        skip
      | ⟨.flowSequenceStart, _, _⟩ => do
        emit .sequenceStart p.start
        skip
        flowSequence true fuel
      | ⟨.flowMappingStart, _, _⟩ => do
        emit .mappingStart p.start
        skip
        flowMapping true fuel
      | ⟨token, _, _⟩ => do
        if mayHang && token == .entry then do
          emit .sequenceStart p.start
          hangingSequence fuel
        else if isBlock && token == .sequenceStart then do
          emit .sequenceStart p.start
          skip
          blockSequence fuel
        else if isBlock && token == .mappingStart then do
          emit .mappingStart p.start
          skip
          blockMapping fuel
        else if p.anchor.isSome || tag.isSome then
          emit (.scalar [] tag true) p.start
        else fail

def blockSequence : (fuel : Nat) → Read Unit
  | 0 => fail
  | fuel + 1 => do
    match ← peek with
    | ⟨.entry, _, stop⟩ => do
      skip
      let next := (← peek).token
      if next == .entry || next == .blockEnd then emitEmpty stop else node true false fuel
      blockSequence fuel
    | ⟨.blockEnd, start, _⟩ => do
      emit .sequenceEnd start
      skip
    | _ => fail

def hangingSequence : (fuel : Nat) → Read Unit
  | 0 => fail
  | fuel + 1 => do
    match ← peek with
    | ⟨.entry, _, stop⟩ => do
      skip
      let next := (← peek).token
      if next == .entry || endsBlockNode next then emitEmpty stop else node true false fuel
      hangingSequence fuel
    | ⟨_, start, _⟩ => emit .sequenceEnd start

def blockMapping : (fuel : Nat) → Read Unit
  | 0 => fail
  | fuel + 1 => do
    match ← peek with
    | ⟨.key, _, stop⟩ => do
      skip
      if endsBlockNode (← peek).token then emitEmpty stop else node true true fuel
      match ← peek with
      | ⟨.value, _, stop⟩ => do
        skip
        if endsBlockNode (← peek).token then emitEmpty stop else node true true fuel
      | ⟨_, start, _⟩ => emitEmpty start
      blockMapping fuel
    | ⟨.blockEnd, start, _⟩ => do
      emit .mappingEnd start
      skip
    | _ => fail

/-- Between brackets; entries are separated by commas, and the last comma may
stand before the closing bracket. A key makes the entry a mapping of one pair. -/
def flowSequence (isFirst : Bool) : (fuel : Nat) → Read Unit
  | 0 => fail
  | fuel + 1 => do
    if (← peek).token != .flowSequenceEnd && !isFirst then do
      if (← peek).token == .flowEntry then skip else fail
    match ← peek with
    | ⟨.flowSequenceEnd, start, _⟩ => do
      emit .sequenceEnd start
      skip
    | ⟨.key, start, _⟩ => do
      emit .mappingStart start
      skip
      let next ← peek
      if endsFlowNode .flowSequenceEnd next.token then do
        skip
        emitEmpty next.stop
      else node false false fuel
      flowPairValue fuel
      emit .mappingEnd (← peek).start
      flowSequence false fuel
    | _ => do
      node false false fuel
      flowSequence false fuel

def flowPairValue : (fuel : Nat) → Read Unit
  | 0 => fail
  | fuel + 1 => do
    if (← peek).token == .value then do
      skip
      let next ← peek
      if next.token == .flowEntry || next.token == .flowSequenceEnd then emitEmpty next.start
      else node false false fuel
    else emitEmpty (← peek).start

/-- Between braces. -/
def flowMapping (isFirst : Bool) : (fuel : Nat) → Read Unit
  | 0 => fail
  | fuel + 1 => do
    if (← peek).token != .flowMappingEnd && !isFirst then do
      if (← peek).token == .flowEntry then skip else fail
    match ← peek with
    | ⟨.flowMappingEnd, start, _⟩ => do
      emit .mappingEnd start
      skip
    | ⟨.key, _, _⟩ => do
      skip
      let next ← peek
      if endsFlowNode .flowMappingEnd next.token then emitEmpty next.start
      else node false false fuel
      if (← peek).token == .value then do
        skip
        let next ← peek
        if next.token == .flowEntry || next.token == .flowMappingEnd then emitEmpty next.start
        else node false false fuel
      else emitEmpty (← peek).start
      flowMapping false fuel
    | _ => do
      node false false fuel
      emitEmpty (← peek).start
      flowMapping false fuel

end

-- ---------------------------------------------------------------------------
-- Documents
-- ---------------------------------------------------------------------------

/-- Reads directives: at most one version, which has to be 1.1 or 1.2, and
handles that differ. -/
def directives (versionSeen : Bool) : (fuel : Nat) → Read Unit
  | 0 => fail
  | fuel + 1 => do
    match (← peek).token with
    | .version major minor => do
      if versionSeen || major ≠ 1 || (minor ≠ 1 && minor ≠ 2) then fail
      skip
      directives true fuel
    | .handle handle uri => do
      if ((← get).handles.lookup handle).isSome then fail
      skip
      modify fun r => { r with handles := (handle, uri) :: r.handles }
      directives versionSeen fuel
    | _ => pure ()

/-- Handles that are known without a directive, unless one redefines them. -/
def defaultHandles : List (List Char × List Char) :=
  [(['!'], ['!']), (['!', '!'], "tag:yaml.org,2002:".toList)]

/-- Whether a token can only stand between documents. -/
def isBetweenDocuments (t : Token) : Bool :=
  match t with
  | .version _ _ => true
  | .handle _ _ => true
  | .documentStart => true
  | .documentEnd => true
  | .streamEnd => true
  | _ => false

/-- Reads a document that has one of directives or an explicit start, or
neither. -/
def document (fuel : Nat) : Read Unit := do
  let first := (← peek).token
  if isBetweenDocuments first && first != .documentEnd then do
    directives false fuel
    if (← peek).token == .documentStart then skip else fail
    modify fun r => { r with handles := r.handles ++ defaultHandles }
    let next ← peek
    if isBetweenDocuments next.token then emitEmpty next.start else node true false fuel
  else do
    modify fun r => { r with handles := defaultHandles }
    node true false fuel

/-- Reads past the end of a document; says whether the text ends there. -/
def isLast (fuel : Nat) : Read Bool :=
  match fuel with
  | 0 => fail
  | fuel + 1 => do
    match (← peek).token with
    | .documentEnd => do
      skip
      isLast fuel
    | .streamEnd => pure true
    | _ => pure false

end Read

/-- The first document of a text. -/
def firstDocument (text : List Char) : Document :=
  let ts := tokens text
  match ts with
  | ⟨.streamEnd, start, _⟩ :: _ => ⟨[], some start, true⟩
  | _ =>
    let fuel := 4 * ts.length + 4
    match (do Read.document fuel; Read.isLast fuel : Read Bool) { tokens := ts } with
    | .ok isWhole r => ⟨r.events.reverse, none, isWhole⟩
    | .error _ r => ⟨r.events.reverse, none, false⟩

end DocSite.Yaml
