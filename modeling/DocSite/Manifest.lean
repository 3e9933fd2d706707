import DocSite.Doc.Library
import DocSite.Text.Binary64
import DocSite.Text.Quoted
import DocSite.Yaml.Event

/-!
# Manifests

A library introduces itself in a YAML mapping. Four fields are required and one
is optional; other fields are passed over. Every scalar counts as a text, quoted
or not. What is wrong is told in the order of reading, so a field of the wrong
type is reported although the text may be broken further on.
-/

namespace DocSite

namespace Manifest

inductive Field where
  | name
  | version
  | author
  | description
  | sourceUrl
  deriving DecidableEq, Repr

def Field.word : Field → String
  | .name => "name"
  | .version => "version"
  | .author => "author"
  | .description => "description"
  | .sourceUrl => "source_url"

/-- The source address has two spellings. -/
def Field.ofKey? (key : String) : Option Field :=
  match key with
  | "name" => some .name
  | "version" => some .version
  | "author" => some .author
  | "description" => some .description
  | "source_url" => some .sourceUrl
  | "sourceUrl" => some .sourceUrl
  | _ => none

-- ---------------------------------------------------------------------------
-- What stands where something else was expected
-- ---------------------------------------------------------------------------

inductive Found where
  | sequence
  | map
  | unit
  | boolean (b : Bool)
  | integer (n : Int)
  /-- An integer of more than 64 bits. -/
  | wideInteger (n : Int)
  | float (text : String)
  | string (s : String)
  deriving DecidableEq, Repr

def Found.label : Found → String
  | .sequence => "sequence"
  | .map => "map"
  | .unit => "unit value"
  | .boolean b => "boolean `" ++ (if b then "true" else "false") ++ "`"
  | .integer n => "integer `" ++ toString n ++ "`"
  | .wideInteger n => "integer `" ++ toString n ++ "` as " ++ if n < 0 then "i128" else "u128"
  | .float text => "floating point `" ++ text ++ "`"
  | .string s => "string " ++ Text.quote s

def isNull (s : List Char) : Bool :=
  ["null", "Null", "NULL", "~"].contains (String.ofList s)

def boolean? (s : List Char) : Option Bool :=
  if ["true", "True", "TRUE"].contains (String.ofList s) then some true
  else if ["false", "False", "FALSE"].contains (String.ofList s) then some false
  else none

/-- Digits of a base, at least one. -/
def digits? (base : Nat) (s : List Char) : Option Nat :=
  let ds := s.filterMap fun c => (Text.hexValue? c).filter (· < base)
  if s.isEmpty || ds.length ≠ s.length then none
  else some (ds.foldl (fun n d => base * n + d) 0)

/-- A whole number without its sign: decimal digits, or `0x`, `0o` or `0b` and
digits of that base. -/
def magnitude? : List Char → Option Nat
  | '0' :: 'x' :: s => digits? 16 s
  | '0' :: 'o' :: s => digits? 8 s
  | '0' :: 'b' :: s => digits? 2 s
  | s => digits? 10 s

/-- Zeros in front of further digits make a text, not a number. -/
def hasLeadingZero : List Char → Bool
  | '0' :: s => !s.isEmpty && s.all Char.isDigit
  | _ => false

def splitSign : List Char → Bool × List Char
  | '-' :: s => (true, s)
  | '+' :: s => (false, s)
  | s => (false, s)

/-- A whole number of at most 128 bits. -/
def integer? (s : List Char) : Option Found :=
  let (isNegative, s) := splitSign s
  if hasLeadingZero s then none
  else match magnitude? s with
    | none => none
    | some n =>
      if isNegative then
        if n ≤ Nat.pow 2 63 then some (.integer (-n))
        else if n ≤ Nat.pow 2 127 then some (.wideInteger (-n))
        else none
      else if n < Nat.pow 2 64 then some (.integer n)
      else if n < Nat.pow 2 128 then some (.wideInteger n)
      else none

/-- A number with a point or an exponent, or one of the special values. -/
def float? (s : List Char) : Option Found :=
  let (isNegative, t) := splitSign s
  let sign := if isNegative then "-" else ""
  if [".inf", ".Inf", ".INF"].contains (String.ofList t) then some (.float (sign ++ "inf"))
  else if [".nan", ".NaN", ".NAN"].contains (String.ofList s) then some (.float "NaN")
  else do
    let (digits, power) ← Text.numeral? t
    let b ← Text.Binary64.ofDecimal? digits power
    some (.float (sign ++ String.ofList b.toText))

/-- What a plain scalar without a tag is taken for. -/
def ofPlain (s : List Char) : Found :=
  if s.isEmpty || isNull s then .unit
  else match boolean? s with
    | some b => .boolean b
    | none =>
      (integer? s).getD
        ((if hasLeadingZero (splitSign s).2 then none else float? s).getD (.string (String.ofList s)))

def coreTag (name : String) : List Char := "tag:yaml.org,2002:".toList ++ name.toList

/-- What a scalar is taken for; none if its tag does not fit it. -/
def ofScalar? (s : List Char) (tag : Option (List Char)) (isPlain : Bool) : Option Found :=
  match tag with
  | none => some (if isPlain then ofPlain s else .string (String.ofList s))
  | some tag =>
    if tag == coreTag "bool" then (boolean? s).map .boolean
    else if tag == coreTag "int" then integer? s
    else if tag == coreTag "float" then float? s
    else if tag == coreTag "null" then if isNull s then some .unit else none
    else if tag.head? == some '!' && isPlain then some (ofPlain s)
    else some (.string (String.ofList s))

-- ---------------------------------------------------------------------------
-- Errors
-- ---------------------------------------------------------------------------

/-- Why a manifest is refused. A place is given with all but broken texts. -/
inductive Error where
  | malformed
  | missing (field : Field) (mark : Yaml.Mark)
  | duplicate (field : Field) (mark : Yaml.Mark)
  /-- Under a key, or at the top, or where a key was expected. -/
  | wrongType (key : Option String) (found : Found) (expected : String) (mark : Yaml.Mark)
  deriving DecidableEq, Repr

/-- Places count from one. The very start of a text goes without saying. -/
def place (m : Yaml.Mark) : String :=
  if m.line = 0 && m.column = 0 then ""
  else " at line " ++ toString (m.line + 1) ++ " column " ++ toString (m.column + 1)

def Error.message : Error → String
  | .malformed => "malformed document"
  | .missing field mark => "missing field `" ++ field.word ++ "`" ++ place mark
  | .duplicate field mark => "duplicate field `" ++ field.word ++ "`" ++ place mark
  | .wrongType key found expected mark =>
    (match key with
      | some key => key ++ ": "
      | none => "") ++
      "invalid type: " ++ found.label ++ ", expected " ++ expected ++ place mark

-- ---------------------------------------------------------------------------
-- Reading
-- ---------------------------------------------------------------------------

open Yaml (Marked)

abbrev Events := List Marked

/-- The event an alias stands for. -/
def follow (all : Events) (m : Marked) : Marked :=
  match m.event with
  | .alias number => (all.drop number).head?.getD m
  | _ => m

/-- What follows a node. -/
def afterNode : (depth : Nat) → Events → Option Events
  | _, [] => none
  | depth, m :: rest =>
    match m.event with
    | .sequenceStart => afterNode (depth + 1) rest
    | .mappingStart => afterNode (depth + 1) rest
    | .sequenceEnd => if depth = 1 then some rest else afterNode (depth - 1) rest
    | .mappingEnd => if depth = 1 then some rest else afterNode (depth - 1) rest
    | _ => if depth = 0 then some rest else afterNode depth rest

/-- The text of a node; scalars of every kind will do. -/
def text? (all : Events) (key : Option String) (expected : String) :
    Events → Except Error (String × Events)
  | [] => .error .malformed
  | m :: rest =>
    let m := follow all m
    match m.event with
    | .scalar s _ _ => .ok (String.ofList s, rest)
    | .sequenceStart => .error (.wrongType key .sequence expected m.mark)
    | .mappingStart => .error (.wrongType key .map expected m.mark)
    | _ => .error .malformed

/-- The text of a node that may be absent: plain and empty or null. -/
def optionalText? (all : Events) (key : Option String) (events : Events) :
    Except Error (Option String × Events) :=
  match events with
  | [] => .error .malformed
  | m :: rest =>
    match (follow all m).event with
    | .scalar s tag isPlain =>
      let present := .ok (some (String.ofList s), rest)
      if !isPlain then present
      else if tag == some (coreTag "null") then
        if isNull s then .ok (none, rest) else .error .malformed
      else if tag.isNone && (s.isEmpty || isNull s) then .ok (none, rest)
      else present
    | _ => (text? all key "a string" events).map fun (s, rest) => (some s, rest)

/-- The fields read so far. -/
structure Fields where
  name : Option String := none
  version : Option String := none
  author : Option String := none
  description : Option String := none
  sourceUrl : Option (Option String) := none

def Fields.has (f : Fields) : Field → Bool
  | .name => f.name.isSome
  | .version => f.version.isSome
  | .author => f.author.isSome
  | .description => f.description.isSome
  | .sourceUrl => f.sourceUrl.isSome

/-- The address without slashes at its end; an empty one is none. -/
def trimUrl (url : String) : Option String :=
  let s := (url.toList.reverse.dropWhile (· == '/')).reverse
  if s.isEmpty then none else some (String.ofList s)

def Fields.metadata (f : Fields) (start : Yaml.Mark) : Except Error Metadata := do
  let require (field : Field) (value : Option String) : Except Error String :=
    match value with
    | some s => .ok s
    | none => .error (.missing field start)
  return {
    name := ← require .name f.name
    version := ← require .version f.version
    author := ← require .author f.author
    description := ← require .description f.description
    sourceUrl := (f.sourceUrl.getD none).bind trimUrl }

/-- Reads the value of a field. -/
def Fields.read (all : Events) (key : Option String) (f : Fields) (field : Field)
    (events : Events) : Except Error (Fields × Events) := do
  match field with
  | .name => do
    let (s, rest) ← text? all key "a string" events
    return ({ f with name := some s }, rest)
  | .version => do
    let (s, rest) ← text? all key "a string" events
    return ({ f with version := some s }, rest)
  | .author => do
    let (s, rest) ← text? all key "a string" events
    return ({ f with author := some s }, rest)
  | .description => do
    let (s, rest) ← text? all key "a string" events
    return ({ f with description := some s }, rest)
  | .sourceUrl => do
    let (s, rest) ← optionalText? all key events
    return ({ f with sourceUrl := some s }, rest)

/-- Reads the pairs of the mapping that starts at `start`. Every pair takes two
events at least, which bounds `fuel`. -/
def pairs (all : Events) (start : Yaml.Mark) :
    (fuel : Nat) → Fields → Events → Except Error (Fields × Events)
  | 0, _, _ => .error .malformed
  | fuel + 1, f, events =>
    match events with
    | [] => .error .malformed
    | m :: rest =>
      match m.event with
      | .mappingEnd => .ok (f, rest)
      | _ => do
        let (key, rest) ← text? all none "field identifier" events
        -- An alias in place of a key is not looked up to name the key.
        let shown := match m.event with
          | .alias _ => "?"
          | _ => key
        match Field.ofKey? key with
        | some field =>
          if f.has field then .error (.duplicate field start)
          else do
            let (f, rest) ← f.read all (some shown) field rest
            pairs all start fuel f rest
        | none =>
          match afterNode 0 rest with
          | some rest => pairs all start fuel f rest
          | none => .error .malformed

def expected : String := "struct LibraryMetadata"

/-- Reads the node at the top of a document. -/
def ofEvents (all : Events) : Except Error Metadata :=
  match all with
  | [] => .error .malformed
  | m :: rest =>
    match m.event with
    | .mappingStart => do
      let (f, _) ← pairs all m.mark (rest.length + 1) {} rest
      f.metadata m.mark
    | .sequenceStart => .error (.wrongType none .sequence expected m.mark)
    | .scalar s tag isPlain =>
      if s.isEmpty && isPlain then ({} : Fields).metadata m.mark
      else match ofScalar? s tag isPlain with
        | some found => .error (.wrongType none found expected m.mark)
        | none => .error .malformed
    | _ => .error .malformed

end Manifest

/-- The metadata a manifest declares. A text that holds no document declares no
field. -/
def Metadata.ofManifest (text : String) : Except Manifest.Error Metadata := do
  let document := Yaml.firstDocument text.toList
  match document.empty with
  | some mark => ({} : Manifest.Fields).metadata mark
  | none => do
    let metadata ← Manifest.ofEvents document.events
    if document.isWhole then return metadata else throw .malformed

end DocSite
