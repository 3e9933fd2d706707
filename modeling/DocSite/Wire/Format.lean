import DocSite.Wire.Decoder
import DocSite.Doc.Library

/-!
# The format of each documented value

Values are written field by field in a fixed order, so a value is its token
list. A value of several variants starts with a tag; an optional value is
either the value itself or a nil of its own kind. `Format` pairs the token list
of a type with its reader.

Items hold items. Reading is bounded by the number of bytes left: an item that
stands inside another starts at least one byte further on, so when the bound is
used up no byte is left and the read is refused as truncated anyway.
-/

namespace DocSite.Wire

class Format (α : Type) where
  tokens : α → List Token
  read : Decoder α

/-- Values that may be absent, with the kind of nil that says so. -/
class Omissible (α : Type) extends Format α where
  absent : Absent

open Format (tokens read)

def optionalTokens {α : Type} (absent : Absent) (value : α → List Token) : Option α → List Token
  | some v => value v
  | none => [.nil absent]

def listTokens {α : Type} (value : α → List Token) (vs : List α) : List Token :=
  .array vs.length :: vs.flatMap value

instance : Format String where
  tokens text := [.str text]
  read := Decoder.str

instance {α : Type} [Omissible α] : Format (Option α) where
  tokens := optionalTokens (Omissible.absent α) tokens
  read := Decoder.optional (Omissible.absent α) read

instance {α : Type} [Format α] : Format (List α) where
  tokens := listTokens tokens
  read := Decoder.list read

-- ---------------------------------------------------------------------------
-- Prose
-- ---------------------------------------------------------------------------

instance : Format Origin where
  tokens
    | .script => [.uint 0]
    | .host => [.uint 1]
  read := do
    match ← Decoder.tag .origin with
    | 0 => return .script
    | _ => return .host

instance : Omissible TypeRef where
  tokens t := tokens t.origin ++ tokens t.name
  read := do return { origin := ← read, name := ← read }
  absent := .fieldType

instance : Format Piece where
  tokens
    | .text text => [.uint 0, .str text]
    | .host className => [.uint 1, .str className]
    | .param name => [.uint 2, .str name]
    | .type name => [.uint 3, .str name]
  read := do
    let tag ← Decoder.tag .piece
    let value ← Decoder.str
    match tag with
    | 0 => return .text value
    | 1 => return .host value
    | 2 => return .param value
    | _ => return .type value

instance : Omissible Description where
  tokens d := tokens d.pieces
  read := do return ⟨← read⟩
  absent := .description

-- ---------------------------------------------------------------------------
-- Docs
-- ---------------------------------------------------------------------------

instance : Format ParamDoc where
  tokens d := tokens d.name ++ tokens d.type ++ tokens d.description
  read := do return { name := ← read, type := ← read, description := ← read }

instance : Omissible ReturnDoc where
  tokens d := tokens d.type ++ tokens d.description
  read := do return { type := ← read, description := ← read }
  absent := .returns

instance : Omissible OnDoc where
  tokens d := tokens d.type ++ tokens d.description
  read := do return { type := ← read, description := ← read }
  absent := .onLine

instance : Omissible ErrorsDoc where
  tokens d := tokens d.description
  read := do return { description := ← read }
  absent := .errors

instance : Format ConstructorDoc where
  tokens d := tokens d.description ++ tokens d.params
  read := do return { description := ← read, params := ← read }

instance : Format FieldDoc where
  tokens d := tokens d.description ++ tokens d.type
  read := do return { description := ← read, type := ← read }

instance : Format FunctionDoc where
  tokens d :=
    tokens d.description ++ tokens d.params ++ tokens d.returns ++ tokens d.on ++ tokens d.errors
  read := do
    return { description := ← read, params := ← read, returns := ← read, on := ← read,
             errors := ← read }

-- ---------------------------------------------------------------------------
-- Subjects
-- ---------------------------------------------------------------------------

instance : Format EntitySubject where
  tokens s := tokens s.library ++ tokens s.path ++ tokens s.name
  read := do return { library := ← read, path := ← read, name := ← read }

instance : Format ConstructorSubject where
  tokens s := tokens s.library ++ tokens s.path ++ tokens s.name ++ tokens s.params
  read := do return { library := ← read, path := ← read, name := ← read, params := ← read }

instance : Format FieldSubject where
  tokens s := tokens s.library ++ tokens s.path ++ tokens s.declaredType ++ tokens s.name
  read := do
    return { library := ← read, path := ← read, declaredType := ← read, name := ← read }

instance : Format FunctionSubject where
  tokens s :=
    tokens s.library ++ tokens s.path ++ tokens s.name ++ tokens s.params ++
      [.bool s.isNative, .bool s.isStatic] ++ optionalTokens .onType tokens s.on
  read := do
    return { library := ← read, path := ← read, name := ← read, params := ← read,
             isNative := ← Decoder.bool, isStatic := ← Decoder.bool,
             on := ← Decoder.optional .onType read }

instance : Format Subject where
  tokens
    | .entity s => .uint 0 :: tokens s
    | .constructor s => .uint 1 :: tokens s
    | .field s => .uint 2 :: tokens s
    | .function s => .uint 3 :: tokens s
  read := do
    match ← Decoder.tag .subject with
    | 0 => return .entity (← read)
    | 1 => return .constructor (← read)
    | 2 => return .field (← read)
    | _ => return .function (← read)

-- ---------------------------------------------------------------------------
-- Items
-- ---------------------------------------------------------------------------

mutual

def itemTokens : Item → List Token
  | .entity s d => tokens (Subject.entity s) ++ entityDocTokens d
  | .constructor s d => tokens (Subject.constructor s) ++ (.uint 0 :: tokens d)
  | .field s d => tokens (Subject.field s) ++ (.uint 2 :: tokens d)
  | .function s d => tokens (Subject.function s) ++ (.uint 3 :: tokens d)

def entityDocTokens : EntityDoc Item → List Token
  | ⟨description, contained, extensions⟩ =>
    .uint 1 :: (tokens description ++
      (.array contained.length :: itemsTokens contained) ++
      (.array extensions.length :: itemsTokens extensions))

def itemsTokens : List Item → List Token
  | [] => []
  | i :: is => itemTokens i ++ itemsTokens is

end

def docTokens : Doc → List Token
  | .entity d => entityDocTokens d
  | .constructor d => .uint 0 :: tokens d
  | .field d => .uint 2 :: tokens d
  | .function d => .uint 3 :: tokens d

theorem itemsTokens_eq_flatMap (is : List Item) : itemsTokens is = is.flatMap itemTokens := by
  induction is with
  | nil => rfl
  | cons i is ih => simp [itemsTokens, ih]

theorem itemTokens_eq (i : Item) : itemTokens i = tokens i.subject ++ docTokens i.doc := by
  cases i <;> simp [itemTokens, Item.subject, Item.doc, docTokens]

/-- Reads a doc, given how to read the items inside it. -/
def readDocWith (item : Decoder Item) : Decoder Doc := do
  match ← Decoder.tag .doc with
  | 0 => return .constructor (← read)
  | 1 =>
    return .entity
      { description := ← read, contained := ← Decoder.list item,
        extensions := ← Decoder.list item }
  | 2 => return .field (← read)
  | _ => return .function (← read)

def readItemWith (item : Decoder Item) : Decoder Item := do
  let subject : Subject ← read
  let doc ← readDocWith item
  match Item.ofParts? subject doc with
  | some i => return i
  | none => Decoder.fail (.mismatchedItem subject.kind doc.kind)

/-- Reads an item in which items are nested less deep than the bound. -/
def readItemWithin : Nat → Decoder Item
  | 0 => Decoder.truncated
  | bound + 1 => readItemWith (readItemWithin bound)

instance : Format Item where
  tokens := itemTokens
  read := fun c => readItemWithin c.remaining c

instance : Format Doc where
  tokens := docTokens
  read := fun c => readDocWith (readItemWithin c.remaining) c

-- ---------------------------------------------------------------------------
-- Libraries
-- ---------------------------------------------------------------------------

instance : Format SourceFile where
  tokens f := tokens f.name ++ tokens f.importPath ++ tokens f.items
  read := do return { name := ← read, importPath := ← read, items := ← read }

instance : Format Metadata where
  tokens m :=
    tokens m.name ++ tokens m.version ++ tokens m.author ++ tokens m.description ++
      optionalTokens .sourceUrl tokens m.sourceUrl
  read := do
    return { name := ← read, version := ← read, author := ← read, description := ← read,
             sourceUrl := ← Decoder.optional .sourceUrl read }

-- ---------------------------------------------------------------------------
-- Bytes
-- ---------------------------------------------------------------------------

/-- The bytes of a value, without framing. -/
def encode {α : Type} [Format α] (v : α) : List UInt8 := (tokens v).flatMap Token.bytes

/-- Reads one value that takes up the whole stream. -/
def decode {α : Type} [Format α] (bytes : List UInt8) : Except Corruption α :=
  Decoder.run read bytes

end DocSite.Wire
