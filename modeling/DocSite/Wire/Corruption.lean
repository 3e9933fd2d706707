import DocSite.Doc.Item
import DocSite.Text.Hex

/-!
# Damaged streams

Why a byte stream is refused. Every cause that can be pinned to a byte carries
that byte's offset; the wording is in one place, `Corruption.message`.
-/

namespace DocSite.Wire

/-- Which optional value a nil token stands for. -/
inductive Absent where
  | errors
  | onLine
  | onType
  | returns
  | fieldType
  | description
  | sourceUrl
  deriving DecidableEq, Repr

namespace Absent

def code : Absent → UInt8
  | .errors => 0
  | .onLine => 1
  | .onType => 2
  | .returns => 3
  | .fieldType => 4
  | .description => 5
  | .sourceUrl => 6

def ofCode? (b : UInt8) : Option Absent :=
  match b.toNat with
  | 0 => some .errors
  | 1 => some .onLine
  | 2 => some .onType
  | 3 => some .returns
  | 4 => some .fieldType
  | 5 => some .description
  | 6 => some .sourceUrl
  | _ => none

def label : Absent → String
  | .errors => "NoErrors"
  | .onLine => "NoOnLine"
  | .onType => "NoOnType"
  | .returns => "NoReturn"
  | .fieldType => "NoFieldType"
  | .description => "NoDescription"
  | .sourceUrl => "NoSourceUrl"

@[simp] theorem ofCode?_code (k : Absent) : ofCode? k.code = some k := by
  cases k <;> rfl

end Absent

/-- What a token was expected to be. -/
inductive Shape where
  | integer
  | boolean
  | string
  | array
  deriving DecidableEq, Repr

def Shape.word : Shape → String
  | .integer => "integer"
  | .boolean => "boolean"
  | .string => "string"
  | .array => "array"

/-- Values that start with a variant tag. -/
inductive Tagged where
  | subject
  | doc
  | origin
  | piece
  deriving DecidableEq, Repr

namespace Tagged

def word : Tagged → String
  | .subject => "documented type"
  | .doc => "doc"
  | .origin => "type origin"
  | .piece => "description item"

/-- The largest tag in use. -/
def maxTag : Tagged → Nat
  | .subject => 3
  | .doc => 3
  | .origin => 1
  | .piece => 3

end Tagged

inductive Corruption where
  | truncated (offset : Nat)
  | unexpectedMarker (expected : Shape) (marker : UInt8) (offset : Nat)
  | unknownTag (tagged : Tagged) (tag : Nat) (offset : Nat)
  | unknownPlaceholder (byte : UInt8) (offset : Nat)
  | placeholderMismatch (expected : Shape) (found : Absent) (offset : Nat)
  | invalidUtf8 (offset : Nat)
  | badMagic
  | unsupportedVersion (found : UInt8)
  | mismatchedItem (subject doc : Kind)
  | trailingBytes (offset : Nat)
  deriving DecidableEq, Repr

/-- The byte the damage is pinned to, if it is pinned to one. -/
def Corruption.offset? : Corruption → Option Nat
  | .truncated offset => some offset
  | .unexpectedMarker _ _ offset => some offset
  | .unknownTag _ _ offset => some offset
  | .unknownPlaceholder _ offset => some offset
  | .placeholderMismatch _ _ offset => some offset
  | .invalidUtf8 offset => some offset
  | .trailingBytes offset => some offset
  | .badMagic | .unsupportedVersion _ | .mismatchedItem _ _ => none

def Corruption.message : Corruption → String
  | .truncated offset => s!"stream truncated at byte {offset}"
  | .unexpectedMarker expected marker offset =>
    let shown := String.ofList (Text.hexByte marker)
    s!"expected {expected.word} at byte {offset}, found marker 0x{shown}"
  | .unknownTag tagged tag offset => s!"unknown {tagged.word} tag {tag} at byte {offset}"
  | .unknownPlaceholder byte offset =>
    s!"unknown nil placeholder kind {byte.toNat} at byte {offset}"
  | .placeholderMismatch expected found offset =>
    s!"expected {expected.word} at byte {offset}, found nil placeholder {found.label}"
  | .invalidUtf8 offset => s!"invalid UTF-8 in string at byte {offset}"
  | .badMagic => "missing cache file magic"
  | .unsupportedVersion found => s!"unsupported cache format version {found.toNat}"
  | .mismatchedItem subject doc => s!"item pairs a {subject.word} subject with a {doc.word} doc"
  | .trailingBytes offset => s!"unexpected trailing data at byte {offset}"

end DocSite.Wire
