import DocSite.Wire.Token

/-!
# Reading tokens

A decoder walks a cursor over the bytes. It either returns a value or refuses
the stream; the cursor is kept in both cases, so how far a refused read got can
be asked. Reads never look past the last byte: a read that would is refused as
truncated at the end of the stream, and the cursor stays where it was.
-/

namespace DocSite.Wire

/-- A position in a stream and the bytes from there on. -/
structure Cursor where
  pos : Nat
  rest : List UInt8
  deriving DecidableEq, Repr

namespace Cursor

def ofBytes (bytes : List UInt8) : Cursor := ⟨0, bytes⟩

/-- The offset just after the last byte. -/
def stop (c : Cursor) : Nat := c.pos + c.rest.length

def remaining (c : Cursor) : Nat := c.rest.length

end Cursor

abbrev Decoder := EStateM Corruption Cursor

namespace Decoder

def position : Decoder Nat := fun c => .ok c.pos c

def fail {α : Type} (cause : Corruption) : Decoder α := fun c => .error cause c

def truncated {α : Type} : Decoder α := fun c => .error (.truncated c.stop) c

/-- Refuses a stream of which something is left. -/
def finish : Decoder Unit := fun c =>
  match c.rest with
  | [] => .ok () c
  | _ :: _ => .error (.trailingBytes c.pos) c

def byte : Decoder UInt8 := fun c =>
  match c.rest with
  | [] => .error (.truncated c.stop) c
  | b :: rest => .ok b ⟨c.pos + 1, rest⟩

def take (n : Nat) : Decoder (List UInt8) := fun c =>
  let body := c.rest.take n
  if body.length < n then .error (.truncated c.stop) c
  else .ok body ⟨c.pos + n, c.rest.drop n⟩

/-- A number written high byte first. -/
def ofBytes (bytes : List UInt8) : Nat := bytes.foldl (fun n b => 256 * n + b.toNat) 0

def number (width : Nat) : Decoder Nat := do
  return ofBytes (← take width)

/-- The marker byte of a value that may not be absent. Nil is consumed together
with its kind byte and then refused. -/
def marker (expected : Shape) : Decoder UInt8 := do
  let offset ← position
  let m ← byte
  if m = 0xc0 then
    let kind ← byte
    match Absent.ofCode? kind with
    | some found => fail (.placeholderMismatch expected found offset)
    | none => fail (.unknownPlaceholder kind (offset + 1))
  else
    return m

def uint : Decoder Nat := do
  let offset ← position
  let m ← marker .integer
  if m ≤ 0x7f then return m.toNat
  else if m = 0xcc then number 1
  else if m = 0xcd then number 2
  else if m = 0xce then number 4
  else fail (.unexpectedMarker .integer m offset)

def bool : Decoder Bool := do
  let offset ← position
  let m ← marker .boolean
  if m = 0xc3 then return true
  else if m = 0xc2 then return false
  else fail (.unexpectedMarker .boolean m offset)

def strLength : Decoder Nat := do
  let offset ← position
  let m ← marker .string
  if 0xa0 ≤ m ∧ m ≤ 0xbf then return m.toNat - 0xa0
  else if m = 0xd9 then number 1
  else if m = 0xda then number 2
  else if m = 0xdb then number 4
  else fail (.unexpectedMarker .string m offset)

def str : Decoder String := do
  let length ← strLength
  let start ← position
  let body ← take length
  match String.fromUTF8? ⟨body.toArray⟩ with
  | some text => return text
  | none => fail (.invalidUtf8 start)

def arrayLength : Decoder Nat := do
  let offset ← position
  let m ← marker .array
  if 0x90 ≤ m ∧ m ≤ 0x9f then return m.toNat - 0x90
  else if m = 0xdc then number 2
  else if m = 0xdd then number 4
  else fail (.unexpectedMarker .array m offset)

/-- Consumes a nil of the given kind if one is next. A nil of another kind is
left in place: it belongs to an optional inside the value that follows. -/
def skipNil (absent : Absent) : Decoder Bool := fun c =>
  match c.rest with
  | [] => .error (.truncated c.stop) c
  | b :: rest =>
    if b ≠ 0xc0 then .ok false c
    else match rest with
      | [] => .error (.truncated c.stop) c
      | kind :: rest =>
        match Absent.ofCode? kind with
        | none => .error (.unknownPlaceholder kind (c.pos + 1)) c
        | some found => if found = absent then .ok true ⟨c.pos + 2, rest⟩ else .ok false c

/-- A variant tag, refused above the largest one in use. -/
def tag (tagged : Tagged) : Decoder Nat := do
  let offset ← position
  let value ← uint
  if value ≤ tagged.maxTag then return value
  else fail (.unknownTag tagged value offset)

def optional {α : Type} (absent : Absent) (value : Decoder α) : Decoder (Option α) := do
  if ← skipNil absent then return none
  else return some (← value)

/-- `n` values in a row. -/
def repeated {α : Type} (value : Decoder α) : Nat → Decoder (List α)
  | 0 => return []
  | n + 1 => do
    let first ← value
    let others ← repeated value n
    return first :: others

def list {α : Type} (value : Decoder α) : Decoder (List α) := do
  repeated value (← arrayLength)

/-- Runs a decoder over a whole stream and refuses what is left over. -/
def run {α : Type} (value : Decoder α) (bytes : List UInt8) : Except Corruption α :=
  match (do let v ← value; finish; return v : Decoder α) (.ofBytes bytes) with
  | .ok v _ => .ok v
  | .error cause _ => .error cause

end Decoder

end DocSite.Wire
