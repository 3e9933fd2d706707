import DocSite.Wire.Format

/-!
# Cache files

A cache file is four magic bytes, a version byte, and a library: its card, its
files, its built-in entities. The card stands first, so that it can be read
without reading the rest.
-/

namespace DocSite.Wire

def magic : List UInt8 := [0x51, 0x4c, 0x44, 0x43]

/-- Changes whenever the field order of any written type does. -/
def formatVersion : UInt8 := 1

/-- The magic bytes are looked at before the cursor moves. -/
def readMagic : Decoder Unit := fun c =>
  if c.rest.take magic.length = magic then .ok () ⟨magic.length, c.rest.drop magic.length⟩
  else .error .badMagic c

def readHeader : Decoder Unit := do
  readMagic
  let found ← Decoder.byte
  if found = formatVersion then return ()
  else Decoder.fail (.unsupportedVersion found)

def readRecord : Decoder Record := do
  readHeader
  return { metadata := ← Format.read, files := ← Format.read, natives := ← Format.read }

def encodeRecord (r : Record) : List UInt8 :=
  magic ++ [formatVersion] ++ encode r.metadata ++ encode r.files ++ encode r.natives

def decodeRecord (bytes : List UInt8) : Except Corruption Record :=
  Decoder.run readRecord bytes

/-- Reads the card at the head of a cache file; what follows is not looked at. -/
def decodeMetadata (bytes : List UInt8) : Except Corruption Metadata :=
  match (do readHeader; Format.read : Decoder Metadata) (.ofBytes bytes) with
  | .ok m _ => .ok m
  | .error cause _ => .error cause

end DocSite.Wire
