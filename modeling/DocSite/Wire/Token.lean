import DocSite.Wire.Corruption

/-!
# Tokens

The stream is a sequence of tokens, each written in its shortest form: a marker
byte that may hold a small value itself, then the value's bytes, high byte
first. A nil token names the kind of value that is absent.
-/

namespace DocSite.Wire

inductive Token where
  | uint (value : UInt32)
  | bool (value : Bool)
  | str (text : String)
  /-- The header of an array; its elements follow as tokens of their own. -/
  | array (count : Nat)
  | nil (absent : Absent)
  deriving DecidableEq, Repr

/-- The two low bytes of a number, high byte first. -/
def bytes16 (n : Nat) : List UInt8 := [UInt8.ofNat (n / 256), UInt8.ofNat n]

/-- The four low bytes of a number, high byte first. -/
def bytes32 (n : Nat) : List UInt8 :=
  [UInt8.ofNat (n / 16777216), UInt8.ofNat (n / 65536), UInt8.ofNat (n / 256), UInt8.ofNat n]

namespace Token

def uintBytes (n : Nat) : List UInt8 :=
  if n ≤ 0x7f then [UInt8.ofNat n]
  else if n ≤ 0xff then [0xcc, UInt8.ofNat n]
  else if n ≤ 0xffff then 0xcd :: bytes16 n
  else 0xce :: bytes32 n

def strHeader (n : Nat) : List UInt8 :=
  if n ≤ 31 then [UInt8.ofNat (0xa0 + n)]
  else if n ≤ 0xff then [0xd9, UInt8.ofNat n]
  else if n ≤ 0xffff then 0xda :: bytes16 n
  else 0xdb :: bytes32 n

def arrayHeader (n : Nat) : List UInt8 :=
  if n ≤ 15 then [UInt8.ofNat (0x90 + n)]
  else if n ≤ 0xffff then 0xdc :: bytes16 n
  else 0xdd :: bytes32 n

def bytes : Token → List UInt8
  | .uint value => uintBytes value.toNat
  | .bool value => [if value then 0xc3 else 0xc2]
  | .str text => strHeader text.utf8ByteSize ++ text.toUTF8.data.toList
  | .array count => arrayHeader count
  | .nil absent => [0xc0, absent.code]

end Token

end DocSite.Wire
