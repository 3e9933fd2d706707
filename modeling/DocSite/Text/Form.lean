import DocSite.Text.Hex

/-!
# Form encoding

Texts in links are form encoded: letters, digits and `. - * _` stand for
themselves, a space is `+`, and every other byte of the text's UTF-8 form is
`%` with two upper-case digits.
-/

namespace DocSite.Text

/-- Whether a byte stands for itself. -/
def isFormSafe (b : UInt8) : Bool :=
  (0x61 ≤ b && b ≤ 0x7a) || (0x41 ≤ b && b ≤ 0x5a) || (0x30 ≤ b && b ≤ 0x39) ||
    b == 0x2e || b == 0x2d || b == 0x2a || b == 0x5f

def formByte (b : UInt8) : List Char :=
  if isFormSafe b then [Char.ofUInt8 b]
  else if b = 0x20 then ['+']
  else '%' :: hexByteUpper b

def formEncode (s : String) : String :=
  String.ofList (s.toUTF8.data.toList.flatMap formByte)

end DocSite.Text
