import DocSite.Text.Hex

/-!
# JSON

Lists of records of texts as JSON, laid out with two blanks per level.
-/

namespace DocSite.Text.Json

def escapeChar (c : Char) : List Char :=
  match c with
  | '\x22' => ['\\', '\x22']
  | '\\' => ['\\', '\\']
  | '\x08' => ['\\', 'b']
  | '\x0c' => ['\\', 'f']
  | '\n' => ['\\', 'n']
  | '\r' => ['\\', 'r']
  | '\t' => ['\\', 't']
  | c => if c.toNat < 0x20 then "\\u00".toList ++ hexByte (UInt8.ofNat c.toNat) else [c]

def string (s : String) : String :=
  "\"" ++ String.ofList (s.toList.flatMap escapeChar) ++ "\""

/-- A text or `null`. -/
def value : Option String → String
  | some s => string s
  | none => "null"

abbrev Object := List (String × Option String)

def object (o : Object) : String :=
  "  \x7b\n" ++ ",\n".intercalate (o.map fun (key, v) => "    " ++ string key ++ ": " ++ value v) ++
    "\n  \x7d"

def array (os : List Object) : String :=
  if os.isEmpty then "[]" else "[\n" ++ ",\n".intercalate (os.map object) ++ "\n]"

end DocSite.Text.Json
