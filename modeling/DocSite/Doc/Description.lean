/-!
# Prose

The prose of a documentation comment is a list of pieces: plain text and
references to parameters, script types and host classes. References are kept
as written; whether they lead anywhere is decided where links are made.
-/

namespace DocSite

/-- Where a named type lives: in a script library, or on the host platform. -/
inductive Origin where
  | script
  | host
  deriving DecidableEq, Repr

/-- A type named in a comment, such as `demo.Widget`, `int` or a host class. -/
structure TypeRef where
  origin : Origin
  name : String
  deriving DecidableEq, Repr

inductive Piece where
  | text (text : String)
  | host (className : String)
  | param (name : String)
  | type (name : String)
  deriving DecidableEq, Repr

structure Description where
  pieces : List Piece
  deriving DecidableEq, Repr

def Description.ofText (text : String) : Description := ⟨[.text text]⟩

end DocSite
