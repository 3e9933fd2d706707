import DocSite.Doc.Item

/-!
# Built-in types

The types of the language itself. The standard library owns them: it carries an
entity for each, so that extension functions can be attached to them.
-/

namespace DocSite.Native

/-- Built-in types, in declaration order. -/
def names : List String :=
  ["int", "double", "string", "boolean", "collection", "song", "album", "list", "java", "function"]

def isNative (name : String) : Bool := names.contains name

def description (name : String) : String :=
  match name with
  | "int" => "An integer value, up to 64 bits."
  | "double" => "A double precision floating point value, up to 64 bits."
  | "string" => "A character string."
  | "boolean" => "A true/false value."
  | "collection" => "A playlist or collection of songs."
  | "song" =>
    "A provider-agnostic piece of music that can be interacted with through service providers."
  | "album" =>
    "A provider-agnostic musical album that can be interacted with through service providers."
  | "list" => "A dynamic collection of types."
  | "java" => "A reference to a Java object, for interacting with native methods."
  | _ => "A native type."

/-- The entity of a built-in type, declared by the standard library. -/
def entity (stdName name : String) : Item :=
  .entity ⟨stdName, stdName, name⟩ { description := some (.ofText (description name)) }

def entities (stdName : String) : List Item := names.map (entity stdName)

end DocSite.Native
