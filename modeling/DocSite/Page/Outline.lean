import DocSite.Text.Cut

/-!
# Outline of source files

The files page shows a library's files as a tree of directories. Paths are
taken apart at slashes and backslashes; at each level names stand in the order
in which they first came up. Whether a node is a directory is settled by the
path that brought it up.
-/

namespace DocSite.Page

inductive Node where
  | mk (name path : String) (isDir : Bool) (children : List Node)
  deriving Repr

namespace Node

def name : Node → String
  | mk name _ _ _ => name

def path : Node → String
  | mk _ path _ _ => path

def isDir : Node → Bool
  | mk _ _ isDir _ => isDir

def children : Node → List Node
  | mk _ _ _ children => children

end Node

/-- The non-empty components of a path. -/
def components (path : String) : List String :=
  ((Text.splitAll (fun c => c == '/' || c == '\\') path.toList).filter (!·.isEmpty)).map
    String.ofList

/-- Changes the children of the first node of a name. -/
def descend (name : String) (change : List Node → List Node) : List Node → List Node
  | [] => []
  | .mk n path isDir children :: nodes =>
    if n = name then .mk n path isDir (change children) :: nodes
    else .mk n path isDir children :: descend name change nodes

/-- Adds one path below the directory `parent`. -/
def insertPath (parent : String) : List String → List Node → List Node
  | [], nodes => nodes
  | name :: rest, nodes =>
    let path := if parent.isEmpty then name else parent ++ "/" ++ name
    if nodes.any (·.name = name) then descend name (insertPath path rest) nodes
    else nodes ++ [.mk name path (!rest.isEmpty) (insertPath path rest [])]

def outline (paths : List String) : List Node :=
  paths.foldl (fun nodes path => insertPath "" (components path) nodes) []

end DocSite.Page
