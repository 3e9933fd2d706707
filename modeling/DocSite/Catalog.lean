import DocSite.Doc.Library
import DocSite.Target

/-!
# Catalogs

A catalog is a library with its items sorted into views: entities, functions,
fields and extension functions. The views are computed from the files and the
built-in entities, so attaching an extension to an entity cannot disturb them.
Extensions go to the first entity of their target's name.
-/

namespace DocSite

/-- Where an item of a catalog stands. -/
inductive Ref where
  | declared (file item : Nat)
  | native (index : Nat)
  deriving DecidableEq, Repr

structure Catalog where
  metadata : Metadata
  stdName : String
  files : List SourceFile
  natives : List Item
  deriving Repr

/-- Attaches an extension function to an item, if that is an entity. -/
def Item.attach (extension : Item) : Item → Item
  | .entity s d => .entity s (d.attach extension)
  | i => i

namespace Catalog

def name (c : Catalog) : String := c.metadata.name

def isStd (c : Catalog) : Bool := c.name == c.stdName

def record (c : Catalog) : Record := ⟨c.metadata, c.files, c.natives⟩

-- ---------------------------------------------------------------------------
-- Views
-- ---------------------------------------------------------------------------

/-- All file-level items in file order. -/
def declared (c : Catalog) : List (Ref × Item) :=
  c.files.zipIdx.flatMap fun (file, f) => file.items.zipIdx.map fun (item, i) => (.declared f i, item)

def builtIn (c : Catalog) : List (Ref × Item) :=
  c.natives.zipIdx.map fun (item, i) => (.native i, item)

def fields (c : Catalog) : List (Ref × Item) := c.declared.filter (·.2.kind == .field)

/-- What a function extends; absent for all other items too. -/
def extended? (i : Item) : Option String := i.function?.bind (·.target)

/-- Functions that extend nothing, by name. -/
def functions (c : Catalog) : List (Ref × Item) :=
  (c.declared.filter fun r => r.2.kind == .function && (extended? r.2).isNone).mergeSort
    fun a b => a.2.name ≤ b.2.name

def extensionBefore (a b : Item) : Bool :=
  let s := (extended? a).getD ""
  let t := (extended? b).getD ""
  s < t || (s == t && a.name ≤ b.name)

/-- Functions that extend something, by what they extend and then by name. -/
def extensions (c : Catalog) : List (Ref × Item) :=
  (c.declared.filter fun r => (extended? r.2).isSome).mergeSort fun a b => extensionBefore a.2 b.2

/-- Built-in types come first, in their own order; the rest follows by name. -/
def entityBefore (a b : String) : Bool :=
  match Native.names.idxOf? a, Native.names.idxOf? b with
  | some i, some j => i ≤ j
  | some _, none => true
  | none, some _ => false
  | none, none => a ≤ b

/-- The library's entities and the built-in ones. -/
def entities (c : Catalog) : List (Ref × Item) :=
  (c.declared.filter (·.2.kind == .entity) ++ c.builtIn).mergeSort
    fun a b => entityBefore a.2.name b.2.name

/-- Where the entity of a name stands: the first of that name. -/
def index? (c : Catalog) (entity : String) : Option Ref :=
  (c.entities.find? (·.2.name == entity)).map (·.1)

def get? (c : Catalog) : Ref → Option Item
  | .declared f i => (c.files[f]?).bind (·.items[i]?)
  | .native i => c.natives[i]?

/-- The entity of a name. -/
def find? (c : Catalog) (entity : String) : Option Item :=
  ((c.index? entity).bind c.get?).filter (·.kind == .entity)

-- ---------------------------------------------------------------------------
-- Attaching extensions
-- ---------------------------------------------------------------------------

def modify (c : Catalog) (r : Ref) (change : Item → Item) : Catalog :=
  match r with
  | .declared f i =>
    { c with files := c.files.modify f fun file => { file with items := file.items.modify i change } }
  | .native i => { c with natives := c.natives.modify i change }

/-- Why an item is not attached. -/
inductive Skip where
  | notFunction
  | noTarget (function : FunctionSubject)
  | noEntity (function : FunctionSubject) (target : Target)
  | duplicate (function : FunctionSubject) (target : Target)
  deriving DecidableEq, Repr

/-- The entity an item is to be attached to. The target's library is not asked:
items come here because it is this one. -/
def home (c : Catalog) (i : Item) : Except Skip Ref :=
  match i.function?, Target.ofItem? c.stdName i with
  | none, _ => .error .notFunction
  | some f, none => .error (.noTarget f)
  | some f, some t =>
    match c.index? t.entity with
    | none => .error (.noEntity f t)
    | some r =>
      match (c.get? r).bind (·.entityDoc?) with
      | none => .error (.noEntity f t)
      | some d => if d.admits i then .ok r else .error (.duplicate f t)

/-- What became of a list of items that were to be attached. -/
structure Extended where
  catalog : Catalog
  added : Nat
  /-- Items left out, in order. -/
  skipped : List Skip

def extend (c : Catalog) : List Item → Extended
  | [] => ⟨c, 0, []⟩
  | i :: is =>
    match c.home i with
    | .ok r =>
      let e := (c.modify r (Item.attach i)).extend is
      { e with added := e.added + 1 }
    | .error s =>
      let e := c.extend is
      { e with skipped := s :: e.skipped }

-- ---------------------------------------------------------------------------
-- From files and records
-- ---------------------------------------------------------------------------

/-- The built-in entities of a library: only the standard library has any, and
it has those of the language if none are on record. -/
def builtInOf (stdName : String) (r : Record) : List Item :=
  if r.metadata.name ≠ stdName then []
  else if r.natives.isEmpty then Native.entities stdName
  else r.natives

def bare (stdName : String) (r : Record) : Catalog :=
  ⟨r.metadata, stdName, r.files, builtInOf stdName r⟩

/-- The library's extension functions on its own entities. -/
def own (c : Catalog) : List Item :=
  (c.extensions.map (·.2)).filter fun i =>
    (Target.ofItem? c.stdName i).any (·.library == c.name)

/-- A library with its own extensions attached. -/
def classify (stdName : String) (r : Record) : Extended :=
  let c := bare stdName r
  c.extend c.own

def ofRecord (stdName : String) (r : Record) : Catalog := (classify stdName r).catalog

def ofParsed (stdName : String) (metadata : Metadata) (files : List SourceFile) : Catalog :=
  ofRecord stdName ⟨metadata, files, []⟩

end Catalog

end DocSite
