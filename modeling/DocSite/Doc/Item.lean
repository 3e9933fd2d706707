import DocSite.Doc.Description

/-!
# Documented items

An item is something declared in a source file together with what its comment
says. Subject and doc of an item are of one kind by construction, so a pair of
different kinds is refused where items are put together (`Item.ofParts?`).

An entity's doc holds further items: those declared in its body, and the
extension functions attached to it from elsewhere.
-/

namespace DocSite

inductive Kind where
  | entity
  | constructor
  | field
  | function
  deriving DecidableEq, Repr

def Kind.word : Kind → String
  | .entity => "entity"
  | .constructor => "constructor"
  | .field => "field"
  | .function => "function"

-- ---------------------------------------------------------------------------
-- Subjects
-- ---------------------------------------------------------------------------

structure EntitySubject where
  library : String
  path : String
  name : String
  deriving DecidableEq, Repr

/-- A constructor belongs to the entity of the same name. -/
structure ConstructorSubject where
  library : String
  path : String
  name : String
  params : List String
  deriving DecidableEq, Repr

structure FieldSubject where
  library : String
  path : String
  /-- The type as written in the declaration. -/
  declaredType : String
  name : String
  deriving DecidableEq, Repr

structure FunctionSubject where
  library : String
  path : String
  name : String
  params : List String
  isNative : Bool
  isStatic : Bool
  /-- The type named by an `on` clause. -/
  on : Option String
  deriving DecidableEq, Repr

/-- The extended type; an empty name is no target. -/
def FunctionSubject.target (f : FunctionSubject) : Option String :=
  f.on.filter (· ≠ "")

/-- Two subjects name one source function when name, parameters, library and
file agree. Modifiers and target play no part. -/
def FunctionSubject.Same (f g : FunctionSubject) : Prop :=
  f.name = g.name ∧ f.params = g.params ∧ f.library = g.library ∧ f.path = g.path

instance (f g : FunctionSubject) : Decidable (f.Same g) :=
  inferInstanceAs (Decidable (_ ∧ _ ∧ _ ∧ _))

theorem FunctionSubject.Same.refl (f : FunctionSubject) : f.Same f := ⟨rfl, rfl, rfl, rfl⟩

theorem FunctionSubject.Same.symm {f g : FunctionSubject} (h : f.Same g) : g.Same f :=
  ⟨h.1.symm, h.2.1.symm, h.2.2.1.symm, h.2.2.2.symm⟩

theorem FunctionSubject.Same.trans {f g k : FunctionSubject} (h : f.Same g) (h' : g.Same k) :
    f.Same k :=
  ⟨h.1.trans h'.1, h.2.1.trans h'.2.1, h.2.2.1.trans h'.2.2.1, h.2.2.2.trans h'.2.2.2⟩

inductive Subject where
  | entity (subject : EntitySubject)
  | constructor (subject : ConstructorSubject)
  | field (subject : FieldSubject)
  | function (subject : FunctionSubject)
  deriving DecidableEq, Repr

namespace Subject

def kind : Subject → Kind
  | .entity _ => .entity
  | .constructor _ => .constructor
  | .field _ => .field
  | .function _ => .function

def library : Subject → String
  | .entity s => s.library
  | .constructor s => s.library
  | .field s => s.library
  | .function s => s.library

def path : Subject → String
  | .entity s => s.path
  | .constructor s => s.path
  | .field s => s.path
  | .function s => s.path

def name : Subject → String
  | .entity s => s.name
  | .constructor s => s.name
  | .field s => s.name
  | .function s => s.name

end Subject

-- ---------------------------------------------------------------------------
-- Docs
-- ---------------------------------------------------------------------------

structure ParamDoc where
  name : String
  type : Option TypeRef
  description : Option Description
  deriving DecidableEq, Repr

structure ReturnDoc where
  type : Option TypeRef
  description : Option Description
  deriving DecidableEq, Repr

/-- An `@on` tag, which names the extended type in full. -/
structure OnDoc where
  type : Option TypeRef
  description : Option Description
  deriving DecidableEq, Repr

structure ErrorsDoc where
  description : Option Description
  deriving DecidableEq, Repr

structure ConstructorDoc where
  description : Option Description := none
  params : List ParamDoc := []
  deriving DecidableEq, Repr

structure FieldDoc where
  description : Option Description := none
  type : Option TypeRef := none
  deriving DecidableEq, Repr

structure FunctionDoc where
  description : Option Description := none
  params : List ParamDoc := []
  returns : Option ReturnDoc := none
  on : Option OnDoc := none
  errors : Option ErrorsDoc := none
  deriving DecidableEq, Repr

/-- The doc of an entity, over the type of the items it holds. -/
structure EntityDoc (ι : Type) where
  description : Option Description := none
  /-- Items declared in the entity's body. -/
  contained : List ι := []
  /-- Extension functions, in the order they were attached. -/
  extensions : List ι := []
  deriving Repr

-- ---------------------------------------------------------------------------
-- Items
-- ---------------------------------------------------------------------------

inductive Item where
  | entity (subject : EntitySubject) (doc : EntityDoc Item)
  | constructor (subject : ConstructorSubject) (doc : ConstructorDoc)
  | field (subject : FieldSubject) (doc : FieldDoc)
  | function (subject : FunctionSubject) (doc : FunctionDoc)
  deriving Repr

inductive Doc where
  | entity (doc : EntityDoc Item)
  | constructor (doc : ConstructorDoc)
  | field (doc : FieldDoc)
  | function (doc : FunctionDoc)
  deriving Repr

namespace Doc

def kind : Doc → Kind
  | .entity _ => .entity
  | .constructor _ => .constructor
  | .field _ => .field
  | .function _ => .function

def description : Doc → Option Description
  | .entity d => d.description
  | .constructor d => d.description
  | .field d => d.description
  | .function d => d.description

end Doc

namespace Item

def subject : Item → Subject
  | .entity s _ => .entity s
  | .constructor s _ => .constructor s
  | .field s _ => .field s
  | .function s _ => .function s

def doc : Item → Doc
  | .entity _ d => .entity d
  | .constructor _ d => .constructor d
  | .field _ d => .field d
  | .function _ d => .function d

def kind (i : Item) : Kind := i.subject.kind

def name (i : Item) : String := i.subject.name

/-- Puts a subject and a doc together, if they are of one kind. -/
def ofParts? : Subject → Doc → Option Item
  | .entity s, .entity d => some (.entity s d)
  | .constructor s, .constructor d => some (.constructor s d)
  | .field s, .field d => some (.field s d)
  | .function s, .function d => some (.function s d)
  | _, _ => none

@[simp] theorem kind_doc (i : Item) : i.doc.kind = i.kind := by
  cases i <;> rfl

@[simp] theorem ofParts?_subject_doc (i : Item) : ofParts? i.subject i.doc = some i := by
  cases i <;> rfl

theorem ofParts?_eq_some_iff {s : Subject} {d : Doc} {i : Item} :
    ofParts? s d = some i ↔ s = i.subject ∧ d = i.doc := by
  cases s <;> cases d <;> cases i <;> simp [ofParts?, subject, doc]

theorem ofParts?_eq_none_iff {s : Subject} {d : Doc} :
    ofParts? s d = none ↔ s.kind ≠ d.kind := by
  cases s <;> cases d <;> simp [ofParts?, Subject.kind, Doc.kind]

/-- The function subject, if the item is a function. -/
def function? : Item → Option FunctionSubject
  | .function s _ => some s
  | _ => none

/-- The entity doc, if the item is an entity. -/
def entityDoc? : Item → Option (EntityDoc Item)
  | .entity _ d => some d
  | _ => none

end Item

-- ---------------------------------------------------------------------------
-- Attaching extensions
-- ---------------------------------------------------------------------------

namespace EntityDoc

/-- Whether the function is already among the attached extensions. -/
def has (d : EntityDoc Item) (f : FunctionSubject) : Bool :=
  d.extensions.any fun e => e.function?.any fun g => g.Same f

/-- Only functions are attached, and each source function once. -/
def admits (d : EntityDoc Item) (i : Item) : Bool :=
  i.function?.any fun f => !d.has f

def attach (d : EntityDoc Item) (i : Item) : EntityDoc Item :=
  if d.admits i then { d with extensions := d.extensions ++ [i] } else d

end EntityDoc

end DocSite
