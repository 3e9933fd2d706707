import DocSite.Files.Path

/-!
# File trees

A tree says what lies at every place below the root, and where relative paths
start. Operations on it fail as those of a file system do, and for the same
reasons in the same order: a path is followed name by name, and the first name
that does not lead on decides. A failing operation may have done part of its
work, so operations that change a tree carry it through failure. There is always
room, and nothing is forbidden: no operation fails for want of space or rights.

A file system lists a directory in an order of its own. Here what was made first
is listed first, which is one of the orders it may choose.
-/

namespace DocSite.Files

inductive Error where
  | notFound
  | alreadyThere
  | notDirectory
  | isDirectory
  | nameTooLong
  /-- A path holds a NUL character. -/
  | badName
  /-- A file's bytes are no text. -/
  | notText
  deriving DecidableEq, Repr

def Error.message : Error → String
  | .notFound => "No such file or directory (os error 2)"
  | .alreadyThere => "File exists (os error 17)"
  | .notDirectory => "Not a directory (os error 20)"
  | .isDirectory => "Is a directory (os error 21)"
  | .nameTooLong => "File name too long (os error 36)"
  | .badName => "file name contained an unexpected NUL byte"
  | .notText => "stream did not contain valid UTF-8"

inductive Entry where
  | file (bytes : List UInt8)
  | directory
  deriving DecidableEq, Repr

/-- The names on the way from the root. -/
abbrev Place := List String

structure Tree where
  workDir : Place
  /-- What lies where; the root itself is not listed. -/
  entries : List (Place × Entry)
  deriving Repr

/-- The bytes of a text. -/
def textBytes (text : String) : List UInt8 := text.toUTF8.data.toList

def text? (bytes : List UInt8) : Option String := String.fromUTF8? ⟨bytes.toArray⟩

namespace Tree

-- ---------------------------------------------------------------------------
-- Places
-- ---------------------------------------------------------------------------

/-- The tree that holds nothing but an empty work directory. -/
def ofWorkDir (workDir : Place) : Tree :=
  ⟨workDir, (List.range workDir.length).map fun n => (workDir.take (n + 1), .directory)⟩

def get? (t : Tree) (p : Place) : Option Entry :=
  if p = [] then some .directory else t.entries.lookup p

/-- Sets what lies at a place; a new place comes last. -/
def assign (p : Place) (e : Entry) : List (Place × Entry) → List (Place × Entry)
  | [] => [(p, e)]
  | (q, old) :: rest => if q = p then (p, e) :: rest else (q, old) :: assign p e rest

def put (t : Tree) (p : Place) (e : Entry) : Tree := { t with entries := assign p e t.entries }

/-- Leaves a place empty, together with all places below it. -/
def erase (t : Tree) (p : Place) : Tree :=
  { t with entries := t.entries.filter fun (q, _) => !p.isPrefixOf q }

theorem lookup_cons_if (p q : Place) (e : Entry) (rest : List (Place × Entry)) :
    List.lookup q ((p, e) :: rest) = if q = p then some e else rest.lookup q := by
  by_cases h : q = p
  · simp [h]
  · have : (q == p) = false := by simpa using h
    simp [List.lookup_cons, this, h]

theorem lookup_assign (p q : Place) (e : Entry) (entries : List (Place × Entry)) :
    (assign p e entries).lookup q = if q = p then some e else entries.lookup q := by
  induction entries with
  | nil => simp [assign, lookup_cons_if]
  | cons head rest ih =>
    obtain ⟨r, old⟩ := head
    by_cases hr : r = p
    · simp only [assign, hr, if_true, lookup_cons_if]
      split <;> rfl
    · simp only [assign, hr, if_false, lookup_cons_if, ih]
      by_cases hq : q = p
      · simp [hq, Ne.symm hr]
      · simp [hq]

theorem get?_put {p q : Place} (t : Tree) (e : Entry) (hq : q ≠ []) :
    (t.put p e).get? q = if q = p then some e else t.get? q := by
  simp [get?, put, hq, lookup_assign]

-- ---------------------------------------------------------------------------
-- Following paths
-- ---------------------------------------------------------------------------

/-- The directory that names lead to. -/
def walk (t : Tree) (start : Place) : List String → Except Error Place
  | [] => .ok start
  | name :: names =>
    if name = "." then t.walk start names
    else if name = ".." then t.walk start.dropLast names
    else if 255 < name.utf8ByteSize then .error .nameTooLong
    else
      match t.get? (start ++ [name]) with
      | none => .error .notFound
      | some (.file _) => .error .notDirectory
      | some .directory => t.walk (start ++ [name]) names

/-- The place of a path in an existing directory. Whether anything lies there is
not asked. -/
def locate (t : Tree) (path : String) : Except Error Place :=
  let start := if isAbsolute path then [] else t.workDir
  if path.toList.contains '\x00' then .error .badName
  else if 4096 ≤ path.utf8ByteSize then .error .nameTooLong
  else
    match (parts path).getLast? with
    | none => if isAbsolute path then .ok [] else .error .notFound
    | some name =>
      if name = "." ∨ name = ".." then t.walk start (parts path)
      else
        match t.walk start (parts path).dropLast with
        | .error e => .error e
        | .ok dir => if 255 < name.utf8ByteSize then .error .nameTooLong else .ok (dir ++ [name])

def find (t : Tree) (path : String) : Except Error Entry :=
  match t.locate path with
  | .error e => .error e
  | .ok p =>
    match t.get? p with
    | none => .error .notFound
    | some e => .ok e

def isFile (t : Tree) (path : String) : Bool :=
  match t.find path with
  | .ok (.file _) => true
  | _ => false

def isDir (t : Tree) (path : String) : Bool :=
  match t.find path with
  | .ok .directory => true
  | _ => false

-- ---------------------------------------------------------------------------
-- Reading
-- ---------------------------------------------------------------------------

def read (t : Tree) (path : String) : Except Error (List UInt8) :=
  match t.find path with
  | .error e => .error e
  | .ok .directory => .error .isDirectory
  | .ok (.file bytes) => .ok bytes

def readText (t : Tree) (path : String) : Except Error String :=
  match t.read path with
  | .error e => .error e
  | .ok bytes =>
    match text? bytes with
    | none => .error .notText
    | some text => .ok text

/-- The names on the way from one place to another below it. -/
def relative? (p q : Place) : Option Place :=
  if p.isPrefixOf q then some (q.drop p.length) else none

/-- The names in a directory, in the order of the tree. -/
def children (t : Tree) (path : String) : Except Error (List String) :=
  match t.locate path with
  | .error e => .error e
  | .ok p =>
    match t.get? p with
    | none => .error .notFound
    | some (.file _) => .error .notDirectory
    | some .directory =>
      .ok (t.entries.filterMap fun (q, _) =>
        match relative? p q with
        | some [name] => some name
        | _ => none)

/-- The files below a directory, by the names that lead from it to them. -/
def filesBelow (t : Tree) (path : String) : List Place :=
  match t.locate path with
  | .error _ => []
  | .ok p =>
    t.entries.filterMap fun (q, e) =>
      match relative? p q, e with
      | some (name :: names), .file _ => some (name :: names)
      | _, _ => none

-- ---------------------------------------------------------------------------
-- Writing
-- ---------------------------------------------------------------------------

/-- An operation that changes a tree, also when it fails. -/
abbrev Action := EStateM Error Tree

/-- The tree with one more directory. -/
def withDir (t : Tree) (path : String) : Except Error Tree :=
  match t.locate path with
  | .error e => .error e
  | .ok p =>
    match t.get? p with
    | some _ => .error .alreadyThere
    | none => .ok (t.put p .directory)

/-- Makes a directory; it may be there already. -/
def ensureDir (path : String) : Action Unit := fun t =>
  match t.withDir path with
  | .ok next => .ok () next
  | .error e => if t.isDir path then .ok () t else .error e t

/-- Makes a directory and those missing above it, given as `ancestors`. -/
def makeDirsFrom : List String → Action Unit
  | [] => pure ()
  | path :: above => fun t =>
    if path.isEmpty then .ok () t
    else
      match ensureDir path t with
      | .error .notFound t => (do makeDirsFrom above; ensureDir path : Action Unit) t
      | r => r

def makeDirs (path : String) : Action Unit := makeDirsFrom (ancestors path)

/-- Writes a file, which may be there already. -/
def write (path : String) (bytes : List UInt8) : Action Unit := fun t =>
  match t.locate path with
  | .error e => .error e t
  | .ok p =>
    match t.get? p with
    | some .directory => .error .isDirectory t
    | _ => .ok () (t.put p (.file bytes))

def removeFile (path : String) : Action Unit := fun t =>
  match t.locate path with
  | .error e => .error e t
  | .ok p =>
    match t.get? p with
    | none => .error .notFound t
    | some .directory => .error .isDirectory t
    | some (.file _) => .ok () (t.erase p)

end Tree

end DocSite.Files
