import DocSite.Page.Link
import DocSite.Text.Cut

/-!
# Arguments

Reading a command line. Options that hold for every command may stand before or
after the command's name; after it they win. An option is given at most once on
either side, and a value that begins with a dash has to be attached to its
option.
-/

namespace DocSite

/-- Options that take a value. -/
inductive Setting where
  | cacheDir
  | output
  | stdName
  | hostDocsUrl
  deriving DecidableEq, Repr

namespace Setting

def all : List Setting := [.cacheDir, .output, .stdName, .hostDocsUrl]

def long : Setting → String
  | .cacheDir => "cache-dir"
  | .output => "output"
  | .stdName => "std-name"
  | .hostDocsUrl => "host-docs-url"

/-- A path cannot be empty. -/
def accepts (s : Setting) (value : String) : Bool :=
  match s with
  | .cacheDir | .output => !value.isEmpty
  | .stdName | .hostDocsUrl => true

end Setting

inductive Verb where
  | generate
  | index
  | list
  deriving DecidableEq, Repr

def Verb.ofWord? : String → Option Verb
  | "generate" => some .generate
  | "index" => some .index
  | "list" => some .list
  | _ => none

/-- The settings understood before a command's name (`none`) and after it. -/
def Verb.settings : Option Verb → List Setting
  | none => [.stdName, .hostDocsUrl]
  | some .list => [.cacheDir, .stdName, .hostDocsUrl]
  | some _ => Setting.all

/-- Why arguments name nothing to run. -/
inductive Refusal where
  | help
  | misuse
  deriving DecidableEq, Repr

/-- What stands on one side of the command's name. -/
structure Given where
  settings : List (Setting × String) := []
  verbose : Nat := 0
  quiet : Nat := 0
  operands : List String := []
  deriving Repr

namespace Given

def get? (g : Given) (s : Setting) : Option String := g.settings.lookup s

def set (g : Given) (s : Setting) (value : String) : Except Refusal Given :=
  if (g.get? s).isSome || !s.accepts value then .error .misuse
  else .ok { g with settings := g.settings ++ [(s, value)] }

/-- Adds paths after the options. -/
def operate (g : Given) (values : List String) : Except Refusal Given :=
  if values.any (·.isEmpty) then .error .misuse
  else .ok { g with operands := g.operands ++ values }

/-- Louder and quieter at once is refused. -/
def check (g : Given) : Except Refusal Given :=
  if 0 < g.verbose ∧ 0 < g.quiet then .error .misuse else .ok g

-- ---------------------------------------------------------------------------
-- Single arguments
-- ---------------------------------------------------------------------------

/-- Letters after a single dash. The second result is an option that waits for its value. -/
def letters (verb : Option Verb) (g : Given) : List Char → Except Refusal (Given × Option Setting)
  | [] => .ok (g, none)
  | 'v' :: cs => letters verb { g with verbose := g.verbose + 1 } cs
  | 'q' :: cs => letters verb { g with quiet := g.quiet + 1 } cs
  | 'h' :: _ => .error .help
  | 'o' :: cs =>
    if Setting.output ∈ Verb.settings verb then
      match cs with
      | [] => .ok (g, some .output)
      | '=' :: value => (g.set .output (String.ofList value)).map (·, none)
      | value => (g.set .output (String.ofList value)).map (·, none)
    else .error .misuse
  | _ => .error .misuse

/-- A name after two dashes, with the value attached to it. -/
def word (verb : Option Verb) (g : Given) (name : String) (value : Option String) :
    Except Refusal (Given × Option Setting) :=
  match name, value with
  | "help", none => .error .help
  | "verbose", none => .ok ({ g with verbose := g.verbose + 1 }, none)
  | "quiet", none => .ok ({ g with quiet := g.quiet + 1 }, none)
  | name, value =>
    match (Verb.settings verb).find? (·.long == name), value with
    | none, _ => .error .misuse
    | some s, none => .ok (g, some s)
    | some s, some value => (g.set s value).map (·, none)

end Given

/-- How an argument is to be taken. -/
inductive Argument where
  | plain
  | long (name : String) (value : Option String)
  | short (letters : List Char)
  /-- Two dashes: no options follow. -/
  | ending
  deriving DecidableEq, Repr

def Argument.ofText (text : String) : Argument :=
  match text.toList with
  | ['-', '-'] => .ending
  | '-' :: '-' :: cs =>
    match Text.cut? ['='] cs with
    | some (name, value) => .long (String.ofList name) (some (String.ofList value))
    | none => .long (String.ofList cs) none
  | '-' :: c :: cs => .short (c :: cs)
  | _ => .plain

/-- Reads one side of a command line: before a command's name, which ends it, or after it.
What is left is given too. -/
def Given.scan (verb : Option Verb) (pending : Option Setting) (g : Given) :
    List String → Except Refusal (Given × List String)
  | [] => if pending.isSome then .error .misuse else .ok (g, [])
  | text :: rest =>
    match Argument.ofText text, pending with
    | .plain, some s => do scan verb none (← g.set s text) rest
    | _, some _ => .error .misuse
    | .plain, none =>
      match verb with
      | none => .ok (g, text :: rest)
      | some .generate => do scan verb none (← g.operate [text]) rest
      | some _ => .error .misuse
    | .ending, none =>
      if verb = some .generate then do return (← g.operate rest, [])
      else if rest.isEmpty then .ok (g, [])
      else .error .misuse
    | .long name value, none => do
      let (g, pending) ← g.word verb name value
      scan verb pending g rest
    | .short letters, none => do
      let (g, pending) ← g.letters verb letters
      scan verb pending g rest

end DocSite
