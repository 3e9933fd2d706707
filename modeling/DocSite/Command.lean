import DocSite.Command.Arguments
import DocSite.Site

/-!
# Commands

The three commands: document libraries, write the page of all libraries, and
print the cards of cached libraries. A command maps a file tree to what it
prints, the exit code, and the tree it leaves.
-/

namespace DocSite

inductive Command where
  | generate (cacheDir output : String) (roots : List String)
  | index (cacheDir output : String)
  | list (cacheDir : String)
  deriving DecidableEq, Repr

/-- The directories a command works on. -/
def Command.paths : Command → List String
  | .generate cacheDir output roots => cacheDir :: output :: roots
  | .index cacheDir output => [cacheDir, output]
  | .list cacheDir => [cacheDir]

structure Invocation where
  command : Command
  links : Page.Links
  /-- Events up to this rank are shown. -/
  loudness : Int
  deriving Repr

namespace Invocation

def required {α : Type} : Option α → Except Refusal α
  | some v => .ok v
  | none => .error .misuse

def commandOf (g : Given) : Verb → Except Refusal Command
  | .generate => do
    let cacheDir ← required (g.get? .cacheDir)
    let output ← required (g.get? .output)
    if g.operands.isEmpty then .error .misuse
    else return .generate cacheDir output g.operands
  | .index => do return .index (← required (g.get? .cacheDir)) (← required (g.get? .output))
  | .list => do return .list (← required (g.get? .cacheDir))

/-- Warnings and errors are shown; every `v` shows one level more, every `q` one less. -/
def loudnessOf (verbose quiet : Nat) : Int := Level.warn.rank + verbose - quiet

/-- What is given after the command's name wins over what is given before it. -/
def ofGiven (before after : Given) (verb : Verb) : Except Refusal Invocation := do
  let command ← commandOf after verb
  let setting (s : Setting) := (after.get? s).or (before.get? s)
  let count (f : Given → Nat) := if f after = 0 then f before else f after
  return {
    command
    links := .ofConfig ((setting .stdName).getD "std") (setting .hostDocsUrl)
    loudness := loudnessOf (count (·.verbose)) (count (·.quiet)) }

def ofArguments (arguments : List String) : Except Refusal Invocation := do
  let (before, rest) ← Given.scan none none {} arguments
  let before ← before.check
  match rest with
  | [] => .error .misuse
  | name :: rest =>
    match Verb.ofWord? name with
    | none => .error (if name == "help" then .help else .misuse)
    | some verb =>
      let (after, _) ← Given.scan (some verb) none {} rest
      ofGiven before (← after.check) verb

end Invocation

-- ---------------------------------------------------------------------------
-- Running
-- ---------------------------------------------------------------------------

structure Exit where
  code : Nat
  stdout : String := ""
  stderr : String := ""
  deriving DecidableEq, Repr

/-- A text with every line after the first set in. -/
def indentLines (margin : String) (text : String) : String :=
  ("\n" ++ margin).intercalate ((Text.splitAll (· == '\n') text.toList).map String.ofList)

/-- One of several causes is numbered; one alone is not. -/
def causeLine (count : Nat) (cause : String × Nat) : String :=
  if count = 1 then "\n    " ++ indentLines "    " cause.1
  else
    let number := toString cause.2
    let padding := String.ofList (List.replicate (5 - number.length) ' ')
    "\n" ++ padding ++ number ++ ": " ++ indentLines "       " cause.1

/-- A failure with its causes below it, as a failed command prints it. -/
def Failure.account (f : Failure) : String :=
  match f.chain with
  | [] => ""
  | [alone] => alone
  | what :: causes =>
    what ++ "\n\nCaused by:" ++ String.join (causes.zipIdx.map (causeLine causes.length))

namespace Invocation

def line (text : String) : String := text ++ "\n"

/-- The events that are shown. -/
def log (i : Invocation) (events : List Event) : String :=
  String.join ((events.filter fun e => (e.level.rank : Int) ≤ i.loudness).map (line ·.line))

def succeeded (i : Invocation) (s : Session) (stdout : String) : Exit × Files.Tree :=
  ({ code := 0, stdout := stdout, stderr := i.log s.events }, s.tree)

def broken (i : Invocation) (s : Session) (f : Failure) : Exit × Files.Tree :=
  ({ code := 1, stderr := i.log s.events ++ line ("Error: " ++ f.account) }, s.tree)

def addedEvents (r : Site.Report) : List Event :=
  r.splices.filterMap fun (library, outcome) =>
    match outcome with
    | .spliced added => some (.extended library added)
    | _ => none

/-- A report with failures makes the command fail, though all else is done. -/
def reported (i : Invocation) (s : Session) (output : String) (r : Site.Report) : Exit × Files.Tree :=
  let s := { s with events := s.events ++ addedEvents r }
  if r.hasFailures then
    let failures := r.failures.map fun (what, cause) => line ("error: " ++ what ++ ": " ++ cause.message)
    ({ code := 1, stderr := i.log s.events ++ String.join failures }, s.tree)
  else
    i.succeeded s
      (line ("documented " ++ toString r.processed.length ++ " libraries into " ++ output))

def cardLine (m : Metadata) : String :=
  line (m.name ++ " " ++ m.version ++ " by " ++ m.author ++ ": " ++ m.description)

def run (i : Invocation) (tree : Files.Tree) : Exit × Files.Tree :=
  match i.command with
  | .generate cacheDir output roots =>
    match Site.generate ⟨⟨cacheDir⟩, output, i.links⟩ roots ⟨tree, []⟩ with
    | .ok report s => i.reported s output report
    | .error f s => i.broken s f
  | .index cacheDir output =>
    let site : Site := ⟨⟨cacheDir⟩, output, i.links⟩
    match (do site.init; site.index : Site.Act Nat) ⟨tree, []⟩ with
    | .ok count s => i.succeeded s (line ("indexed " ++ toString count ++ " libraries"))
    | .error f s => i.broken s f
  | .list cacheDir =>
    match Store.list ⟨cacheDir⟩ tree with
    | .ok cards => i.succeeded ⟨tree, []⟩ (String.join (cards.map cardLine))
    | .error e => i.broken ⟨tree, []⟩ (.listCaches cacheDir e)

end Invocation

def usage : String :=
  "Usage: [OPTIONS] generate --cache-dir DIR --output DIR LIBRARY_DIR...\n" ++
  "       [OPTIONS] index --cache-dir DIR --output DIR\n" ++
  "       [OPTIONS] list --cache-dir DIR\n\n" ++
  "Options: --std-name NAME, --host-docs-url URL, -v, -q, -h\n"

/-- Runs a command line on a tree. -/
def runArguments (arguments : List String) (tree : Files.Tree) : Exit × Files.Tree :=
  match Invocation.ofArguments arguments with
  | .ok i => i.run tree
  | .error .help => ({ code := 0, stdout := usage }, tree)
  | .error .misuse => ({ code := 2, stderr := usage }, tree)

end DocSite
