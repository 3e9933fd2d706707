import DocSite.Failure
import DocSite.Text.Quoted

/-!
# Events of a run

What a run tells while it works. Events have a level, by which they are shown or
kept back, and one line of text each.
-/

namespace DocSite

inductive Level where
  | error
  | warn
  | info
  | debug
  deriving DecidableEq, Repr

namespace Level

/-- The graver, the smaller. -/
def rank : Level → Nat
  | .error => 0
  | .warn => 1
  | .info => 2
  | .debug => 3

def label : Level → String
  | .error => "ERROR"
  | .warn => "WARN"
  | .info => "INFO"
  | .debug => "DEBUG"

end Level

inductive Event where
  /-- Only the standard library has built-in entities. -/
  | nativesIgnored (library : String) (count : Nat)
  | notAttached (library : String) (why : Catalog.Skip)
  | pagesWritten (library : String) (count : Nat)
  | searchWritten (library : String) (entries : Nat)
  | cacheWritten (path : String) (size : Nat)
  | cacheRead (path : String) (size : Nat)
  | processed (library : String) (files extensions : Nat)
  /-- An extension function has no target. -/
  | unresolved (item : Item)
  | noCache (library : String) (items : Nat)
  | spliced (library : String) (added items : Nat)
  | indexed (libraries : Nat)
  | extended (library : String) (added : Nat)
  | failed (what : String) (cause : Failure)

namespace Event

def level : Event → Level
  | .failed .. => .error
  | .unresolved .. => .warn
  | .processed .. | .noCache .. | .indexed .. | .extended .. => .info
  | _ => .debug

def skipText : Catalog.Skip → String
  | .notFunction => "skipping non-function extension item"
  | .noTarget f => f.name ++ " has no resolvable target"
  | .noEntity f t => "no entity " ++ t.entity ++ " for extension " ++ f.name ++ " from " ++ f.library
  | .duplicate f t => "duplicate extension " ++ f.name ++ " on " ++ t.entity

def text : Event → String
  | .nativesIgnored library count =>
    library ++ ": ignoring " ++ toString count ++ " native entities outside the standard library"
  | .notAttached library why => library ++ ": " ++ skipText why
  | .pagesWritten library count => library ++ ": wrote " ++ toString count ++ " pages"
  | .searchWritten library entries => library ++ ": " ++ toString entries ++ " search entries"
  | .cacheWritten path size => "wrote " ++ toString size ++ " bytes to " ++ path
  | .cacheRead path size => "read " ++ toString size ++ " bytes from " ++ path
  | .processed library files extensions =>
    "processed " ++ library ++ " (" ++ toString files ++ " files, " ++ toString extensions ++
      " extension functions)"
  | .unresolved item =>
    "cannot resolve extension target for " ++ item.name ++ " in " ++ item.subject.path ++ " (on " ++
      Text.quote ((Catalog.extended? item).getD "") ++ "); dropping it"
  | .noCache library items =>
    "no cache for " ++ library ++ " yet; skipping " ++ toString items ++ " extension functions"
  | .spliced library added items =>
    library ++ ": spliced " ++ toString added ++ " of " ++ toString items ++ " extension functions"
  | .indexed libraries => "global index lists " ++ toString libraries ++ " libraries"
  | .extended library added => library ++ ": " ++ toString added ++ " extension functions added"
  | .failed what cause => what ++ ": " ++ cause.message

def line (e : Event) : String := e.level.label ++ ": " ++ e.text

end Event

end DocSite
