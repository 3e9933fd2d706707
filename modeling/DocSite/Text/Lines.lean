/-!
# Lines

A line ends at a line feed; a carriage return directly before it belongs to the
line end. A carriage return anywhere else is a character of the line, and text
after the last line feed is a line of its own unless it is empty.
-/

namespace DocSite.Text

/-- `seen` holds the current line so far, last character first. -/
def linesFrom (seen : List Char) : List Char → List (List Char)
  | [] => if seen.isEmpty then [] else [seen.reverse]
  | c :: s =>
    if c = '\n' then
      let line := match seen with
        | '\r' :: line => line
        | line => line
      line.reverse :: linesFrom [] s
    else linesFrom (c :: seen) s

def lines (s : List Char) : List (List Char) := linesFrom [] s

end DocSite.Text
