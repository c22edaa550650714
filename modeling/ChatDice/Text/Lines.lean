/-!
# ChatDice.Text.Lines — texts as lines

A line ends with a line feed, with a carriage return, or with a carriage return and a line feed,
and with nothing else. The last line need not be ended.

* `lines` — the lines of a text, without their ends;
* `unifyLineEnds` — the text with a line feed at the end of each line.
-/

namespace ChatDice.Text

/-- The lines of a text behind a line that has been begun, the latest character first. -/
def linesAfter : (begun : List Char) → List Char → List (List Char)
  | [], [] => []
  | begun, [] => [begun.reverse]
  | begun, '\r' :: '\n' :: rest => begun.reverse :: linesAfter [] rest
  | begun, c :: rest =>
    if c = '\n' ∨ c = '\r' then begun.reverse :: linesAfter [] rest
    else linesAfter (c :: begun) rest

/-- The lines of a text, without their ends. -/
def lines (s : String) : List String :=
  (linesAfter [] s.toList).map String.ofList

/-- The text with a line feed for every end of a line. -/
def unifyLineEnds : List Char → List Char
  | [] => []
  | '\r' :: '\n' :: rest => '\n' :: unifyLineEnds rest
  | c :: rest => (if c = '\r' then '\n' else c) :: unifyLineEnds rest

end ChatDice.Text
