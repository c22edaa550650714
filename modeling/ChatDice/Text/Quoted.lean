import ChatDice.Text.Printable

/-!
# ChatDice.Text.Quoted — texts in quotation marks

Messages show a command, a token or a name between quotation marks, so that the reader sees where
it ends and what it holds. The mark is the apostrophe, unless the text has an apostrophe and no
double quotation mark. The backslash and the mark itself are preceded by a backslash; tab, line feed
and carriage return have their letters; every other character that is not printable is written by
its number in two, four or eight hexadecimal digits.
-/

namespace ChatDice.Text

/-- The number in lower-case hexadecimal digits, filled up with zeros to a width. -/
def hex (width n : Nat) : List Char :=
  (Nat.toDigits 16 n).leftpad width '0'

/-- A character by its number: `x`, `u` or `U` and as many digits as its size needs. -/
def escapeByNumber (c : Char) : List Char :=
  let n := c.toNat
  if n < 0x100 then ['\\', 'x'] ++ hex 2 n
  else if n < 0x10000 then ['\\', 'u'] ++ hex 4 n
  else ['\\', 'U'] ++ hex 8 n

/-- A character as it is written between two marks. -/
def escape (mark c : Char) : List Char :=
  if c = '\\' ∨ c = mark then ['\\', c]
  else if c = '\t' then ['\\', 't']
  else if c = '\n' then ['\\', 'n']
  else if c = '\r' then ['\\', 'r']
  else if isPrintable c then [c]
  else escapeByNumber c

/-- The apostrophe, unless only a double quotation mark spares an escape. -/
def quotationMark (cs : List Char) : Char :=
  if '\x27' ∈ cs ∧ '\x22' ∉ cs then '\x22' else '\x27'

/-- The text between quotation marks. -/
def quote (s : String) : String :=
  let cs := s.toList
  let mark := quotationMark cs
  String.ofList (mark :: cs.flatMap (escape mark) ++ [mark])

end ChatDice.Text
