/-!
# ChatDice.Text.Blank — blank characters and trimming

A command, a line of input and a number may be surrounded by blanks. Two sets are in use, and
they differ in four control characters only:

* `isWhiteSpace` — the Unicode property `White_Space`;
* `isBlank` — that property, and the four information separators U+001C to U+001F.

`isBlank_of_isWhiteSpace` says that the second holds the first.
-/

namespace ChatDice.Text

/-! ## The two sets -/

/-- The characters of the Unicode property `White_Space`. -/
def isWhiteSpace (c : Char) : Bool :=
  let n := c.toNat
  (0x09 ≤ n && n ≤ 0x0D) || n == 0x20 || n == 0x85 || n == 0xA0 || n == 0x1680 ||
    (0x2000 ≤ n && n ≤ 0x200A) || n == 0x2028 || n == 0x2029 || n == 0x202F || n == 0x205F ||
    n == 0x3000

/-- A blank is white space or one of the information separators. -/
def isBlank (c : Char) : Bool :=
  isWhiteSpace c || (0x1C ≤ c.toNat && c.toNat ≤ 0x1F)

/-- All white space is blank. -/
theorem isBlank_of_isWhiteSpace {c : Char} (h : isWhiteSpace c = true) : isBlank c = true := by
  simp [isBlank, h]

/-! ## Trimming -/

/-- Drops the characters of a class from both ends of a text. -/
def trimWhere (p : Char → Bool) (cs : List Char) : List Char :=
  ((cs.dropWhile p).reverse.dropWhile p).reverse

/-- The text without the blanks around it. -/
def trim (s : String) : String :=
  String.ofList (trimWhere isBlank s.toList)

end ChatDice.Text
