import ChatDice.Text.Quoted

/-!
# ChatDice.Text.Loose — texts with halves of characters

A character above U+FFFF may be spelled as a pair of code units. Where one half of a pair stands
without the other it stands for no character, and a text that holds such a half is no text; it can
still be kept, compared and shown.
-/

namespace ChatDice

/-- A character, or half of a pair whose other half is missing. -/
inductive TextPiece where
  | char (c : Char)
  | half (unit : Nat)
deriving DecidableEq, Repr

/-- A text, or what would be one if no half were missing. -/
inductive LooseText where
  | text (s : String)
  | broken (pieces : List TextPiece)
deriving DecidableEq, Repr

namespace TextPiece

/-- The character, if the piece is one. -/
def char? : TextPiece → Option Char
  | char c => some c
  | half _ => none

/-- The piece between quotation marks; a half is written by its number. -/
def escape (mark : Char) : TextPiece → List Char
  | char c => Text.escape mark c
  | half unit => ['\\', 'u'] ++ Text.hex 4 unit

end TextPiece

namespace LooseText

/-- The text that pieces make up. -/
def ofPieces (pieces : List TextPiece) : LooseText :=
  match pieces.mapM TextPiece.char? with
  | some cs => text (String.ofList cs)
  | none => broken pieces

/-- The text, if nothing is missing. -/
def text? : LooseText → Option String
  | text s => some s
  | broken _ => none

/-- The text with a replacement character for every half. -/
def display : LooseText → String
  | text s => s
  | broken pieces => String.ofList (pieces.map fun piece => piece.char?.getD '\uFFFD')

/-- The text between quotation marks. -/
def quote : LooseText → String
  | text s => Text.quote s
  | broken pieces =>
    let mark := Text.quotationMark (pieces.filterMap TextPiece.char?)
    String.ofList (mark :: pieces.flatMap (TextPiece.escape mark) ++ [mark])

end LooseText

end ChatDice
