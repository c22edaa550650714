import ChatDice.Dictionary
import ChatDice.Text.Double
import ChatDice.Text.Integer
import ChatDice.Text.Loose

/-!
# ChatDice.Text.Json — JSON values

A setting may be given as a JSON object, and the values found in it are checked like any others. A
number without fraction and exponent is an integer, every other number has double precision. Strings
may hold halves of surrogate pairs. Besides what the grammar of JSON has, the words for infinity and
for no number are read.

* `Json.read?` — the value that a text spells, by recursive descent over the characters. The depth
  argument bounds the nesting, and a text of `n` characters nests no deeper than `n`.
* `Json.merge` — two values together, of which the second counts for more.
-/

namespace ChatDice

/-- A JSON value. The members of an object are a dictionary. -/
inductive Json where
  | null
  | bool (b : Bool)
  | integer (n : Int)
  | double (x : Double)
  | string (s : LooseText)
  | array (items : List Json)
  | object (members : List (LooseText × Json))
deriving Repr

namespace Json

/-- The members of an object by their names. -/
abbrev Members := Dictionary LooseText Json

/-- A string without halves of pairs. -/
def ofText (s : String) : Json :=
  string (.text s)

/-! ## Tokens -/

/-- Blanks between tokens. -/
def isSpace (c : Char) : Bool :=
  c == ' ' || c == '\t' || c == '\n' || c == '\r'

/-- The text from its first token. -/
def skipSpace (cs : List Char) : List Char :=
  cs.dropWhile isSpace

/-- Takes a word off the front of a text. -/
def takeWord? (word : String) (cs : List Char) : Option (List Char) :=
  if word.toList.isPrefixOf cs then some (cs.drop word.length) else none

/-- The value of a hexadecimal digit. -/
def hexDigit? (c : Char) : Option Nat :=
  if c.isDigit then some (c.toNat - '0'.toNat)
  else if 'a' ≤ c ∧ c ≤ 'f' then some (c.toNat - 'a'.toNat + 10)
  else if 'A' ≤ c ∧ c ≤ 'F' then some (c.toNat - 'A'.toNat + 10)
  else none

/-- A code unit of four hexadecimal digits. -/
def codeUnit? : List Char → Option (Nat × List Char)
  | a :: b :: c :: d :: rest => do
    let a ← hexDigit? a
    let b ← hexDigit? b
    let c ← hexDigit? c
    let d ← hexDigit? d
    return (((a * 16 + b) * 16 + c) * 16 + d, rest)
  | _ => none

/-- The first half of a pair. -/
def isHighHalf (unit : Nat) : Bool :=
  0xD800 ≤ unit && unit < 0xDC00

/-- The second half of a pair. -/
def isLowHalf (unit : Nat) : Bool :=
  0xDC00 ≤ unit && unit < 0xE000

/-- The character of a pair. -/
def pairChar (high low : Nat) : Char :=
  Char.ofNat (0x10000 + (high - 0xD800) * 0x400 + (low - 0xDC00))

/-- The second half at the front of a text that is spelled there. -/
def lowHalf? : List Char → Option (Nat × List Char)
  | '\\' :: 'u' :: digits => (codeUnit? digits).filter fun (unit, _) => isLowHalf unit
  | _ => none

/-- The piece of a code unit, which takes the other half of its pair off the text behind it. -/
def unitPiece (unit : Nat) (rest : List Char) : TextPiece × List Char :=
  if isHighHalf unit then
    match lowHalf? rest with
    | some (low, rest) => (.char (pairChar unit low), rest)
    | none => (.half unit, rest)
  else if isLowHalf unit then (.half unit, rest)
  else (.char (Char.ofNat unit), rest)

/-- The letters of escapes that stand for one character each. -/
def escapedChar? : Char → Option Char
  | '\x22' => some '\x22'
  | '\\' => some '\\'
  | '/' => some '/'
  | 'b' => some '\x08'
  | 'f' => some '\x0c'
  | 'n' => some '\n'
  | 'r' => some '\r'
  | 't' => some '\t'
  | _ => none

/-- The pieces of a string up to its closing mark, behind those already read, the latest of them
first. A string of `n` characters has no more than `n` pieces. -/
def stringPieces? : (most : Nat) → List TextPiece → List Char → Option (LooseText × List Char)
  | 0, _, _ => none
  | _ + 1, _, [] => none
  | most + 1, read, c :: rest =>
    if c = '\x22' then some (.ofPieces read.reverse, rest)
    else if c = '\\' then
      match rest with
      | 'u' :: digits => do
        let (unit, rest) ← codeUnit? digits
        let (piece, rest) := unitPiece unit rest
        stringPieces? most (piece :: read) rest
      | letter :: rest => do
        let c ← escapedChar? letter
        stringPieces? most (.char c :: read) rest
      | [] => none
    else if c.toNat < 0x20 then none
    else stringPieces? most (.char c :: read) rest

/-- Takes a string off the front of a text. -/
def takeString? : List Char → Option (LooseText × List Char)
  | '\x22' :: rest => stringPieces? (rest.length + 1) [] rest
  | _ => none

/-- The whole part of a number: a zero alone, or digits that start with another one. -/
def wholeDigits? (cs : List Char) : Option (List Char × List Char) :=
  match cs with
  | '0' :: rest => some (['0'], rest)
  | c :: _ =>
    if c.isDigit then some (cs.takeWhile Char.isDigit, cs.dropWhile Char.isDigit) else none
  | [] => none

/-- The fraction behind the whole part, without its point; empty if there is none. -/
def fractionDigits (cs : List Char) : List Char × List Char :=
  match cs with
  | '.' :: rest =>
    if rest.takeWhile Char.isDigit = [] then ([], cs)
    else (rest.takeWhile Char.isDigit, rest.dropWhile Char.isDigit)
  | _ => ([], cs)

/-- The exponent behind a number, with its digits; none if there is none. -/
def exponentDigits? (cs : List Char) : Option (Bool × List Char × List Char) :=
  match cs with
  | mark :: rest =>
    if mark = 'e' ∨ mark = 'E' then
      let (negative, rest) := match rest with
        | '-' :: rest => (true, rest)
        | '+' :: rest => (false, rest)
        | rest => (false, rest)
      let digits := rest.takeWhile Char.isDigit
      if digits = [] then none else some (negative, digits, rest.dropWhile Char.isDigit)
    else none
  | [] => none

/-- Takes a number off the front of a text. -/
def takeNumber? (cs : List Char) : Option (Json × List Char) := do
  let (negative, unsigned) := match cs with
    | '-' :: rest => (true, rest)
    | _ => (false, cs)
  let (whole, rest) ← wholeDigits? unsigned
  let (fraction, rest) := fractionDigits rest
  let digits := Nat.ofDigitChars 10 (whole ++ fraction) 0
  match exponentDigits? rest with
  | some (down, power, rest) =>
    let power : Int := Nat.ofDigitChars 10 power 0
    let exponent := (if down then -power else power) - fraction.length
    return (double (.ofDecimal negative digits exponent), rest)
  | none =>
    if fraction = [] then
      if Text.maxIntegerDigits < whole.length then none
      else return (integer (if negative then -digits else digits), rest)
    else return (double (.ofDecimal negative digits (-fraction.length)), rest)

/-! ## Values -/

mutual

/-- Takes a value off the front of a text. -/
def takeValue? : (depth : Nat) → List Char → Option (Json × List Char)
  | 0, _ => none
  | depth + 1, cs =>
    match skipSpace cs with
    | '{' :: rest =>
      match skipSpace rest with
      | '}' :: rest => some (object [], rest)
      | rest => (takeMembers? depth rest).map fun (members, rest) =>
        (object (Dictionary.ofEntries members), rest)
    | '[' :: rest =>
      match skipSpace rest with
      | ']' :: rest => some (array [], rest)
      | rest => (takeItems? depth rest).map fun (items, rest) => (array items, rest)
    | '\x22' :: rest => (takeString? ('\x22' :: rest)).map fun (s, rest) => (string s, rest)
    | 't' :: rest => (takeWord? "rue" rest).map (bool true, ·)
    | 'f' :: rest => (takeWord? "alse" rest).map (bool false, ·)
    | 'n' :: rest => (takeWord? "ull" rest).map (null, ·)
    | 'N' :: rest => (takeWord? "aN" rest).map (double .notANumber, ·)
    | 'I' :: rest => (takeWord? "nfinity" rest).map (double (.infinite false), ·)
    | '-' :: 'I' :: rest => (takeWord? "nfinity" rest).map (double (.infinite true), ·)
    | rest => takeNumber? rest

/-- Takes members off the front of a text, up to the end of their object. -/
def takeMembers? : (depth : Nat) → List Char → Option (List (LooseText × Json) × List Char)
  | 0, _ => none
  | depth + 1, cs => do
    let (name, rest) ← takeString? (skipSpace cs)
    match skipSpace rest with
    | ':' :: rest =>
      let (value, rest) ← takeValue? depth rest
      match skipSpace rest with
      | '}' :: rest => some ([(name, value)], rest)
      | ',' :: rest => do
        let (members, rest) ← takeMembers? depth rest
        return ((name, value) :: members, rest)
      | _ => none
    | _ => none

/-- Takes items off the front of a text, up to the end of their array. -/
def takeItems? : (depth : Nat) → List Char → Option (List Json × List Char)
  | 0, _ => none
  | depth + 1, cs => do
    let (item, rest) ← takeValue? depth cs
    match skipSpace rest with
    | ']' :: rest => some ([item], rest)
    | ',' :: rest => do
      let (items, rest) ← takeItems? depth rest
      return (item :: items, rest)
    | _ => none

end

/-- The value that a text spells; none if it spells no value, or more than one. -/
def read? (s : String) : Option Json := do
  let cs := s.toList
  let (value, rest) ← takeValue? (cs.length + 1) cs
  if skipSpace rest = [] then return value else none

/-! ## Merging -/

mutual

/-- A value together with one that counts for more. Objects are merged member by member; any other
value stands for itself. -/
def merge : (low : Option Json) → (high : Json) → Json
  | some (object low), object high => object (mergeMembers low high)
  | _, high => high

/-- Members together with members that count for more. -/
def mergeMembers : (low : Members) → (high : List (LooseText × Json)) → Members
  | low, [] => low
  | low, (name, value) :: rest =>
    mergeMembers (Dictionary.put low name (merge (Dictionary.get? low name) value)) rest

end

end Json

end ChatDice
