import ChatDice.Text.Blank
import ChatDice.Text.DecimalDigit

/-!
# ChatDice.Text.Integer — integers in texts

Integers have any size, but not in texts: `maxIntegerDigits` is the most digits that one may have
where it is read or written. `writeInteger?` writes an integer within this limit.

Two readers are for integers that come from outside. Both allow white space around the number, a
sign in front of it and single underscores between its digits; they differ in the rest.

* `readArgument?` — an argument of the command line: digits of any script, up to the limit;
* `readSetting` — a setting: ASCII digits up to a number of them, with zeros in front, which do not
  count, and a fraction of zeros behind.
-/

namespace ChatDice.Text

/-! ## Long integers -/

/-- The most digits that an integer may have where it is read from a text or written into one. -/
def maxIntegerDigits : Nat := 4300

/-- What is said of an integer with more digits. Readers count the digits first, writers do not. -/
def tooManyDigits (counted : Option Nat) : String :=
  let value := (counted.map fun digits => s!": value has {digits} digits").getD ""
  s!"Exceeds the limit ({maxIntegerDigits} digits) for integer string conversion{value}; " ++
    "use sys.set_int_max_str_digits() to increase the limit"

/-- An integer in writing, if it has no more digits than the limit; its sign does not count. -/
def writeInteger? (n : Int) : Option String :=
  if (toString n.natAbs).length ≤ maxIntegerDigits then some (toString n) else none

/-- Words about an integer. If it cannot be written, that is what they come to. -/
def sayInteger (n : Int) (words : String → String) : String :=
  match writeInteger? n with
  | some digits => words digits
  | none => tooManyDigits none

/-! ## Digits -/

/-- The sign in front of a number, and the rest. -/
def takeSign : List Char → Bool × List Char
  | '-' :: rest => (true, rest)
  | '+' :: rest => (false, rest)
  | rest => (false, rest)

/-- The number under its sign. -/
def signed (negative : Bool) (n : Nat) : Int :=
  if negative then -n else n

/-- The digits of a text that has single underscores between digits only; none if it has anything
else in it, or nothing at all. The flag says that the character before was a digit. -/
def digitRun? (digit? : Char → Option Nat) : (afterDigit : Bool) → List Char → Option (List Nat)
  | afterDigit, [] => if afterDigit then some [] else none
  | afterDigit, c :: rest =>
    match digit? c with
    | some d => (digitRun? digit? true rest).map (d :: ·)
    | none => if c = '_' ∧ afterDigit then digitRun? digit? false rest else none

/-- The number that digits stand for, the first of them the highest. -/
def ofDigits (digits : List Nat) : Nat :=
  digits.foldl (fun n d => 10 * n + d) 0

/-! ## Arguments -/

/-- The integer that an argument of the command line spells. -/
def readArgument? (s : String) : Option Int := do
  let (negative, digits) := takeSign (trimWhere isWhiteSpace s.toList)
  let digits ← digitRun? digitValue? false digits
  if maxIntegerDigits < digits.length then none
  else return signed negative (ofDigits digits)

/-! ## Settings -/

/-- Why a setting spells no integer. -/
inductive IntegerFault where
  | unreadable
  | tooLong
deriving DecidableEq, Repr

/-- The most characters that the sign and the digits of a setting may have; settings have a limit
of their own. -/
def maxSettingLength : Nat := 4300

/-- The integer that a minus sign and ASCII digits spell, the first of them no zero unless it is the
only one. A number that is too long is refused before anything behind it is looked at. -/
def readPlain (cs : List Char) : Except IntegerFault Int :=
  let (negative, digits) := match cs with
    | '-' :: digits => (true, digits)
    | _ => (false, cs)
  let run := digits.takeWhile Char.isDigit
  let rest := digits.dropWhile Char.isDigit
  match run with
  | [] => .error .unreadable
  | '0' :: more => if more ++ rest = [] then .ok 0 else .error .unreadable
  | _ =>
    if maxSettingLength < (if negative then 1 else 0) + run.length then .error .tooLong
    else if rest ≠ [] then .error .unreadable
    else .ok (signed negative (Nat.ofDigitChars 10 run 0))

/-- The text from its first character that counts, behind zeros of which `last` was the last one
passed. Underscores between zeros are passed over with them. A minus sign ends the zeros like a
digit does; a point keeps the character in front of it, and so does the end of the text. -/
def behindZeros? : (last : Char) → List Char → Option (List Char)
  | last, [] => some [last]
  | last, c :: rest =>
    if c = '0' ∨ c = '_' then behindZeros? c rest
    else if c.isDigit ∨ c = '-' then some (c :: rest)
    else if c = '.' then some (last :: c :: rest)
    else none

/-- The text without a plus sign and without zeros in front. -/
def significant? (cs : List Char) : Option (List Char) :=
  let unsigned := match cs with
    | '+' :: '-' :: _ => []
    | '+' :: rest => rest
    | _ => cs
  match unsigned with
  | '0' :: rest => behindZeros? '0' rest
  | c :: rest => if c.isDigit ∨ c = '-' then some (c :: rest) else none
  | [] => none

/-- The text in front of a fraction of zeros, or the whole text if it has no point. -/
def withoutZeroFraction? (cs : List Char) : Option (List Char) :=
  match cs.dropWhile (· != '.') with
  | [] => some cs
  | _ :: fraction =>
    if fraction ≠ [] ∧ fraction.all (· == '0') then some (cs.takeWhile (· != '.')) else none

/-- Whether a character stands twice in a row. -/
def isDoubled (mark : Char) : List Char → Bool
  | a :: b :: rest => (a == mark && b == mark) || isDoubled mark (b :: rest)
  | _ => false

/-- The text without its underscores, which stand alone and at neither end. -/
def withoutUnderscores? (cs : List Char) : Option (List Char) :=
  if cs.head? = some '_' ∨ cs.getLast? = some '_' ∨ isDoubled '_' cs then none
  else some (cs.filter (· != '_'))

/-- The integer that a setting spells. -/
def readSetting (s : String) : Except IntegerFault Int :=
  match significant? (trimWhere isWhiteSpace s.toList) with
  | none => .error .unreadable
  | some cs =>
    match readPlain cs with
    | .error .unreadable =>
      match (withoutZeroFraction? cs).bind withoutUnderscores? with
      | some plain => readPlain plain
      | none => .error .unreadable
    | result => result

end ChatDice.Text
