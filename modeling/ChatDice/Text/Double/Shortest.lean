import ChatDice.Text.Double

/-!
# ChatDice.Text.Double.Shortest — the fewest digits of a number

A number of double precision is shown with the fewest decimal digits that read back as that number,
and of these with the nearest ones. Numbers of a middling size are written out, all others have an
exponent.

For so many digits there are two decimals to look at, the one below the number and the one above it:
if any decimal of that length reads back, one of these two does.
-/

namespace ChatDice

/-- `digits` times ten to the power of `exponent`. -/
structure Decimal where
  digits : Nat
  exponent : Int
deriving DecidableEq, Repr

namespace Decimal

/-! ## Layout -/

/-- Digits around a point, which stands behind so many of them. -/
def layOut (digits : List Char) (point : Int) : String :=
  if point ≤ 0 then
    "0." ++ String.ofList (List.replicate (-point).toNat '0' ++ digits)
  else
    let whole := digits.take point.toNat
    let fraction := digits.drop point.toNat
    let filled := whole ++ List.replicate (point.toNat - whole.length) '0'
    String.ofList (filled ++ '.' :: (if fraction = [] then ['0'] else fraction))

/-- One digit in front of the point, and the power of ten of that digit in two digits or more. -/
def layOutPower (digits : List Char) (power : Int) : String :=
  let mantissa := match digits with
    | [] => "0"
    | [d] => String.singleton d
    | d :: rest => String.ofList (d :: '.' :: rest)
  let sign := if power < 0 then "-" else "+"
  mantissa ++ "e" ++ sign ++ String.ofList ((Nat.toDigits 10 power.natAbs).leftpad 2 '0')

/-- Decimals from a ten-thousandth up and below ten to the power of sixteen are written out. -/
def shown (d : Decimal) : String :=
  let digits := Nat.toDigits 10 d.digits
  let point : Int := digits.length + d.exponent
  let digits := (digits.reverse.dropWhile (· == '0')).reverse
  if -4 < point ∧ point ≤ 16 then layOut digits point else layOutPower digits (point - 1)

end Decimal

namespace Double

/-! ## Digits -/

/-- The number of decimal digits. -/
def digitCount (n : Nat) : Nat :=
  (Nat.toDigits 10 n).length

/-- The least power of ten above a quotient. -/
def powerAbove (num den : Nat) : Int :=
  if den ≤ num then digitCount (num / den) else 1 - digitCount ((den - 1) / num)

/-- Whether the decimal is read as the number with this significand and scale. -/
def readsBack (significand : Nat) (scale : Int) (d : Decimal) : Bool :=
  ofDecimal false d.digits d.exponent == finite false significand scale

/-- The decimal with this power of ten that is nearest to a number, of those that read back. Of two
that are equally near it is the even one. -/
def nearest? (significand : Nat) (scale exponent : Int) : Option Decimal :=
  let (num, den) := shiftDown 2 significand 1 (-scale)
  let (num, den) := shiftDown 10 num den exponent
  let low := num / den
  let below : Decimal := ⟨low, exponent⟩
  let above : Decimal := ⟨low + 1, exponent⟩
  match readsBack significand scale below, readsBack significand scale above with
  | true, true => some (if roundedQuotient num den = low then below else above)
  | true, false => some below
  | false, true => some above
  | false, false => none

/-- The most digits that a number of double precision needs. -/
def mostDigits : Nat := 17

/-- The shortest decimal of a number that is not zero. Should none be found the number itself is
one, since a power of two is a decimal. -/
def shortest (significand : Nat) (scale : Int) : Decimal :=
  let (num, den) := shiftDown 2 significand 1 (-scale)
  let power := powerAbove num den
  let found := (List.range mostDigits).findSome? fun n =>
    nearest? significand scale (power - (n + 1 : Nat))
  found.getD ⟨num * Nat.pow 5 (-scale).toNat, -((-scale).toNat : Int)⟩

/-- The number as it is shown. -/
def shown : Double → String
  | finite negative significand scale =>
    let magnitude := if significand = 0 then "0.0" else (shortest significand scale).shown
    if negative then "-" ++ magnitude else magnitude
  | infinite negative => if negative then "-inf" else "inf"
  | notANumber => "nan"

end Double

end ChatDice
