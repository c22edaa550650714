/-!
# ChatDice.Text.Double — numbers of double precision

A number with a fraction or an exponent is kept with fifty-three binary digits. A finite number is a
significand times a power of two under a sign; numbers that are too large are infinite, and numbers
that are too small are zero.

* `Double.ofDecimal` — the nearest of these numbers to a decimal; of two that are equally near, the
  one with the even significand;
* `Double.whole?` — the integer that a number is, if it is one.

All work is done on whole numbers, so nothing is lost on the way.
-/

namespace ChatDice

/-- A number of double precision. A finite one is `significand` times two to the power of `scale`,
under its sign. -/
inductive Double where
  | finite (negative : Bool) (significand : Nat) (scale : Int)
  | infinite (negative : Bool)
  | notANumber
deriving DecidableEq, Repr

namespace Double

/-! ## Limits -/

/-- Significands are below two to the power of fifty-three. -/
def significandBound : Nat := 9007199254740992

/-- The least power of two; numbers with small significands have it. -/
def leastScale : Int := -1074

/-- The greatest power of two. -/
def mostScale : Int := 971

/-- Zero. -/
def zero (negative : Bool) : Double :=
  finite negative 0 leastScale

/-! ## Rounding -/

/-- The whole number nearest to a quotient; of two that are equally near, the even one. -/
def roundedQuotient (num den : Nat) : Nat :=
  let low := num / den
  let twice := 2 * (num % den)
  if twice < den ∨ (twice = den ∧ low % 2 = 0) then low else low + 1

/-- A quotient, divided by a power of a base. -/
def shiftDown (base num den : Nat) (power : Int) : Nat × Nat :=
  (num * Nat.pow base (-power).toNat, den * Nat.pow base power.toNat)

/-- The number with a significand that may have come to the bound by rounding. -/
def ofRounded (negative : Bool) (significand : Nat) (scale : Int) : Double :=
  let (significand, scale) :=
    if significand = significandBound then (significandBound / 2, scale + 1)
    else (significand, scale)
  if mostScale < scale then infinite negative else finite negative significand scale

/-- The number nearest to a quotient that is not zero. -/
def ofQuotient (negative : Bool) (num den : Nat) : Double :=
  -- The quotient lies between two to the power of 52 and two to the power of 54, less the guess.
  let guess : Int := (num.log2 : Int) - den.log2 - 53
  let (n, d) := shiftDown 2 num den guess
  let scale := max leastScale (if n < significandBound * d then guess else guess + 1)
  let (n, d) := shiftDown 2 num den scale
  ofRounded negative (roundedQuotient n d) scale

/-- No number that is not zero lies outside the powers of ten of this size. -/
def farPower : Nat := 400

/-- The number nearest to `digits` times ten to the power of `exponent`. -/
def ofDecimal (negative : Bool) (digits : Nat) (exponent : Int) : Double :=
  if digits = 0 then zero negative
  else if (farPower : Int) < exponent then infinite negative
  -- The digits are too few to bring so small a power back.
  else if exponent < -((digits.log2 : Int) + farPower) then zero negative
  else
    let (num, den) := shiftDown 10 digits 1 (-exponent)
    ofQuotient negative num den

/-! ## Integers -/

/-- The integer that a number is, if it is one. -/
def whole? : Double → Option Int
  | finite negative significand scale =>
    let num := significand * Nat.pow 2 scale.toNat
    let den := Nat.pow 2 (-scale).toNat
    if num % den = 0 then
      let n : Int := (num / den : Nat)
      some (if negative then -n else n)
    else none
  | _ => none

end Double

end ChatDice
