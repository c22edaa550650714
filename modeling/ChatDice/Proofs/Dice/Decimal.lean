import Mathlib.Data.Nat.Digits.Lemmas
import ChatDice.Proofs.Dice.Numeral

/-!
# ChatDice.Proofs.Dice.Decimal — numbers in commands as decimal notation

In decimal notation each digit counts for its place: the last one for ones, the one in front of it
for tens. `decimalValue` is the number that a run of digits stands for in this sense. The reader
goes through the digits from the front instead, and decides by the length of a text whether a number
is too large. `readNumber_decimal` says that both come to the same: a number is read exactly if it
is below `10 ^ 18`, and otherwise the length that is reported is that of the number in decimal
notation.
-/

namespace ChatDice

/-- What a digit stands for. -/
def digitOf (c : Char) : Nat :=
  c.toNat - '0'.toNat

/-- The number that a run of digits stands for by the places of the digits. -/
def decimalValue (digits : List Char) : Nat :=
  Nat.ofDigits 10 (digits.reverse.map digitOf)

theorem decimalValue_cons (c : Char) (digits : List Char) :
    decimalValue (c :: digits) = decimalValue digits + 10 ^ digits.length * digitOf c := by
  rw [decimalValue, List.reverse_cons, List.map_append, Nat.ofDigits_append, List.length_map,
    List.length_reverse, List.map_singleton, Nat.ofDigits_singleton]
  rfl

/-- Reading from the front gives each digit its place. -/
theorem numeralValue_eq_decimalValue (digits : List Char) :
    numeralValue digits = decimalValue digits := by
  induction digits with
  | nil => rfl
  | cons c digits ih =>
    rw [numeralValue_cons, decimalValue_cons, ih, Nat.add_comm]
    rfl

/-- As many digits are significant as the number has in decimal notation. -/
theorem significantCount_eq_length {digits : List Char}
    (hdigits : ∀ c ∈ digits, c.isDigit = true) :
    significantCount digits = (Nat.digits 10 (decimalValue digits)).length := by
  -- Both counts are the least power of ten that is above the number.
  apply eq_of_forall_ge_iff
  intro k
  rw [significantCount_le_iff hdigits, Nat.digits_length_le_iff (by decide),
    numeralValue_eq_decimalValue]

/-- Zeros in front are not significant. -/
theorem significantDigits_zeros (zeros : Nat) (digits : List Char) :
    significantDigits (List.replicate zeros '0' ++ digits) = significantDigits digits := by
  apply List.dropWhile_append_of_pos
  intro c hc
  rw [List.eq_of_mem_replicate hc]
  rfl

/-- A number is refused if it reaches `10 ^ 18`, with the length that it has in decimal notation. -/
theorem readNumber_eq_error_iff {digits : List Char} (hdigits : ∀ c ∈ digits, c.isDigit = true)
    {fault : Fault} : readNumber digits = .error fault ↔
      10 ^ maxDigits ≤ decimalValue digits ∧
        fault = .numberTooLarge (Nat.digits 10 (decimalValue digits)).length := by
  rw [readNumber_eq, ← significantCount_eq_length hdigits, ← Nat.not_lt,
    ← numeralValue_eq_decimalValue, ← significantCount_le_iff hdigits, Nat.not_le]
  by_cases hlarge : maxDigits < significantCount digits
  · rw [if_pos hlarge, Except.error.injEq, eq_comm]
    exact (and_iff_right hlarge).symm
  · rw [if_neg hlarge]
    simp [hlarge]

/-- Reading a run of digits, the empty one among them, reads decimal notation with a sharp bound. A
number is read exactly if it is below `10 ^ 18`; a larger one is refused as asking for too much, and
the refusal tells how many decimal digits the number has. Zeros in front never make a difference.
What is written for a number below the bound is read as that number. -/
theorem readNumber_decimal {digits : List Char} (hdigits : ∀ c ∈ digits, c.isDigit = true) :
    (∀ n, readNumber digits = .ok n ↔ n = decimalValue digits ∧ n < 10 ^ 18) ∧
      (∀ fault, readNumber digits = .error fault ↔
        10 ^ 18 ≤ decimalValue digits ∧
          fault = .numberTooLarge (Nat.digits 10 (decimalValue digits)).length) ∧
      (∀ fault, readNumber digits = .error fault → fault.isExcess = true ∧
        fault.message = "Number too large in command (" ++
          toString (Nat.digits 10 (decimalValue digits)).length ++ " digits)") ∧
      (∀ zeros, readNumber (List.replicate zeros '0' ++ digits) = readNumber digits) ∧
      ∀ n, n < 10 ^ 18 → readNumber (toString n).toList = .ok n := by
  refine ⟨?_, fun _ => readNumber_eq_error_iff hdigits, ?_, ?_, fun _ hn => readNumber_toString hn⟩
  · intro n
    rw [readNumber_eq_ok_iff, significantCount_le_iff hdigits, numeralValue_eq_decimalValue]
    constructor
    · rintro ⟨hlt, rfl⟩
      exact ⟨rfl, hlt⟩
    · rintro ⟨rfl, hlt⟩
      exact ⟨hlt, rfl⟩
  · intro fault hfault
    obtain ⟨-, rfl⟩ := (readNumber_eq_error_iff hdigits).mp hfault
    exact ⟨rfl, rfl⟩
  · intro zeros
    exact readNumber_congr (significantDigits_zeros zeros digits)

/-- No digits at all, the largest number that is read, behind zeros, and the first one that is
not. -/
theorem readNumber_decimal_bounds :
    let largest := "000999999999999999999".toList
    let next := "001000000000000000000".toList
    IsNumeral largest ∧ IsNumeral next ∧ readNumber [] = .ok 0 ∧
      readNumber largest = .ok 999999999999999999 ∧
      readNumber next = .error (.numberTooLarge 19) := by
  intro largest next
  have hlargest : IsNumeral largest := by decide +kernel
  have hnext : IsNumeral next := by decide +kernel
  refine ⟨hlargest, hnext, ?_, ?_, ?_⟩
  · exact ((readNumber_decimal (by simp)).1 0).mpr (by decide +kernel)
  · exact ((readNumber_decimal hlargest.2).1 _).mpr (by decide +kernel)
  · exact ((readNumber_decimal hnext.2).2.1 _).mpr (by decide +kernel)

end ChatDice
