import Mathlib.Algebra.Ring.Nat
import ChatDice.Dice.Number

/-!
# ChatDice.Proofs.Dice.Numeral — numerals and their values

A numeral is a run of ASCII digits, and it stands for a number whatever its length. `readNumber`
looks only at the digits behind the leading zeros: it gives the value if there are at most eighteen
of them, and reports their count otherwise. Numbers below `10 ^ 18` are written in numerals that are
read back. Longer ones are written as well, up to the limit for texts (`writeNumber_eq_ok_iff`).
-/

namespace ChatDice

/-- A run of ASCII digits that is not empty. -/
def IsNumeral (digits : List Char) : Prop :=
  digits ≠ [] ∧ ∀ c ∈ digits, c.isDigit = true

instance (digits : List Char) : Decidable (IsNumeral digits) :=
  decidable_of_iff (digits ≠ [] ∧ digits.all Char.isDigit = true) (by simp [IsNumeral])

/-- The number that a run of digits stands for, in decimal. -/
def numeralValue (digits : List Char) : Nat :=
  Nat.ofDigitChars 10 digits 0

/-- How many digits are left without the leading zeros. -/
def significantCount (digits : List Char) : Nat :=
  (significantDigits digits).length

/-! ## Runs of digits -/

/-- Characters told apart by one of them being a digit. -/
theorem ne_of_isDigit {c d : Char} (hc : c.isDigit = true) (hd : d.isDigit = false) : c ≠ d := by
  rintro rfl
  rw [hc] at hd
  cases hd

/-- What stands behind a numeral does not go on with a digit. -/
def NoDigitFirst (rest : List Char) : Prop :=
  ∀ c ∈ rest.head?, c.isDigit = false

theorem noDigitFirst_nil : NoDigitFirst [] := by
  intro c hc
  simp at hc

theorem noDigitFirst_cons {c : Char} {rest : List Char} (hc : c.isDigit = false) :
    NoDigitFirst (c :: rest) := by
  intro d hd
  simp only [List.head?_cons, Option.mem_some_iff] at hd
  rwa [← hd]

theorem noDigitFirst_dropWhile (cs : List Char) : NoDigitFirst (cs.dropWhile Char.isDigit) := by
  intro c hc
  have hhead := List.head?_dropWhile_not Char.isDigit cs
  rwa [Option.mem_def.mp hc] at hhead

/-- The digits in front are exactly the numeral. -/
theorem takeWhile_isDigit_append {digits rest : List Char}
    (hdigits : ∀ c ∈ digits, c.isDigit = true) (hrest : NoDigitFirst rest) :
    (digits ++ rest).takeWhile Char.isDigit = digits := by
  rw [List.takeWhile_append_of_pos hdigits]
  cases rest with
  | nil => simp
  | cons c rest => simp [hrest c rfl]

theorem dropWhile_isDigit_append {digits rest : List Char}
    (hdigits : ∀ c ∈ digits, c.isDigit = true) (hrest : NoDigitFirst rest) :
    (digits ++ rest).dropWhile Char.isDigit = rest := by
  rw [List.dropWhile_append_of_pos hdigits]
  cases rest with
  | nil => rfl
  | cons c rest => simp [hrest c rfl]

theorem isNumeral_takeWhile {cs : List Char} (h : cs.takeWhile Char.isDigit ≠ []) :
    IsNumeral (cs.takeWhile Char.isDigit) :=
  ⟨h, fun _ hc => List.all_eq_true.mp List.all_takeWhile _ hc⟩

/-! ## Values -/

/-- Leading zeros do not change what is read behind them. -/
theorem numeralValue_zero_cons (digits : List Char) :
    numeralValue ('0' :: digits) = numeralValue digits := by
  simp [numeralValue, Nat.ofDigitChars_cons]

theorem numeralValue_significantDigits (digits : List Char) :
    numeralValue (significantDigits digits) = numeralValue digits := by
  induction digits with
  | nil => rfl
  | cons c digits ih =>
    by_cases hc : c = '0'
    · subst hc
      rw [numeralValue_zero_cons, ← ih]
      simp [significantDigits]
    · simp [significantDigits, hc]

theorem numeralValue_cons (c : Char) (digits : List Char) :
    numeralValue (c :: digits) =
      10 ^ digits.length * (c.toNat - '0'.toNat) + numeralValue digits := by
  rw [numeralValue, Nat.ofDigitChars_cons, Nat.ofDigitChars_eq_ofDigitChars_zero]
  simp [numeralValue]

theorem toNat_of_isDigit {c : Char} (h : c.isDigit = true) : 48 ≤ c.toNat ∧ c.toNat ≤ 57 := by
  simp only [Char.isDigit, Bool.and_eq_true, decide_eq_true_eq, UInt32.le_iff_toNat_le] at h
  exact h

/-- A numeral is below the power of ten with as many zeros as it has digits. -/
theorem numeralValue_lt {digits : List Char} (hdigits : ∀ c ∈ digits, c.isDigit = true) :
    numeralValue digits < 10 ^ digits.length := by
  induction digits with
  | nil => simp [numeralValue]
  | cons c digits ih =>
    have hrest : numeralValue digits < 10 ^ digits.length :=
      ih fun d hd => hdigits d (List.mem_cons_of_mem c hd)
    have hle : c.toNat - '0'.toNat ≤ 9 := by
      have hc := toNat_of_isDigit (hdigits c (by simp))
      have hzero : '0'.toNat = 48 := rfl
      omega
    have hmul : 10 ^ digits.length * (c.toNat - '0'.toNat) ≤ 10 ^ digits.length * 9 :=
      Nat.mul_le_mul_left _ hle
    rw [numeralValue_cons, List.length_cons, Nat.pow_succ]
    omega

/-- A numeral without leading zeros reaches the power of ten below that. -/
theorem pow_le_numeralValue {c : Char} (hc : c.isDigit = true) (hzero : c ≠ '0')
    (digits : List Char) : 10 ^ digits.length ≤ numeralValue (c :: digits) := by
  have hpos : 1 ≤ c.toNat - '0'.toNat := by
    have hrange := toNat_of_isDigit hc
    have hne : c.toNat ≠ '0'.toNat := fun h => hzero (Char.toNat_inj.mp h)
    have hnum : '0'.toNat = 48 := rfl
    omega
  have hmul : 10 ^ digits.length * 1 ≤ 10 ^ digits.length * (c.toNat - '0'.toNat) :=
    Nat.mul_le_mul_left _ hpos
  rw [numeralValue_cons]
  omega

/-- The significant digits are as many as the value needs. -/
theorem significantCount_le_iff {digits : List Char} (hdigits : ∀ c ∈ digits, c.isDigit = true)
    {k : Nat} : significantCount digits ≤ k ↔ numeralValue digits < 10 ^ k := by
  have hsub : ∀ c ∈ significantDigits digits, c.isDigit = true :=
    fun c hc => hdigits c (List.dropWhile_subset _ hc)
  rw [← numeralValue_significantDigits, significantCount]
  constructor
  · intro hle
    exact Nat.lt_of_lt_of_le (numeralValue_lt hsub) (Nat.pow_le_pow_right (by decide) hle)
  · -- The first significant digit is not zero, so each one behind it counts ten times.
    intro hlt
    cases hsignificant : significantDigits digits with
    | nil => simp
    | cons c rest =>
      have hzero : c ≠ '0' := by
        have hhead := List.head?_dropWhile_not (· == '0') digits
        rw [← significantDigits, hsignificant] at hhead
        simpa using hhead
      have hlow := pow_le_numeralValue (hsub c (by simp [hsignificant])) hzero rest
      rw [hsignificant] at hlt
      exact (Nat.pow_lt_pow_iff_right (by decide)).mp (Nat.lt_of_le_of_lt hlow hlt)

/-! ## Reading -/

/-- Reading a numeral looks at the number of its significant digits, and at nothing else. -/
theorem readNumber_eq (digits : List Char) :
    readNumber digits =
      if maxDigits < significantCount digits then .error (.numberTooLarge (significantCount digits))
      else .ok (numeralValue digits) := by
  unfold readNumber
  rw [← numeralValue_significantDigits digits]
  rfl

/-- Digits that are not significant make no difference. -/
theorem readNumber_congr {digits others : List Char}
    (h : significantDigits digits = significantDigits others) :
    readNumber digits = readNumber others := by
  unfold readNumber
  rw [h]

theorem readNumber_of_le {digits : List Char} (h : significantCount digits ≤ maxDigits) :
    readNumber digits = .ok (numeralValue digits) := by
  rw [readNumber_eq, if_neg (by omega)]

theorem readNumber_of_lt {digits : List Char} (h : maxDigits < significantCount digits) :
    readNumber digits = .error (.numberTooLarge (significantCount digits)) := by
  rw [readNumber_eq, if_pos h]

/-- A number that is read is the value of its numeral, and the numeral is short enough. -/
theorem readNumber_eq_ok_iff {digits : List Char} {n : Nat} :
    readNumber digits = .ok n ↔ significantCount digits ≤ maxDigits ∧ numeralValue digits = n := by
  rw [readNumber_eq]
  by_cases h : maxDigits < significantCount digits
  · simp only [h, if_true, reduceCtorEq, false_iff]
    rintro ⟨hle, -⟩
    omega
  · simp only [h, if_false, Except.ok.injEq]
    constructor
    · intro hn
      exact ⟨by omega, hn⟩
    · rintro ⟨-, hn⟩
      exact hn

/-- No number that is read reaches `10 ^ 18`. -/
theorem lt_of_readNumber {digits : List Char} (hdigits : ∀ c ∈ digits, c.isDigit = true) {n : Nat}
    (h : readNumber digits = .ok n) : n < 10 ^ maxDigits := by
  obtain ⟨hcount, rfl⟩ := readNumber_eq_ok_iff.mp h
  exact (significantCount_le_iff hdigits).mp hcount

/-- Every number below `10 ^ 18` is read, whatever zeros stand in front of it. -/
theorem readNumber_of_value {digits : List Char} (hdigits : IsNumeral digits) {n : Nat}
    (hvalue : numeralValue digits = n) (hn : n < 10 ^ maxDigits) : readNumber digits = .ok n := by
  rw [readNumber_eq_ok_iff, significantCount_le_iff hdigits.2, hvalue]
  exact ⟨hn, rfl⟩

/-! ## Writing -/

theorem isNumeral_toString (n : Nat) : IsNumeral (toString n).toList := by
  rw [Nat.toString_eq_repr, Nat.toList_repr]
  exact ⟨Nat.toDigits_ne_nil, fun c hc => Nat.isDigit_of_mem_toDigits (by decide) (by decide) hc⟩

theorem numeralValue_toString (n : Nat) : numeralValue (toString n).toList = n := by
  rw [Nat.toString_eq_repr, Nat.toList_repr]
  exact Nat.ofDigitChars_ten_toDigits

/-- A number is written with as many digits as it needs. -/
theorem length_toString_le_iff {n k : Nat} (hk : 0 < k) : (toString n).length ≤ k ↔ n < 10 ^ k := by
  rw [← String.length_toList, Nat.toString_eq_repr, Nat.toList_repr]
  exact Nat.length_toDigits_le_iff (by decide) hk

/-- A number that is not zero is written without leading zeros. -/
theorem significantCount_toString {n : Nat} (hn : 0 < n) :
    significantCount (toString n).toList = (toString n).length := by
  have hcount : ∀ k, significantCount (toString n).toList ≤ k ↔ n < 10 ^ k := by
    intro k
    rw [significantCount_le_iff (isNumeral_toString n).2, numeralValue_toString]
  have hpos : 0 < significantCount (toString n).toList := by
    by_contra hzero
    have hlt := (hcount 0).mp (by omega)
    omega
  have hnonempty : 0 < (toString n).length := by
    rw [← String.length_toList, List.length_pos_iff]
    exact (isNumeral_toString n).1
  apply Nat.le_antisymm
  · exact (hcount _).mpr ((length_toString_le_iff hnonempty).mp (Nat.le_refl _))
  · exact (length_toString_le_iff hpos).mpr ((hcount _).mp (Nat.le_refl _))

/-- A number below the bound is read back from what is written for it. -/
theorem readNumber_toString {n : Nat} (hn : n < 10 ^ maxDigits) :
    readNumber (toString n).toList = .ok n := by
  rw [readNumber_eq_ok_iff]
  refine ⟨?_, numeralValue_toString n⟩
  have hlength : (toString n).toList.length ≤ maxDigits := by
    rw [String.length_toList]
    exact (length_toString_le_iff (by decide)).mpr hn
  have hle : significantCount (toString n).toList ≤ (toString n).toList.length :=
    (List.dropWhile_sublist _).length_le
  omega

/-- An integer can be written if it is not too large, whatever its sign is. -/
def Writable (n : Int) : Prop := n.natAbs < 10 ^ Text.maxIntegerDigits

theorem writable_natCast {n : Nat} : Writable n ↔ n < 10 ^ Text.maxIntegerDigits := by
  rw [Writable, Int.natAbs_natCast]

theorem writeInteger?_of_writable {n : Int} (h : Writable n) :
    Text.writeInteger? n = some (toString n) := by
  rw [Text.writeInteger?, if_pos ((length_toString_le_iff (by decide)).mpr h)]

theorem writeInteger?_of_not_writable {n : Int} (h : ¬Writable n) :
    Text.writeInteger? n = none := by
  rw [Text.writeInteger?, if_neg fun hle => h ((length_toString_le_iff (by decide)).mp hle)]

theorem writeNumber_of_writable {n : Int} (h : Writable n) : writeNumber n = .ok (toString n) := by
  rw [writeNumber, writeInteger?_of_writable h]

theorem writeNumber_of_not_writable {n : Int} (h : ¬Writable n) :
    writeNumber n = .error .unwritableNumber := by
  rw [writeNumber, writeInteger?_of_not_writable h]

/-- What is written of an integer is its decimal notation, and it is written if it can be. -/
theorem writeNumber_eq_ok_iff {n : Int} {s : String} :
    writeNumber n = .ok s ↔ Writable n ∧ s = toString n := by
  by_cases h : Writable n
  · rw [writeNumber_of_writable h, Except.ok.injEq, eq_comm]
    exact (and_iff_right h).symm
  · rw [writeNumber_of_not_writable h]
    simp [h]

/-- Every number that a command may state can be written. -/
theorem writable_of_lt {n : Nat} (hn : n < 10 ^ maxDigits) : Writable n :=
  writable_natCast.mpr (Nat.lt_of_lt_of_le hn (Nat.pow_le_pow_right (by decide) (by decide)))

end ChatDice
