import ChatDice.Proofs.Dice.Plan

/-!
# ChatDice.Proofs.Dice.SuccessRoll — six-sided dice judged by a threshold

Every check of the game comes down to one kind of B roll: so many six-sided dice, of which the faces
from a threshold up are counted. It may be written with any numeral for the number of dice; what it
asks for depends on the number alone (`plan_text`), and on no fallback, since it states its
comparison.

The command that a check writes is `command`. It is there as long as the number of dice can be
written (`successCommand_of_writable`), and it is read as long as commands may state the number.
-/

namespace ChatDice.SuccessRoll

/-- The characters of a success roll whose number of dice is written with these digits. -/
def text (digits : List Char) (threshold : Nat) : List Char :=
  digits ++ 'B' :: '6' :: '>' :: '=' :: (toString threshold).toList

theorem isNumeral_six : IsNumeral ['6'] := by
  decide

/-- The success roll as a form. -/
def form (digits : List Char) (hdigits : IsNumeral digits) (threshold : Nat) : BRollForm where
  groups := [⟨digits, 'B', ['6'], hdigits, .inl rfl, isNumeral_six⟩]
  comparison := some ⟨.ge, ['>', '='], (toString threshold).toList, by decide,
    isNumeral_toString threshold⟩
  groups_ne_nil := by simp

theorem text_form (digits : List Char) (hdigits : IsNumeral digits) (threshold : Nat) :
    (form digits hdigits threshold).text = text digits threshold := by
  simp [form, BRollForm.text, BRollForm.ending, GroupForm.text, ComparisonForm.text, text]

/-- The success roll as it is written for a number of dice, however large the number is. -/
def command (n threshold : Nat) : String :=
  toString n ++ "B6>=" ++ toString threshold

/-- A check writes the command if it can write the number of dice. -/
theorem successCommand_of_writable {n threshold : Nat} (hn : Writable n)
    (hthreshold : threshold < 10 ^ maxDigits) :
    successCommand n threshold = .ok (command n threshold) := by
  rw [successCommand, writeNumber_of_writable hn,
    writeNumber_of_writable (writable_of_lt hthreshold)]
  rfl

theorem successCommand_of_not_writable {n : Nat} (hn : ¬Writable n) (threshold : Int) :
    successCommand n threshold = .error .unwritableNumber := by
  rw [successCommand, writeNumber_of_not_writable hn]
  rfl

/-- The command is a success roll. -/
theorem toList_command (n threshold : Nat) :
    (command n threshold).toList = text (toString n).toList threshold := by
  simp [command, text]

/-- It starts with a digit, like every roll. -/
theorem exists_digit_command (n threshold : Nat) :
    ∃ c rest, (command n threshold).toList = c :: rest ∧ c.isDigit = true := by
  have h := (form _ (isNumeral_toString n) threshold).exists_digit
  rwa [text_form, ← toList_command] at h

/-- So many six-sided dice, with the faces from the threshold up as successes. -/
def roll (n threshold : Nat) : BRoll :=
  ⟨[⟨n, 6⟩], some ⟨.ge, threshold⟩⟩

/-- The account of the roll. -/
def report (n threshold : Nat) (faces : List Nat) : RollReport :=
  (roll n threshold).writtenReport [faces]

/-- A roll against a threshold that commands may state can be written. -/
theorem writable_roll {threshold : Nat} (hthreshold : threshold < 10 ^ maxDigits) (n : Nat) :
    (roll n threshold).Writable := by
  rintro c ⟨⟩
  exact writable_of_lt hthreshold

@[simp] theorem dice_roll (n threshold : Nat) :
    (roll n threshold).dice = List.replicate n 6 := by
  simp [roll, BRoll.dice, DiceGroup.dice]

/-- What the roll asks for; nothing if there are no dice. -/
def plan (n threshold : Nat) : Plan RollReport :=
  if n = 0 then .pass
  else .throwing (List.replicate n 6) fun faces => .ok (report n threshold (faces.take n))

/-- As many faces are dealt to the roll as it has dice. -/
theorem take_faces {σ : Type} [DieSource σ] (n : Nat) (s : σ) :
    (DieSource.faces (List.replicate n 6) s).take n = DieSource.faces (List.replicate n 6) s := by
  rw [List.take_of_length_le]
  simp

/-- The number of dice is read first; the other numbers are short. -/
theorem read_text {digits : List Char} (hdigits : IsNumeral digits) {threshold : Nat}
    (hthreshold : threshold < 10 ^ maxDigits) :
    BRoll.read (text digits threshold) =
      (readNumber digits).map fun n =>
        if n = 0 then .emptyGroup ⟨digits, ['6']⟩ else .roll (roll n threshold) := by
  have hsix : readNumber ['6'] = .ok 6 := by rfl
  have htarget : readTarget (some (.ge, (toString threshold).toList)) =
      .ok (some ⟨.ge, threshold⟩) := by
    rw [readTarget, readNumber_toString hthreshold]
    rfl
  rw [← text_form digits hdigits, BRoll.read_text]
  simp only [form, List.map_cons, List.map_nil, Option.map_some, GroupForm.parts,
    ComparisonForm.parts, readGroups_cons, hsix, htarget]
  cases readNumber digits with
  | error fault => rfl
  | ok n =>
    by_cases hn : n = 0
    · simp [hn, Except.map]
    · simp [hn, Except.map, readGroups, roll]

/-- What is written for some dice is read as the roll of these dice. -/
theorem read_command {n : Nat} (hpos : 0 < n) (hn : n < 10 ^ maxDigits) {threshold : Nat}
    (hthreshold : threshold < 10 ^ maxDigits) :
    BRoll.read (command n threshold).toList = .ok (.roll (roll n threshold)) := by
  rw [toList_command, read_text (isNumeral_toString n) hthreshold, readNumber_toString hn]
  simp only [Except.map, if_neg (Nat.ne_of_gt hpos)]

/-- It is refused if it is for more dice than can be read. -/
theorem read_command_of_le {n : Nat} (hn : 10 ^ maxDigits ≤ n) {threshold : Nat}
    (hthreshold : threshold < 10 ^ maxDigits) :
    BRoll.read (command n threshold).toList =
      .error (.numberTooLarge (toString n).length) := by
  have hpos : 0 < n := Nat.lt_of_lt_of_le (by decide) hn
  have hlarge : maxDigits < significantCount (toString n).toList := by
    rw [← Nat.not_le, significantCount_le_iff (isNumeral_toString n).2, numeralValue_toString]
    omega
  rw [toList_command, read_text (isNumeral_toString n) hthreshold, readNumber_of_lt hlarge,
    significantCount_toString hpos]
  rfl

/-- What the roll asks for depends on the number of dice, not on the way it is written. -/
theorem plan_text {digits : List Char} (hdigits : IsNumeral digits) {threshold : Nat}
    (hthreshold : threshold < 10 ^ maxDigits) (fallback : Option Fallback) :
    BRoll.plan (String.ofList (text digits threshold)) fallback =
      match readNumber digits with
      | .ok n => plan n threshold
      | .error fault => .refuse fault := by
  rw [BRoll.plan, String.toList_ofList, read_text hdigits hthreshold]
  cases readNumber digits with
  | error fault => rfl
  | ok n =>
    by_cases hn : n = 0
    · simp [hn, Except.map, plan]
    · have haccount : BRoll.account (roll n threshold) fallback =
          fun faces => .ok (report n threshold (faces.take n)) := by
        funext faces
        have hstated : (roll n threshold).withFallback fallback = .ok (roll n threshold) := rfl
        rw [BRoll.account, hstated, Except.bind,
          BRoll.report_of_writable (writable_roll hthreshold n)]
        rfl
      simp only [Except.map, hn, if_false, plan]
      rw [haccount, dice_roll]

theorem plan_command {n : Nat} (hn : n < 10 ^ maxDigits) {threshold : Nat}
    (hthreshold : threshold < 10 ^ maxDigits) (fallback : Option Fallback) :
    BRoll.plan (command n threshold) fallback = plan n threshold := by
  have h := plan_text (isNumeral_toString n) hthreshold fallback
  rw [readNumber_toString hn, ← toList_command, String.ofList_toList] at h
  exact h

end ChatDice.SuccessRoll
