import ChatDice.Proofs.Game.Notation

/-!
# ChatDice.Proofs.Game.Rendering — the grammar of checks

A check can be written in many ways: with zeros in front of its numbers, with either bracket around
its difficulty, in capitals or small letters. `Check.Renders` says of a text that it writes a check
down, part by part and without the reader.

`Check.read_exact` is the grammar in both directions. A text is read as a check exactly if it
renders that check, so no text renders two. Whatever renders none is refused for one of its numbers
if it has the form of a check (`CheckForm.Oversized`), and has no answer otherwise; and nothing
outside ASCII has the form of a check.
-/

namespace ChatDice

/-! ## Renderings -/

namespace CheckKind

/-- The letters that a check of the kind starts with. -/
def letters : CheckKind → CheckLetters
  | evasion _ => .ev
  | meleeAttack => .at
  | electronicWarfare => .el

/-- The attacker's successes; only an evasion may know them. -/
def target : CheckKind → Option Nat
  | evasion target => target
  | meleeAttack | electronicWarfare => none

end CheckKind

@[simp] theorem CheckLetters.letters_kind (letters : CheckLetters) (target : Option Nat) :
    (letters.kind target).letters = letters := by
  cases letters <;> rfl

/-- Letters that take no target do not lose one, if only an evasion has one. -/
theorem CheckLetters.target_kind {letters : CheckLetters} {target : Option Nat}
    (h : ∀ n ∈ target, letters = .ev) : (letters.kind target).target = target := by
  cases target with
  | none => cases letters <;> rfl
  | some n =>
    rw [h n rfl]
    rfl

/-- A kind of check is known from its letters and its target. -/
@[simp] theorem CheckKind.kind_letters (kind : CheckKind) :
    kind.letters.kind kind.target = kind := by
  cases kind <;> rfl

/-- How a command states a target: behind a slash, or by nothing at all if there is none. -/
inductive TargetStated : List Char → Option Nat → Prop
  | absent : TargetStated [] none
  | behindSlash {digits : List Char} {n : Nat} (hdigits : IsNumeral digits)
      (hvalue : numeralValue digits = n) (hbound : n < 10 ^ 18) :
      TargetStated ('/' :: digits) (some n)

/-- A text writes a check down: the letters of its kind, a numeral of its dice with any zeros in
front, its difficulty in one of its spellings, and its target. -/
inductive Check.Renders (c : Check) : List Char → Prop
  | intro {count suffix ending : List Char} (hcount : IsNumeral count)
      (hvalue : numeralValue count = c.count) (hbound : c.count < 10 ^ 18)
      (hsuffix : Difficulty.Stated suffix c.difficulty)
      (hending : TargetStated ending c.kind.target) :
      Renders c (c.kind.letters.text ++ count ++ suffix ++ ending)

/-- A number in a text of the form of a check is too large to be read: its number of dice, or its
target behind a number of dice that is read and is not zero. -/
inductive CheckForm.Oversized (f : CheckForm) : List Char → Prop
  | count (hlarge : 18 < significantCount f.count) : Oversized f f.count
  | target {digits : List Char} (hshort : significantCount f.count ≤ 18)
      (hpos : numeralValue f.count ≠ 0) (hmem : digits ∈ f.target)
      (hlarge : 18 < significantCount digits) : Oversized f digits

/-! ## What a form is read as -/

namespace CheckForm

theorem reading_of_large {f : CheckForm} (h : 18 < significantCount f.count) :
    f.reading = .error (.numberTooLarge (significantCount f.count)) := by
  have hread : readNumber f.count = _ := readNumber_of_lt h
  rw [reading, hread]
  rfl

/-- A check of no dice is put aside before its target is looked at. -/
theorem reading_of_zero {f : CheckForm} (h : numeralValue f.count = 0) :
    f.reading = .ok .noDice := by
  have hbound : (0 : Nat) < 10 ^ maxDigits := by decide
  have hread : readNumber f.count = .ok 0 := readNumber_of_value f.count_isNumeral h hbound
  rw [reading, hread]
  rfl

/-- A check of some dice is what its target makes of it. -/
theorem reading_of_pos {f : CheckForm} (hshort : significantCount f.count ≤ 18)
    (hpos : 0 < numeralValue f.count) :
    f.reading = (f.target.mapM readNumber).map fun target =>
      .check ⟨f.letters.kind target, numeralValue f.count, f.difficulty, hpos⟩ := by
  have hread : readNumber f.count = .ok (numeralValue f.count) := readNumber_of_le hshort
  rw [reading, hread]
  simp only [bind, Except.bind, dif_pos hpos]
  cases f.target.mapM readNumber <;> rfl

/-- A target that is read is stated as it stands behind the difficulty. -/
theorem targetStated_ending {target : Option (List Char)} {read : Option Nat}
    (hdigits : ∀ digits ∈ target, IsNumeral digits) (h : target.mapM readNumber = .ok read) :
    TargetStated (ending target) read := by
  cases target with
  | none =>
    obtain rfl : none = read := Except.ok.inj h
    exact .absent
  | some digits =>
    have hnumeral := hdigits digits rfl
    rw [Option.mapM_some] at h
    cases hread : readNumber digits with
    | error fault =>
      rw [hread] at h
      cases h
    | ok n =>
      rw [hread] at h
      obtain rfl : some n = read := Except.ok.inj h
      obtain ⟨-, hvalue⟩ := readNumber_eq_ok_iff.mp hread
      exact .behindSlash hnumeral hvalue (lt_of_readNumber hnumeral.2 hread)

/-- A target that is stated is read from what stands behind the difficulty. -/
theorem exists_target_of_stated {cs : List Char} {read : Option Nat} (h : TargetStated cs read) :
    ∃ target, cs = ending target ∧ (∀ digits ∈ target, IsNumeral digits) ∧
      target.mapM readNumber = .ok read ∧ (target.isSome → read.isSome) := by
  cases h with
  | absent => exact ⟨none, rfl, by simp, rfl, id⟩
  | @behindSlash digits n hdigits hvalue hbound =>
    have hread : readNumber digits = .ok n := readNumber_of_value hdigits hvalue hbound
    refine ⟨some digits, rfl, by simpa using hdigits, ?_, fun _ => rfl⟩
    rw [Option.mapM_some, hread]
    rfl

/-- What reads as a check renders it. -/
theorem renders_of_reading {f : CheckForm} {c : Check} (h : f.reading = .ok (.check c)) :
    c.Renders f.text := by
  rcases Nat.lt_or_ge 18 (significantCount f.count) with hlarge | hshort
  · rw [reading_of_large hlarge] at h
    cases h
  rcases Nat.eq_zero_or_pos (numeralValue f.count) with hzero | hpos
  · rw [reading_of_zero hzero] at h
    cases h
  rw [reading_of_pos hshort hpos] at h
  cases hread : f.target.mapM readNumber with
  | error fault =>
    rw [hread] at h
    cases h
  | ok target =>
    rw [hread] at h
    obtain rfl := Check.Reading.check.inj (Except.ok.inj h)
    have hbound : numeralValue f.count < 10 ^ 18 :=
      (significantCount_le_iff f.count_isNumeral.2).mp hshort
    -- Only an evasion has a target in its form, so its kind keeps the target.
    have hev : ∀ n ∈ target, f.letters = .ev := by
      intro n hn
      cases hform : f.target with
      | none =>
        rw [hform] at hread
        obtain rfl : none = target := Except.ok.inj hread
        cases hn
      | some digits => exact f.target_of_ev digits hform
    have hstated : TargetStated (ending f.target) (f.letters.kind target).target := by
      rw [CheckLetters.target_kind hev]
      exact targetStated_ending f.target_isNumeral hread
    have hrenders := Check.Renders.intro (c := ⟨f.letters.kind target, _, f.difficulty, hpos⟩)
      f.count_isNumeral rfl hbound f.suffix_stated hstated
    rwa [CheckLetters.letters_kind] at hrenders

/-- What renders a check has the form of one and reads as that check. -/
theorem exists_form_of_renders {c : Check} {cs : List Char} (h : c.Renders cs) :
    ∃ f : CheckForm, f.text = cs ∧ f.reading = .ok (.check c) := by
  cases h with
  | @intro count suffix _ hcount hvalue hbound hsuffix hending =>
    obtain ⟨target, rfl, hdigits, hread, hsome⟩ := exists_target_of_stated hending
    have hev : ∀ digits ∈ target, c.kind.letters = .ev := by
      intro digits hmem
      have hknown := hsome (Option.isSome_of_mem hmem)
      cases hkind : c.kind with
      | evasion t => rfl
      | meleeAttack =>
        rw [hkind] at hknown
        cases hknown
      | electronicWarfare =>
        rw [hkind] at hknown
        cases hknown
    have hshort : significantCount count ≤ 18 := by
      rw [significantCount_le_iff hcount.2, hvalue]
      exact hbound
    have hpos : 0 < numeralValue count := by
      rw [hvalue]
      exact c.count_pos
    let f : CheckForm :=
      ⟨c.kind.letters, count, suffix, c.difficulty, target, hcount, hsuffix, hdigits, hev⟩
    refine ⟨f, rfl, ?_⟩
    have hreading : f.reading = _ := reading_of_pos hshort hpos
    rw [hreading]
    show (target.mapM readNumber).map _ = _
    rw [hread]
    cases c
    simp only at hvalue
    subst hvalue
    simp [Except.map, f]

/-- A form is refused exactly for a number in it that is too large. -/
theorem reading_eq_error_iff {f : CheckForm} {fault : Fault} :
    f.reading = .error fault ↔
      ∃ digits, f.Oversized digits ∧ fault = .numberTooLarge (significantCount digits) := by
  constructor
  · intro h
    rcases Nat.lt_or_ge 18 (significantCount f.count) with hlarge | hshort
    · rw [reading_of_large hlarge] at h
      exact ⟨f.count, .count hlarge, (Except.error.inj h).symm⟩
    rcases Nat.eq_zero_or_pos (numeralValue f.count) with hzero | hpos
    · rw [reading_of_zero hzero] at h
      cases h
    rw [reading_of_pos hshort hpos] at h
    cases htarget : f.target with
    | none =>
      rw [htarget] at h
      cases h
    | some digits =>
      rw [htarget, Option.mapM_some] at h
      rcases Nat.lt_or_ge 18 (significantCount digits) with hlarge | hsmall
      · have hread : readNumber digits = _ := readNumber_of_lt hlarge
        rw [hread] at h
        exact ⟨digits, .target hshort (by omega) htarget hlarge, (Except.error.inj h).symm⟩
      · have hread : readNumber digits = _ := readNumber_of_le hsmall
        rw [hread] at h
        cases h
  · rintro ⟨digits, hover, rfl⟩
    cases hover with
    | count hlarge => exact reading_of_large hlarge
    | target hshort hpos hmem hlarge =>
      have hread : readNumber digits = _ := readNumber_of_lt hlarge
      rw [reading_of_pos hshort (by omega), Option.mem_def.mp hmem, Option.mapM_some, hread]
      rfl

/-- Nothing outside ASCII has the form of a check. -/
theorem toNat_lt_of_mem_text (f : CheckForm) : ∀ c ∈ f.text, c.toNat < 128 := by
  have hnumeral : ∀ digits, IsNumeral digits → ∀ c ∈ digits, c.toNat < 128 := by
    intro digits hdigits c hc
    have hrange := toNat_of_isDigit (hdigits.2 c hc)
    omega
  have hletters : ∀ c ∈ f.letters.text, c.toNat < 128 := by
    cases f.letters <;> simp [CheckLetters.text]
  have hsuffix : ∀ suffix d, Difficulty.Stated suffix d → ∀ c ∈ suffix, c.toNat < 128 := by
    intro suffix d hstated
    rcases hstated with _ | htoken | htoken
    · simp
    · simpa [or_imp, forall_and] using Difficulty.toNat_lt_of_mem_spelling htoken
    · simpa using Difficulty.toNat_lt_of_mem_spelling htoken
  have hending : ∀ c ∈ ending f.target, c.toNat < 128 := by
    cases htarget : f.target with
    | none => simp [ending]
    | some digits => simpa [ending] using hnumeral digits (f.target_isNumeral digits htarget)
  simp only [text, List.mem_append]
  rintro c (((hc | hc) | hc) | hc)
  · exact hletters c hc
  · exact hnumeral f.count f.count_isNumeral c hc
  · exact hsuffix f.suffix f.difficulty f.suffix_stated c hc
  · exact hending c hc

end CheckForm

/-! ## The grammar -/

namespace Check

/-- Every text has the form of a check or is none. -/
theorem exists_form_or_unrecognized (cs : List Char) :
    (∃ f : CheckForm, f.text = cs ∧ read cs = f.reading) ∨ read cs = .ok .unrecognized := by
  by_cases hform : ∃ f : CheckForm, f.text = cs
  · obtain ⟨f, rfl⟩ := hform
    exact .inl ⟨f, rfl, read_text f⟩
  · exact .inr (read_of_no_form fun f hf => hform ⟨f, hf⟩)

/-- Reading is the other side of rendering. -/
theorem read_eq_check_iff {cs : List Char} {c : Check} :
    read cs = .ok (.check c) ↔ c.Renders cs := by
  constructor
  · intro h
    rcases exists_form_or_unrecognized cs with ⟨f, rfl, hread⟩ | hnone
    · rw [hread] at h
      exact CheckForm.renders_of_reading h
    · rw [hnone] at h
      cases h
  · intro h
    obtain ⟨f, rfl, hreading⟩ := CheckForm.exists_form_of_renders h
    rw [read_text, hreading]

theorem read_eq_error_iff {cs : List Char} {fault : Fault} :
    read cs = .error fault ↔
      ∃ (f : CheckForm) (digits : List Char), f.text = cs ∧ f.Oversized digits ∧
        fault = .numberTooLarge (significantCount digits) := by
  constructor
  · intro h
    rcases exists_form_or_unrecognized cs with ⟨f, rfl, hread⟩ | hnone
    · rw [hread, CheckForm.reading_eq_error_iff] at h
      obtain ⟨digits, hover, hfault⟩ := h
      exact ⟨f, digits, rfl, hover, hfault⟩
    · rw [hnone] at h
      cases h
  · rintro ⟨f, digits, rfl, hover, hfault⟩
    rw [read_text]
    exact CheckForm.reading_eq_error_iff.mpr ⟨digits, hover, hfault⟩

theorem toNat_lt_of_read {cs : List Char} (h : read cs ≠ .ok .unrecognized) :
    ∀ c ∈ cs, c.toNat < 128 := by
  rcases exists_form_or_unrecognized cs with ⟨f, rfl, -⟩ | hnone
  · exact f.toNat_lt_of_mem_text
  · exact absurd hnone h

/-- The grammar of checks is exact and unambiguous. A text is read as a check exactly if it renders
that check, and it renders no second one. It is refused exactly if it has the form of a check and a
number in it is too large; a text that is neither read nor refused has no answer. What has an answer
or is refused, and even what has the form of a check of no dice, is ASCII from its first character
to its last. -/
theorem read_exact (command : String) :
    (∀ c : Check, read command.toList = .ok (.check c) ↔ c.Renders command.toList) ∧
      (∀ c d : Check, c.Renders command.toList → d.Renders command.toList → c = d) ∧
      (∀ fault : Fault, read command.toList = .error fault ↔
        ∃ (f : CheckForm) (digits : List Char), f.text = command.toList ∧ f.Oversized digits ∧
          fault = .numberTooLarge (significantCount digits)) ∧
      ((∃ c : Check, c.Renders command.toList) ∨ (∃ fault, read command.toList = .error fault) ∨
        read command.toList = .ok .noDice ∨ read command.toList = .ok .unrecognized) ∧
      (read command.toList ≠ .ok .unrecognized → ∀ c ∈ command.toList, c.toNat < 128) := by
  refine ⟨fun _ => read_eq_check_iff, ?_, fun _ => read_eq_error_iff, ?_, toNat_lt_of_read⟩
  · intro c d hc hd
    have hread := read_eq_check_iff.mpr hc
    rw [read_eq_check_iff.mpr hd] at hread
    exact (Reading.check.inj (Except.ok.inj hread)).symm
  · cases hread : read command.toList with
    | error fault => exact .inr (.inl ⟨fault, rfl⟩)
    | ok reading =>
      cases reading with
      | unrecognized => exact .inr (.inr (.inr rfl))
      | noDice => exact .inr (.inr (.inl rfl))
      | check c => exact .inl ⟨c, read_eq_check_iff.mp hread⟩

/-- An evasion with zeros in front of both numbers and a difficulty in letters of either case. -/
theorem read_exact_evasion :
    read "EV005@uH/03".toList = .ok (.check ⟨.evasion (some 3), 5, .ultraHard, by decide⟩) ∧
      (⟨.evasion (some 3), 5, .ultraHard, by decide⟩ : Check).Renders "EV005@uH/03".toList := by
  have hread : read "EV005@uH/03".toList =
      .ok (.check ⟨.evasion (some 3), 5, .ultraHard, by decide⟩) := by decide +kernel
  exact ⟨hread, ((read_exact "EV005@uH/03").1 _).mp hread⟩

end Check

end ChatDice
