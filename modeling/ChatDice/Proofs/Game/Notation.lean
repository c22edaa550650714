import ChatDice.Game.Check.Reading
import ChatDice.Game.NormalCheck
import ChatDice.Proofs.Dice.SuccessRoll
import ChatDice.Proofs.Text.UpperCase

/-!
# ChatDice.Proofs.Game.Notation — how checks are written

Checks and normal checks have a notation of their own: capital letters, a numeral, and optionally a
difficulty in one of two brackets; an evasion may go on with a slash and a second numeral.
`CheckForm` and `NormalCheckForm` hold what was written and the facts that make it a check.

Reading is exact. `Check.read_text` says what a form is read as, and `Check.read_of_no_form` that
nothing else is a check; `expandNormalCheck_text` and `expandNormalCheck_of_no_form` say the same of
normal checks.
-/

namespace ChatDice

/-! ## Difficulties -/

namespace Difficulty

/-- The tokens of a difficulty: the digit of its threshold, and its letters in either case. -/
def spellings : Difficulty → List (List Char)
  | kids => [['2'], ['K'], ['k']]
  | easy => [['3'], ['E'], ['e']]
  | normal => [['4'], ['N'], ['n']]
  | hard => [['5'], ['H'], ['h']]
  | ultraHard => [['6'], ['U', 'H'], ['U', 'h'], ['u', 'H'], ['u', 'h']]

/-- Every character of a spelling is of ASCII. -/
theorem toNat_lt_of_mem_spelling {token : List Char} {d : Difficulty} (h : token ∈ d.spellings) :
    ∀ c ∈ token, c.toNat < 128 := by
  revert token
  cases d <;> simp [spellings]

/-- How a command states a difficulty: by a token in square brackets, by a token behind an at sign,
or by nothing at all if it is the normal one. -/
inductive Stated : List Char → Difficulty → Prop
  | absent : Stated [] normal
  | inBrackets {token : List Char} {d : Difficulty} (h : token ∈ d.spellings) :
      Stated ('[' :: token ++ [']']) d
  | behindAt {token : List Char} {d : Difficulty} (h : token ∈ d.spellings) :
      Stated ('@' :: token) d

/-- A token is looked up letter by letter in capitals. Those of ASCII are enough, since no other
script has the letters of a difficulty for a capital. -/
theorem ofSuffix_some (token : List Char) :
    ofSuffix (some token) =
      match ofDigit? (String.ofList token) with
      | some d => .ok d
      | none =>
        match byLetters.lookup (String.ofList (token.map Char.toUpper)) with
        | some d => .ok d
        | none => .error (.unknownDifficulty (String.ofList token)) := by
  have hcapitals : (String.ofList token).toUpper = String.ofList (token.map Char.toUpper) := by
    rw [String.toUpper, ← String.toList_inj, String.toList_map, String.toList_ofList,
      String.toList_ofList]
  have hletters : byLetters.all (fun entry => entry.1.toList.all (Text.IsUnshared ·)) = true := by
    decide
  have hunshared : ∀ entry ∈ byLetters, ∀ w ∈ entry.1.toList, Text.IsUnshared w := by
    simpa only [List.all_eq_true, decide_eq_true_eq] using hletters
  rw [← hcapitals, ← Text.lookup_upperCase hunshared]
  rfl

/-- Every token of a difficulty resolves to it. -/
theorem ofSuffix_spelling {token : List Char} {d : Difficulty} (h : token ∈ d.spellings) :
    ofSuffix (some token) = .ok d := by
  rw [ofSuffix_some]
  cases d <;> simp only [spellings, List.mem_cons, List.not_mem_nil, or_false] at h
  case ultraHard => rcases h with rfl | rfl | rfl | rfl | rfl <;> rfl
  all_goals rcases h with rfl | rfl | rfl <;> rfl

/-- A token is taken off a text whatever stands behind it. -/
theorem readToken?_spelling {token : List Char} {d : Difficulty} (h : token ∈ d.spellings)
    (rest : List Char) : readToken? (token ++ rest) = some (token, rest) := by
  cases d <;> simp only [spellings, List.mem_cons, List.not_mem_nil, or_false] at h
  case ultraHard =>
    rcases h with rfl | rfl | rfl | rfl | rfl
    · cases rest <;> simp [readToken?]
    all_goals simp [readToken?]
  all_goals
    rcases h with rfl | rfl | rfl <;> cases rest <;> simp [readToken?]

/-- What is taken off a text as a token is one. -/
theorem exists_spelling_of_readToken? {cs token rest : List Char}
    (h : readToken? cs = some (token, rest)) :
    cs = token ++ rest ∧ ∃ d : Difficulty, token ∈ d.spellings := by
  have hsingle : ∀ c ∈ "23456KENHkenh".toList, ∃ d : Difficulty, [c] ∈ d.spellings := by
    intro c hc
    have hall : "23456KENHkenh".toList.all (fun c =>
        [kids, easy, normal, hard, ultraHard].any fun d => [c] ∈ d.spellings) = true := by decide
    obtain ⟨d, -, hd⟩ := List.any_eq_true.mp (List.all_eq_true.mp hall c hc)
    exact ⟨d, of_decide_eq_true hd⟩
  -- The only token of two letters, in each of its four spellings.
  have hdouble : ∀ c d : Char, (c = 'U' ∨ c = 'u') → (d = 'H' ∨ d = 'h') →
      [c, d] ∈ ultraHard.spellings := by
    rintro c d (rfl | rfl) (rfl | rfl) <;> decide
  unfold readToken? at h
  split at h
  · simp at h
  · split at h
    · rename_i c hc
      simp only [Option.some.injEq, Prod.mk.injEq] at h
      obtain ⟨rfl, rfl⟩ := h
      exact ⟨rfl, hsingle c hc⟩
    · simp at h
  · split at h
    · rename_i hletters
      simp only [Option.some.injEq, Prod.mk.injEq] at h
      obtain ⟨rfl, rfl⟩ := h
      exact ⟨rfl, ultraHard, hdouble _ _ hletters.1 hletters.2⟩
    · split at h
      · rename_i c d rest hc
        simp only [Option.some.injEq, Prod.mk.injEq] at h
        obtain ⟨rfl, rfl⟩ := h
        exact ⟨rfl, hsingle _ hc⟩
      · simp at h

/-- A stated difficulty is taken off a text whole, unless it is absent and the text goes on like
one. -/
theorem readSuffix_stated {suffix : List Char} {d : Difficulty} (h : Stated suffix d)
    {rest : List Char} (hrest : ∀ c ∈ rest.head?, c ≠ '[' ∧ c ≠ '@') :
    ∃ token, readSuffix (suffix ++ rest) = (token, rest) ∧ ofSuffix token = .ok d := by
  cases h with
  | absent =>
    refine ⟨none, ?_, rfl⟩
    cases rest with
    | nil => rfl
    | cons c rest =>
      have hc := hrest c rfl
      simp [readSuffix, hc.1, hc.2]
  | @inBrackets token _ htoken =>
    refine ⟨some token, ?_, ofSuffix_spelling htoken⟩
    have hread := readToken?_spelling htoken (']' :: rest)
    simp [readSuffix, hread]
  | @behindAt token _ htoken =>
    refine ⟨some token, ?_, ofSuffix_spelling htoken⟩
    have hread := readToken?_spelling htoken rest
    simp [readSuffix, hread]

/-- What is taken off a text as a difficulty states one. -/
theorem exists_stated_of_readSuffix {cs rest : List Char} {token : Option (List Char)}
    (h : readSuffix cs = (token, rest)) :
    ∃ suffix d, cs = suffix ++ rest ∧ Stated suffix d ∧ ofSuffix token = .ok d := by
  -- Where no token is found the text is left whole, and the absent difficulty is stated.
  have habsent : ∀ {t : Option (List Char)} {r : List Char}, (none, cs) = (t, r) →
      ∃ suffix d, cs = suffix ++ r ∧ Stated suffix d ∧ ofSuffix t = .ok d := by
    intro t r htr
    simp only [Prod.mk.injEq] at htr
    obtain ⟨rfl, rfl⟩ := htr
    exact ⟨[], normal, rfl, .absent, rfl⟩
  unfold readSuffix at h
  split at h
  · split at h
    · rename_i token' rest' hread
      simp only [Prod.mk.injEq] at h
      obtain ⟨rfl, rfl⟩ := h
      obtain ⟨rfl, d, hd⟩ := exists_spelling_of_readToken? hread
      exact ⟨_, d, by simp, .inBrackets hd, ofSuffix_spelling hd⟩
    · exact habsent h
  · split at h
    · rename_i token' rest' hread
      simp only [Prod.mk.injEq] at h
      obtain ⟨rfl, rfl⟩ := h
      obtain ⟨rfl, d, hd⟩ := exists_spelling_of_readToken? hread
      exact ⟨_, d, by simp, .behindAt hd, ofSuffix_spelling hd⟩
    · exact habsent h
  · exact habsent h

theorem noDigitFirst_stated {suffix : List Char} {d : Difficulty} (h : Stated suffix d)
    {rest : List Char} (hrest : NoDigitFirst rest) : NoDigitFirst (suffix ++ rest) := by
  cases h with
  | absent => exact hrest
  | inBrackets _ => exact noDigitFirst_cons (by decide)
  | behindAt _ => exact noDigitFirst_cons (by decide)

/-- Every threshold is a number that can be read. -/
theorem threshold_lt (d : Difficulty) : d.threshold < 10 ^ maxDigits := by
  have hrange := d.threshold_mem
  have hbound : 6 < 10 ^ maxDigits := by decide
  omega

end Difficulty

/-! ## Checks -/

/-- The characters of the letters that a check starts with. -/
def CheckLetters.text : CheckLetters → List Char
  | .ev => ['E', 'V']
  | .at => ['A', 'T']
  | .el => ['E', 'L']

/-- A check as a player writes it. -/
structure CheckForm where
  letters : CheckLetters
  count : List Char
  suffix : List Char
  difficulty : Difficulty
  target : Option (List Char)
  count_isNumeral : IsNumeral count
  suffix_stated : Difficulty.Stated suffix difficulty
  target_isNumeral : ∀ digits ∈ target, IsNumeral digits
  target_of_ev : ∀ digits ∈ target, letters = .ev

namespace CheckForm

/-- The characters behind the difficulty. -/
def ending (target : Option (List Char)) : List Char :=
  (target.map ('/' :: ·)).getD []

/-- The characters of the check. -/
def text (f : CheckForm) : List Char :=
  f.letters.text ++ f.count ++ f.suffix ++ ending f.target

/-- What the numbers of the check make of it. -/
def reading (f : CheckForm) : Except Fault Check.Reading := do
  let count ← readNumber f.count
  if h : 0 < count then
    let target ← f.target.mapM readNumber
    return .check
      { kind := f.letters.kind target, count, difficulty := f.difficulty, count_pos := h }
  else return .noDice

end CheckForm

/-- A check starts with one of two letters. -/
theorem CheckForm.exists_letter (f : CheckForm) :
    ∃ c rest, f.text = c :: rest ∧ (c = 'E' ∨ c = 'A') := by
  cases h : f.letters with
  | ev => exact ⟨'E', _, by simp only [text, h]; rfl, .inl rfl⟩
  | «at» => exact ⟨'A', _, by simp only [text, h]; rfl, .inr rfl⟩
  | el => exact ⟨'E', _, by simp only [text, h]; rfl, .inl rfl⟩

theorem CheckText.readLetters?_text (letters : CheckLetters) (rest : List Char) :
    readLetters? (letters.text ++ rest) = some (letters, rest) := by
  cases letters <;> rfl

theorem CheckText.eq_of_readLetters? {cs rest : List Char} {letters : CheckLetters}
    (h : readLetters? cs = some (letters, rest)) : cs = letters.text ++ rest := by
  unfold readLetters? at h
  split at h <;> simp only [Option.some.injEq, Prod.mk.injEq, reduceCtorEq] at h
  all_goals
    obtain ⟨rfl, rfl⟩ := h
    rfl

theorem CheckText.readEnd?_ending {letters : CheckLetters} {target : Option (List Char)}
    (hnumeral : ∀ digits ∈ target, IsNumeral digits) (hev : ∀ digits ∈ target, letters = .ev) :
    readEnd? letters (CheckForm.ending target) = some target := by
  cases target with
  | none => cases letters <;> rfl
  | some digits =>
    have hdigits := hnumeral digits rfl
    have hall : digits.all Char.isDigit = true := List.all_eq_true.mpr hdigits.2
    rw [hev digits rfl]
    simp [CheckForm.ending, readEnd?, hdigits.1, hall]

theorem CheckText.of_readEnd? {letters : CheckLetters} {cs : List Char}
    {target : Option (List Char)} (h : readEnd? letters cs = some target) :
    cs = CheckForm.ending target ∧ (∀ digits ∈ target, IsNumeral digits) ∧
      ∀ digits ∈ target, letters = .ev := by
  unfold readEnd? at h
  split at h
  · simp only [Option.some.injEq] at h
    subst h
    simp [CheckForm.ending]
  · split at h
    · rename_i hdigits
      simp only [Option.some.injEq] at h
      subst h
      refine ⟨rfl, ?_, fun _ _ => rfl⟩
      intro digits hmem
      simp only [Option.mem_some_iff] at hmem
      subst hmem
      exact ⟨hdigits.1, List.all_eq_true.mp hdigits.2⟩
    · simp at h
  · simp at h

/-- Every form is read as its parts, with a token that resolves to its difficulty. -/
theorem CheckText.read?_text (f : CheckForm) :
    ∃ token, read? f.text = some ⟨f.letters, f.count, token, f.target⟩ ∧
      Difficulty.ofSuffix token = .ok f.difficulty := by
  -- Neither the number of dice nor the difficulty can go on with what stands behind it.
  have hdigit : NoDigitFirst (CheckForm.ending f.target) := by
    cases f.target with
    | none => exact noDigitFirst_nil
    | some digits => exact noDigitFirst_cons (by decide)
  have hmark : ∀ c ∈ (CheckForm.ending f.target).head?, c ≠ '[' ∧ c ≠ '@' := by
    cases f.target with
    | none => simp [CheckForm.ending]
    | some digits => simp [CheckForm.ending]
  obtain ⟨token, hsuffix, hresolve⟩ := Difficulty.readSuffix_stated f.suffix_stated hmark
  refine ⟨token, ?_, hresolve⟩
  have hnext := Difficulty.noDigitFirst_stated f.suffix_stated hdigit
  have htext : f.text = f.letters.text ++ (f.count ++ (f.suffix ++ CheckForm.ending f.target)) := by
    simp [CheckForm.text]
  rw [read?, htext, readLetters?_text]
  simp only [Option.bind_eq_bind, Option.bind_some,
    takeWhile_isDigit_append f.count_isNumeral.2 hnext,
    dropWhile_isDigit_append f.count_isNumeral.2 hnext, if_neg f.count_isNumeral.1, hsuffix,
    readEnd?_ending f.target_isNumeral f.target_of_ev, Option.pure_def]

/-- What is read as a check is a form. -/
theorem CheckText.exists_form_of_read? {cs : List Char} {parts : CheckText}
    (h : read? cs = some parts) : ∃ f : CheckForm, f.text = cs := by
  simp only [read?, Option.bind_eq_bind, Option.bind_eq_some_iff, Prod.exists] at h
  obtain ⟨letters, rest, hletters, h⟩ := h
  split at h
  · simp at h
  · rename_i hcount
    cases hsuffix : Difficulty.readSuffix (rest.dropWhile Char.isDigit) with
    | mk token tail =>
      simp only [hsuffix, Option.bind_eq_some_iff] at h
      obtain ⟨target, htarget, -⟩ := h
      obtain ⟨suffix, d, hsplit, hstated, -⟩ := Difficulty.exists_stated_of_readSuffix hsuffix
      obtain ⟨rfl, hnumeral, hev⟩ := of_readEnd? htarget
      refine ⟨⟨letters, _, suffix, d, target, isNumeral_takeWhile hcount, hstated, hnumeral, hev⟩,
        ?_⟩
      have hrest := List.takeWhile_append_dropWhile (p := Char.isDigit) (l := rest)
      rw [eq_of_readLetters? hletters, CheckForm.text, List.append_assoc, List.append_assoc,
        ← hsplit, hrest]

namespace Check

/-- A check is read as what its numbers make of it; its difficulty is always known. -/
theorem read_text (f : CheckForm) : read f.text = f.reading := by
  obtain ⟨token, hread, hresolve⟩ := CheckText.read?_text f
  rw [read, hread, CheckForm.reading]
  simp only [hresolve]
  rfl

/-- What is no form is no check. -/
theorem read_of_no_form {cs : List Char} (h : ∀ f : CheckForm, f.text ≠ cs) :
    read cs = .ok .unrecognized := by
  unfold read
  cases hread : CheckText.read? cs with
  | none => rfl
  | some parts =>
    obtain ⟨f, hf⟩ := CheckText.exists_form_of_read? hread
    exact absurd hf (h f)

end Check

/-! ## Normal checks -/

/-- A normal check as a player writes it, without the flag of a secret roll. -/
structure NormalCheckForm where
  count : List Char
  suffix : List Char
  difficulty : Difficulty
  count_isNumeral : IsNumeral count
  suffix_stated : Difficulty.Stated suffix difficulty

namespace NormalCheckForm

/-- The characters of the check. -/
def text (f : NormalCheckForm) : List Char :=
  'N' :: 'J' :: (f.count ++ f.suffix)

/-- The characters of the check, with the flag if it is there. -/
def flagged (secret : Bool) (f : NormalCheckForm) : List Char :=
  if secret then 'S' :: f.text else f.text

end NormalCheckForm

theorem NormalCheckText.readUnflagged?_text (secret : Bool) (f : NormalCheckForm) :
    ∃ token, readUnflagged? secret f.text = some ⟨secret, f.count, token⟩ ∧
      Difficulty.ofSuffix token = .ok f.difficulty := by
  have hnothing : ∀ c ∈ ([] : List Char).head?, c ≠ '[' ∧ c ≠ '@' := by simp
  obtain ⟨token, hsuffix, hresolve⟩ := Difficulty.readSuffix_stated f.suffix_stated hnothing
  refine ⟨token, ?_, hresolve⟩
  have hnext := Difficulty.noDigitFirst_stated f.suffix_stated noDigitFirst_nil
  rw [List.append_nil] at hsuffix hnext
  simp only [NormalCheckForm.text, readUnflagged?,
    takeWhile_isDigit_append f.count_isNumeral.2 hnext,
    dropWhile_isDigit_append f.count_isNumeral.2 hnext, hsuffix]
  rw [if_pos ⟨f.count_isNumeral.1, trivial⟩]

theorem NormalCheckText.read?_flagged (secret : Bool) (f : NormalCheckForm) :
    ∃ token, read? (f.flagged secret) = some ⟨secret, f.count, token⟩ ∧
      Difficulty.ofSuffix token = .ok f.difficulty := by
  cases secret with
  | false => exact readUnflagged?_text false f
  | true => exact readUnflagged?_text true f

theorem NormalCheckText.exists_form_of_readUnflagged? {secret : Bool} {cs : List Char}
    {parts : NormalCheckText} (h : readUnflagged? secret cs = some parts) :
    ∃ f : NormalCheckForm, f.text = cs := by
  unfold readUnflagged? at h
  split at h
  · rename_i rest
    cases hsuffix : Difficulty.readSuffix (rest.dropWhile Char.isDigit) with
    | mk token tail =>
      simp only [hsuffix] at h
      split at h
      · rename_i hwhole
        obtain ⟨hcount, rfl⟩ := hwhole
        obtain ⟨suffix, d, hsplit, hstated, -⟩ := Difficulty.exists_stated_of_readSuffix hsuffix
        rw [List.append_nil] at hsplit
        subst hsplit
        refine ⟨⟨_, _, d, isNumeral_takeWhile hcount, hstated⟩, ?_⟩
        simp [NormalCheckForm.text, List.takeWhile_append_dropWhile]
      · simp at h
  · simp at h

theorem NormalCheckText.exists_form_of_read? {cs : List Char} {parts : NormalCheckText}
    (h : read? cs = some parts) : ∃ secret, ∃ f : NormalCheckForm, f.flagged secret = cs := by
  unfold read? at h
  split at h
  · obtain ⟨f, rfl⟩ := exists_form_of_readUnflagged? h
    exact ⟨true, f, rfl⟩
  · obtain ⟨f, rfl⟩ := exists_form_of_readUnflagged? h
    exact ⟨false, f, rfl⟩

/-- A normal check is written out as the B roll of its number and its threshold. -/
theorem expandNormalCheck_text (secret : Bool) (f : NormalCheckForm) :
    expandNormalCheck (String.ofList (f.flagged secret)) =
      (readNumber f.count).map fun count : Nat =>
        (if secret then "S" else "") ++ SuccessRoll.command count f.difficulty.threshold := by
  obtain ⟨token, hread, hresolve⟩ := NormalCheckText.read?_flagged secret f
  rw [expandNormalCheck, String.toList_ofList, hread]
  simp only [hresolve]
  cases hcount : readNumber f.count with
  | error fault => rfl
  | ok n =>
    -- A number that was read is short enough to be written again.
    have hn : Writable n := writable_of_lt (lt_of_readNumber f.count_isNumeral.2 hcount)
    have hcommand := SuccessRoll.successCommand_of_writable hn f.difficulty.threshold_lt
    simp only [bind, Except.bind, hcommand, pure, Except.pure, Except.map]

/-- What is no form is left as it is. -/
theorem expandNormalCheck_of_no_form {command : String}
    (h : ∀ secret, ∀ f : NormalCheckForm, f.flagged secret ≠ command.toList) :
    expandNormalCheck command = .ok command := by
  unfold expandNormalCheck
  cases hread : NormalCheckText.read? command.toList with
  | none => rfl
  | some parts =>
    obtain ⟨secret, f, hf⟩ := NormalCheckText.exists_form_of_read? hread
    exact absurd hf (h secret f)

end ChatDice
