import ChatDice.Proofs.Game.Rendering

/-!
# ChatDice.Proofs.Game.Difficulty — the tokens of difficulties

Two readers look at the token of a difficulty. The grammar of commands takes it off a text letter by
letter, in ASCII letters of either case. The resolver compares a whole text with a digit, and then
looks it up in the capitals of every script. A text that only one of them knows would be either a
fault in the middle of a command or a difficulty that no command can state.

`Difficulty.resolve_as_grammar` says that there is none. Both accept the digit of a threshold and
the letters of a difficulty in either case (`Difficulty.mem_spellings_iff`), and nothing else.
-/

namespace ChatDice

namespace Difficulty

/-! ## Digits and letters -/

/-- The digit of the threshold. -/
def digit : Difficulty → Char
  | kids => '2'
  | easy => '3'
  | normal => '4'
  | hard => '5'
  | ultraHard => '6'

/-- The letters of the difficulty, in capitals. -/
def letters : Difficulty → List Char
  | kids => ['K']
  | easy => ['E']
  | normal => ['N']
  | hard => ['H']
  | ultraHard => ['U', 'H']

/-- One character whose capital is known is that capital or its small letter. -/
theorem eq_of_map_toUpper_singleton {token : List Char} {w : Char}
    (h : token.map Char.toUpper = [w]) : token = [w] ∨ token = [w.toLower] := by
  obtain ⟨c, rfl, rfl⟩ := List.map_eq_singleton_iff.mp h
  simpa using Text.eq_toUpper_or_toLower c

/-- A difficulty is spelled by its digit, or by its letters in either case. -/
theorem mem_spellings_iff {token : List Char} {d : Difficulty} :
    token ∈ d.spellings ↔ token = [d.digit] ∨ token.map Char.toUpper = d.letters := by
  constructor
  · intro h
    cases d <;> simp only [spellings, List.mem_cons, List.not_mem_nil, or_false] at h
    case ultraHard => rcases h with rfl | rfl | rfl | rfl | rfl <;> decide
    all_goals rcases h with rfl | rfl | rfl <;> decide
  · rintro (rfl | h)
    · cases d <;> decide
    · cases d
      case ultraHard =>
        obtain ⟨c, cs, rfl, hU, hH⟩ := List.map_eq_cons_iff.mp h
        have hfirst : c = 'U' ∨ c = 'u' := by
          have hc := Text.eq_toUpper_or_toLower c
          rwa [hU] at hc
        have hsecond : cs = ['H'] ∨ cs = ['h'] := eq_of_map_toUpper_singleton hH
        rcases hfirst with rfl | rfl <;> rcases hsecond with rfl | rfl <;> decide
      all_goals rcases eq_of_map_toUpper_singleton h with rfl | rfl <;> decide

/-- A spelling stays one in any case of its letters. -/
theorem mem_spellings_of_toUpper_eq {token other : List Char} {d : Difficulty}
    (h : other.map Char.toUpper = token.map Char.toUpper) (htoken : token ∈ d.spellings) :
    other ∈ d.spellings := by
  rw [mem_spellings_iff] at htoken ⊢
  rcases htoken with rfl | hletters
  · -- A digit is its own capital and its own small letter.
    have hdigit : d.digit.toUpper = d.digit ∧ d.digit.toLower = d.digit := by cases d <;> decide
    rw [List.map_singleton, hdigit.1] at h
    left
    rcases eq_of_map_toUpper_singleton h with rfl | rfl
    · rfl
    · rw [hdigit.2]
  · exact .inr (h.trans hletters)

/-! ## The resolver -/

theorem ofThreshold?_eq_some_iff {n : Nat} {d : Difficulty} :
    ofThreshold? n = some d ↔ n = d.threshold := by
  constructor
  · intro h
    unfold ofThreshold? at h
    split at h <;> cases h <;> rfl
  · rintro rfl
    exact ofThreshold?_threshold d

theorem ofDigit?_eq_some_iff {token : List Char} {d : Difficulty} :
    ofDigit? (String.ofList token) = some d ↔ token = [d.digit] := by
  rw [ofDigit?, String.toList_ofList]
  constructor
  · intro h
    split at h
    · rename_i c
      split at h
      · rename_i hc
        -- The digit is known from its distance to zero.
        have hvalue : c.toNat - '0'.toNat = d.threshold := ofThreshold?_eq_some_iff.mp h
        have hrange := toNat_of_isDigit hc
        have hzero : '0'.toNat = 48 := rfl
        have hdigit : d.digit.toNat = 48 + d.threshold := by cases d <;> rfl
        have hsame : c.toNat = d.digit.toNat := by omega
        rw [Char.toNat_inj.mp hsame]
      · cases h
    · cases h
  · rintro rfl
    cases d <;> rfl

theorem lookup_byLetters_eq_some_iff {name : String} {d : Difficulty} :
    byLetters.lookup name = some d ↔ name.toList = d.letters := by
  constructor
  · intro h
    have hentry : (name, d) ∈ byLetters := Text.mem_of_lookup h
    simp only [byLetters, List.mem_cons, Prod.mk.injEq, List.not_mem_nil, or_false] at hentry
    rcases hentry with ⟨rfl, rfl⟩ | ⟨rfl, rfl⟩ | ⟨rfl, rfl⟩ | ⟨rfl, rfl⟩ | ⟨rfl, rfl⟩ <;> rfl
  · intro h
    have hname : name = String.ofList d.letters := by rw [← h, String.ofList_toList]
    rw [hname]
    cases d <;> rfl

/-- The resolver gives a text the difficulty that the text spells. -/
theorem ofSuffix_eq_ok_iff {token : List Char} {d : Difficulty} :
    ofSuffix (some token) = .ok d ↔ token ∈ d.spellings := by
  refine ⟨?_, ofSuffix_spelling⟩
  intro h
  rw [ofSuffix_some] at h
  rw [mem_spellings_iff]
  cases hdigit : ofDigit? (String.ofList token) with
  | some found =>
    rw [hdigit] at h
    obtain rfl : found = d := Except.ok.inj h
    exact .inl (ofDigit?_eq_some_iff.mp hdigit)
  | none =>
    rw [hdigit] at h
    cases hletters : byLetters.lookup (String.ofList (token.map Char.toUpper)) with
    | some found =>
      rw [hletters] at h
      obtain rfl : found = d := Except.ok.inj h
      have hcapitals := lookup_byLetters_eq_some_iff.mp hletters
      rw [String.toList_ofList] at hcapitals
      exact .inr hcapitals
    | none =>
      rw [hletters] at h
      cases h

/-- The resolver has one fault, which names the text. -/
theorem ofSuffix_eq_ok_or_error (token : List Char) :
    (∃ d, ofSuffix (some token) = .ok d) ∨
      ofSuffix (some token) = .error (.unknownDifficulty (String.ofList token)) := by
  rw [ofSuffix_some]
  cases ofDigit? (String.ofList token) with
  | some d => exact .inl ⟨d, rfl⟩
  | none =>
    cases byLetters.lookup (String.ofList (token.map Char.toUpper)) with
    | some d => exact .inl ⟨d, rfl⟩
    | none => exact .inr rfl

/-! ## The grammar -/

/-- A text that is taken off whole is a spelling. -/
theorem readToken?_whole_iff {token : List Char} :
    readToken? token = some (token, []) ↔ ∃ d : Difficulty, token ∈ d.spellings := by
  constructor
  · intro h
    exact (exists_spelling_of_readToken? h).2
  · rintro ⟨d, hd⟩
    have h := readToken?_spelling hd []
    rwa [List.append_nil] at h

/-- A suffix in square brackets states the difficulty of the token between them. -/
theorem readSuffix_inBrackets_iff {token : List Char} :
    readSuffix ('[' :: token ++ [']']) = (some token, []) ↔
      ∃ d : Difficulty, token ∈ d.spellings := by
  constructor
  · intro h
    obtain ⟨suffix, d, hsuffix, hstated, -⟩ := exists_stated_of_readSuffix h
    rw [List.append_nil] at hsuffix
    cases hstated with
    | absent => cases hsuffix
    | inBrackets hd =>
      have hinner := List.append_cancel_right (List.cons.inj hsuffix).2
      rw [hinner]
      exact ⟨d, hd⟩
    | behindAt hd => cases hsuffix
  · rintro ⟨d, hd⟩
    have hread := readToken?_spelling hd [']']
    simp [readSuffix, hread]

/-- A suffix behind an at sign states the difficulty of the token there. -/
theorem readSuffix_behindAt_iff {token : List Char} :
    readSuffix ('@' :: token) = (some token, []) ↔ ∃ d : Difficulty, token ∈ d.spellings := by
  constructor
  · intro h
    obtain ⟨suffix, d, hsuffix, hstated, -⟩ := exists_stated_of_readSuffix h
    rw [List.append_nil] at hsuffix
    cases hstated with
    | absent => cases hsuffix
    | inBrackets hd => cases hsuffix
    | behindAt hd =>
      rw [(List.cons.inj hsuffix).2]
      exact ⟨d, hd⟩
  · rintro ⟨d, hd⟩
    have hread := readToken?_whole_iff.mpr ⟨d, hd⟩
    simp [readSuffix, hread]

end Difficulty

/-- No check is refused for its difficulty. -/
theorem Check.read_ne_unknownDifficulty (cs : List Char) (token : String) :
    read cs ≠ .error (.unknownDifficulty token) := by
  intro h
  obtain ⟨f, digits, -, -, hfault⟩ := read_eq_error_iff.mp h
  cases hfault

/-- No normal check is refused for its difficulty. -/
theorem expandNormalCheck_ne_unknownDifficulty (command token : String) :
    expandNormalCheck command ≠ .error (.unknownDifficulty token) := by
  by_cases hform : ∃ secret, ∃ f : NormalCheckForm, f.flagged secret = command.toList
  · obtain ⟨secret, f, hf⟩ := hform
    rw [← String.ofList_toList (s := command), ← hf, expandNormalCheck_text]
    rcases Nat.lt_or_ge maxDigits (significantCount f.count) with hlarge | hshort
    · rw [readNumber_of_lt hlarge]
      intro h
      cases h
    · rw [readNumber_of_le hshort]
      intro h
      cases h
  · rw [expandNormalCheck_of_no_form fun secret f hf => hform ⟨secret, f, hf⟩]
    intro h
    cases h

namespace Difficulty

/-- The resolver and the grammar know the same tokens. A text is resolved to a difficulty exactly if
it spells it, which is exactly if the grammar takes the text off as a token, by itself or in either
bracket; any other text is the one fault of the resolver. A threshold lies between two and six, it
does not change with the case of ASCII letters, and nothing outside ASCII has one. So neither a
check nor a normal check is ever refused for its difficulty, whatever stands in the command. -/
theorem resolve_as_grammar (text : String) :
    (∀ d : Difficulty, resolve (some text) = .ok d ↔ text.toList ∈ d.spellings) ∧
      ((∃ d, resolve (some text) = .ok d) ↔ readToken? text.toList = some (text.toList, [])) ∧
      (readSuffix ('[' :: text.toList ++ [']']) = (some text.toList, []) ↔
        readToken? text.toList = some (text.toList, [])) ∧
      (readSuffix ('@' :: text.toList) = (some text.toList, []) ↔
        readToken? text.toList = some (text.toList, [])) ∧
      (readToken? text.toList ≠ some (text.toList, []) ↔
        resolve (some text) = .error (.unknownDifficulty text)) ∧
      (∀ d : Difficulty, resolve (some text) = .ok d →
        (2 ≤ d.threshold ∧ d.threshold ≤ 6) ∧ (∀ c ∈ text.toList, c.toNat < 128) ∧
        ∀ other : String, other.toUpper = text.toUpper → resolve (some other) = .ok d) ∧
      ∀ token : String, Check.read text.toList ≠ .error (.unknownDifficulty token) ∧
        expandNormalCheck text ≠ .error (.unknownDifficulty token) := by
  have hresolve : ∀ s : String, resolve (some s) = ofSuffix (some s.toList) := by
    intro s
    rw [ofSuffix, Option.map_some, String.ofList_toList]
  have hiff : (∃ d, resolve (some text) = .ok d) ↔ ∃ d : Difficulty, text.toList ∈ d.spellings := by
    simp only [hresolve, ofSuffix_eq_ok_iff]
  refine ⟨?_, ?_, ?_, ?_, ?_, ?_, ?_⟩
  · intro d
    rw [hresolve, ofSuffix_eq_ok_iff]
  · rw [hiff, readToken?_whole_iff]
  · rw [readSuffix_inBrackets_iff, readToken?_whole_iff]
  · rw [readSuffix_behindAt_iff, readToken?_whole_iff]
  · rw [ne_eq, readToken?_whole_iff, ← hiff]
    have hends := ofSuffix_eq_ok_or_error text.toList
    rw [← hresolve, String.ofList_toList] at hends
    constructor
    · exact hends.resolve_left
    · rintro herror ⟨d, hd⟩
      rw [herror] at hd
      cases hd
  · intro d hd
    rw [hresolve, ofSuffix_eq_ok_iff] at hd
    refine ⟨d.threshold_mem, toNat_lt_of_mem_spelling hd, ?_⟩
    intro other hother
    rw [hresolve, ofSuffix_eq_ok_iff]
    apply mem_spellings_of_toUpper_eq _ hd
    have hlists := congrArg String.toList hother
    rwa [String.toUpper, String.toUpper, String.toList_map, String.toList_map] at hlists
  · exact fun token => ⟨Check.read_ne_unknownDifficulty _ token,
      expandNormalCheck_ne_unknownDifficulty text token⟩

/-- Both know two letters in mixed case. Neither knows the Kelvin sign, whose small letter is that
of the letter K, nor a letter or a digit of full width. -/
theorem resolve_as_grammar_lookalikes :
    (resolve (some "uH") = .ok .ultraHard ∧
        readSuffix "[uH]".toList = (some "uH".toList, [])) ∧
      ∀ lookalike ∈ ["\u212a", "\uff2b", "\uff14"],
        resolve (some lookalike) = .error (.unknownDifficulty lookalike) ∧
          readSuffix ('[' :: lookalike.toList ++ [']']) ≠ (some lookalike.toList, []) := by
  refine ⟨⟨?_, ?_⟩, ?_⟩
  · exact ((resolve_as_grammar "uH").1 .ultraHard).mpr (by decide)
  · exact (resolve_as_grammar "uH").2.2.1.mpr (by decide)
  · intro lookalike hmem
    have hunread : readToken? lookalike.toList ≠ some (lookalike.toList, []) := by
      revert lookalike
      decide
    obtain ⟨-, -, hbrackets, -, herror, -⟩ := resolve_as_grammar lookalike
    exact ⟨herror.mp hunread, fun h => hunread (hbrackets.mp h)⟩

end Difficulty

end ChatDice
