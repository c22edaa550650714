import ChatDice.Game.GameSystem
import ChatDice.Proofs.Game.Routing
import ChatDice.Proofs.Text.Pattern

/-!
# ChatDice.Proofs.Game.Starts — which start of a command is found

What a game announces is a pattern: a flag that may be missing, and behind it one of the prefixes as
it stands, or else the start of a B roll (`commandPattern`). Routing takes what this pattern takes
(`Routing.start?_eq_match?`), so what is taken is the front of the text, and more text behind it
changes nothing about there being a start.

What is taken is said here without the pattern: `FirstTaken` is the first of the alternatives that
stands at the front of a text. The flag is where care is needed. It is tried as present first, and
where nothing follows it the `S` is read again as a character of the start itself, so a prefix that
begins with `S` is found, but only if what follows its `S` is no start by itself
(`GameSystem.commandStart_exact`).
-/

namespace ChatDice

namespace Routing

variable {prefixes : List String} {cs : List Char}

/-! ## The pattern -/

/-- The start of a B roll: digits, the letter in either case, digits. -/
def rollPattern : Pattern :=
  .seq (.many Char.isDigit) (.seq (.one fun c => c == 'B' || c == 'b') (.many Char.isDigit))

/-- What the commands of a game start with. -/
def commandPattern (prefixes : List String) : Pattern :=
  .seq (.optional (.one (· == 'S'))) (.literalsOr rollPattern prefixes)

theorem commonStart?_eq_match? (cs : List Char) : commonStart? cs = rollPattern.match? cs := by
  -- Only the whole first run can be in front of the letter, which is no digit.
  have hmark : ∀ text : List Char, text.takeWhile Char.isDigit ≠ [] →
      (Pattern.seq (.one fun c => c == 'B' || c == 'b') (.many Char.isDigit)).ways text = [] := by
    intro text htext
    cases text with
    | nil => rfl
    | cons c text =>
      apply Pattern.ways_one_seq_of_neg
      have hc : c.isDigit = true := by
        by_contra hc
        exact htext (List.takeWhile_cons_of_neg hc)
      have hB := ne_of_isDigit hc (isDigit_mark (.inl rfl))
      have hb := ne_of_isDigit hc (isDigit_mark (.inr rfl))
      simp [hB, hb]
  rw [rollPattern, Pattern.match?_many_seq hmark, commonStart?]
  cases htimes : cs.takeWhile Char.isDigit with
  | nil => rfl
  | cons d ds =>
    cases hdrop : cs.dropWhile Char.isDigit with
    | nil => rfl
    | cons mark rest =>
      rw [if_neg (List.cons_ne_nil d ds), Pattern.match?_one_seq_cons, Pattern.match?_many]
      by_cases hb : mark = 'B' ∨ mark = 'b' <;> by_cases hsides : rest.takeWhile Char.isDigit = []
        <;> simp [hb, hsides]

theorem unflaggedStart?_eq_match? (prefixes : List String) (cs : List Char) :
    unflaggedStart? prefixes cs = (Pattern.literalsOr rollPattern prefixes).match? cs := by
  rw [Pattern.match?_literalsOr, unflaggedStart?]
  cases prefixes.find? fun p => p.toList.isPrefixOf cs with
  | some p => rfl
  | none => exact commonStart?_eq_match? cs

/-- The flag is tried as present first. -/
theorem start?_flag (prefixes : List String) (rest : List Char) :
    start? prefixes ('S' :: rest) =
      ((unflaggedStart? prefixes rest).map ('S' :: ·)).or
        (unflaggedStart? prefixes ('S' :: rest)) := by
  rw [start?]
  cases unflaggedStart? prefixes rest <;> rfl

theorem start?_of_no_flag (h : ∀ rest, cs ≠ 'S' :: rest) :
    start? prefixes cs = unflaggedStart? prefixes cs := by
  rw [start?.eq_def]
  split
  · rename_i rest
    exact absurd rfl (h rest)
  · rfl

/-- Routing takes what the pattern takes. -/
theorem start?_eq_match? (prefixes : List String) (cs : List Char) :
    start? prefixes cs = (commandPattern prefixes).match? cs := by
  rw [commandPattern, Pattern.match?_optional_seq, ← unflaggedStart?_eq_match?]
  by_cases hflag : ∃ rest, cs = 'S' :: rest
  · obtain ⟨rest, rfl⟩ := hflag
    rw [start?_flag, Pattern.match?_one_seq_cons, ← unflaggedStart?_eq_match?]
    rfl
  · -- Without an `S` in front only the pattern behind the flag is left.
    have hnone : (Pattern.seq (.one (· == 'S')) (.literalsOr rollPattern prefixes)).match? cs =
        none := by
      cases cs with
      | nil => rfl
      | cons c cs =>
        rw [Pattern.match?_one_seq_cons, if_neg]
        intro hc
        exact hflag ⟨cs, by rw [beq_iff_eq.mp hc]⟩
    rw [hnone, start?_of_no_flag (not_exists.mp hflag), Option.none_or]

/-! ## The alternatives -/

/-- A text begins with one of the prefixes, or like a B roll. -/
def Begins (prefixes : List String) (cs : List Char) : Prop :=
  (∃ p ∈ prefixes, p.toList <+: cs) ∨ ∃ g : GroupForm, g.text <+: cs

/-- What the first alternative takes that stands at the front of a text. The start of a B roll is
the last alternative, and both of its runs of digits are the longest there are. -/
inductive FirstTaken (prefixes : List String) (cs : List Char) : List Char → Prop
  | ofPrefix {before after : List String} {p : String} (order : prefixes = before ++ p :: after)
      (skipped : ∀ q ∈ before, ¬ q.toList <+: cs) (stands : p.toList <+: cs) :
      FirstTaken prefixes cs p.toList
  | roll (skipped : ∀ q ∈ prefixes, ¬ q.toList <+: cs) (g : GroupForm) (stands : g.text <+: cs)
      (longest : ∀ other : GroupForm, other.text <+: cs →
        other.times <+: g.times ∧ other.sides <+: g.sides) :
      FirstTaken prefixes cs g.text

/-- Of two groups at the front of a text, the one with nothing more of its digits behind it has the
longer runs. -/
theorem runs_isPrefix {g other : GroupForm} {rest : List Char} (hrest : NoDigitFirst rest)
    (h : other.text <+: g.text ++ rest) :
    other.times <+: g.times ∧ other.sides <+: g.sides := by
  obtain ⟨tail, htail⟩ := h
  have htexts : other.times ++ (other.mark :: (other.sides ++ tail)) =
      g.times ++ (g.mark :: (g.sides ++ rest)) := by
    simpa [GroupForm.text] using htail
  have htimes : other.times = g.times := by
    have hrun := congrArg (List.takeWhile Char.isDigit) htexts
    rwa [takeWhile_isDigit_append other.times_isNumeral.2
        (noDigitFirst_cons (isDigit_mark other.mark_eq)),
      takeWhile_isDigit_append g.times_isNumeral.2
        (noDigitFirst_cons (isDigit_mark g.mark_eq))] at hrun
  rw [htimes, List.append_cancel_left_eq, List.cons.injEq] at htexts
  have hsides : other.sides ++ tail.takeWhile Char.isDigit = g.sides := by
    rw [← List.takeWhile_append_of_pos other.sides_isNumeral.2, htexts.2,
      takeWhile_isDigit_append g.sides_isNumeral.2 hrest]
  exact ⟨⟨[], by rw [htimes, List.append_nil]⟩, ⟨_, hsides⟩⟩

/-- The start of a B roll that is found is a group with nothing more of its digits behind it. -/
theorem exists_group_of_commonStart? {start : List Char} (h : commonStart? cs = some start) :
    ∃ (g : GroupForm) (rest : List Char),
      g.text = start ∧ cs = g.text ++ rest ∧ NoDigitFirst rest := by
  unfold commonStart? at h
  simp only at h
  split at h
  · rename_i d ds mark tail htimes hdrop
    split at h
    · rename_i hmark
      have htimes' : IsNumeral (cs.takeWhile Char.isDigit) :=
        isNumeral_takeWhile (by rw [htimes]; exact List.cons_ne_nil d ds)
      refine ⟨⟨_, mark, _, htimes', hmark.1, isNumeral_takeWhile hmark.2⟩,
        tail.dropWhile Char.isDigit, Option.some.inj h, ?_, ?_⟩
      · simp [GroupForm.text, ← hdrop]
      · exact noDigitFirst_dropWhile tail
    · cases h
  · cases h

/-- What is found of a B roll has the longest runs of digits. -/
theorem commonStart?_eq_some_iff {start : List Char} :
    commonStart? cs = some start ↔ ∃ g : GroupForm, g.text = start ∧ g.text <+: cs ∧
      ∀ other : GroupForm, other.text <+: cs →
        other.times <+: g.times ∧ other.sides <+: g.sides := by
  constructor
  · intro h
    obtain ⟨g, rest, rfl, rfl, hrest⟩ := exists_group_of_commonStart? h
    exact ⟨g, rfl, List.prefix_append _ _, fun other hother => runs_isPrefix hrest hother⟩
  · rintro ⟨g, rfl, ⟨tail, rfl⟩, longest⟩
    obtain ⟨start, hstart⟩ := Option.isSome_iff_exists.mp (commonStart?_isSome g tail)
    obtain ⟨found, rest, rfl, hfound, hrest⟩ := exists_group_of_commonStart? hstart
    -- Each of the two has the longest runs, so they are of one length at the front of one text.
    have hle := longest found ⟨rest, hfound.symm⟩
    have hge : g.times <+: found.times ∧ g.sides <+: found.sides :=
      runs_isPrefix hrest ⟨tail, hfound⟩
    have hlength : found.text.length = g.text.length := by
      have htimes := Nat.le_antisymm hle.1.length_le hge.1.length_le
      have hsides := Nat.le_antisymm hle.2.length_le hge.2.length_le
      simp [GroupForm.text, htimes, hsides]
    rw [hstart, List.append_inj_left hfound.symm hlength]

theorem find?_prefix_eq_some_iff {p : String} :
    (prefixes.find? fun p => p.toList.isPrefixOf cs) = some p ↔
      ∃ before after, prefixes = before ++ p :: after ∧ (∀ q ∈ before, ¬ q.toList <+: cs) ∧
        p.toList <+: cs := by
  rw [List.find?_eq_some_iff_append, List.isPrefixOf_iff_prefix]
  simp only [Bool.not_eq_true', ← Bool.not_eq_true, List.isPrefixOf_iff_prefix]
  constructor
  · rintro ⟨stands, before, after, order, skipped⟩
    exact ⟨before, after, order, skipped, stands⟩
  · rintro ⟨before, after, order, skipped, stands⟩
    exact ⟨stands, before, after, order, skipped⟩

theorem find?_prefix_eq_none_iff :
    (prefixes.find? fun p => p.toList.isPrefixOf cs) = none ↔
      ∀ q ∈ prefixes, ¬ q.toList <+: cs := by
  simp only [List.find?_eq_none, List.isPrefixOf_iff_prefix]

theorem unflaggedStart?_eq_some_iff {taken : List Char} :
    unflaggedStart? prefixes cs = some taken ↔ FirstTaken prefixes cs taken := by
  constructor
  · intro h
    unfold unflaggedStart? at h
    cases hfind : prefixes.find? fun p => p.toList.isPrefixOf cs with
    | some p =>
      rw [hfind] at h
      obtain ⟨before, after, order, skipped, stands⟩ := find?_prefix_eq_some_iff.mp hfind
      rw [← Option.some.inj h]
      exact .ofPrefix order skipped stands
    | none =>
      rw [hfind] at h
      obtain ⟨g, rfl, stands, longest⟩ := commonStart?_eq_some_iff.mp h
      exact .roll (find?_prefix_eq_none_iff.mp hfind) g stands longest
  · intro h
    unfold unflaggedStart?
    cases h with
    | ofPrefix order skipped stands =>
      rw [find?_prefix_eq_some_iff.mpr ⟨_, _, order, skipped, stands⟩]
    | roll skipped g stands longest =>
      rw [find?_prefix_eq_none_iff.mpr skipped]
      exact commonStart?_eq_some_iff.mpr ⟨g, rfl, stands, longest⟩

/-- A text has a start without the flag exactly if it begins with an alternative. -/
theorem unflaggedStart?_isSome_iff :
    (unflaggedStart? prefixes cs).isSome = true ↔ Begins prefixes cs := by
  constructor
  · intro h
    obtain ⟨taken, htaken⟩ := Option.isSome_iff_exists.mp h
    cases unflaggedStart?_eq_some_iff.mp htaken with
    | ofPrefix order skipped stands => exact .inl ⟨_, by simp [order], stands⟩
    | roll skipped g stands longest => exact .inr ⟨g, stands⟩
  · rintro (⟨p, hp, hcs⟩ | ⟨g, rest, rfl⟩)
    · exact unflaggedStart?_isSome_of_prefix hp hcs
    · exact unflaggedStart?_isSome_of_group prefixes g rest

/-! ## The flag -/

/-- A text begins with one of the prefixes, or like a B roll, behind the flag. -/
def BeginsFlagged (prefixes : List String) (cs : List Char) : Prop :=
  ∃ rest, cs = 'S' :: rest ∧ Begins prefixes rest

theorem not_beginsFlagged (h : ∀ rest, cs ≠ 'S' :: rest) : ¬ BeginsFlagged prefixes cs :=
  fun ⟨rest, hcs, _⟩ => h rest hcs

theorem start?_isSome_iff :
    (start? prefixes cs).isSome = true ↔ Begins prefixes cs ∨ BeginsFlagged prefixes cs := by
  by_cases hflag : ∃ rest, cs = 'S' :: rest
  · obtain ⟨rest, rfl⟩ := hflag
    simp [start?_flag, BeginsFlagged, unflaggedStart?_isSome_iff, or_comm]
  · have hflag := not_exists.mp hflag
    rw [start?_of_no_flag hflag, unflaggedStart?_isSome_iff]
    exact (or_iff_left (not_beginsFlagged hflag)).symm

/-- What is taken: the flag and what follows it, where something follows it, and else what stands at
the front of the text itself, which may begin with `S` as well. -/
theorem start?_eq_some_iff {start : List Char} :
    start? prefixes cs = some start ↔
      (∃ rest taken, cs = 'S' :: rest ∧ FirstTaken prefixes rest taken ∧ start = 'S' :: taken) ∨
      (¬ BeginsFlagged prefixes cs ∧ FirstTaken prefixes cs start) := by
  by_cases hflag : ∃ rest, cs = 'S' :: rest
  · obtain ⟨rest, rfl⟩ := hflag
    -- The text itself, with its `S`, is only tried where nothing follows the flag.
    have hnone : unflaggedStart? prefixes rest = none ↔ ¬ BeginsFlagged prefixes ('S' :: rest) := by
      rw [← Option.not_isSome_iff_eq_none, unflaggedStart?_isSome_iff]
      simp [BeginsFlagged]
    rw [start?_flag, Option.or_eq_some_iff, Option.map_eq_some_iff, Option.map_eq_none_iff, hnone,
      unflaggedStart?_eq_some_iff]
    simp only [unflaggedStart?_eq_some_iff]
    constructor
    · rintro (⟨taken, htaken, rfl⟩ | h)
      · exact .inl ⟨rest, taken, rfl, htaken, rfl⟩
      · exact .inr h
    · rintro (⟨_, taken, hcs, htaken, rfl⟩ | h)
      · rw [← (List.cons.inj hcs).2] at htaken
        exact .inl ⟨taken, htaken, rfl⟩
      · exact .inr h
  · have hflag := not_exists.mp hflag
    rw [start?_of_no_flag hflag, unflaggedStart?_eq_some_iff]
    constructor
    · exact fun h => .inr ⟨not_beginsFlagged hflag, h⟩
    · rintro (⟨rest, _, hcs, _⟩ | ⟨_, h⟩)
      · exact absurd hcs (hflag rest)
      · exact h

end Routing

namespace GameSystem

/-- The start that is found, for any prefixes and any text: when there is one, and which one it is.
It is what the pattern takes, it is the front of the text, and there is still one when more text
follows. -/
theorem commandStart_exact (sys : GameSystem) (text : String) :
    (sys.start? text).map String.toList =
        (Routing.commandPattern sys.prefixes).match? text.toList ∧
      ((sys.start? text).isSome = true ↔
        Routing.Begins sys.prefixes text.toList ∨ Routing.BeginsFlagged sys.prefixes text.toList) ∧
      (∀ start, sys.start? text = some start ↔
        (∃ rest taken, text.toList = 'S' :: rest ∧ Routing.FirstTaken sys.prefixes rest taken ∧
          start.toList = 'S' :: taken) ∨
        (¬ Routing.BeginsFlagged sys.prefixes text.toList ∧
          Routing.FirstTaken sys.prefixes text.toList start.toList)) ∧
      (∀ start, sys.start? text = some start → start.toList <+: text.toList) ∧
      ((sys.start? text).isSome = true → ∀ more, (sys.start? (text ++ more)).isSome = true) := by
  have htaken : ∀ start, sys.start? text = some start ↔
      Routing.start? sys.prefixes text.toList = some start.toList := by
    intro start
    rw [start?, Option.map_eq_some_iff]
    constructor
    · rintro ⟨cs, hcs, rfl⟩
      rw [hcs, String.toList_ofList]
    · intro h
      exact ⟨_, h, String.ofList_toList⟩
  have hpattern := Routing.start?_eq_match? sys.prefixes text.toList
  refine ⟨?_, ?_, ?_, ?_, ?_⟩
  · rw [← hpattern, start?, Option.map_map]
    simp [Function.comp_def]
  · rw [start?, Option.isSome_map, Routing.start?_isSome_iff]
  · intro start
    rw [htaken, Routing.start?_eq_some_iff]
  · intro start hstart
    rw [htaken, hpattern] at hstart
    exact Pattern.match?_isPrefix hstart
  · intro h more
    rw [start?, Option.isSome_map, hpattern] at h
    rw [start?, Option.isSome_map, String.toList_append, Routing.start?_eq_match?]
    exact Pattern.match?_append h more.toList

/-- A prefix that begins with the flag's letter is found whole where nothing follows the flag; a
game with the empty prefix takes the flag first. Signs of a prefix stand for themselves. -/
theorem commandStart_exact_overlapping :
    let signs := ofWords "Signs" ["SB", ".*"] none none []
    let anything := ofWords "Anything" ["SB", ""] none none []
    (signs.start? "SB" = some "SB" ∧ "SB".toList <+: "SB".toList ∧
        ∀ more, (signs.start? ("SB" ++ more)).isSome = true) ∧
      (anything.start? "SB" = some "S" ∧ "S".toList <+: "SB".toList ∧
        ∀ more, (anything.start? ("SB" ++ more)).isSome = true) ∧
      signs.start? "S.*" = some "S.*" ∧ signs.start? "Sxx" = none := by
  intro signs anything
  have hsigns : signs.start? "SB" = some "SB" := by decide
  have hanything : anything.start? "SB" = some "S" := by decide
  obtain ⟨-, -, -, hfront, hmore⟩ := commandStart_exact signs "SB"
  obtain ⟨-, -, -, hfront', hmore'⟩ := commandStart_exact anything "SB"
  refine ⟨⟨hsigns, hfront _ hsigns, hmore (by rw [hsigns]; rfl)⟩,
    ⟨hanything, hfront' _ hanything, hmore' (by rw [hanything]; rfl)⟩, by decide, by decide⟩

end GameSystem

end ChatDice
