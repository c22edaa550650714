import ChatDice.Proofs.Dice.Plan

/-!
# ChatDice.Proofs.Dice.Account — what an account shows of the dice

The account of a roll starts with its notation between parentheses. Behind them stand the faces,
with commas within a group and blanks between groups, and behind the faces may stand successes and
more. `BRoll.drawsShown?` reads the draws off such a text: the notation says which dice were thrown,
and as many numbers behind it are their faces.

A text is `AccountOf` draws if it begins with the account of a legible roll that threw them, and
does not go on with a digit behind their faces. Two facts are behind everything else:

* `BRoll.AccountOf.drawsShown?` — what is read off an account is what was drawn;
* `BRoll.accountOf_of_makes` — the plan of a roll makes accounts of its draws.
-/

namespace ChatDice

/-! ## Numbers in a text -/

/-- The numbers in a text, in their order. Whatever is no digit keeps them apart. -/
def numbersIn (cs : List Char) : List Nat :=
  ((cs.splitOnP fun c => !c.isDigit).filter (· ≠ [])).map numeralValue

theorem numbersIn_nil : numbersIn [] = [] := by
  simp [numbersIn]

theorem numbersIn_cons {c : Char} (hc : c.isDigit = false) (rest : List Char) :
    numbersIn (c :: rest) = numbersIn rest := by
  simp [numbersIn, List.splitOnP_cons_eq_if_modifyHead, hc]

/-- What has no digits in front of the others has no numbers either. -/
theorem numbersIn_append {front : List Char} (hfront : ∀ c ∈ front, c.isDigit = false)
    (rest : List Char) : numbersIn (front ++ rest) = numbersIn rest := by
  induction front with
  | nil => rfl
  | cons c front ih =>
    rw [List.cons_append, numbersIn_cons (hfront c (by simp)),
      ih fun d hd => hfront d (List.mem_cons_of_mem c hd)]

/-- A numeral is read whole if no digit goes on with it. -/
theorem numbersIn_numeral {digits : List Char} (hdigits : IsNumeral digits) {rest : List Char}
    (hrest : NoDigitFirst rest) :
    numbersIn (digits ++ rest) = numeralValue digits :: numbersIn rest := by
  have hrun : ∀ c ∈ digits, (!c.isDigit) = false := by
    intro c hc
    simp [hdigits.2 c hc]
  cases rest with
  | nil =>
    rw [List.append_nil, numbersIn_nil, numbersIn, List.splitOnP_eq_singleton hrun]
    simp [hdigits.1]
  | cons c rest =>
    have hc : c.isDigit = false := hrest c rfl
    have hsep : (!c.isDigit) = true := by simp [hc]
    rw [numbersIn_cons hc, numbersIn,
      List.splitOnP_append_cons_of_forall_mem hrun c hsep rest]
    simp [hdigits.1, numbersIn]

theorem numbersIn_toString (n : Nat) {rest : List Char} (hrest : NoDigitFirst rest) :
    numbersIn ((toString n).toList ++ rest) = n :: numbersIn rest := by
  rw [numbersIn_numeral (isNumeral_toString n) hrest, numeralValue_toString]

/-- Texts with a separator between them have the numbers of each text, if the separator is no
digit. -/
theorem numbersIn_intercalate {α : Type} (text : α → List Char) (numbers : α → List Nat)
    (sep : Char) (hsep : sep.isDigit = false)
    (htext : ∀ a rest, NoDigitFirst rest → numbersIn (text a ++ rest) = numbers a ++ numbersIn rest)
    (l : List α) {rest : List Char} (hrest : NoDigitFirst rest) :
    numbersIn ([sep].intercalate (l.map text) ++ rest) = l.flatMap numbers ++ numbersIn rest := by
  -- Behind each text but the last one comes the separator, so no number runs into the next.
  induction l with
  | nil => rfl
  | cons a l ih =>
    cases l with
    | nil => simp [htext a rest hrest]
    | cons b l =>
      have hnext : NoDigitFirst (sep :: ([sep].intercalate ((b :: l).map text) ++ rest)) :=
        noDigitFirst_cons hsep
      have hsplit : [sep].intercalate ((a :: b :: l).map text) ++ rest =
          text a ++ sep :: ([sep].intercalate ((b :: l).map text) ++ rest) := by
        rw [List.map_cons, List.intercalate_cons_of_ne_nil (by simp)]
        simp
      rw [hsplit, htext a _ hnext, numbersIn_cons hsep, ih]
      simp

/-- The numbers in the faces as they are shown are the faces. -/
theorem numbersIn_renderFaces (rolled : List (List Nat)) {rest : List Char}
    (hrest : NoDigitFirst rest) :
    numbersIn ((renderFaces rolled).toList ++ rest) = rolled.flatten ++ numbersIn rest := by
  have hcomma : (",").toList = [','] := rfl
  have hblank : (" ").toList = [' '] := rfl
  have hgroup : ∀ (faces : List Nat) (rest : List Char), NoDigitFirst rest →
      numbersIn ((",".intercalate (faces.map toString)).toList ++ rest) =
        id faces ++ numbersIn rest := by
    intro faces rest hrest
    rw [String.toList_intercalate, hcomma, List.map_map]
    have hfaces := numbersIn_intercalate (fun n : Nat => (toString n).toList) (fun n => [n]) ','
      (by decide) (fun n _ hrest => numbersIn_toString n hrest) faces hrest
    rwa [List.flatMap_singleton'] at hfaces
  rw [renderFaces, String.toList_intercalate, hblank, List.map_map]
  have hgroups := numbersIn_intercalate _ id ' ' (by decide) hgroup rolled hrest
  rwa [List.flatMap_id] at hgroups

/-! ## Draws in an account -/

/-- Faces beside the numbers of sides of their dice; faces that are left over are no draws. -/
theorem zipWith_draws (draws : List Draw) (more : List Nat) :
    List.zipWith (fun n face => (⟨face, n⟩ : Draw)) (draws.map Draw.sides)
      (draws.map Draw.face ++ more) = draws := by
  induction draws with
  | nil => simp
  | cons d draws ih => simp [ih]

namespace BRoll

/-- The draws that the account of a roll shows: the dice of the notation between the parentheses,
with the first numbers behind it as their faces. -/
def drawsShown? : List Char → Option (List Draw)
  | '(' :: rest =>
    match read (rest.takeWhile (· ≠ ')')) with
    | .ok (.roll r) =>
      some (List.zipWith (fun n face => ⟨face, n⟩) r.dice
        (numbersIn (rest.dropWhile (· ≠ ')'))))
    | _ => none
  | _ => none

/-- The first stages of an account, character by character. -/
theorem toList_opening (r : BRoll) (rolled : List (List Nat)) :
    (joinStages ["(" ++ r.written ++ ")", renderFaces rolled]).toList =
      '(' :: (r.written.toList ++
        ')' :: (stageSeparator.toList ++ (renderFaces rolled).toList)) := by
  simp [joinStages, String.intercalate_cons_cons]

/-- No closing parenthesis stands in the notation of a roll. -/
theorem not_mem_written {r : BRoll} (h : r.Legible) : ')' ∉ r.written.toList := by
  rw [← text_form h]
  intro hmem
  exact BRollForm.forall_mem_text (P := (· ≠ ')')) (fun c hc => ne_of_isDigit hc (by decide))
    (by decide) (by decide) (by decide) _ _ hmem rfl

/-- The text begins with the account of a legible roll that threw the draws, and no digit follows
on their faces. -/
def AccountOf (draws : List Draw) (cs : List Char) : Prop :=
  ∃ (r : BRoll) (rolled : List (List Nat)) (rest : List Char),
    r.Legible ∧ r.dice = draws.map Draw.sides ∧ rolled.flatten = draws.map Draw.face ∧
      NoDigitFirst rest ∧
      cs = (joinStages ["(" ++ r.written ++ ")", renderFaces rolled]).toList ++ rest

/-- An account may go on with anything but a digit. -/
theorem AccountOf.append {draws : List Draw} {cs : List Char} (h : AccountOf draws cs)
    {more : List Char} (hmore : NoDigitFirst more) : AccountOf draws (cs ++ more) := by
  obtain ⟨r, rolled, rest, hlegible, hdice, hfaces, hrest, rfl⟩ := h
  refine ⟨r, rolled, rest ++ more, hlegible, hdice, hfaces, ?_, List.append_assoc _ _ _⟩
  cases rest with
  | nil => exact hmore
  | cons c rest => exact noDigitFirst_cons (hrest c rfl)

/-- What is read off an account is what was drawn. -/
theorem AccountOf.drawsShown? {draws : List Draw} {cs : List Char} (h : AccountOf draws cs) :
    drawsShown? cs = some draws := by
  obtain ⟨r, rolled, rest, hlegible, hdice, hfaces, hrest, rfl⟩ := h
  have hname : ∀ c ∈ r.written.toList, c ≠ ')' := by
    rintro c hc rfl
    exact not_mem_written hlegible hc
  have hclosing : ∀ c ∈ ')' :: stageSeparator.toList, c.isDigit = false := by simp [stageSeparator]
  have hbehind :
      numbersIn (')' :: (stageSeparator.toList ++ ((renderFaces rolled).toList ++ rest))) =
        draws.map Draw.face ++ numbersIn rest := by
    rw [← List.cons_append, numbersIn_append hclosing, numbersIn_renderFaces rolled hrest, hfaces]
  rw [toList_opening, List.cons_append, BRoll.drawsShown?, List.append_assoc, List.cons_append,
    List.append_assoc, List.takeWhile_append_of_pos (by simpa using hname),
    List.dropWhile_append_of_pos (by simpa using hname), List.takeWhile_cons_of_neg (by simp),
    List.dropWhile_cons_of_neg (by simp), List.append_nil, read_written hlegible, hbehind]
  have hdraws := zipWith_draws draws (numbersIn rest)
  rw [← hdice] at hdraws
  exact congrArg some hdraws

/-- Faces that were dealt out are all there, if they are as many as the dice. -/
theorem flatten_deal {groups : List DiceGroup} {faces : List Nat}
    (h : faces.length = (groups.flatMap DiceGroup.dice).length) :
    (deal groups faces).flatten = faces := by
  induction groups generalizing faces with
  | nil =>
    have hnil : faces = [] := by simpa using h
    simp [deal, hnil]
  | cons g groups ih =>
    have hrest : (faces.drop g.times).length = (groups.flatMap DiceGroup.dice).length := by
      have hfirst : g.dice.length = g.times := List.length_replicate
      rw [List.flatMap_cons, List.length_append, hfirst] at h
      rw [List.length_drop]
      omega
    rw [deal, List.flatten_cons, ih hrest, List.take_append_drop]

/-- The text of a report goes on behind the faces with its successes, if it has any. -/
theorem exists_text_report (r : BRoll) (rolled : List (List Nat)) :
    ∃ rest, NoDigitFirst rest ∧ (r.writtenReport rolled).text.toList =
      (joinStages ["(" ++ r.written ++ ")", renderFaces rolled]).toList ++ rest := by
  cases hc : r.comparison with
  | none => exact ⟨[], noDigitFirst_nil, by simp [writtenReport, reportAs, hc]⟩
  | some c =>
    refine ⟨(stageSeparator ++ s!"Successes: {rolled.flatten.countP c.accepts}").toList, ?_, ?_⟩
    · rw [String.toList_append]
      exact noDigitFirst_cons (by decide)
    · simp [writtenReport, reportAs, hc, joinStages, String.intercalate_cons_cons]

/-- With a comparison that can be read in its place, a legible roll stays legible, and it throws the
same dice. -/
theorem legible_withFallback {r judged : BRoll} (h : r.Legible) {fallback : Option Fallback}
    (hfallback : ∀ f ∈ fallback, ∀ c, f.comparison = .ok c → c.Legible)
    (hjudged : r.withFallback fallback = .ok judged) :
    judged.Legible ∧ judged.groups = r.groups := by
  unfold withFallback at hjudged
  split at hjudged
  · rename_i f hnone
    cases hcomparison : f.comparison with
    | error fault => simp [hcomparison, bind, Except.bind] at hjudged
    | ok c =>
      simp only [hcomparison, bind, Except.bind, pure, Except.pure, Except.ok.injEq] at hjudged
      subst hjudged
      refine ⟨⟨h.groups_ne_nil, h.groups, ?_⟩, rfl⟩
      intro d hd
      obtain rfl : c = d := Option.some.inj hd
      exact hfallback f rfl c hcomparison
  · rw [Except.ok.injEq] at hjudged
    subst hjudged
    exact ⟨h, rfl⟩

/-- The plan of a roll makes accounts of its draws. -/
theorem accountOf_of_makes {command : String} {fallback : Option Fallback}
    (hfallback : ∀ f ∈ fallback, ∀ c, f.comparison = .ok c → c.Legible) {draws : List Draw}
    {report : RollReport} (h : (plan command fallback).Makes draws report) :
    AccountOf draws report.text.toList := by
  obtain ⟨r, judged, hread, hjudged, hdice, -, rfl⟩ := exists_of_makes h
  obtain ⟨hlegible, hgroups⟩ := legible_withFallback (legible_of_read hread) hfallback hjudged
  obtain ⟨rest, hrest, htext⟩ := judged.exists_text_report (deal r.groups (draws.map Draw.face))
  have hfaces : (draws.map Draw.face).length = r.dice.length := by
    have hlength := congrArg List.length hdice
    rwa [List.length_map] at hlength ⊢
  refine ⟨judged, _, rest, hlegible, ?_, flatten_deal hfaces, hrest, htext⟩
  rw [dice, hgroups]
  exact hdice.symm

end BRoll

end ChatDice
