import ChatDice.Game.Routing
import ChatDice.Proofs.Dice.Notation

/-!
# ChatDice.Proofs.Game.Routing — what the gate lets through

A text that begins with one of the prefixes, or like a B roll, is let through, and so is the same
text behind the flag of a secret roll.
-/

namespace ChatDice.Routing

/-- A text that begins with a prefix has a start. -/
theorem unflaggedStart?_isSome_of_prefix {prefixes : List String} {p : String}
    (hp : p ∈ prefixes) {cs : List Char} (hcs : p.toList <+: cs) :
    (unflaggedStart? prefixes cs).isSome = true := by
  unfold unflaggedStart?
  cases hfind : prefixes.find? fun p => p.toList.isPrefixOf cs with
  | some p => rfl
  | none =>
    have hnone := List.find?_eq_none.mp hfind p hp
    exact absurd (List.isPrefixOf_iff_prefix.mpr hcs) hnone

/-- A text that begins with a group of dice has a start. -/
theorem commonStart?_isSome (g : GroupForm) (rest : List Char) :
    (commonStart? (g.text ++ rest)).isSome = true := by
  have htext : g.text ++ rest = g.times ++ (g.mark :: (g.sides ++ rest)) := by
    simp [GroupForm.text]
  have hmark : NoDigitFirst (g.mark :: (g.sides ++ rest)) :=
    noDigitFirst_cons (isDigit_mark g.mark_eq)
  have htimes := takeWhile_isDigit_append g.times_isNumeral.2 hmark
  have hdrop := dropWhile_isDigit_append g.times_isNumeral.2 hmark
  obtain ⟨d, ds, hd⟩ := List.exists_cons_of_ne_nil g.times_isNumeral.1
  have hsides : (g.sides ++ rest).takeWhile Char.isDigit ≠ [] := by
    rw [List.takeWhile_append_of_pos g.sides_isNumeral.2]
    simp [g.sides_isNumeral.1]
  rw [htext, commonStart?, htimes, hdrop, hd]
  simp only
  rw [if_pos ⟨g.mark_eq, hsides⟩]
  rfl

theorem unflaggedStart?_isSome_of_group (prefixes : List String) (g : GroupForm)
    (rest : List Char) : (unflaggedStart? prefixes (g.text ++ rest)).isSome = true := by
  unfold unflaggedStart?
  split
  · rfl
  · exact commonStart?_isSome g rest

theorem unflaggedStart?_isSome_of_roll (prefixes : List String) (f : BRollForm) :
    (unflaggedStart? prefixes f.text).isSome = true := by
  obtain ⟨g, rest, hrest⟩ := f.exists_group
  rw [hrest]
  exact unflaggedStart?_isSome_of_group prefixes g rest

/-- What has a start without the flag has one as it stands, and behind the flag. -/
theorem start?_isSome {prefixes : List String} {cs : List Char}
    (h : (unflaggedStart? prefixes cs).isSome = true) :
    (start? prefixes cs).isSome = true ∧ (start? prefixes ('S' :: cs)).isSome = true := by
  constructor
  · unfold start?
    split
    · split
      · rfl
      · exact h
    · exact h
  · obtain ⟨start, hstart⟩ := Option.isSome_iff_exists.mp h
    simp [start?, hstart]

end ChatDice.Routing
