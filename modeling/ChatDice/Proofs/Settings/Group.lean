import ChatDice.Settings.Loading

/-!
# ChatDice.Proofs.Settings.Group — the group of the dice settings

Loading settings asks both sources for the group of the dice settings before it looks at any field.
`Settings.group?` is that question and `DiceSettings.ofGroup?` what is done with its answer: a group
that is given is checked as a member of the settings, and without one the dice settings are loaded
on their own. Settings that load have the dice settings that come of it (`Settings.of_load`).
-/

namespace ChatDice

/-- What comes of two steps comes of the first step and then of the second. -/
theorem bind_eq_ok_iff {ε α β : Type} {x : Except ε α} {k : α → Except ε β} {b : β} :
    (x >>= k) = .ok b ↔ ∃ a, x = .ok a ∧ k a = .ok b := by
  cases x with
  | error e => simp [bind, Except.bind]
  | ok a => simp [bind, Except.bind]

/-- A result is what is left of an outcome without its error. -/
theorem eq_ok_of_toOption {ε α : Type} {x : Except ε α} {a : α} (h : x.toOption = some a) :
    x = .ok a := by
  cases x with
  | error e => cases h
  | ok b => exact congrArg Except.ok (Option.some.inj h)

/-- The dice settings of a group, or those of the environment alone if there is no group. -/
def DiceSettings.ofGroup? (env : Variables) : Option Json → Checked DiceSettings
  | some group => ofGroup env group
  | none => load [] env

namespace Settings

/-- The group of the dice settings, if one of the sources gives it. The environment counts for
more than the file. -/
def group? (env file : Variables) : Except SettingsError (Option Json) := do
  let diceEnv ← DiceSettings.givenBy "EnvSettingsSource" env
  let diceFile ← DiceSettings.givenBy "DotEnvSettingsSource" file
  return (diceEnv.map (Json.merge diceFile)).or diceFile

/-- Settings that load have the dice settings of the group. -/
theorem of_load {env file : Variables} {settings : Settings} (h : load env file = .ok settings) :
    ∃ group, group? env file = .ok group ∧
      DiceSettings.ofGroup? env group = .ok settings.dice := by
  obtain ⟨diceEnv, henv, h⟩ := bind_eq_ok_iff.mp h
  obtain ⟨diceFile, hfile, h⟩ := bind_eq_ok_iff.mp h
  have hgroup : group? env file = .ok ((diceEnv.map (Json.merge diceFile)).or diceFile) := by
    rw [group?, henv, hfile]
    rfl
  refine ⟨_, hgroup, ?_⟩
  -- The fields are looked at in any case; settings that load have the dice that were found.
  split at h
  · rename_i group hsome
    rw [hsome]
    simp only [pure_bind] at h
    split at h
    · rename_i hdice
      cases h
      exact hdice
    · cases h
  · rename_i hnone
    rw [hnone]
    split at h
    · rename_i dice hdice
      simp only [pure_bind] at h
      split at h
      · rename_i hsame
        cases h
        exact hdice.trans hsame
      · cases h
    · cases h

end Settings

end ChatDice
