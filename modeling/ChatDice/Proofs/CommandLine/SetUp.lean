import ChatDice.Proofs.CommandLine.Rolls
import ChatDice.Proofs.Settings.Precedence

/-!
# ChatDice.Proofs.CommandLine.SetUp — settings that load have a game to set up

A roller refuses a limit that is not positive, and so do the settings. The limit may come from the
object for the group, from a variable of the environment or the file, or be left to its default, but
each of these is checked in one place, where the members of the group and the environment have come
together. So the refusal of the roller cannot be met with settings that have loaded
(`SettingsWorld.one_le_maxRands_of_load`), and all that can be wrong is a name of no game.

The arguments come before the settings, each in its own way: an empty name of a game counts as none,
while a seed counts whatever number it is.

* `IsSetUp` — a game and a roller that fit the arguments and the settings;
* `buildSystem_of_load` — when there is one, and what is said otherwise.
-/

namespace ChatDice

/-! ## The limit -/

/-- What passes the check against a bound is above it. -/
theorem lt_of_checkAbove {bound n : Int} {given : Json} (h : checkAbove bound given = .ok n) :
    bound < n := by
  obtain ⟨m, -, hm⟩ := bind_eq_ok_iff.mp h
  split at hm
  · rename_i hlt
    cases hm
    exact hlt
  · cases hm

/-- A field has what its default has and all that passes its check. -/
theorem Resolves.of_checked {α : Type} {check : Json → Except Complaint α} {default a : α}
    {given : Option Json} {p : α → Prop} (h : Resolves check default given a) (hdefault : p default)
    (hcheck : ∀ {value a}, check value = .ok a → p a) : p a := by
  cases h with
  | default => exact hdefault
  | given hvalue => exact hcheck hvalue

namespace DiceSettings

/-- A limit that has been loaded is positive, whether it was given or not. -/
theorem one_le_maxRands {members : Json.Members} {env : Variables} {dice : DiceSettings}
    (h : load members env = .ok dice) : 1 ≤ dice.maxRands := by
  obtain ⟨-, -, hmax⟩ := of_load h
  exact hmax.of_checked (by decide) lt_of_checkAbove

/-- The group is an object, or it is not given; its members are checked either way. -/
theorem exists_load_of_ofGroup? {env : Variables} {group : Option Json} {dice : DiceSettings}
    (h : ofGroup? env group = .ok dice) : ∃ members, load members env = .ok dice := by
  cases group with
  | none => exact ⟨[], h⟩
  | some value =>
    cases value with
    | object members => exact ⟨members, load_of_ofGroup h⟩
    | _ => cases h

end DiceSettings

/-- The limit of settings that load is positive, whichever source it is from. -/
theorem SettingsWorld.one_le_maxRands_of_load {world : SettingsWorld} {path? : Option String}
    {settings : Settings} (h : world.load path? = .ok settings) : 1 ≤ settings.dice.maxRands := by
  obtain ⟨group, -, hdice⟩ := Settings.of_load (load_of_load h)
  obtain ⟨members, hload⟩ := DiceSettings.exists_load_of_ofGroup? hdice
  exact DiceSettings.one_le_maxRands hload

/-! ## The game -/

namespace GameSystem

/-- Some game has the name. -/
def IsRegistered (id : LooseText) : Prop :=
  ∃ sys ∈ registered, .text sys.id = id

/-- The game that is found has the name. -/
theorem id_of_find {id : LooseText} {sys : GameSystem} (h : find id = .ok sys) :
    .text sys.id = id := by
  unfold find at h
  split at h
  · rename_i found hfound
    cases h
    have hid := List.find?_some hfound
    exact eq_of_beq hid
  · cases h

theorem find_of_not_isRegistered {id : LooseText} (h : ¬IsRegistered id) :
    find id = .error ⟨id⟩ := by
  have hnone : (registered.find? fun sys => .text sys.id == id) = none := by
    rw [List.find?_eq_none]
    intro sys hsys hid
    exact h ⟨sys, hsys, eq_of_beq hid⟩
  rw [find, hnone]

theorem exists_find_of_isRegistered {id : LooseText} (h : IsRegistered id) :
    ∃ sys, find id = .ok sys := by
  obtain ⟨sys, hsys, hid⟩ := h
  have hsome : (registered.find? fun sys => .text sys.id == id).isSome = true := by
    rw [List.find?_isSome]
    exact ⟨sys, hsys, beq_iff_eq.mpr hid⟩
  obtain ⟨found, hfound⟩ := Option.isSome_iff_exists.mp hsome
  exact ⟨found, by rw [find, hfound]⟩

end GameSystem

namespace CommandLine

/-- The name of the game that is asked for: the argument, if it is there and not empty, and else the
setting. -/
inductive AsksFor (setting : LooseText) : Option String → LooseText → Prop
  | argument {id : String} (h : id ≠ "") : AsksFor setting (some id) (.text id)
  | emptyArgument : AsksFor setting (some "") setting
  | noArgument : AsksFor setting none setting

theorem AsksFor.chosenSystem_eq {argument : Option String} {settings : Settings} {id : LooseText}
    (h : AsksFor settings.dice.gameSystem argument id) : chosenSystem argument settings = id := by
  cases h with
  | argument hid => exact if_neg hid
  | emptyArgument => rw [chosenSystem, if_pos rfl]
  | noArgument => rfl

/-! ## Setting up -/

/-- A game with a roller, both as asked for: the game of the name, and a new roller with the limit
of the settings. Its source has the seed of the argument, be it zero or negative, and else that of
the settings; without either it is left to chance. -/
structure IsSetUp (id : LooseText) (seed : Option Int) (settings : Settings) (chance : Int)
    (sys : GameSystem) (roller : Roller Twister) : Prop where
  registered : sys ∈ GameSystem.registered
  id_eq : .text sys.id = id
  limit_eq : (roller.limit : Int) = settings.dice.maxRands
  record_eq : roller.record = #[]
  source_of_argument : ∀ n, seed = some n → roller.source = .ofSeed n
  source_of_setting : seed = none → ∀ n, settings.dice.seed = some n → roller.source = .ofSeed n
  source_of_chance : seed = none → settings.dice.seed = none → roller.source = .ofSeed chance

section
variable {system : Option String} {seed : Option Int} {settings : Settings} {chance : Int}

theorem isSetUp_of_buildSystem {sys : GameSystem} {roller : Roller Twister}
    (h : buildSystem system seed settings chance = .ok (sys, roller)) :
    IsSetUp (chosenSystem system settings) seed settings chance sys roller := by
  obtain ⟨hfind, hroller⟩ := of_buildSystem h
  obtain ⟨hsource, hlimit, -, hrecord⟩ := Roller.of_ofSource hroller
  exact
    { registered := GameSystem.mem_registered_of_find hfind
      id_eq := GameSystem.id_of_find hfind
      limit_eq := hlimit
      record_eq := hrecord
      source_of_argument := by
        rintro n rfl
        exact hsource
      source_of_setting := by
        rintro rfl n hn
        rw [hsource, chosenSeed, hn]
        rfl
      source_of_chance := by
        rintro rfl hnone
        rw [hsource, chosenSeed, hnone]
        rfl }

/-- With settings that have loaded, a game can be set up exactly if there is one of the name that is
asked for. Their limit is positive, whichever source it is from, so no roller refuses it; a name of
no game is the only thing that can be wrong. The game that is set up has a roller with this limit,
and with the seed of the argument before that of the settings. -/
theorem buildSystem_of_load {world : SettingsWorld} {path? : Option String}
    (h : world.load path? = .ok settings) (system : Option String) (seed : Option Int)
    (chance : Int) {id : LooseText} (hid : AsksFor settings.dice.gameSystem system id) :
    1 ≤ settings.dice.maxRands ∧
      (∀ {σ : Type} (source : σ), ∃ roller,
        Roller.ofSource source settings.dice.maxRands = .ok roller) ∧
      (∀ e, buildSystem system seed settings chance = .error e ↔
        ¬GameSystem.IsRegistered id ∧ e = .unknownSystem ⟨id⟩) ∧
      (GameSystem.IsRegistered id → ∃ sys roller,
        buildSystem system seed settings chance = .ok (sys, roller) ∧
          IsSetUp id seed settings chance sys roller) := by
  have hlimit := SettingsWorld.one_le_maxRands_of_load h
  obtain rfl := hid.chosenSystem_eq
  have hbuilt : GameSystem.IsRegistered (chosenSystem system settings) → ∃ sys roller,
      buildSystem system seed settings chance = .ok (sys, roller) ∧
        IsSetUp (chosenSystem system settings) seed settings chance sys roller := by
    intro hknown
    obtain ⟨sys, hsys⟩ := GameSystem.exists_find_of_isRegistered hknown
    obtain ⟨roller, hbuild⟩ := exists_buildSystem_eq hsys hlimit seed chance
    exact ⟨sys, roller, hbuild, isSetUp_of_buildSystem hbuild⟩
  refine ⟨hlimit, ?_, ?_, hbuilt⟩
  · -- What the settings accept as a limit is what a roller accepts.
    intro σ source
    exact ⟨_, if_neg (by omega)⟩
  · intro e
    by_cases hknown : GameSystem.IsRegistered (chosenSystem system settings)
    · obtain ⟨sys, roller, hbuild, -⟩ := hbuilt hknown
      simp [hbuild, hknown]
    · have hbuild : buildSystem system seed settings chance = .error (.unknownSystem ⟨_⟩) :=
        buildSystem_of_unknown (GameSystem.find_of_not_isRegistered hknown)
      rw [hbuild, Except.error.injEq, eq_comm]
      exact (and_iff_right hknown).symm

end

/-- Limits from the object, from each kind of variable, from the file and by default, with an empty
name of a game and the seed zero; and a name of no game. -/
theorem buildSystem_of_load_sources :
    let world (env : Environment) (text : String) : SettingsWorld :=
      { env, files := [(".env", text)] }
    let settings (limit : Int) : Settings :=
      ⟨.development, .info, none, ⟨.text "NinjaSlayer", some 7, limit⟩⟩
    let sources : List (SettingsWorld × Int) := [
      (world [("DICE", "\x7b\"max_rands\": 3, \"seed\": 7\x7d")] "", 3),
      (world [("Dice__Max_Rands", "4"), ("DICE_SEED", "7")] "", 4),
      (world [("DICE_MAX_RANDS", "5"), ("DICE_SEED", "7")] "", 5),
      (world [] "DICE__MAX_RANDS=6\nDICE__SEED=7", 6),
      (world [("DICE_SEED", "7")] "", 10000)]
    (∀ s ∈ sources, s.1.load none = .ok (settings s.2)) ∧
      (∀ s ∈ sources, ∃ sys roller,
        buildSystem (some "") (some 0) (settings s.2) 9 = .ok (sys, roller) ∧
          (roller.limit : Int) = s.2 ∧ roller.source = .ofSeed 0) ∧
      buildSystem (some "Luck") none (settings 3) 9 = .error (.unknownSystem ⟨.text "Luck"⟩) := by
  intro world settings sources
  have hload : ∀ s ∈ sources, s.1.load none = .ok (settings s.2) := by
    intro s hs
    simp only [sources, List.mem_cons, List.not_mem_nil, or_false] at hs
    rcases hs with rfl | rfl | rfl | rfl | rfl <;> exact eq_ok_of_toOption (by decide +kernel)
  refine ⟨hload, ?_, ?_⟩
  · intro s hs
    have hknown : GameSystem.IsRegistered (.text "NinjaSlayer") :=
      ⟨NinjaSlayer.system, List.mem_singleton_self _, rfl⟩
    obtain ⟨sys, roller, hbuild, hsetUp⟩ :=
      (buildSystem_of_load (hload s hs) (some "") (some 0) 9 .emptyArgument).2.2.2 hknown
    exact ⟨sys, roller, hbuild, hsetUp.limit_eq, hsetUp.source_of_argument 0 rfl⟩
  · have hunknown : ¬GameSystem.IsRegistered (.text "Luck") := by
      rintro ⟨sys, hsys, hid⟩
      rw [GameSystem.registered, List.mem_singleton] at hsys
      subst hsys
      exact absurd hid (by decide)
    have hfirst := hload _ (List.mem_cons_self ..)
    exact ((buildSystem_of_load hfirst (some "Luck") none 9 (.argument (by decide))).2.2.1 _).mpr
      ⟨hunknown, rfl⟩

end CommandLine

end ChatDice
