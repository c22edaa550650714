import ChatDice.Proofs.CommandLine.Rolls
import ChatDice.Proofs.Text.LowerCase

/-!
# ChatDice.Proofs.CommandLine.Shell — a shell as a list of commands

A shell reads its commands from the lines of its input. It drops the blanks around them, passes
over lines of blanks, and stops at a word that ends it. `shellCommands` is the list of commands that
an input comes to in this way, and the shell evaluates just this list (`shellLines_eq`): what it
prints is what the list prints as arguments, and its log is the same behind a greeting.

The words that end a shell are compared in the small letters of ASCII. That the small letters of
every script make no difference is `mem_exitWords_iff`.
-/

namespace ChatDice.CommandLine

/-! ## The commands of an input -/

/-- The commands on some lines: what stands between the blanks, up to a word that ends the shell.
A line of blanks has no command on it. -/
def commandsOn (lines : List String) : List String :=
  ((lines.map Text.trim).takeWhile fun line => Text.lowerCase line ∉ exitWords).filter (· ≠ "")

/-- The commands of an input, cut at its line feeds when every end of a line has become one. -/
def shellCommands (input : String) : List String :=
  commandsOn (Text.pieces input)

theorem commandsOn_cons (line : String) (lines : List String) :
    commandsOn (line :: lines) =
      if Text.lowerCase (Text.trim line) ∈ exitWords then []
      else if Text.trim line = "" then commandsOn lines
      else Text.trim line :: commandsOn lines := by
  rw [commandsOn, List.map_cons]
  by_cases hexit : Text.lowerCase (Text.trim line) ∈ exitWords
  · rw [if_pos hexit, List.takeWhile_cons_of_neg (by simpa using hexit), List.filter_nil]
  · rw [if_neg hexit, List.takeWhile_cons_of_pos (by simpa using hexit)]
    by_cases hblank : Text.trim line = ""
    · rw [if_pos hblank, List.filter_cons_of_neg (by simpa using hblank), commandsOn]
    · rw [if_neg hblank, List.filter_cons_of_pos (by simpa using hblank), commandsOn]

/-- Nothing is read behind a word that ends the shell. -/
theorem commandsOn_append_of_mem {line : String}
    (h : Text.lowerCase (Text.trim line) ∈ exitWords) (front rest : List String) :
    commandsOn (front ++ line :: rest) = commandsOn front := by
  induction front with
  | nil =>
    rw [List.nil_append, commandsOn_cons, if_pos h]
    rfl
  | cons first front ih => rw [List.cons_append, commandsOn_cons, commandsOn_cons, ih]

/-- An empty line at the end has no command on it. -/
theorem commandsOn_append_empty (lines : List String) :
    commandsOn (lines ++ [""]) = commandsOn lines := by
  induction lines with
  | nil => decide
  | cons line lines ih => rw [List.cons_append, commandsOn_cons, commandsOn_cons, ih]

/-- The commands of an input are those on its lines. -/
theorem shellCommands_eq (input : String) :
    shellCommands input = commandsOn (Text.lines input) := by
  obtain ⟨rest, hrest, hpieces⟩ := Text.exists_pieces_eq input
  rw [shellCommands, hpieces]
  rcases hrest with rfl | rfl
  · rw [List.append_nil]
  · exact commandsOn_append_empty _

/-- Inputs that differ behind a line that ends the shell have the same commands. -/
theorem shellCommands_eq_of_exit {input other line : String} {front rest rest' : List String}
    (hinput : Text.lines input = front ++ line :: rest)
    (hother : Text.lines other = front ++ line :: rest')
    (hexit : Text.lowerCase (Text.trim line) ∈ exitWords) :
    shellCommands other = shellCommands input := by
  rw [shellCommands_eq, shellCommands_eq, hinput, hother, commandsOn_append_of_mem hexit,
    commandsOn_append_of_mem hexit]

/-- No capital of another script is a letter of a word that ends the shell. -/
theorem mem_exitWords_iff (s : String) : Text.lowerCase s ∈ exitWords ↔ s.toLower ∈ exitWords := by
  have hplain : ∀ word ∈ exitWords, ∀ w ∈ word.toList, Text.IsPlain w := by
    simp [exitWords, Text.IsPlain]
  constructor
  · intro h
    rwa [← (Text.lowerCase_eq_iff (hplain _ h) s).mp rfl] at h
  · intro h
    rwa [← (Text.lowerCase_eq_iff (hplain _ h) s).mpr rfl] at h

/-! ## Evaluating an input -/

section
variable {σ : Type} [DieSource σ]

/-- The lines of a shell are evaluated like the list of the commands on them. -/
theorem shellLines_eq (sys : GameSystem) (lines : List String) :
    (shellLines sys lines : Rolling σ (List (Option String))) =
      rollCommands sys (commandsOn lines) := by
  induction lines with
  | nil => rfl
  | cons line lines ih =>
    rw [shellLines, commandsOn_cons]
    by_cases hblank : Text.trim line = ""
    · have hgoesOn : Text.lowerCase (Text.trim line) ∉ exitWords := by
        rw [hblank]
        decide
      rw [if_pos hblank, if_neg hgoesOn, if_pos hblank, ih]
    · rw [if_neg hblank]
      by_cases hexit : (Text.trim line).toLower ∈ exitWords
      · rw [if_pos hexit, if_pos ((mem_exitWords_iff _).mpr hexit)]
        rfl
      · have hgoesOn : Text.lowerCase (Text.trim line) ∉ exitWords := by
          rwa [mem_exitWords_iff]
        rw [if_neg hexit, if_neg hgoesOn, if_neg hblank, rollCommands, ih]

end

/-! ## Reports -/

/-- The greeting of a shell. -/
def greeting (sys : GameSystem) : Log.Record :=
  ⟨siteOfGreeting, .info, s!"{sys.name} ready. Type 'quit' to exit."⟩

/-- What is printed does not depend on the log, and the log is reported from its start. -/
theorem ofEvaluation_relogged {σ : Type} (exit exit' : List (Option String) → Nat)
    (n : Log.Record) (records : Array Log.Record)
    (result : EStateM.Result Fault (Roller σ) (List (Option String))) :
    (Report.ofEvaluation exit (relogged (#[n] ++ records) result)).stdout =
        (Report.ofEvaluation exit' (relogged records result)).stdout ∧
      (Report.ofEvaluation exit (relogged (#[n] ++ records) result)).records =
        n :: (Report.ofEvaluation exit' (relogged records result)).records := by
  cases result with
  | ok shown r => exact ⟨rfl, by simp [Report.ofEvaluation, relogged]⟩
  | error fault r => exact ⟨rfl, by simp [Report.ofEvaluation, relogged]⟩

section
variable {system : Option String} {seed : Option Int} {settings : Settings} {chance : Int}
  {sys : GameSystem} {roller : Roller Twister}

theorem performShell_of_setupError {e : SetupError}
    (h : buildSystem system seed settings chance = .error e) (input : String) :
    performShell system seed input settings chance = .ofSetupError siteOfShell e := by
  rw [performShell, h]

/-- On the terminal, two errors of one logger in the same words are the same line. -/
theorem stderr_deliver_ofSetupError {site site' : Log.Site} (h : site.logger = site'.logger)
    (clock : Nat → String) (settings : Settings) (e : SetupError) :
    (deliver clock settings (.ofSetupError site e)).stderr =
      (deliver clock settings (.ofSetupError site' e)).stderr := by
  have hline : ∀ time, Log.Timed.coloredLine ⟨time, ⟨site, .error, e.message⟩⟩ =
      Log.Timed.coloredLine ⟨time, ⟨site', .error, e.message⟩⟩ := by
    intro time
    simp only [Log.Timed.coloredLine, h]
  simp only [deliver, allRecords, Report.ofSetupError, Log.timed, List.mapIdx_append,
    List.mapIdx_cons, List.mapIdx_nil, visible, List.filter_append, List.filter_cons,
    List.filter_nil, List.map_append]
  -- The level decides alike about both, and the records about the log are the same.
  split
  · simp only [List.map_cons, hline]
  · rfl

/-- A shell evaluates the commands of its input with the greeting in its log. -/
theorem performShell_of_build
    (h : buildSystem system seed settings chance = .ok (sys, roller)) (input : String) :
    performShell system seed input settings chance =
      .ofEvaluation (fun _ => 0)
        ((rollCommands sys (shellCommands input)).run
          (roller.logging (roller.log.push (greeting sys)))) := by
  rw [performShell, h, shellCommands_eq, ← shellLines_eq]
  rfl

/-- Inputs with the same commands make no difference to a shell. -/
theorem performShell_congr {input other : String} (h : shellCommands other = shellCommands input) :
    performShell system seed other settings chance =
      performShell system seed input settings chance := by
  cases hbuild : buildSystem system seed settings chance with
  | error e => rw [performShell_of_setupError hbuild, performShell_of_setupError hbuild]
  | ok built => rw [performShell_of_build hbuild, performShell_of_build hbuild, h]

/-- Where there is a game, the shell prints what the commands of its input print as arguments, and
has the greeting in front of the same records. -/
theorem performShell_eq_of_build
    (h : buildSystem system seed settings chance = .ok (sys, roller)) (input : String) :
    (performShell system seed input settings chance).stdout =
        (performRoll system seed (shellCommands input) settings chance).stdout ∧
      (performShell system seed input settings chance).records =
        greeting sys :: (performRoll system seed (shellCommands input) settings chance).records := by
  obtain ⟨-, hstart⟩ := of_buildSystem h
  have hlog := Roller.log_of_ofSource hstart
  -- The commands log the same behind the greeting and behind nothing.
  obtain ⟨records, -, hrun⟩ := emits_rollCommands sys (shellCommands input) roller
  have hown := hrun roller.log
  rw [Roller.logging_log, hlog, Array.empty_append] at hown
  have hgreeted : roller.log.push (greeting sys) = #[greeting sys] := by
    rw [hlog]
    rfl
  have hshell := performShell_of_build h input
  have hroll := performRoll_of_build h (shellCommands input)
  rw [hgreeted, hrun] at hshell
  rw [hown] at hroll
  rw [hshell, hroll]
  exact ofEvaluation_relogged _ _ (greeting sys) records _

/-- No fault ends a shell. -/
theorem exit_performShell_of_build
    (h : buildSystem system seed settings chance = .ok (sys, roller)) (input : String) :
    (performShell system seed input settings chance).exit = 0 := by
  obtain ⟨hfind, hstart⟩ := of_buildSystem h
  obtain ⟨-, -, hpos, -⟩ := Roller.of_ofSource hstart
  obtain ⟨-, s, -, -, hok⟩ :=
    run_rollCommands (r := roller.logging (roller.log.push (greeting sys)))
      (GameSystem.reliable_of_find hfind) hpos (shellCommands input)
  rw [performShell_of_build h, hok]
  rfl

/-- A shell and a list of commands agree. With the same settings, whatever the input is, the shell
prints what the commands of its input print as arguments. If there is the game that is asked for,
the shell succeeds and logs the same behind its greeting; settings never have a limit below one. If
there is no such game, both say so in one error, which is the same on the terminal, and print
nothing. What stands behind a line that ends the shell has no effect. -/
theorem performShell_eq_performRoll (system : Option String) (seed : Option Int) (input : String)
    (settings : Settings) (chance : Int) :
    let shell := performShell system seed input settings chance
    let roll := performRoll system seed (shellCommands input) settings chance
    shell.stdout = roll.stdout ∧
      (∀ sys, GameSystem.find (chosenSystem system settings) = .ok sys →
        1 ≤ settings.dice.maxRands →
          shell.exit = 0 ∧ shell.records = greeting sys :: roll.records) ∧
      (∀ e, GameSystem.find (chosenSystem system settings) = .error e →
        shell = { exit := 1, stdout := "", records := [⟨siteOfShell, .error, e.message⟩] } ∧
          roll = { exit := 1, stdout := "", records := [⟨siteOfRoll, .error, e.message⟩] } ∧
          ∀ clock, (deliver clock settings shell).stderr = (deliver clock settings roll).stderr) ∧
      ∀ (other : String) (front : List String) (line : String) (rest rest' : List String),
        Text.lines input = front ++ line :: rest → Text.lines other = front ++ line :: rest' →
          Text.lowerCase (Text.trim line) ∈ exitWords →
            performShell system seed other settings chance = shell := by
  intro shell roll
  refine ⟨?_, ?_, ?_, ?_⟩
  · cases hbuild : buildSystem system seed settings chance with
    | error e =>
      have hshell : shell = .ofSetupError _ e := performShell_of_setupError hbuild input
      have hroll : roll = .ofSetupError _ e := performRoll_of_setupError hbuild _
      rw [hshell, hroll]
      rfl
    | ok built => exact (performShell_eq_of_build hbuild input).1
  · intro sys hsys hlimit
    obtain ⟨roller, hbuild⟩ := exists_buildSystem_eq hsys hlimit seed chance
    exact ⟨exit_performShell_of_build hbuild input, (performShell_eq_of_build hbuild input).2⟩
  · intro unknown hunknown
    have hbuild : buildSystem system seed settings chance = .error (.unknownSystem unknown) :=
      buildSystem_of_unknown hunknown
    have hshell : shell = .ofSetupError _ _ := performShell_of_setupError hbuild input
    have hroll : roll = .ofSetupError _ _ := performRoll_of_setupError hbuild _
    refine ⟨hshell, hroll, ?_⟩
    intro clock
    rw [hshell, hroll]
    have hlogger : siteOfShell.logger = siteOfRoll.logger := rfl
    exact stderr_deliver_ofSetupError hlogger clock settings _
  · intro other front line rest rest' hinput hother hexit
    exact performShell_congr (shellCommands_eq_of_exit hinput hother hexit)

end

/-- A shell with lines that end in three ways, one of them blank, a command that is not known and a
table roll behind the word that ends the shell; and one for a game that there is not. -/
theorem performShell_eq_performRoll_quit :
    let dice : DiceSettings := { gameSystem := .text "NinjaSlayer", seed := some 7, maxRands := 9 }
    let settings : Settings :=
      { environment := .development, logLevel := .info, logFile := none, dice }
    let input := " NJ2 \r\n \n2B6\rhello\n QuIT\nSB"
    shellCommands input = ["NJ2", "2B6", "hello"] ∧
      GameSystem.find (chosenSystem none settings) = .ok NinjaSlayer.system ∧
      1 ≤ settings.dice.maxRands ∧
      (performShell none none input settings 0).stdout =
        (performRoll none none (shellCommands input) settings 0).stdout ∧
      (performShell none none input settings 0).exit = 0 ∧
      (performShell none none input settings 0).records = greeting NinjaSlayer.system ::
        (performRoll none none (shellCommands input) settings 0).records ∧
      performShell none none " NJ2 \n \n2B6\nhello\n QuIT" settings 0 =
        performShell none none input settings 0 ∧
      (performShell (some "Luck") none input settings 0).exit = 1 ∧
      (performShell (some "Luck") none input settings 0).stdout = "" ∧
      (deliver toString settings (performShell (some "Luck") none input settings 0)).stderr =
        (deliver toString settings
          (performRoll (some "Luck") none (shellCommands input) settings 0)).stderr := by
  intro dice settings input
  have hfind : GameSystem.find (chosenSystem none settings) = .ok NinjaSlayer.system := rfl
  have hlimit : 1 ≤ settings.dice.maxRands := by decide
  have hlines : Text.lines input = [" NJ2 ", " ", "2B6", "hello"] ++ " QuIT" :: ["SB"] := by
    decide +kernel
  have hother : Text.lines " NJ2 \n \n2B6\nhello\n QuIT" =
      [" NJ2 ", " ", "2B6", "hello"] ++ " QuIT" :: [] := by decide +kernel
  have hexit : Text.lowerCase (Text.trim " QuIT") ∈ exitWords := by decide +kernel
  have hluck : GameSystem.find (chosenSystem (some "Luck") settings) = .error ⟨.text "Luck"⟩ := rfl
  have hagree := performShell_eq_performRoll none none input settings 0
  have hunknown := performShell_eq_performRoll (some "Luck") none input settings 0
  have hrun := hagree.2.1 NinjaSlayer.system hfind hlimit
  obtain ⟨hshell, -, hstderr⟩ := hunknown.2.2.1 _ hluck
  exact ⟨by decide +kernel, hfind, hlimit, hagree.1, hrun.1, hrun.2,
    hagree.2.2.2 _ _ _ _ _ hlines hother hexit, congrArg Report.exit hshell,
    congrArg Report.stdout hshell, hstderr toString⟩

end ChatDice.CommandLine
