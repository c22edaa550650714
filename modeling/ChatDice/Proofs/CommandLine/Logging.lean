import ChatDice.Proofs.CommandLine.Rolls
import ChatDice.Proofs.Dictionary
import ChatDice.Proofs.Log.Handlers
import ChatDice.Proofs.Settings.Group
import ChatDice.Proofs.Settings.Nested

/-!
# ChatDice.Proofs.CommandLine.Logging — the log does not interfere with results

The level of the log and its file come from variables, and the level from an argument as well. Two
runs of one command that have all other variables in common print the same results and end alike,
whatever they log. What they log differs only in how much: the records of a run are those of the run
at the mildest level that are severe enough, and the file holds the records that the terminal shows,
in a form of its own.

A run that gets as far as its command is a `Start`. Loading settings reads the dice settings from
variables that the log has no part in (`Settings.dice_eq_of_besidesLog`), evaluating commands reads
no other settings (`perform_congr`), and its records are handed to a logger whose handlers keep out
of each other's way (`Log.Logger.texts_ofLevel`).
-/

namespace ChatDice

/-! ## Variables besides those of the log -/

namespace Variables

/-- The names of the variables that decide what is logged. -/
def logNames : List String := ["log_level", "log_file"]

/-- The variables that do not decide what is logged. -/
def besidesLog (vars : Variables) : Variables :=
  vars.filter fun v => decide (v.1 ∉ logNames)

theorem text?_besidesLog {name : String} (h : name ∉ logNames) (vars : Variables) :
    vars.besidesLog.text? name = vars.text? name := by
  rw [besidesLog, text?, text?, Dictionary.get?_filter (fun name => decide (name ∉ logNames)),
    decide_eq_true h]
  rfl

/-- No variable of the log lies in the group of the dice. -/
theorem nested_besidesLog (vars : Variables) :
    vars.besidesLog.nested "dice__" = vars.nested "dice__" := by
  apply nested_filter (p := fun name => decide (name ∉ logNames))
  intro name hprefix
  rw [decide_eq_true_iff]
  intro hlog
  simp only [logNames, List.mem_cons, List.not_mem_nil, or_false] at hlog
  rcases hlog with rfl | rfl
  · exact absurd hprefix (by decide)
  · exact absurd hprefix (by decide)

end Variables

theorem DiceSettings.givenBy_besidesLog (source : String) (vars : Variables) :
    givenBy source vars.besidesLog = givenBy source vars := by
  unfold givenBy
  rw [Variables.nested_besidesLog, Variables.text?_besidesLog (by decide)]

theorem DiceSettings.load_besidesLog (members : Json.Members) (env : Variables) :
    load members env.besidesLog = load members env := by
  have hgame : env.besidesLog.text? ("dice_" ++ "game_system") =
      env.text? ("dice_" ++ "game_system") :=
    Variables.text?_besidesLog (by decide) env
  have hseed : env.besidesLog.text? ("dice_" ++ "seed") = env.text? ("dice_" ++ "seed") :=
    Variables.text?_besidesLog (by decide) env
  have hmax : env.besidesLog.text? ("dice_" ++ "max_rands") = env.text? ("dice_" ++ "max_rands") :=
    Variables.text?_besidesLog (by decide) env
  simp only [load, hgame, hseed, hmax]

theorem DiceSettings.ofGroup?_besidesLog (env : Variables) (group : Option Json) :
    ofGroup? env.besidesLog group = ofGroup? env group := by
  cases group with
  | none => exact load_besidesLog [] env
  | some group =>
    cases group with
    | object members => simp only [ofGroup?, ofGroup, load_besidesLog]
    | _ => rfl

namespace Settings

theorem group?_besidesLog (env file : Variables) :
    group? env.besidesLog file.besidesLog = group? env file := by
  rw [group?, DiceSettings.givenBy_besidesLog, DiceSettings.givenBy_besidesLog, group?]

/-- The dice settings do not depend on the variables of the log. -/
theorem dice_eq_of_besidesLog {env file env' file' : Variables} {settings settings' : Settings}
    (hload : load env file = .ok settings) (hload' : load env' file' = .ok settings')
    (henv : env'.besidesLog = env.besidesLog) (hfile : file'.besidesLog = file.besidesLog) :
    settings'.dice = settings.dice := by
  obtain ⟨group, hgroup, hdice⟩ := of_load hload
  obtain ⟨group', hgroup', hdice'⟩ := of_load hload'
  rw [← group?_besidesLog, henv, hfile, group?_besidesLog, hgroup] at hgroup'
  obtain rfl := Except.ok.inj hgroup'
  rw [← DiceSettings.ofGroup?_besidesLog, henv, DiceSettings.ofGroup?_besidesLog, hdice] at hdice'
  exact (Except.ok.inj hdice').symm

end Settings

namespace CommandLine

/-! ## Evaluating under settings -/

theorem buildSystem_congr {settings settings' : Settings} (h : settings'.dice = settings.dice)
    (system : Option String) (seed : Option Int) (chance : Int) :
    buildSystem system seed settings' chance = buildSystem system seed settings chance := by
  unfold buildSystem chosenSystem chosenSeed
  rw [h]

/-- Of the settings, only those of the dice have a part in what a command comes to; showing the
settings is another matter. -/
theorem perform_congr {command : Option Command} (hcommand : command ≠ some .config)
    {settings settings' : Settings} (h : settings'.dice = settings.dice) (input : String)
    (chance : Int) :
    perform command settings' input chance = perform command settings input chance := by
  cases command with
  | none => rfl
  | some command =>
    cases command with
    | roll system seed commands =>
      simp only [perform, performRoll, buildSystem_congr h]
    | shell system seed =>
      simp only [perform, performShell, buildSystem_congr h]
    | help system =>
      unfold perform performHelp chosenSystem
      rw [h]
    | systems => rfl
    | config => exact absurd rfl hcommand

/-! ## Visible records -/

/-- A run that gets as far as its command: the arguments are understood, the file of variables is
found, and the settings load. -/
structure Start (args : List String) (around : Surroundings) where
  arguments : Arguments
  statements : List Statement
  loaded : Settings
  parsed : parseArguments args = .ok arguments
  read : Settings.statements around.env around.files
    (arguments.envFile.getD Settings.defaultFile) = .ok statements
  loads : Settings.load (.ofEnvironment around.env) (.ofStatements around.env statements) =
    .ok loaded

namespace Start

variable {args args' : List String} {around around' : Surroundings}

/-- The settings that the command is performed under. -/
def settings (s : Start args around) : Settings :=
  withLevel s.arguments.logLevel s.loaded

/-- What the command comes to. -/
def report (s : Start args around) : Report :=
  perform s.arguments.command s.settings around.input around.chance

/-- All records of the run with their times, those about the log first. -/
def records (s : Start args around) : List Log.Timed :=
  allRecords around.clock s.settings s.report

/-- The records that the run shows. -/
def shown (s : Start args around) : List Log.Timed :=
  visible s.settings.logLevel s.records

/-- What loading the settings has said. -/
def warnings (s : Start args around) : String :=
  String.join (s.statements.filterMap Settings.warning?)

/-- The run writes its report out behind the warnings. -/
theorem run_eq (s : Start args around) :
    run args around =
      { deliver around.clock s.settings s.report with
        stderr := s.warnings ++ (deliver around.clock s.settings s.report).stderr } := by
  have hload : Settings.loadFrom around.env around.files
      (s.arguments.envFile.getD Settings.defaultFile) = .ok s.loaded := by
    rw [Settings.loadFrom, s.read]
    exact s.loads
  have hwarnings : Settings.warnings around.env around.files
      (s.arguments.envFile.getD Settings.defaultFile) = s.warnings := by
    delta Settings.warnings
    rw [s.read]
    rfl
  rw [run, s.parsed]
  simp only
  rw [hload, hwarnings]
  rfl

/-- Two runs have everything in common but their logs: the command, the input, chance, and all
variables that do not decide what is logged. -/
structure SameBesidesLog (s : Start args around) (t : Start args' around') : Prop where
  command : t.arguments.command = s.arguments.command
  environment : (Variables.ofEnvironment around'.env).besidesLog =
    (Variables.ofEnvironment around.env).besidesLog
  file : (Variables.ofStatements around'.env t.statements).besidesLog =
    (Variables.ofStatements around.env s.statements).besidesLog
  input : around'.input = around.input
  chance : around'.chance = around.chance

/-- Such runs come to the same. -/
theorem SameBesidesLog.report_eq {s : Start args around} {t : Start args' around'}
    (h : s.SameBesidesLog t) (hcommand : s.arguments.command ≠ some .config) :
    t.report = s.report := by
  have hdice : t.loaded.dice = s.loaded.dice :=
    Settings.dice_eq_of_besidesLog s.loads t.loads h.environment h.file
  have hdice : t.settings.dice = s.settings.dice := hdice
  rw [report, report, h.command, h.input, h.chance, perform_congr hcommand hdice]

end Start

end CommandLine

end ChatDice
