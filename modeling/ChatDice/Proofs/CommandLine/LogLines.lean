import ChatDice.Proofs.CommandLine.Logging
import ChatDice.Proofs.CommandLine.Shell
import ChatDice.Proofs.Text.Printable

/-!
# ChatDice.Proofs.CommandLine.LogLines — a line for every log record

A log is read line by line, and much of what it shows has been typed by players: commands, parts of
commands, texts of results, names of games. None of it can pass for a record of its own. What has
been typed stands between quotation marks, and all else in a message is made of the program's words
and of numbers; so messages are in print (`inPrint_of_mem_perform`), and every record that is
written takes one line, on the terminal and in the file (`records_on_own_lines`).

* `GameSystem.inPrint_of_remark` — the records of an evaluation, case by case;
* `inPrint_of_logs` — those of commands in a list;
* `OwnLines` — texts that take one line each behind what has been written before.

The records that show the settings are not of this kind, because they are laid out in several lines.
-/

namespace ChatDice

open Text (inPrint_ofList inPrint_append inPrint_toString inPrint_intercalate inPrint_nat
  inPrint_sayInteger inPrint_quote)

/-! ## Records in print -/

namespace Log

theorem Level.oneLine_name (l : Level) : Text.OneLine l.name := by
  cases l <;> decide

theorem Level.oneLine_coloredName (l : Level) : Text.OneLine l.coloredName := by
  cases l <;> decide

/-- The logger of a site and its function are in print. -/
def Site.InPrint (s : Site) : Prop :=
  Text.InPrint s.logger ∧ Text.InPrint s.function

instance (s : Site) : Decidable s.InPrint :=
  inferInstanceAs (Decidable (_ ∧ _))

theorem Site.InPrint.place {s : Site} (h : s.InPrint) : Text.InPrint s.place := by
  simp only [Site.place, inPrint_append, inPrint_nat, h.2, true_and, and_true]
  decide

/-- The place that a record is from is in print, and so is what is said. -/
structure Record.InPrint (n : Record) : Prop where
  site : n.site.InPrint
  message : Text.InPrint n.message

theorem Record.inPrint_mk {site : Site} {level : Level} {message : String} (hsite : site.InPrint)
    (hmessage : Text.InPrint message) : (⟨site, level, message⟩ : Record).InPrint :=
  ⟨hsite, hmessage⟩

namespace Timed

variable {t : Timed} (htime : Text.OneLine t.time) (hrecord : t.record.InPrint)
include htime hrecord

/-- What the terminal shows of a record in print is of one line. -/
theorem oneLine_words_terminal : Text.OneLine (Formatter.terminal.words t) := by
  rw [Formatter.words_terminal]
  apply Text.oneLine_intercalate (by decide)
  simp only [List.forall_mem_cons, List.not_mem_nil]
  exact ⟨htime, hrecord.site.1.oneLine, t.record.level.oneLine_coloredName,
    hrecord.message.oneLine, by simp⟩

/-- What the file shows of it is of one line, too. -/
theorem oneLine_words_file : Text.OneLine (Formatter.file.words t) := by
  rw [Formatter.words_file]
  apply Text.oneLine_intercalate (by decide)
  simp only [List.forall_mem_cons, List.not_mem_nil]
  exact ⟨htime, hrecord.site.1.oneLine, t.record.level.oneLine_name,
    hrecord.site.place.oneLine, hrecord.message.oneLine, by simp⟩

end Timed

end Log

/-- Faults name what has been typed between quotation marks only. -/
theorem Fault.inPrint_message (fault : Fault) : Text.InPrint fault.message := by
  unfold message
  -- What is left of each message are the program's own words.
  cases fault with
  | numberTooLarge digits =>
    simp only [inPrint_append, inPrint_nat, and_true]
    and_intros <;> exact inPrint_ofList rfl
  | unwritableNumber => exact Text.inPrint_tooManyDigits none
  | drawLimit limit =>
    simp only [inPrint_append, inPrint_nat, and_true]
    and_intros <;> exact inPrint_ofList rfl
  | dieWithoutSides sides =>
    apply inPrint_sayInteger
    intro digits hdigits
    simp only [inPrint_append, inPrint_toString, hdigits, and_true]
    exact inPrint_ofList rfl
  | unknownComparison sign => exact inPrint_quote sign
  | unknownDifficulty token =>
    simp only [inPrint_append, inPrint_toString, inPrint_quote, and_true]
    exact inPrint_ofList rfl
  | missingEntry table face =>
    simp only [inPrint_append, inPrint_toString, inPrint_quote, inPrint_nat, and_true]
    and_intros <;> exact inPrint_ofList rfl
  | unrolledCheck command =>
    simp only [inPrint_append, inPrint_toString, inPrint_quote, and_true]
    exact inPrint_ofList rfl

/-! ## Records of games -/

/-- The words that a game brings into the log are in print. -/
structure GameSystem.NotesInPrint (sys : GameSystem) : Prop where
  id : Text.InPrint sys.id
  name : Text.InPrint sys.name
  notes (command : String) : ∀ n ∈ (sys.special command).notes, n.InPrint

/-- What is logged while a command is evaluated is in print, whatever the command is. -/
theorem GameSystem.inPrint_of_remark {sys : GameSystem} (hsys : sys.NotesInPrint)
    {n : Log.Record} (h : sys.Remark n) : n.InPrint := by
  have hid := hsys.id
  cases h with
  | atLimit limit =>
    apply Log.Record.inPrint_mk (by decide)
    simp only [inPrint_append, inPrint_nat, and_true]
    and_intros <;> exact inPrint_ofList rfl
  | emptyGroup group command =>
    apply Log.Record.inPrint_mk (by decide)
    simp only [inPrint_append, inPrint_toString, inPrint_quote, and_true]
    and_intros <;> exact inPrint_ofList rfl
  | special hnote => exact hsys.notes _ n hnote
  | result command text secret =>
    have hsecret : Text.InPrint (truthWord secret) := by
      cases secret <;> decide
    apply Log.Record.inPrint_mk (by decide)
    -- The text of the result is quoted as well.
    simp only [inPrint_append, inPrint_toString, inPrint_quote, hid, hsecret, and_true, true_and]
    and_intros <;> exact inPrint_ofList rfl
  | notHandled command =>
    apply Log.Record.inPrint_mk (by decide)
    simp only [inPrint_append, inPrint_toString, inPrint_quote, hid, and_true, true_and]
    and_intros <;> exact inPrint_ofList rfl
  | noPrefix command =>
    apply Log.Record.inPrint_mk (by decide)
    simp only [inPrint_append, inPrint_toString, inPrint_quote, hid, and_true, true_and]
    exact inPrint_ofList rfl

theorem Check.inPrint_kindName (kind : CheckKind) : Text.InPrint (kindName kind) := by
  cases kind with
  | evasion target => exact show Text.InPrint "Evasion" by decide
  | meleeAttack => decide
  | electronicWarfare => decide

/-- A check is shown by its numbers, not by what has been typed. -/
theorem Check.inPrint_describe (c : Check) : Text.InPrint c.describe := by
  simp only [describe, inPrint_append, inPrint_toString, inPrint_nat, inPrint_kindName, and_true,
    true_and]
  -- Only an evasion shows a target.
  split
  · decide
  · simp only [inPrint_append, inPrint_nat, and_true]
    and_intros <;> exact inPrint_ofList rfl
  · decide

namespace NinjaSlayer

theorem inPrint_of_mem_notes {command : String} {n : Log.Record}
    (h : n ∈ (special command).notes) : n.InPrint := by
  rcases eq_remark_of_mem_notes h with rfl | rfl | ⟨c, rfl⟩
  · apply Log.Record.inPrint_mk (by decide)
    simp only [inPrint_append, inPrint_toString, inPrint_quote, and_true]
    exact inPrint_ofList rfl
  · apply Log.Record.inPrint_mk (by decide)
    simp only [inPrint_append, inPrint_toString, inPrint_quote, and_true]
    exact inPrint_ofList rfl
  · apply Log.Record.inPrint_mk (by decide)
    simp only [inPrint_append, inPrint_toString, inPrint_quote, c.inPrint_describe, and_true]
    and_intros <;> exact inPrint_ofList rfl

theorem notesInPrint_system : system.NotesInPrint where
  id := by decide
  name := by decide
  notes _ _ := inPrint_of_mem_notes

end NinjaSlayer

theorem GameSystem.notesInPrint_of_mem_registered {sys : GameSystem} (h : sys ∈ registered) :
    sys.NotesInPrint := by
  rw [registered, List.mem_singleton] at h
  rw [h]
  exact NinjaSlayer.notesInPrint_system

/-- The name that has been asked for is quoted, and the names that there are are in print. -/
theorem UnknownSystem.inPrint_message (e : UnknownSystem) : Text.InPrint e.message := by
  have hknown : Text.InPrint (", ".intercalate (GameSystem.registered.map GameSystem.id)) := by
    apply inPrint_intercalate (by decide)
    intro id hid
    obtain ⟨sys, hsys, rfl⟩ := List.mem_map.mp hid
    exact (GameSystem.notesInPrint_of_mem_registered hsys).id
  have hid := e.id.inPrint_quote
  unfold message
  simp only [inPrint_append, inPrint_toString, hid, hknown, and_true]
  and_intros <;> exact inPrint_ofList rfl

theorem LimitNotPositive.inPrint_message (e : LimitNotPositive) : Text.InPrint e.message := by
  apply inPrint_sayInteger
  intro digits hdigits
  simp only [inPrint_append, inPrint_toString, hdigits, and_true]
  exact inPrint_ofList rfl

namespace CommandLine

/-! ## Records of commands -/

theorem inPrint_failure? {command : String} {answer : Except Fault (Option CommandResult)}
    {n : Log.Record} (h : failure? command answer = some n) : n.InPrint := by
  unfold failure? at h
  split at h
  · cases h
  · cases h
    apply Log.Record.inPrint_mk (by decide)
    simp only [inPrint_append, inPrint_toString, inPrint_quote, and_true]
    exact inPrint_ofList rfl
  · rename_i fault
    have hfault := fault.inPrint_message
    cases h
    apply Log.Record.inPrint_mk (by decide)
    simp only [inPrint_append, inPrint_toString, inPrint_quote, hfault, and_true, true_and]
    exact inPrint_ofList rfl

theorem inPrint_of_logs {sys : GameSystem} (hsys : sys.NotesInPrint) {n : Log.Record}
    (h : Logs sys n) : n.InPrint := by
  rcases h with hremark | ⟨command, answer, hfailure⟩
  · exact GameSystem.inPrint_of_remark hsys hremark
  · exact inPrint_failure? hfailure

theorem inPrint_greeting {sys : GameSystem} (hsys : sys.NotesInPrint) :
    (greeting sys).InPrint := by
  have hname := hsys.name
  apply Log.Record.inPrint_mk (by decide)
  simp only [inPrint_append, inPrint_toString, hname, true_and]
  exact inPrint_ofList rfl

theorem SetupError.inPrint_message (e : SetupError) : Text.InPrint e.message := by
  unfold message
  cases e with
  | unknownSystem unknown => exact unknown.inPrint_message
  | limitNotPositive refused => exact refused.inPrint_message

/-! ## Records of reports -/

/-- An evaluation is reported with the records that were there and those that it writes. -/
theorem forall_mem_ofEvaluation {σ : Type} {P : Log.Record → Prop}
    {x : Rolling σ (List (Option String))} (hx : Rolling.Emits P x) {r : Roller σ}
    (hlog : ∀ n ∈ r.log, P n) (exit : List (Option String) → Nat) :
    ∀ n ∈ (Report.ofEvaluation exit (x.run r)).records, P n := by
  obtain ⟨records, hrecords, hrun⟩ := hx r
  have hown := hrun r.log
  rw [Roller.logging_log] at hown
  have hall : ∀ n ∈ (r.log ++ records).toList, P n := by
    intro n hn
    rcases Array.mem_append.mp (Array.mem_toList_iff.mp hn) with hn | hn
    · exact hlog n hn
    · exact hrecords n hn
  rw [hown]
  cases x.run r with
  | ok shown s => exact hall
  | error fault s => exact hall

theorem inPrint_of_mem_ofSetupError {site : Log.Site} (hsite : site.InPrint) {e : SetupError}
    {n : Log.Record} (h : n ∈ (Report.ofSetupError site e).records) : n.InPrint := by
  rw [List.mem_singleton.mp h]
  exact ⟨hsite, e.inPrint_message⟩

theorem inPrint_of_mem_ofEvaluation {σ : Type} [DieSource σ] {sys : GameSystem}
    (hsys : sys.NotesInPrint) {commands : List String} {r : Roller σ}
    (hlog : ∀ n ∈ r.log, n.InPrint) {exit : List (Option String) → Nat} {n : Log.Record}
    (h : n ∈ (Report.ofEvaluation exit ((rollCommands sys commands).run r)).records) :
    n.InPrint := by
  have hemits : Rolling.Emits Log.Record.InPrint
      (rollCommands sys commands : Rolling σ (List (Option String))) :=
    (emits_rollCommands sys commands).mono fun _ => inPrint_of_logs hsys
  exact forall_mem_ofEvaluation hemits hlog exit n h

section
variable {system : Option String} {seed : Option Int} {settings : Settings} {chance : Int}

theorem notesInPrint_of_build {sys : GameSystem} {roller : Roller Twister}
    (h : buildSystem system seed settings chance = .ok (sys, roller)) :
    sys.NotesInPrint ∧ roller.log = #[] := by
  obtain ⟨hfind, hroller⟩ := of_buildSystem h
  exact ⟨GameSystem.notesInPrint_of_mem_registered (GameSystem.mem_registered_of_find hfind),
    Roller.log_of_ofSource hroller⟩

theorem inPrint_of_mem_performRoll {commands : List String} {n : Log.Record}
    (h : n ∈ (performRoll system seed commands settings chance).records) : n.InPrint := by
  cases hbuild : buildSystem system seed settings chance with
  | error e =>
    rw [performRoll_of_setupError hbuild] at h
    exact inPrint_of_mem_ofSetupError (by decide) h
  | ok built =>
    obtain ⟨hsys, hlog⟩ := notesInPrint_of_build hbuild
    rw [performRoll_of_build hbuild] at h
    exact inPrint_of_mem_ofEvaluation hsys (by simp [hlog]) h

theorem inPrint_of_mem_performShell {input : String} {n : Log.Record}
    (h : n ∈ (performShell system seed input settings chance).records) : n.InPrint := by
  cases hbuild : buildSystem system seed settings chance with
  | error e =>
    rw [performShell_of_setupError hbuild] at h
    exact inPrint_of_mem_ofSetupError (by decide) h
  | ok built =>
    obtain ⟨hsys, hlog⟩ := notesInPrint_of_build hbuild
    rw [performShell_of_build hbuild] at h
    exact inPrint_of_mem_ofEvaluation hsys (by simp [hlog, inPrint_greeting hsys]) h

theorem inPrint_of_mem_performHelp {n : Log.Record}
    (h : n ∈ (performHelp system settings).records) : n.InPrint := by
  unfold performHelp at h
  split at h
  · exact inPrint_of_mem_ofSetupError (by decide) h
  · cases h

end

/-- Whatever the program is asked to do, its records are in print; showing the settings is another
matter. -/
theorem inPrint_of_mem_perform {command : Option Command} (hcommand : command ≠ some .config)
    {settings : Settings} {input : String} {chance : Int} {n : Log.Record}
    (h : n ∈ (perform command settings input chance).records) : n.InPrint := by
  cases command with
  | none => cases h
  | some command =>
    cases command with
    | roll system seed commands => exact inPrint_of_mem_performRoll h
    | shell system seed => exact inPrint_of_mem_performShell h
    | help system => exact inPrint_of_mem_performHelp h
    | systems => cases h
    | config => exact absurd rfl hcommand

/-! ## Records on lines -/

/-- Behind what was written before, a text goes on with these lines, and nothing in one of them
starts a line of its own. -/
structure OwnLines (before text : String) (bodies : List String) : Prop where
  lines_eq : Text.lines text = Text.lines before ++ bodies
  oneLine : ∀ body ∈ bodies, Text.OneLine body

/-- What a formatter makes of a record in print at a time of one line is of one line. -/
def KeepsLines (f : Log.Formatter) : Prop :=
  ∀ t : Log.Timed, Text.OneLine t.time → t.record.InPrint → Text.OneLine (f.words t)

theorem keepsLines_terminal : KeepsLines .terminal := fun _ => Log.Timed.oneLine_words_terminal

theorem keepsLines_file : KeepsLines .file := fun _ => Log.Timed.oneLine_words_file

/-- The lines of any records have ended. -/
theorem ended_join_lines (f : Log.Formatter) (records : List Log.Timed) :
    Text.Ended (String.join (records.map f.line)) := by
  apply Text.ended_join
  intro text htext
  obtain ⟨t, -, rfl⟩ := List.mem_map.mp htext
  exact Text.ended_feed _

/-- Records in print take a line each behind what has ended its last line. -/
theorem ownLines_join {before : String} (hbefore : Text.Ended before) {f : Log.Formatter}
    (hf : KeepsLines f) {records : List Log.Timed} (htime : ∀ t ∈ records, Text.OneLine t.time)
    (hrecord : ∀ t ∈ records, t.record.InPrint) :
    OwnLines before (before ++ String.join (records.map f.line)) (records.map f.words) := by
  have hbodies : ∀ text ∈ records.map f.words, Text.OneLine text := by
    intro text htext
    obtain ⟨t, ht, rfl⟩ := List.mem_map.mp htext
    exact hf t (htime t ht) (hrecord t ht)
  -- Bodies of one line, each of them ended, are the lines of what they make together.
  have hended : records.map f.line = (records.map f.words).map (· ++ "\n") := by
    rw [List.map_map]
    rfl
  refine ⟨?_, hbodies⟩
  rw [hended, hbefore.lines_append, Text.lines_join hbodies]

/-- What is announced about the log itself: its level and its file. -/
def announced (clock : Nat → String) (settings : Settings) : List Log.Timed :=
  visible settings.logLevel (Log.timed clock (loggingRecords settings))

/-- What is written of a report behind the announcements. -/
def reported (clock : Nat → String) (settings : Settings) (report : Report) : List Log.Timed :=
  visible settings.logLevel
    (Log.timed (fun n => clock (n + (loggingRecords settings).length)) report.records)

/-- That is all that is written. -/
theorem visible_allRecords (clock : Nat → String) (settings : Settings) (report : Report) :
    visible settings.logLevel (allRecords clock settings report) =
      announced clock settings ++ reported clock settings report := by
  rw [allRecords, Log.timed_append]
  exact List.filter_append _ _

/-- A report is written behind the announcements. They may take several lines, because they show
the name of a file; the records of the report take one each. -/
theorem ownLines_written {before : String} (hbefore : Text.Ended before) {f : Log.Formatter}
    (hf : KeepsLines f) {clock : Nat → String} (hclock : ∀ n, Text.OneLine (clock n))
    (settings : Settings) {report : Report} (hreport : ∀ n ∈ report.records, n.InPrint) :
    OwnLines (before ++ String.join ((announced clock settings).map f.line))
      (before ++ String.join
        ((visible settings.logLevel (allRecords clock settings report)).map f.line))
      ((reported clock settings report).map f.words) := by
  have htimed : ∀ t ∈ reported clock settings report,
      Text.OneLine t.time ∧ t.record.InPrint := by
    intro t ht
    obtain ⟨hrecord, n, htime⟩ := Log.exists_time_eq (List.mem_of_mem_filter ht)
    rw [htime]
    exact ⟨hclock _, hreport _ hrecord⟩
  have hfront := hbefore.append (ended_join_lines f (announced clock settings))
  rw [visible_allRecords, List.map_append, String.join_append, ← String.append_assoc]
  exact ownLines_join hfront hf (fun t ht => (htimed t ht).1) fun t ht => (htimed t ht).2

/-- Commands cannot forge lines of the log. Whatever the commands are, as arguments or on lines of
input, whatever game is asked for and from whatever level on records are written: no record has a
message with a character in it that breaks a line or controls a terminal. Every record that is
severe enough is written and takes exactly one line, in its place behind the announcements, on the
terminal and in the file, as long as the times are of one line and what was there before has ended
its last line. This holds of all that the program does but for showing the settings. -/
theorem records_on_own_lines {command : Option Command} (hcommand : command ≠ some .config)
    (settings : Settings) (input : String) (chance : Int) {clock : Nat → String}
    (hclock : ∀ n, Text.OneLine (clock n)) :
    let report := perform command settings input chance
    let outcome := deliver clock settings report
    let shown := reported clock settings report
    (∀ n ∈ report.records, ∀ c ∈ n.message.toList,
      Text.isPrintable c = true ∧ Text.isLineBreak c = false ∧ Text.isControl c = false) ∧
    shown.map Log.Timed.record = severe settings.logLevel report.records ∧
    (∀ before, Text.Ended before →
      OwnLines
        (before ++ String.join ((announced clock settings).map Log.Timed.coloredLine))
        (before ++ outcome.stderr)
        (shown.map fun t => " - ".intercalate [t.time, t.record.site.logger,
          t.record.level.coloredName, t.record.message])) ∧
    ∀ before path text, Text.Ended before → outcome.logged = some (path, text) →
      OwnLines (before ++ String.join ((announced clock settings).map Log.Timed.line))
        (before ++ text)
        (shown.map fun t => " - ".intercalate [t.time, t.record.site.logger, t.record.level.name,
          t.record.site.place, t.record.message]) := by
  intro report outcome shown
  -- The level only leaves records out, so it is enough to look at all of them.
  have hprint : ∀ n ∈ report.records, n.InPrint := fun n => inPrint_of_mem_perform hcommand
  refine ⟨?_, map_record_visible _ _ _, ?_, ?_⟩
  · intro n hn c hc
    have hshown := (hprint n hn).message c hc
    exact ⟨hshown, Text.of_isPrintable hshown⟩
  · intro before hbefore
    exact ownLines_written hbefore keepsLines_terminal hclock settings hprint
  · intro before path text hbefore hlogged
    obtain ⟨file, -, hwritten⟩ := Option.map_eq_some_iff.mp hlogged
    obtain ⟨-, rfl⟩ := Prod.mk.inj hwritten
    exact ownLines_written hbefore keepsLines_file hclock settings hprint

/-- A command that has a record of the log on its second line, behind a file that is there. -/
theorem records_on_own_lines_two_lines :
    let command : Command := .roll none none ["hello\nnow - njdice - ERROR - \x1b[31mforged"]
    let dice : DiceSettings := { gameSystem := .text "NinjaSlayer", seed := some 7, maxRands := 9 }
    let settings : Settings :=
      { environment := .development, logLevel := .warning, logFile := some "dice.log", dice }
    let report := perform (some command) settings "" 0
    let clock := fun n => "now " ++ toString n
    let outcome := deliver clock settings report
    let said := "Unknown command: 'hello\\nnow - njdice - ERROR - \\x1b[31mforged'"
    some command ≠ some .config ∧ (∀ n, Text.OneLine (clock n)) ∧ Text.Ended "earlier\n" ∧
      (∀ n ∈ report.records, ∀ c ∈ n.message.toList,
        Text.isPrintable c = true ∧ Text.isLineBreak c = false ∧ Text.isControl c = false) ∧
      Text.lines ("" ++ outcome.stderr) =
        ["now 3 - njdice.__main__ - \x1b[31mERROR\x1b[0m - " ++ said] ∧
      ∃ text, outcome.logged = some ("dice.log", text) ∧
        Text.lines ("earlier\n" ++ text) =
          ["earlier", "now 3 - njdice.__main__ - ERROR - run_command:139 - " ++ said] := by
  intro command dice settings report clock outcome said
  have hcommand : some command ≠ some .config := by decide
  have hclock : ∀ n, Text.OneLine (clock n) := by
    intro n
    rw [Text.oneLine_append]
    exact ⟨by decide, Text.oneLine_nat n⟩
  have hnothing : Text.Ended "" := .inl rfl
  have hearlier : Text.Ended "earlier\n" := Text.ended_feed "earlier"
  obtain ⟨hmessages, -, hterminal, hfile⟩ := records_on_own_lines hcommand settings "" 0 hclock
  have hstderr := (hterminal "" hnothing).lines_eq
  have hlogged := (hfile "earlier\n" _ _ hearlier rfl).lines_eq
  exact ⟨hcommand, hclock, hearlier, hmessages, hstderr.trans (by decide +kernel), _, rfl,
    hlogged.trans (by decide +kernel)⟩

namespace Start

variable {args : List String} {around : Surroundings}

theorem ended_warnings (s : Start args around) : Text.Ended s.warnings := by
  apply Text.ended_join
  intro text htext
  obtain ⟨statement, -, hwarning⟩ := List.mem_filterMap.mp htext
  cases statement <;> cases hwarning
  exact Text.ended_feed _

/-- The standard error output of a whole run: warnings and announcements, and then a line for every
record that is shown. -/
theorem ownLines_stderr (s : Start args around) (hcommand : s.arguments.command ≠ some .config)
    (hclock : ∀ n, Text.OneLine (around.clock n)) :
    OwnLines
      (s.warnings ++
        String.join ((announced around.clock s.settings).map Log.Timed.coloredLine))
      (run args around).stderr
      ((reported around.clock s.settings s.report).map Log.Formatter.terminal.words) := by
  rw [s.run_eq]
  exact ownLines_written s.ended_warnings keepsLines_terminal hclock s.settings
    fun _ => inPrint_of_mem_perform hcommand

end Start

end CommandLine

end ChatDice
