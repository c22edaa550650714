import ChatDice.CommandLine.Run
import ChatDice.Proofs.Game.Endings
import ChatDice.Proofs.Game.OneLine
import ChatDice.Proofs.Game.Remarks
import ChatDice.Proofs.Log.Handlers

/-!
# ChatDice.Proofs.CommandLine.Rolls — what a list of commands prints

Commands given as arguments are evaluated one after another with one roller. Each of them comes to
an answer, and the answers decide everything else: which lines are printed, whether the run has
succeeded, and which errors are logged. `RollContract` says how.

Three facts about a game carry it, and `GameSystem.Reliable` puts them together. A command can fail
by asking for too much and in no other way, so no fault ends the list. Nothing that is logged while
a command is evaluated is as severe as an error, so the errors in the log are those of the commands
without a result, one for each. And answers are of one line.

* `run_runCommand` — what one command prints and logs;
* `run_rollCommands` — what a list does, by induction;
* `rollContract_performRoll` — the contract of the whole run.
-/

namespace ChatDice

section
variable {σ α : Type}

@[simp] theorem answerOf_relogged (log : Array Log.Record)
    (result : EStateM.Result Fault (Roller σ) α) :
    answerOf (relogged log result) = answerOf result := by
  cases result <;> rfl

@[simp] theorem rollerLeft_relogged (log : Array Log.Record)
    (result : EStateM.Result Fault (Roller σ) α) :
    rollerLeft (relogged log result) = (rollerLeft result).logging log := by
  cases result <;> rfl

theorem exists_eq_error_of_answerOf {result : EStateM.Result Fault (Roller σ) α} {fault : Fault}
    (h : answerOf result = .error fault) : ∃ r, result = .error fault r := by
  cases result with
  | ok a r => cases h
  | error fault' r =>
    have hfault : fault' = fault := Except.error.inj h
    exact ⟨r, by rw [hfault]⟩

end

/-- A command of the game fails by asking for too much or not at all. -/
theorem NinjaSlayer.isExcess_of_answerOf {σ : Type} [DieSource σ] [LawfulDieSource σ]
    {r : Roller σ} (hlimit : 1 ≤ r.limit) {command : String} {fault : Fault}
    (h : answerOf ((system.eval command).run r) = .error fault) : fault.isExcess = true := by
  obtain ⟨ending, hends, hgate, -⟩ := exists_ends hlimit command
  have hfits := fits_eval (r := r) hends hgate
  obtain ⟨s, hresult⟩ := exists_eq_error_of_answerOf h
  rw [hresult] at hfits
  rcases Ending.eq_of_fits_error hfits with ⟨n, rfl, -⟩ | ⟨⟨n, rfl⟩, -⟩
  · rfl
  · rfl

/-- A new roller has nothing in its log. -/
theorem Roller.log_of_ofSource {σ : Type} {source : σ} {limit : Int} {r : Roller σ}
    (h : Roller.ofSource source limit = .ok r) : r.log = #[] := by
  unfold Roller.ofSource at h
  split at h
  · cases h
  · cases h
    rfl

/-- What a run relies on in a game. -/
structure GameSystem.Reliable (sys : GameSystem) : Prop where
  /-- A command fails by asking for too much or not at all. -/
  isExcess {σ : Type} [DieSource σ] [LawfulDieSource σ] {r : Roller σ} (hlimit : 1 ≤ r.limit)
    {command : String} {fault : Fault}
    (h : answerOf ((sys.eval command).run r) = .error fault) : fault.isExcess = true
  /-- What is logged while a command is evaluated is no error. -/
  severity_lt {n : Log.Record} (h : sys.Remark n) : n.level.severity < Log.Level.error.severity
  speaksInLines : sys.SpeaksInLines

theorem NinjaSlayer.reliable_system : system.Reliable where
  isExcess := isExcess_of_answerOf
  severity_lt := severity_lt_of_remark
  speaksInLines := speaksInLines_system

/-- What holds of the registered games holds of every game that is found by its name. -/
theorem GameSystem.mem_registered_of_find {id : LooseText} {sys : GameSystem}
    (h : GameSystem.find id = .ok sys) : sys ∈ registered := by
  unfold find at h
  split at h
  · rename_i found hfound
    cases h
    exact List.mem_of_find?_eq_some hfound
  · cases h

/-- Every game that there is can be relied on. -/
theorem GameSystem.reliable_of_find {id : LooseText} {sys : GameSystem}
    (h : GameSystem.find id = .ok sys) : sys.Reliable := by
  have hmem := mem_registered_of_find h
  rw [registered, List.mem_singleton] at hmem
  rw [hmem]
  exact NinjaSlayer.reliable_system

namespace CommandLine

/-! ## One command -/

/-- The result of an answer, if it has one. -/
def resultOf? : Except Fault (Option CommandResult) → Option CommandResult
  | .ok result => result
  | .error _ => none

/-- The error that is logged for a command without a result: it is not known, or it asks for too
much. -/
def failure? (command : String) : Except Fault (Option CommandResult) → Option Log.Record
  | .ok (some _) => none
  | .ok none => some ⟨siteOfUnknown, .error, s!"Unknown command: {Text.quote command}"⟩
  | .error fault => some ⟨siteOfFailure, .error, s!"{Text.quote command} failed: {fault.message}"⟩

/-- The errors of some commands with these answers, in their order. -/
def failures (commands : List String) (answers : List (Except Fault (Option CommandResult))) :
    List Log.Record :=
  (commands.zip answers).filterMap fun (command, answer) => failure? command answer

theorem of_resultOf? {answer : Except Fault (Option CommandResult)} {result : CommandResult}
    (h : resultOf? answer = some result) : answer = .ok (some result) := by
  cases answer with
  | ok found => rw [show found = some result from h]
  | error fault => cases h

theorem level_of_failure? {command : String} {answer : Except Fault (Option CommandResult)}
    {n : Log.Record} (h : failure? command answer = some n) : n.level = .error := by
  unfold failure? at h
  split at h
  · cases h
  · rw [← Option.some.inj h]
  · rw [← Option.some.inj h]

section
variable {σ : Type} [DieSource σ] {sys : GameSystem} {command : String} {r s : Roller σ}

/-- The log that a command leaves has the records of its evaluation at its end. -/
theorem exists_log_step_eq (sys : GameSystem) (r : Roller σ) (command : String) :
    ∃ records : Array Log.Record, (∀ n ∈ records, sys.Remark n) ∧
      (sys.step r command).log = r.log ++ records := by
  obtain ⟨records, hrecords, hrun⟩ := sys.emits_eval command r
  refine ⟨records, hrecords, ?_⟩
  have hown := hrun r.log
  rw [Roller.logging_log] at hown
  rw [GameSystem.step, hown, rollerLeft_relogged, Roller.log_logging]

theorem runCommand_of_result {result : CommandResult}
    (h : (sys.eval command).run r = .ok (some result) s) :
    (runCommand sys command).run r = .ok (some (resultLine result)) s := by
  unfold EStateM.run at h ⊢
  rw [runCommand, h]

theorem runCommand_of_none (h : (sys.eval command).run r = .ok none s) :
    (runCommand sys command).run r =
      .ok none (s.logging
        (s.log.push ⟨siteOfUnknown, .error, s!"Unknown command: {Text.quote command}"⟩)) := by
  unfold EStateM.run at h ⊢
  rw [runCommand, h]
  rfl

theorem runCommand_of_fault {fault : Fault} (hexcess : fault.isExcess = false)
    (h : (sys.eval command).run r = .error fault s) :
    (runCommand sys command).run r = .error fault s := by
  unfold EStateM.run at h ⊢
  rw [runCommand, h]
  simp only [hexcess, Bool.false_eq_true, if_false]

theorem runCommand_of_excess {fault : Fault} (hexcess : fault.isExcess = true)
    (h : (sys.eval command).run r = .error fault s) :
    (runCommand sys command).run r =
      .ok none (s.logging (s.log.push
        ⟨siteOfFailure, .error, s!"{Text.quote command} failed: {fault.message}"⟩)) := by
  unfold EStateM.run at h ⊢
  rw [runCommand, h]
  simp only [hexcess, if_true]
  rfl

/-- A command prints the line of its result, and logs one error if it has none. -/
theorem run_runCommand
    (hexcess : ∀ fault, answerOf ((sys.eval command).run r) = .error fault →
      fault.isExcess = true) :
    (runCommand sys command).run r =
      .ok ((resultOf? (answerOf ((sys.eval command).run r))).map resultLine)
        ((sys.step r command).logging ((sys.step r command).log ++
          (failure? command (answerOf ((sys.eval command).run r))).toArray)) := by
  rw [GameSystem.step]
  cases hresult : (sys.eval command).run r with
  | ok answer s =>
    cases answer with
    | some result =>
      rw [runCommand_of_result hresult]
      simp only [answerOf, failure?, resultOf?, rollerLeft, Option.map_some, Option.toArray_none,
        Array.append_empty, Roller.logging_log]
    | none =>
      rw [runCommand_of_none hresult]
      simp only [answerOf, failure?, resultOf?, rollerLeft, Option.map_none, Option.toArray_some,
        Array.push_eq_append]
  | error fault s =>
    have hfault : fault.isExcess = true := hexcess fault (by rw [hresult]; rfl)
    rw [runCommand_of_excess hfault hresult]
    simp only [answerOf, failure?, resultOf?, rollerLeft, Option.map_none, Option.toArray_some,
      Array.push_eq_append]

/-- What a command may log: the records of its evaluation, and its own error. -/
def Logs (sys : GameSystem) (n : Log.Record) : Prop :=
  sys.Remark n ∨ ∃ command answer, failure? command answer = some n

theorem emits_runCommand (sys : GameSystem) (command : String) :
    Rolling.Emits (Logs sys) (runCommand sys command : Rolling σ (Option String)) := by
  intro r
  obtain ⟨records, hrecords, hrun⟩ := sys.emits_eval command r
  have hremarks : ∀ n ∈ records, Logs sys n := fun n hn => .inl (hrecords n hn)
  have hanswer : ∀ front, answerOf ((sys.eval command).run (r.logging front)) =
      answerOf ((sys.eval command).run r) := by
    intro front
    rw [hrun, answerOf_relogged]
  have hstep : ∀ front, sys.step (r.logging front) command =
      (sys.step r command).logging (front ++ records) := by
    intro front
    rw [GameSystem.step, GameSystem.step, hrun, rollerLeft_relogged]
  by_cases hexcess : ∀ fault, answerOf ((sys.eval command).run r) = .error fault →
      fault.isExcess = true
  · -- The command's own error stands behind the records of the evaluation.
    refine ⟨records ++ (failure? command (answerOf ((sys.eval command).run r))).toArray, ?_, ?_⟩
    · intro n hn
      rcases Array.mem_append.mp hn with hn | hn
      · exact hremarks n hn
      · exact .inr ⟨command, _, Option.mem_toArray.mp hn⟩
    · intro front
      have hfront : ∀ fault, answerOf ((sys.eval command).run (r.logging front)) = .error fault →
          fault.isExcess = true := by
        rw [hanswer]
        exact hexcess
      have hlogged := run_runCommand hfront
      rw [hanswer, hstep, Roller.log_logging, Roller.logging_logging] at hlogged
      rw [hlogged, run_runCommand hexcess, relogged_ok, Roller.logging_logging, Array.append_assoc]
  · simp only [not_forall] at hexcess
    obtain ⟨fault, hfault, hother⟩ := hexcess
    obtain ⟨s, hresult⟩ := exists_eq_error_of_answerOf hfault
    have hfront : ∀ front, (sys.eval command).run (r.logging front) =
        .error fault (s.logging (front ++ records)) := by
      intro front
      rw [hrun, hresult, relogged_error]
    rw [Bool.not_eq_true] at hother
    refine ⟨records, hremarks, ?_⟩
    intro front
    rw [runCommand_of_fault hother (hfront front), runCommand_of_fault hother hresult,
      relogged_error]

/-! ## Commands in a list -/

theorem emits_rollCommands (sys : GameSystem) (commands : List String) :
    Rolling.Emits (Logs sys) (rollCommands sys commands : Rolling σ (List (Option String))) := by
  induction commands with
  | nil => exact Rolling.emits_pure []
  | cons command commands ih =>
    exact (emits_runCommand sys command).bind fun line => ih.bind fun lines => Rolling.emits_pure _

omit [DieSource σ] in
theorem failures_cons (command : String) (commands : List String)
    (answer : Except Fault (Option CommandResult))
    (answers : List (Except Fault (Option CommandResult))) :
    failures (command :: commands) (answer :: answers) =
      (failure? command answer).toList ++ failures commands answers := by
  cases h : failure? command answer with
  | none => simp [failures, h]
  | some n => simp [failures, h]

omit [DieSource σ] in
theorem filter_error_of_remarks (hsys : sys.Reliable) {records : Array Log.Record}
    (h : ∀ n ∈ records, sys.Remark n) :
    records.toList.filter (fun n => n.level = .error) = [] := by
  rw [List.filter_eq_nil_iff]
  intro n hn herror
  have hlevel : n.level = .error := by simpa using herror
  have hsevere := hsys.severity_lt (h n (Array.mem_toList_iff.mp hn))
  rw [hlevel] at hsevere
  exact absurd hsevere (Nat.lt_irrefl _)

omit [DieSource σ] in
theorem filter_error_failure? (command : String) (answer : Except Fault (Option CommandResult)) :
    (failure? command answer).toList.filter (fun n => n.level = .error) =
      (failure? command answer).toList := by
  rw [List.filter_eq_self]
  intro n hn
  rw [level_of_failure? (Option.mem_toList.mp hn)]
  rfl

/-- A list of commands prints the lines of its results, and of the records that it logs the errors
are those of the commands without one. It does not stop in between. -/
theorem run_rollCommands [LawfulDieSource σ] (hsys : sys.Reliable) (hlimit : 1 ≤ r.limit)
    (commands : List String) :
    ∃ (records : Array Log.Record) (s : Roller σ),
      records.toList.filter (fun n => n.level = .error) =
          failures commands (sys.answers r commands) ∧
        s.log = r.log ++ records ∧
        (rollCommands sys commands).run r =
          .ok ((sys.answers r commands).map fun answer => (resultOf? answer).map resultLine) s := by
  -- The next command starts with a longer log; its answer is the one that the session has.
  induction commands generalizing r with
  | nil => exact ⟨#[], r, rfl, by rw [Array.append_empty], rfl⟩
  | cons command commands ih =>
    have hexcess : ∀ fault, answerOf ((sys.eval command).run r) = .error fault →
        fault.isExcess = true := fun _ => hsys.isExcess hlimit
    have hfirst := run_runCommand hexcess
    obtain ⟨remarks, hremarks, hlonger⟩ := exists_log_step_eq sys r command
    generalize hanswer : answerOf ((sys.eval command).run r) = answer at hfirst
    generalize hlog : (sys.step r command).log ++ (failure? command answer).toArray = log at hfirst
    have hanswers : sys.answers ((sys.step r command).logging log) commands =
        sys.answers (sys.step r command) commands :=
      sys.answers_congr (Roller.limit_logging _ _) (Roller.source_logging _ _) commands
    have hnext : 1 ≤ ((sys.step r command).logging log).limit := by
      rw [Roller.limit_logging, GameSystem.limit_step]
      exact hlimit
    obtain ⟨records, s, hrecords, hslog, hrest⟩ := ih hnext
    rw [hanswers] at hrecords hrest
    refine ⟨remarks ++ (failure? command answer).toArray ++ records, s, ?_, ?_, ?_⟩
    · rw [Array.toList_append, Array.toList_append, List.filter_append, List.filter_append,
        filter_error_of_remarks hsys hremarks, Option.toList_toArray, filter_error_failure?,
        hrecords, GameSystem.answers, hanswer, failures_cons, List.nil_append]
    · rw [hslog, Roller.log_logging, ← hlog, hlonger, Array.append_assoc, Array.append_assoc,
        Array.append_assoc]
    · rw [rollCommands, Rolling.run_bind_of_ok hfirst, Rolling.run_bind_of_ok hrest,
        GameSystem.answers, hanswer, List.map_cons]
      rfl

/-- Whatever fails in a session fails by asking for too much. -/
theorem isExcess_of_mem_answers [LawfulDieSource σ] (hsys : sys.Reliable) (hlimit : 1 ≤ r.limit)
    {commands : List String} {fault : Fault} (h : .error fault ∈ sys.answers r commands) :
    fault.isExcess = true := by
  induction commands generalizing r with
  | nil => cases h
  | cons command commands ih =>
    rw [GameSystem.answers] at h
    rcases List.mem_cons.mp h with hfirst | hrest
    · exact hsys.isExcess hlimit hfirst.symm
    · exact ih (by rw [GameSystem.limit_step]; exact hlimit) hrest

/-- The results of a session are of one line. -/
theorem oneLine_of_mem_answers (hsys : sys.SpeaksInLines) {commands : List String}
    {result : CommandResult} (h : .ok (some result) ∈ sys.answers r commands) :
    Text.OneLine result.text := by
  induction commands generalizing r with
  | nil => cases h
  | cons command commands ih =>
    rw [GameSystem.answers] at h
    rcases List.mem_cons.mp h with hfirst | hrest
    · exact GameSystem.oneLine_of_answerOf hsys hfirst.symm
    · exact ih hrest

end

/-! ## Setting up -/

section
variable {system : Option String} {seed : Option Int} {settings : Settings} {chance : Int}
  {sys : GameSystem} {roller : Roller Twister}

theorem of_buildSystem (h : buildSystem system seed settings chance = .ok (sys, roller)) :
    GameSystem.find (chosenSystem system settings) = .ok sys ∧
      Roller.ofSource (Twister.ofSeed (chosenSeed seed settings chance)) settings.dice.maxRands =
        .ok roller := by
  unfold buildSystem at h
  split at h
  · cases h
  · split at h
    · cases h
    · rename_i hsys _ _ hroller
      cases h
      exact ⟨hsys, hroller⟩

/-- With a limit that a roller may have, a game that there is can be set up. -/
theorem exists_buildSystem_eq (hsys : GameSystem.find (chosenSystem system settings) = .ok sys)
    (hlimit : 1 ≤ settings.dice.maxRands) (seed : Option Int) (chance : Int) :
    ∃ roller, buildSystem system seed settings chance = .ok (sys, roller) := by
  rw [buildSystem, hsys]
  simp only [Roller.ofSource, if_neg (show ¬settings.dice.maxRands ≤ 0 by omega)]
  exact ⟨_, rfl⟩

theorem buildSystem_of_unknown {unknown : UnknownSystem}
    (h : GameSystem.find (chosenSystem system settings) = .error unknown) :
    buildSystem system seed settings chance = .error (.unknownSystem unknown) := by
  rw [buildSystem, h]

theorem performRoll_of_setupError {e : SetupError}
    (h : buildSystem system seed settings chance = .error e) (commands : List String) :
    performRoll system seed commands settings chance = .ofSetupError siteOfRoll e := by
  rw [performRoll, h]

theorem performRoll_of_build
    (h : buildSystem system seed settings chance = .ok (sys, roller)) (commands : List String) :
    performRoll system seed commands settings chance =
      .ofEvaluation (fun shown => if shown.all Option.isSome then 0 else 1)
        ((rollCommands sys commands).run roller) := by
  rw [performRoll, h]
  rfl

end

/-! ## The contract -/

/-- The line that shows a result, without its end. -/
def shownLine (result : CommandResult) : String :=
  (if result.secret then "[secret] " else "") ++ result.text

/-- What a list of commands prints, given the answers that the commands come to one after another
and the log records that are written. -/
structure RollContract (level : Log.Level) (commands : List String)
    (answers : List (Except Fault (Option CommandResult))) (written : List Log.Timed)
    (outcome : Outcome) : Prop where
  /-- Every command is evaluated, -/
  length_answers : answers.length = commands.length
  /-- and fails by asking for too much or not at all. -/
  isExcess : ∀ fault, .error fault ∈ answers → fault.isExcess = true
  /-- The results are printed in their order, one line for each, and nothing else is. -/
  stdout_eq : outcome.stdout =
    String.join (((answers.filterMap resultOf?).map shownLine).map (· ++ "\n"))
  oneLine : ∀ result ∈ answers.filterMap resultOf?, Text.OneLine result.text
  lines_stdout : Text.lines outcome.stdout = (answers.filterMap resultOf?).map shownLine
  /-- The run succeeds if every command has a result. -/
  exit_eq : outcome.exit = if ∀ answer ∈ answers, (resultOf? answer).isSome then 0 else 1
  stderr_eq : outcome.stderr = String.join (written.map Log.Timed.coloredLine)
  /-- The errors that are written are those of the commands without a result. -/
  errors_eq : level.severity ≤ Log.Level.error.severity →
    (written.map Log.Timed.record).filter (fun n => n.level = .error) = failures commands answers

theorem length_answers {σ : Type} [DieSource σ] (sys : GameSystem) (r : Roller σ)
    (commands : List String) : (sys.answers r commands).length = commands.length := by
  induction commands generalizing r with
  | nil => rfl
  | cons command commands ih => rw [GameSystem.answers, List.length_cons, ih, List.length_cons]

theorem filterMap_shown (answers : List (Except Fault (Option CommandResult))) :
    (answers.map fun answer => (resultOf? answer).map resultLine).filterMap id =
      ((answers.filterMap resultOf?).map shownLine).map (· ++ "\n") := by
  rw [List.filterMap_map, List.map_map, List.map_filterMap]
  rfl

theorem oneLine_shownLine {result : CommandResult} (h : Text.OneLine result.text) :
    Text.OneLine (shownLine result) := by
  have hmark : Text.OneLine (if result.secret then "[secret] " else "") := by
    cases result.secret <;> decide
  rw [shownLine, Text.oneLine_append]
  exact ⟨hmark, h⟩

theorem level_of_mem_loggingRecords {settings : Settings} {n : Log.Record}
    (h : n ∈ loggingRecords settings) : n.level = .debug := by
  rw [loggingRecords] at h
  rcases List.mem_cons.mp h with rfl | h
  · rfl
  · obtain ⟨path, -, rfl⟩ := Option.map_eq_some_iff.mp (Option.mem_toList.mp h)
    rfl

/-- The records that are severe enough for a level. -/
def severe (level : Log.Level) (records : List Log.Record) : List Log.Record :=
  records.filter fun n => level.severity ≤ n.level.severity

/-- These are the records that are written, whatever their times are. -/
theorem map_record_visible (level : Log.Level) (clock : Nat → String) (records : List Log.Record) :
    (visible level (Log.timed clock records)).map Log.Timed.record = severe level records := by
  have hrecords := Log.map_record_timed clock records
  rw [severe, ← congrArg (List.filter _) hrecords, List.filter_map]
  rfl

/-- The records about the log itself are no errors, and no error is too mild to be written. -/
theorem filter_error_visible {settings : Settings}
    (hlevel : settings.logLevel.severity ≤ Log.Level.error.severity) (clock : Nat → String)
    (report : Report) :
    ((visible settings.logLevel (allRecords clock settings report)).map Log.Timed.record).filter
        (fun n => n.level = .error) =
      report.records.filter fun n => n.level = .error := by
  have hown : (loggingRecords settings).filter (fun n => n.level = .error) = [] := by
    rw [List.filter_eq_nil_iff]
    intro n hn
    rw [level_of_mem_loggingRecords hn]
    decide
  have hsevere : ∀ n : Log.Record,
      (decide (n.level = .error) && decide (settings.logLevel.severity ≤ n.level.severity)) =
        decide (n.level = .error) := by
    intro n
    by_cases herror : n.level = .error
    · simp [herror, hlevel]
    · simp [herror]
  rw [allRecords, map_record_visible, severe, List.filter_filter]
  simp only [hsevere]
  rw [List.filter_append, hown, List.nil_append]

/-- A list of commands keeps the contract, whatever the commands are, with every seed and every
limit that a roller may have: it is evaluated to its end on one roller, and no fault ends the
run. -/
theorem rollContract_performRoll (system : Option String) (seed : Option Int)
    (commands : List String) (settings : Settings) (chance : Int) (clock : Nat → String)
    {sys : GameSystem} (hsys : GameSystem.find (chosenSystem system settings) = .ok sys)
    (hlimit : 1 ≤ settings.dice.maxRands) :
    ∃ start : Roller Twister,
      Roller.ofSource (Twister.ofSeed (chosenSeed seed settings chance)) settings.dice.maxRands =
          .ok start ∧
        (∀ fault s, (rollCommands sys commands).run start ≠ .error fault s) ∧
        RollContract settings.logLevel commands (sys.answers start commands)
          (visible settings.logLevel
            (allRecords clock settings (performRoll system seed commands settings chance)))
          (deliver clock settings (performRoll system seed commands settings chance)) := by
  have hreliable := GameSystem.reliable_of_find hsys
  obtain ⟨start, hbuild⟩ := exists_buildSystem_eq hsys hlimit seed chance
  obtain ⟨-, hstart⟩ := of_buildSystem hbuild
  obtain ⟨-, -, hpos, -⟩ := Roller.of_ofSource hstart
  have hlog := Roller.log_of_ofSource hstart
  obtain ⟨records, s, hfailures, hslog, hrun⟩ := run_rollCommands hreliable hpos commands
  have hreport := performRoll_of_build hbuild commands
  rw [hlog, Array.empty_append] at hslog
  rw [hrun, Report.ofEvaluation, hslog] at hreport
  have honeLine : ∀ result ∈ (sys.answers start commands).filterMap resultOf?,
      Text.OneLine result.text := by
    intro result hresult
    obtain ⟨answer, hanswer, hresult⟩ := List.mem_filterMap.mp hresult
    exact oneLine_of_mem_answers hreliable.speaksInLines (of_resultOf? hresult ▸ hanswer)
  refine ⟨start, hstart, ?_, ?_⟩
  · intro fault s' herror
    rw [hrun] at herror
    cases herror
  · rw [hreport]
    constructor
    · exact length_answers sys start commands
    · exact fun fault => isExcess_of_mem_answers hreliable hpos
    · show String.join _ = _
      rw [filterMap_shown]
    · exact honeLine
    · show Text.lines (String.join _) = _
      rw [filterMap_shown, Text.lines_join]
      intro line hline
      obtain ⟨result, hresult, rfl⟩ := List.mem_map.mp hline
      exact oneLine_shownLine (honeLine result hresult)
    · show (if _ then 0 else 1) = if _ then 0 else 1
      simp only [List.all_map, List.all_eq_true, Function.comp_apply, Option.isSome_map]
    · rfl
    · intro hlevel
      rw [filter_error_visible hlevel, hfailures]

/-- A roll, a text of two lines, a number of twenty digits and a secret check with more dice than
two. -/
theorem rollContract_performRoll_two :
    let dice : DiceSettings := { gameSystem := .text "NinjaSlayer", seed := some 7, maxRands := 2 }
    let settings : Settings :=
      { environment := .development, logLevel := .warning, logFile := none, dice }
    let commands := [" 2B6\n", "hello\nthere", "99999999999999999999B6", "SNJ9"]
    GameSystem.find (chosenSystem none settings) = .ok NinjaSlayer.system ∧
      1 ≤ settings.dice.maxRands ∧
      ∃ start : Roller Twister,
        Roller.ofSource (Twister.ofSeed 7) 2 = .ok start ∧
          RollContract settings.logLevel commands (NinjaSlayer.system.answers start commands)
            (visible settings.logLevel
              (allRecords toString settings (performRoll none none commands settings 0)))
            (deliver toString settings (performRoll none none commands settings 0)) := by
  intro dice settings commands
  have hsys : GameSystem.find (chosenSystem none settings) = .ok NinjaSlayer.system := rfl
  have hlimit : 1 ≤ settings.dice.maxRands := by decide
  obtain ⟨start, hstart, -, hcontract⟩ :=
    rollContract_performRoll none none commands settings 0 toString hsys hlimit
  exact ⟨hsys, hlimit, start, hstart, hcontract⟩

end CommandLine

end ChatDice
