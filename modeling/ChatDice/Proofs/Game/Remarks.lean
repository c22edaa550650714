import ChatDice.Game.NinjaSlayer
import ChatDice.Proofs.Dice.Draws

/-!
# ChatDice.Proofs.Game.Remarks — the log records of an evaluation

An evaluation writes its log records behind those that are there and reads none of them. So the
records of a run are put together of the records of its commands, and a record in front, such as a
greeting, changes nothing that comes after it.

`Rolling.Emits P` says this of an evaluation, and of the records it writes that all are `P`. It is
kept by every way to put evaluations together. `GameSystem.Remark` lists what an evaluation may
write, and `GameSystem.emits_eval` says that it writes nothing else.
-/

namespace ChatDice

section
variable {σ α : Type}

/-- The roller with other log records. -/
def Roller.logging (r : Roller σ) (log : Array Log.Record) : Roller σ := { r with log }

@[simp] theorem Roller.source_logging (r : Roller σ) (log : Array Log.Record) :
    (r.logging log).source = r.source := rfl

@[simp] theorem Roller.limit_logging (r : Roller σ) (log : Array Log.Record) :
    (r.logging log).limit = r.limit := rfl

@[simp] theorem Roller.log_logging (r : Roller σ) (log : Array Log.Record) :
    (r.logging log).log = log := rfl

@[simp] theorem Roller.logging_log (r : Roller σ) : r.logging r.log = r := rfl

@[simp] theorem Roller.logging_logging (r : Roller σ) (log later : Array Log.Record) :
    (r.logging log).logging later = r.logging later := rfl

/-- A result whose roller has other log records. -/
def relogged (log : Array Log.Record) :
    EStateM.Result Fault (Roller σ) α → EStateM.Result Fault (Roller σ) α
  | .ok a r => .ok a (r.logging log)
  | .error fault r => .error fault (r.logging log)

@[simp] theorem relogged_ok (log : Array Log.Record) (a : α) (r : Roller σ) :
    relogged log (.ok a r) = .ok a (r.logging log) := rfl

@[simp] theorem relogged_error (log : Array Log.Record) (fault : Fault) (r : Roller σ) :
    (relogged log (.error fault r) : EStateM.Result Fault (Roller σ) α) =
      .error fault (r.logging log) := rfl

end

namespace Rolling

section
variable {σ α β : Type} {P Q : Log.Record → Prop}

/-- Log records are written behind those that are there, and only such that are `P`; which ones,
and everything else that comes of the evaluation, does not depend on those that are there. -/
def Emits (P : Log.Record → Prop) (x : Rolling σ α) : Prop :=
  ∀ r : Roller σ, ∃ records : Array Log.Record, (∀ n ∈ records, P n) ∧
    ∀ front, x.run (r.logging front) = relogged (front ++ records) (x.run r)

theorem Emits.mono {x : Rolling σ α} (hx : Emits P x) (h : ∀ n, P n → Q n) : Emits Q x := by
  intro r
  obtain ⟨records, hrecords, hrun⟩ := hx r
  exact ⟨records, fun n hn => h n (hrecords n hn), hrun⟩

/-! ## Evaluations put together -/

theorem run_bind_of_ok {x : Rolling σ α} {r s : Roller σ} {a : α} (h : x.run r = .ok a s)
    (k : α → Rolling σ β) : (x >>= k).run r = (k a).run s := by
  have hx : x r = .ok a s := h
  show EStateM.bind x k r = _
  unfold EStateM.bind
  rw [hx]
  rfl

theorem run_bind_of_error {x : Rolling σ α} {r s : Roller σ} {fault : Fault}
    (h : x.run r = .error fault s) (k : α → Rolling σ β) :
    (x >>= k).run r = .error fault s := by
  have hx : x r = .error fault s := h
  show EStateM.bind x k r = _
  unfold EStateM.bind
  rw [hx]

theorem Emits.bind {x : Rolling σ α} {k : α → Rolling σ β} (hx : Emits P x)
    (hk : ∀ a, Emits P (k a)) : Emits P (x >>= k) := by
  intro r
  obtain ⟨records, hrecords, hrun⟩ := hx r
  -- The second part writes behind the records of the first, if there is a second part.
  cases hresult : x.run r with
  | ok a s =>
    obtain ⟨more, hmore, hrest⟩ := hk a s
    refine ⟨records ++ more, ?_, ?_⟩
    · intro n hn
      rcases Array.mem_append.mp hn with hn | hn
      · exact hrecords n hn
      · exact hmore n hn
    · intro front
      have hfirst : x.run (r.logging front) = .ok a (s.logging (front ++ records)) := by
        rw [hrun front, hresult]
        rfl
      rw [run_bind_of_ok hfirst, run_bind_of_ok hresult, hrest, Array.append_assoc]
  | error fault s =>
    refine ⟨records, hrecords, ?_⟩
    intro front
    have hfirst : x.run (r.logging front) =
        .error fault (s.logging (front ++ records)) := by
      rw [hrun front, hresult]
      rfl
    rw [run_bind_of_error hfirst, run_bind_of_error hresult]
    rfl

/-- A change of the roller that leaves its log records alone writes none. -/
theorem emits_modifyGet {f : Roller σ → α × Roller σ}
    (hf : ∀ (r : Roller σ) (log : Array Log.Record),
      f (r.logging log) = ((f r).1, (f r).2.logging log)) :
    Emits P (modifyGet f : Rolling σ α) := by
  intro r
  refine ⟨#[], by simp, ?_⟩
  intro front
  show EStateM.Result.ok _ _ = EStateM.Result.ok _ _
  rw [hf r front, Array.append_empty]

/-- The roller may be looked at, except for its log records. -/
theorem Emits.get_bind {k : Roller σ → Rolling σ α} (hk : ∀ r, Emits P (k r))
    (hlog : ∀ (r : Roller σ) (log : Array Log.Record), k (r.logging log) = k r) :
    Emits P (get >>= k) := by
  intro r
  obtain ⟨records, hrecords, hrun⟩ := hk r r
  refine ⟨records, hrecords, ?_⟩
  intro front
  show k (r.logging front) (r.logging front) = relogged (front ++ records) (k r r)
  rw [hlog]
  exact hrun front

theorem emits_pure (a : α) : Emits P (pure a : Rolling σ α) := by
  intro r
  refine ⟨#[], by simp, ?_⟩
  intro front
  rw [Array.append_empty]
  rfl

theorem emits_throw (fault : Fault) : Emits P (throw fault : Rolling σ α) := by
  intro r
  refine ⟨#[], by simp, ?_⟩
  intro front
  rw [Array.append_empty]
  rfl

theorem emits_ofExcept (e : Except Fault α) : Emits P (ofExcept e : Rolling σ α) := by
  cases e with
  | ok a => exact emits_pure a
  | error fault => exact emits_throw fault

theorem emits_note {level : Log.Level} {site : Log.Site} {message : String}
    (h : P ⟨site, level, message⟩) : Emits P (note level site message : Rolling σ Unit) := by
  intro r
  refine ⟨#[⟨site, level, message⟩], by simpa using h, ?_⟩
  intro front
  rfl

theorem emits_noteAll {records : List Log.Record} (h : ∀ n ∈ records, P n) :
    Emits P (GameSystem.noteAll records : Rolling σ Unit) := by
  intro r
  refine ⟨records.toArray, by simpa using h, ?_⟩
  intro front
  have happend : front ++ records = front ++ records.toArray := by
    exact Array.toList_inj.mp (by simp)
  exact congrArg (fun log => EStateM.Result.ok () { r with log }) happend

theorem emits_resetRecord : Emits P (resetRecord : Rolling σ Unit) :=
  emits_modifyGet fun _ _ => rfl

end

end Rolling

/-! ## Rolling dice -/

/-- What a roller says at its limit. -/
def Roller.atLimit (limit : Nat) : Log.Record :=
  ⟨siteOfLimit, .warning, s!"Draw limit of {limit} reached"⟩

section
variable {σ : Type} [DieSource σ] {P : Log.Record → Prop}
  (hlimit : ∀ limit, P (Roller.atLimit limit))
include hlimit

theorem emits_rollDie (sides : Int) : Rolling.Emits P (rollDie sides : Rolling σ Nat) := by
  by_cases hsides : sides < 1
  · rw [rollDie_of_lt_one hsides]
    exact Rolling.emits_throw _
  · unfold rollDie
    rw [if_neg hsides]
    apply Rolling.Emits.get_bind
    · intro r
      dsimp only
      split
      · exact (Rolling.emits_note (hlimit r.limit)).bind fun _ => Rolling.emits_throw _
      · exact Rolling.emits_modifyGet fun _ _ => rfl
    · intro r log
      rfl

theorem emits_rollDice (times sides : Int) :
    Rolling.Emits P (rollDice times sides : Rolling σ (List Nat)) := by
  have hafter : ∀ (n : Nat) (rolled : List Nat),
      Rolling.Emits P (rollDiceAfter sides n rolled : Rolling σ (List Nat)) := by
    intro n
    induction n with
    | zero => intro rolled; exact Rolling.emits_pure _
    | succ n ih => intro rolled; exact (emits_rollDie hlimit sides).bind fun face => ih _
  exact hafter times.toNat []

theorem DiceTable.emits_roll (t : DiceTable) :
    Rolling.Emits P (t.roll : Rolling σ TableResult) := by
  unfold roll rollIndex
  apply ((emits_rollDie hlimit t.sides).bind fun face => Rolling.emits_pure _).bind
  intro index
  cases t.entries[index]? with
  | some body => exact Rolling.emits_pure _
  | none => exact Rolling.emits_throw _

namespace BRoll

/-- What is said of a roll with an empty group. -/
def emptyGroupRemark (group : GroupText) (command : String) : Log.Record :=
  ⟨siteOfEmptyGroup, .debug,
    s!"Rejecting empty dice group {Text.quote group.render} in {Text.quote command}"⟩

theorem emits_rollGroups (groups : List DiceGroup) :
    Rolling.Emits P (rollGroups groups : Rolling σ (List (List Nat))) := by
  induction groups with
  | nil => exact Rolling.emits_pure []
  | cons g groups ih =>
    exact (emits_rollDice hlimit g.times g.sides).bind fun faces =>
      ih.bind fun rest => Rolling.emits_pure _

theorem emits_eval {command : String} (hempty : ∀ group, P (emptyGroupRemark group command))
    (fallback : Option Fallback) :
    Rolling.Emits P (eval command fallback : Rolling σ (Option RollReport)) := by
  unfold eval
  apply (Rolling.emits_ofExcept _).bind
  intro reading
  cases reading with
  | unrecognized => exact Rolling.emits_pure none
  | emptyGroup group => exact (Rolling.emits_note (hempty group)).bind fun _ => Rolling.emits_pure _
  | roll r =>
    have hthrow : Rolling.Emits P (r.throwDice fallback : Rolling σ RollReport) :=
      (emits_rollGroups hlimit r.groups).bind fun rolled =>
        (Rolling.emits_ofExcept _).bind fun judged => Rolling.emits_ofExcept _
    exact hthrow.bind fun report => Rolling.emits_pure _

end BRoll

end

/-! ## Evaluating commands -/

namespace GameSystem

/-- The log records that the evaluation of a command may write. -/
inductive Remark (sys : GameSystem) : Log.Record → Prop
  | atLimit (limit : Nat) : Remark sys (Roller.atLimit limit)
  | emptyGroup (group : GroupText) (command : String) :
      Remark sys (BRoll.emptyGroupRemark group command)
  | special {command : String} {n : Log.Record} (h : n ∈ (sys.special command).notes) :
      Remark sys n
  | result (command text : String) (secret : Bool) :
      Remark sys ⟨siteOfResult, .debug,
        s!"{sys.id}: {Text.quote command} -> {Text.quote text} " ++ s!"(secret={truthWord secret})"⟩
  | notHandled (command : String) :
      Remark sys ⟨siteOfNotHandled, .debug, s!"{sys.id}: {Text.quote command} not handled"⟩
  | noPrefix (command : String) :
      Remark sys ⟨siteOfNoPrefix, .debug, s!"{sys.id}: no prefix matches {Text.quote command}"⟩

section
variable {σ : Type} [DieSource σ]

theorem emits_perform (sys : GameSystem) (special : SpecialCommand) :
    Rolling.Emits sys.Remark (perform special : Rolling σ String) := by
  cases special with
  | table t => exact (t.emits_roll .atLimit).bind fun entry => Rolling.emits_pure _
  | check c =>
    apply (Rolling.emits_ofExcept _).bind
    intro command
    apply (BRoll.emits_eval .atLimit (fun group => .emptyGroup group command) none).bind
    intro report
    cases report with
    | some report => exact Rolling.emits_pure _
    | none => exact Rolling.emits_throw _
  | die label sides =>
    exact (emits_rollDie .atLimit sides).bind fun face =>
      (Rolling.emits_ofExcept _).bind fun digits => Rolling.emits_pure _

theorem emits_answer (sys : GameSystem) (command : String) :
    Rolling.Emits sys.Remark (sys.answer command : Rolling σ (Option String)) := by
  have hspecial : Rolling.Emits sys.Remark (sys.answerSpecial command : Rolling σ _) := by
    apply (Rolling.emits_noteAll fun n hn => .special hn).bind
    intro _
    apply (Rolling.emits_ofExcept _).bind
    intro reading
    cases reading with
    | some special => exact (sys.emits_perform special).bind fun text => Rolling.emits_pure _
    | none => exact Rolling.emits_pure none
  have hcommon : Rolling.Emits sys.Remark (sys.answerCommon command : Rolling σ _) :=
    (BRoll.emits_eval .atLimit (fun group => .emptyGroup group command) _).bind fun report =>
      Rolling.emits_pure _
  apply hspecial.bind
  intro text
  cases text with
  | some text => exact Rolling.emits_pure _
  | none => exact hcommon

omit [DieSource σ] in
theorem emits_conclude (sys : GameSystem) (command text : String) (secret : Bool) :
    Rolling.Emits sys.Remark
      (sys.conclude command text secret : Rolling σ (Option CommandResult)) := by
  apply (Rolling.emits_note (.result command text secret)).bind
  intro _
  exact Rolling.Emits.get_bind (fun r => Rolling.emits_pure _) fun r log => rfl

omit [DieSource σ] in
theorem emits_passOver (sys : GameSystem) (command : String) :
    Rolling.Emits sys.Remark (sys.passOver command : Rolling σ (Option CommandResult)) :=
  (Rolling.emits_note (.notHandled command)).bind fun _ => Rolling.emits_pure none

theorem emits_handle (sys : GameSystem) (command : String) :
    Rolling.Emits sys.Remark (sys.handle command : Rolling σ (Option CommandResult)) := by
  apply Rolling.emits_resetRecord.bind
  intro _
  apply (Rolling.emits_ofExcept _).bind
  intro expanded
  apply (sys.emits_answer expanded).bind
  intro text
  cases text with
  | some text => exact sys.emits_conclude expanded text false
  | none =>
    dsimp only
    split
    · apply (sys.emits_answer _).bind
      intro text
      cases text with
      | some text => exact sys.emits_conclude expanded text true
      | none => exact sys.emits_passOver expanded
    · exact sys.emits_passOver expanded

/-- The evaluation of a command writes the records of the game's list and no others. -/
theorem emits_eval (sys : GameSystem) (command : String) :
    Rolling.Emits sys.Remark (sys.eval command : Rolling σ (Option CommandResult)) := by
  unfold eval
  dsimp only
  split
  · exact sys.emits_handle _
  · exact (Rolling.emits_note (.noPrefix _)).bind fun _ => Rolling.emits_pure none

end

end GameSystem

namespace NinjaSlayer

/-- What the game notes of a command: that it looks at it, and what it has read, if it is a
check. -/
theorem eq_remark_of_mem_notes {command : String} {n : Log.Record}
    (h : n ∈ (special command).notes) :
    n = remark siteOfCommand s!"NinjaSlayer: evaluating {Text.quote command}" ∨
      n = remark siteOfNoDice s!"Zero dice requested in {Text.quote command}" ∨
      ∃ c : Check, n = remark siteOfCheck s!"Parsed {Text.quote command} as {c.describe}" := by
  unfold special at h
  dsimp only at h
  split at h
  · exact .inl (List.mem_singleton.mp h)
  · split at h <;> simp only [List.mem_cons, List.not_mem_nil, or_false] at h
    · exact .inl h
    · exact .inl h
    · rcases h with h | h
      · exact .inl h
      · exact .inr (.inl h)
    · rcases h with h | h
      · exact .inl h
      · exact .inr (.inr ⟨_, h⟩)

/-- No record that an evaluation of the game writes is as severe as an error. -/
theorem severity_lt_of_remark {n : Log.Record} (h : system.Remark n) :
    n.level.severity < Log.Level.error.severity := by
  have hdebug : Log.Level.debug.severity < Log.Level.error.severity := by decide
  have hwarning : Log.Level.warning.severity < Log.Level.error.severity := by decide
  cases h with
  | special hnote =>
    -- Whatever the game makes of the command, its notes are for those who look for a mistake.
    rcases eq_remark_of_mem_notes hnote with rfl | rfl | ⟨c, rfl⟩
    · exact hdebug
    · exact hdebug
    · exact hdebug
  | atLimit limit => exact hwarning
  | emptyGroup group command => exact hdebug
  | result command text secret => exact hdebug
  | notHandled command => exact hdebug
  | noPrefix command => exact hdebug

end NinjaSlayer

end ChatDice
