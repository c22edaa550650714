import ChatDice.Proofs.Game.Plan
import ChatDice.Random.Replay

/-!
# ChatDice.Proofs.Game.Session — commands one after another

A session is a list of commands that one roller evaluates in turn. A command that ends in a fault
leaves a roller behind like any other, so the session goes on with the next one.

What a single command does to the roller is `GameSystem.unlogged_step`: behind the gate it empties
the record and draws the dice of its plan, as many as the limit allows; in front of it nothing
happens. What holds of a whole session follows by induction:

* `Roller.InOrder` — the record is within the limit and holds faces of its dice;
* `GameSystem.session_source_taped` — with a tape beside the source, the tape reads like the records
  of the session, one behind the other.
-/

namespace ChatDice

/-! ## Sources with a tape -/

/-- A source with a tape, on which every draw taken from it is written down. -/
structure Tape (σ : Type) where
  source : σ
  taken : List Draw

namespace Tape

section
variable {σ : Type} [DieSource σ]

/-- A die of the source; its draw goes on the tape. -/
def roll (sides : Nat) (t : Tape σ) : Nat × Tape σ :=
  let (face, source) := DieSource.roll sides t.source
  (face, { source, taken := t.taken ++ [⟨face, sides⟩] })

instance : DieSource (Tape σ) := ⟨roll⟩

/-- Whatever is drawn stands on the tape, in the order drawn. -/
theorem after_eq (dice : List Nat) (t : Tape σ) :
    DieSource.after dice t =
      ⟨DieSource.after dice t.source, t.taken ++ DieSource.draws dice t.source⟩ := by
  induction dice generalizing t with
  | nil => simp
  | cons n dice ih =>
    rw [DieSource.after_cons, DieSource.after_cons, DieSource.draws_cons, ih]
    simp [DieSource.roll, roll]

end

end Tape

/-- The roller with an empty tape beside its source. -/
def Roller.taped {σ : Type} (r : Roller σ) : Roller (Tape σ) where
  source := ⟨r.source, []⟩
  limit := r.limit
  record := r.record
  log := r.log

/-! ## The roller that is left -/

/-- The roller that an evaluation leaves, whatever it ended in. -/
def rollerLeft {σ α : Type} : EStateM.Result Fault (Roller σ) α → Roller σ
  | .ok _ r => r
  | .error _ r => r

@[simp] theorem rollerLeft_withoutLog {σ α : Type} (result : EStateM.Result Fault (Roller σ) α) :
    rollerLeft (withoutLog result) = (rollerLeft result).unlogged := by
  cases result <;> rfl

section
variable {σ : Type} [DieSource σ]

/-- Whatever comes of a plan, its dice have been drawn as far as there was room. -/
theorem Plan.rollerLeft_result {α : Type} (p : Plan α) (r : Roller σ) :
    rollerLeft (p.result r) = r.drawn (p.dice.take r.room) := by
  cases p with
  | pass => simp [Plan.dice, Plan.result, rollerLeft]
  | refuse fault => simp [Plan.dice, Plan.result, rollerLeft]
  | throwing dice account =>
    rcases Nat.lt_or_ge r.room dice.length with hroom | hroom
    · rw [Plan.result_of_lt hroom]
      rfl
    · have hall : dice.take r.room = dice := List.take_of_length_le hroom
      rw [Plan.result_of_le hroom, Plan.dice, hall]
      cases account (DieSource.faces dice r.source) <;> rfl

namespace GameSystem

theorem rollerLeft_carryOut (p : Plan (String × Bool)) (r : Roller σ) :
    rollerLeft (carryOut p r) = r.cleared.drawn (p.dice.take r.limit) := by
  have h := p.rollerLeft_result r.cleared
  rw [Roller.room_cleared] at h
  rw [← h, carryOut]
  cases p.result r.cleared <;> rfl

/-- A command of a result has the whole record for its draws. -/
theorem draws_of_carryOut {p : Plan (String × Bool)} {r s : Roller σ} {result : CommandResult}
    (h : carryOut p r = .ok (some result) s) : result.draws = s.record.toList := by
  unfold carryOut at h
  split at h
  · rename_i answer s' _
    cases answer with
    | none => simp at h
    | some found =>
      simp only [Option.map_some, EStateM.Result.ok.injEq, Option.some.injEq] at h
      obtain ⟨rfl, rfl⟩ := h
      rfl
  · simp at h

/-! ## Sessions -/

/-- The gate lets a command through. -/
def passes (sys : GameSystem) (command : String) : Bool :=
  (sys.start? (Text.trim command)).isSome

/-- The roller that a command leaves. -/
def step (sys : GameSystem) (r : Roller σ) (command : String) : Roller σ :=
  rollerLeft ((sys.eval command).run r)

/-- The roller that a session leaves. -/
def session (sys : GameSystem) (r : Roller σ) (history : List String) : Roller σ :=
  history.foldl sys.step r

/-- The records right after those commands of a session that the gate lets through. -/
def records (sys : GameSystem) : Roller σ → List String → List (List Draw)
  | _, [] => []
  | r, command :: history =>
    if sys.passes command then
      (sys.step r command).record.toList :: records sys (sys.step r command) history
    else records sys (sys.step r command) history

theorem session_nil (sys : GameSystem) (r : Roller σ) : sys.session r [] = r := rfl

theorem session_cons (sys : GameSystem) (r : Roller σ) (command : String) (history : List String) :
    sys.session r (command :: history) = sys.session (sys.step r command) history := by
  rw [session, session, List.foldl_cons]

theorem session_concat (sys : GameSystem) (r : Roller σ) (history : List String)
    (command : String) :
    sys.session r (history ++ [command]) = sys.step (sys.session r history) command := by
  rw [session, session, List.foldl_append, List.foldl_cons, List.foldl_nil]

/-- What one command does to the roller. -/
theorem unlogged_step (sys : GameSystem) (r : Roller σ) (command : String) :
    (sys.step r command).unlogged =
      if sys.passes command then
        (r.cleared.drawn ((sys.plan (Text.trim command)).dice.take r.limit)).unlogged
      else r.unlogged := by
  have h := congrArg rollerLeft (sys.outcome_eval command r)
  rw [Rolling.outcome, rollerLeft_withoutLog] at h
  rw [step, h, passes]
  by_cases hgate : (sys.start? (Text.trim command)).isSome = true
  · rw [if_pos hgate, if_pos hgate, rollerLeft_withoutLog, rollerLeft_carryOut]
  · rw [if_neg hgate, if_neg hgate]
    rfl

/-- A command that the gate lets through leaves the record of its own dice. -/
theorem step_of_passes {sys : GameSystem} {command : String} (h : sys.passes command = true)
    (r : Roller σ) :
    (sys.step r command).source =
        DieSource.after ((sys.plan (Text.trim command)).dice.take r.limit) r.source ∧
      (sys.step r command).limit = r.limit ∧
      (sys.step r command).record =
        (DieSource.draws ((sys.plan (Text.trim command)).dice.take r.limit) r.source).toArray := by
  have hstep := sys.unlogged_step r command
  rw [if_pos h, Roller.unlogged_eq_iff] at hstep
  simpa using hstep

/-- A command that the gate does not let through leaves everything as it is. -/
theorem step_of_not_passes {sys : GameSystem} {command : String} (h : sys.passes command = false)
    (r : Roller σ) :
    (sys.step r command).source = r.source ∧ (sys.step r command).limit = r.limit ∧
      (sys.step r command).record = r.record := by
  have hstep := sys.unlogged_step r command
  rw [if_neg (by simp [h]), Roller.unlogged_eq_iff] at hstep
  exact hstep

@[simp] theorem limit_step (sys : GameSystem) (r : Roller σ) (command : String) :
    (sys.step r command).limit = r.limit := by
  cases h : sys.passes command with
  | true => exact (step_of_passes h r).2.1
  | false => exact (step_of_not_passes h r).2.1

@[simp] theorem limit_session (sys : GameSystem) (r : Roller σ) (history : List String) :
    (sys.session r history).limit = r.limit := by
  induction history generalizing r with
  | nil => rw [session_nil]
  | cons command history ih => rw [session_cons, ih, limit_step]

/-- The draws of a result are the record that its command leaves. -/
theorem draws_eq_record (sys : GameSystem) {command : String} {r s : Roller σ}
    {result : CommandResult} (h : (sys.eval command).run r = .ok (some result) s) :
    result.draws = (sys.step r command).record.toList := by
  have houtcome : withoutLog ((sys.eval command).run r) = _ := sys.outcome_eval command r
  have hrecord : (sys.step r command).record = s.record := by
    rw [step, h]
    rfl
  rw [hrecord]
  rw [h] at houtcome
  -- Only a command behind the gate has a result, and its plan made it.
  by_cases hgate : (sys.start? (Text.trim command)).isSome = true
  · rw [if_pos hgate] at houtcome
    cases hcarry : carryOut (sys.plan (Text.trim command)) r with
    | ok answer s' =>
      rw [hcarry] at houtcome
      simp only [withoutLog, EStateM.Result.ok.injEq, Roller.unlogged_eq_iff] at houtcome
      obtain ⟨rfl, -, -, hrecord'⟩ := houtcome
      rw [hrecord']
      exact draws_of_carryOut hcarry
    | error fault s' =>
      rw [hcarry] at houtcome
      simp [withoutLog] at houtcome
  · rw [if_neg hgate] at houtcome
    simp [withoutLog] at houtcome

end GameSystem

/-! ## Records in order -/

/-- The record holds no more draws than the limit allows, and faces of its dice only. -/
structure Roller.InOrder (r : Roller σ) : Prop where
  size_le : r.record.size ≤ r.limit
  face_mem : ∀ d ∈ r.record, 1 ≤ d.face ∧ d.face ≤ d.sides

omit [DieSource σ] in
/-- A new roller has the limit that it was asked for, and nothing on record. -/
theorem Roller.of_ofSource {source : σ} {limit : Int} {r : Roller σ}
    (h : Roller.ofSource source limit = .ok r) :
    r.source = source ∧ r.limit = limit ∧ 1 ≤ r.limit ∧ r.record = #[] := by
  unfold Roller.ofSource at h
  split at h
  · simp at h
  · rename_i hlimit
    simp only [Except.ok.injEq] at h
    subst h
    refine ⟨rfl, ?_, ?_, rfl⟩
    · simp only
      omega
    · simp only
      omega

omit [DieSource σ] in
theorem Roller.inOrder_of_ofSource {source : σ} {limit : Int} {r : Roller σ}
    (h : Roller.ofSource source limit = .ok r) : r.InOrder := by
  obtain ⟨-, -, -, hrecord⟩ := Roller.of_ofSource h
  exact ⟨by simp [hrecord], by simp [hrecord]⟩

omit [DieSource σ] in
theorem Roller.ofSource_taped {source : σ} {limit : Int} {r : Roller σ}
    (h : Roller.ofSource source limit = .ok r) :
    Roller.ofSource (⟨source, []⟩ : Tape σ) limit = .ok r.taped := by
  unfold Roller.ofSource at h ⊢
  split at h
  · simp at h
  · rename_i hlimit
    simp only [Except.ok.injEq] at h
    subst h
    rw [if_neg hlimit]
    rfl

namespace GameSystem

section
variable [LawfulDieSource σ]

/-- Every command leaves the record in order. -/
theorem step_inOrder (sys : GameSystem) {r : Roller σ} (hr : r.InOrder) (command : String) :
    (sys.step r command).InOrder := by
  cases h : sys.passes command with
  | false =>
    -- The record of an earlier command is still there.
    obtain ⟨-, hlimit, hrecord⟩ := step_of_not_passes h r
    constructor
    · rw [hrecord, hlimit]
      exact hr.size_le
    · rw [hrecord]
      exact hr.face_mem
  | true =>
    -- The record is new, and its dice are the plan's, cut off at the limit.
    obtain ⟨-, hlimit, hrecord⟩ := step_of_passes h r
    constructor
    · rw [hrecord, hlimit, List.size_toArray, DieSource.length_draws, List.length_take]
      exact Nat.min_le_left _ _
    · intro d hd
      rw [hrecord, List.mem_toArray] at hd
      have hdice : ∀ n ∈ (sys.plan (Text.trim command)).dice.take r.limit, 1 ≤ n :=
        fun n hn => sys.plan_throwable _ n (List.mem_of_mem_take hn)
      exact DieSource.face_mem_of_mem_draws hdice hd

theorem session_inOrder (sys : GameSystem) {r : Roller σ} (hr : r.InOrder)
    (history : List String) : (sys.session r history).InOrder := by
  induction history generalizing r with
  | nil => exact hr
  | cons command history ih =>
    rw [session_cons]
    exact ih (sys.step_inOrder hr command)

end

/-! ## Everything drawn is on record -/

/-- One command evaluated twice, with a tape beside the source and without: the tape goes on with
the record, if the gate lets the command through. -/
theorem step_taped (sys : GameSystem) {r : Roller σ} {t : Roller (Tape σ)} {taken : List Draw}
    (hsource : t.source = ⟨r.source, taken⟩) (hlimit : t.limit = r.limit) (command : String) :
    (sys.step t command).source =
      ⟨(sys.step r command).source,
        taken ++ if sys.passes command then (sys.step r command).record.toList else []⟩ := by
  cases h : sys.passes command with
  | false =>
    obtain ⟨hr, -, -⟩ := step_of_not_passes h r
    obtain ⟨ht, -, -⟩ := step_of_not_passes h t
    rw [ht, hr, hsource]
    simp
  | true =>
    obtain ⟨hr, -, hrecord⟩ := step_of_passes h r
    obtain ⟨ht, -, -⟩ := step_of_passes h t
    rw [ht, hr, hrecord, hlimit, hsource, Tape.after_eq]
    simp

/-- The tape of a session reads like its records, one behind the other. -/
theorem session_source_taped (sys : GameSystem) {r : Roller σ} {t : Roller (Tape σ)}
    {taken : List Draw} (hsource : t.source = ⟨r.source, taken⟩) (hlimit : t.limit = r.limit)
    (history : List String) :
    (sys.session t history).source =
      ⟨(sys.session r history).source, taken ++ (sys.records r history).flatten⟩ := by
  -- The tape that the first command leaves is the one that the others go on with.
  induction history generalizing r t taken with
  | nil => simpa [session_nil, records] using hsource
  | cons command history ih =>
    have hstep := sys.step_taped hsource hlimit command
    have hlimit' : (sys.step t command).limit = (sys.step r command).limit := by
      rw [limit_step, limit_step, hlimit]
    rw [session_cons, session_cons, ih hstep hlimit', records]
    cases sys.passes command <;> simp

/-- No draw of a session is lost, made twice or off the record. A tape beside the source reads at
the end like the records after the commands that the gate let through, one behind the other,
whatever those commands ended in; the others take nothing and leave the record of the command
before. Each record is in order, and a result shows the whole of it. -/
theorem session_draws_on_record [LawfulDieSource σ] (sys : GameSystem) {source : σ} {limit : Int}
    {start : Roller σ} (hstart : Roller.ofSource source limit = .ok start)
    (history : List String) :
    Roller.ofSource (⟨source, []⟩ : Tape σ) limit = .ok start.taped ∧
      (sys.session start.taped history).source =
        ⟨(sys.session start history).source, (sys.records start history).flatten⟩ ∧
      ∀ (r : Roller σ) (command : String), r = sys.session start history →
        (sys.passes command = false →
          (sys.step r command).source = r.source ∧ (sys.step r command).record = r.record) ∧
        ((sys.step r command).record.size : Int) ≤ limit ∧
        (∀ d ∈ (sys.step r command).record, 1 ≤ d.face ∧ d.face ≤ d.sides) ∧
        ∀ result s, (sys.eval command).run r = .ok (some result) s →
          result.draws = (sys.step r command).record.toList := by
  obtain ⟨-, hlimit, -, -⟩ := Roller.of_ofSource hstart
  refine ⟨Roller.ofSource_taped hstart, ?_, ?_⟩
  · have hsource : start.taped.source = ⟨start.source, []⟩ := rfl
    rw [sys.session_source_taped hsource rfl history, List.nil_append]
  · rintro r command rfl
    have hr := sys.session_inOrder (Roller.inOrder_of_ofSource hstart) history
    have hstep := sys.step_inOrder hr command
    refine ⟨?_, ?_, hstep.face_mem, fun result s h => sys.draws_eq_record h⟩
    · intro hgate
      obtain ⟨hsource, -, hrecord⟩ := step_of_not_passes hgate (sys.session start history)
      exact ⟨hsource, hrecord⟩
    · have hsize := hstep.size_le
      rw [limit_step, limit_session] at hsize
      omega

/-- A game with a word for a die of twenty sides and a comparison that is none of the six, and a
limit of three draws: the third command fails behind its dice, the fourth at the limit. -/
theorem session_draws_on_record_luck :
    let sys := ofWords "Luck" ["LUCK"] (some "~") (some 4) [("LUCK", 20)]
    let start : Roller Replay := { source := { faces := #[4, 2] }, limit := 3 }
    Roller.ofSource start.source 3 = .ok start ∧
      (sys.session start.taped ["LUCK", "hello", "2B6", "9B6"]).source.taken =
        [⟨4, 20⟩, ⟨2, 6⟩, ⟨4, 6⟩, ⟨2, 6⟩, ⟨4, 6⟩, ⟨2, 6⟩] := by
  intro sys start
  have hstart : Roller.ofSource start.source 3 = .ok start := rfl
  obtain ⟨-, htape, -⟩ := session_draws_on_record sys hstart ["LUCK", "hello", "2B6", "9B6"]
  refine ⟨hstart, ?_⟩
  rw [htape]
  decide +kernel

end GameSystem

end

end ChatDice
