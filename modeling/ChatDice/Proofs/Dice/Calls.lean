import Mathlib.Data.List.Induction
import ChatDice.Proofs.Game.Answers

/-!
# ChatDice.Proofs.Dice.Calls — rollers that are called directly

A roller answers four calls: one die, several dice, a die as an index, and the reset. A host may
make them in any order and with any integers, and go on after a call that has failed. `RollerCall`
is a call as data; `RollerCall.make` makes it.

* `RollerCall.outcome_make` — a call that is no reset throws dice of one kind, and what comes of
  it is a function of the room that is left (`Roller.throwing`);
* `RollerCall.answerOf_eq_error_iff` — when a call fails, and how;
* `Roller.record_eq_taken_since_reset` — the invariant of all runs: what stands on record is what
  has been taken from the source since the last reset.

A die without sides is refused before the limit is looked at, and both are looked at before the
source. So a call for several dice may fail behind some of them, but a call for one die fails
before anything has happened.
-/

namespace ChatDice

/-! ## Dice of one kind -/

section
variable {σ : Type} [DieSource σ]

/-- What throwing so many dice of one kind comes to: without dice there is nothing to refuse, and
at the limit as many have been drawn as there was room for. -/
def Roller.throwing (r : Roller σ) (times : Nat) (sides : Int) :
    EStateM.Result Fault (Roller σ) (List Nat) :=
  if times = 0 then .ok [] r
  else if sides < 1 then .error (.dieWithoutSides sides) r
  else if times ≤ r.room then
    .ok (DieSource.faces (List.replicate times sides.toNat) r.source)
      (r.drawn (List.replicate times sides.toNat))
  else .error (.drawLimit r.limit) (r.drawn (List.replicate r.room sides.toNat))

namespace Roller

theorem throwing_zero (r : Roller σ) (sides : Int) : r.throwing 0 sides = .ok [] r := rfl

theorem throwing_of_lt_one {times : Nat} (htimes : 1 ≤ times) {sides : Int} (hsides : sides < 1)
    (r : Roller σ) : r.throwing times sides = .error (.dieWithoutSides sides) r := by
  rw [throwing, if_neg (by omega), if_pos hsides]

theorem throwing_of_le {r : Roller σ} {times : Nat} (hroom : times ≤ r.room) {sides : Int}
    (hsides : 1 ≤ sides) :
    r.throwing times sides =
      .ok (DieSource.faces (List.replicate times sides.toNat) r.source)
        (r.drawn (List.replicate times sides.toNat)) := by
  by_cases htimes : times = 0
  · subst htimes
    rw [throwing_zero, List.replicate_zero, drawn_nil, DieSource.faces_nil]
  · rw [throwing, if_neg htimes, if_neg (by omega), if_pos hroom]

theorem throwing_of_lt {r : Roller σ} {times : Nat} (hroom : r.room < times) {sides : Int}
    (hsides : 1 ≤ sides) :
    r.throwing times sides =
      .error (.drawLimit r.limit) (r.drawn (List.replicate r.room sides.toNat)) := by
  rw [throwing, if_neg (by omega), if_neg (by omega), if_neg (by omega)]

end Roller

/-- Several dice are thrown up to the limit, whatever integers are given for them. -/
theorem outcome_rollDice (times sides : Int) (r : Roller σ) :
    Rolling.outcome (rollDice times sides) r = withoutLog (r.throwing times.toNat sides) := by
  by_cases htimes : times < 1
  · rw [rollDice_of_lt_one htimes, Int.toNat_of_nonpos (by omega), Roller.throwing_zero]
    rfl
  · obtain ⟨n, rfl⟩ := Int.eq_ofNat_of_zero_le (show 0 ≤ times by omega)
    by_cases hsides : sides < 1
    · rw [rollDice_of_sides_lt_one (by omega) hsides,
        Roller.throwing_of_lt_one (by omega) hsides]
      rfl
    · obtain ⟨k, rfl⟩ := Int.eq_ofNat_of_zero_le (show 0 ≤ sides by omega)
      have hdice : ∀ m ∈ List.replicate n k, 1 ≤ m := by
        intro m hm
        rw [List.eq_of_mem_replicate hm]
        omega
      rw [rollDice_eq_rollEach, outcome_rollEach hdice, List.length_replicate, Int.toNat_natCast]
      rcases Nat.lt_or_ge r.room n with hroom | hroom
      · have hcut : (List.replicate n k).take r.room = List.replicate r.room k := by
          rw [List.take_replicate, Nat.min_eq_left (by omega)]
        rw [if_neg (by omega), Roller.throwing_of_lt hroom (by omega), hcut]
        rfl
      · rw [if_pos hroom, Roller.throwing_of_le hroom (by omega)]
        rfl

end

/-! ## Calls -/

/-- A call on a roller. -/
inductive RollerCall where
  | die (sides : Int)
  | dice (times sides : Int)
  | index (sides : Int)
  | reset
deriving DecidableEq, Repr

namespace RollerCall

/-- How many dice the call asks for. -/
def times : RollerCall → Nat
  | die _ | index _ => 1
  | dice times _ => times.toNat
  | reset => 0

/-- The sides of the dice that the call asks for. -/
def sides : RollerCall → Int
  | die sides | dice _ sides | index sides => sides
  | reset => 1

/-- The call asks for one die. -/
def IsSingle : RollerCall → Prop
  | die _ | index _ => True
  | dice _ _ | reset => False

/-- The numbers that the call gives for the faces of its dice. -/
def given : RollerCall → List Nat → List Nat
  | index _, faces => faces.map (· - 1)
  | _, faces => faces

/-- The dice that the call draws where there is so much room. -/
def thrown (room : Nat) (c : RollerCall) : List Nat :=
  if c.sides < 1 then [] else List.replicate (min c.times room) c.sides.toNat

/-- The calls up to the last reset, which is the last of them; none if there was no reset. -/
def uptoReset (calls : List RollerCall) : List RollerCall :=
  (calls.reverse.dropWhile (· ≠ reset)).reverse

@[simp] theorem uptoReset_nil : uptoReset [] = [] := rfl

@[simp] theorem uptoReset_append_reset (calls : List RollerCall) :
    uptoReset (calls ++ [reset]) = calls ++ [reset] := by
  simp [uptoReset]

theorem uptoReset_append {c : RollerCall} (hc : c ≠ reset) (calls : List RollerCall) :
    uptoReset (calls ++ [c]) = uptoReset calls := by
  simp [uptoReset, hc]

theorem one_le_of_mem_thrown {room : Nat} {c : RollerCall} : ∀ n ∈ c.thrown room, 1 ≤ n := by
  intro n hn
  unfold thrown at hn
  split at hn
  · simp at hn
  · rw [List.eq_of_mem_replicate hn]
    omega

theorem length_thrown_le (room : Nat) (c : RollerCall) : (c.thrown room).length ≤ room := by
  unfold thrown
  split
  · exact Nat.zero_le room
  · rw [List.length_replicate]
    exact Nat.min_le_right _ _

section
variable {σ : Type} [DieSource σ]

/-- Makes the call. -/
def make : RollerCall → Rolling σ (List Nat)
  | die sides => do return [← rollDie sides]
  | dice times sides => rollDice times sides
  | index sides => do return [← rollIndex sides]
  | reset => do
    resetRecord
    return []

/-- One die is several dice of which there is one. -/
theorem make_eq {c : RollerCall} (hc : c ≠ reset) :
    (c.make : Rolling σ (List Nat)) = c.given <$> rollDice c.times c.sides := by
  have hone : ∀ sides : Int, (rollDice (1 : Nat) sides : Rolling σ (List Nat)) =
      (fun face => [face]) <$> rollDie sides := by
    intro sides
    simp [rollDice, rollDiceAfter]
  cases c with
  | die sides =>
    simp only [times, RollerCall.sides]
    rw [hone]
    simp [make, given]
  | dice count sides =>
    have hcount : ((count.toNat : Nat) : Int).toNat = count.toNat := Int.toNat_natCast _
    have hgiven : (dice count sides).given = id := rfl
    simp only [times, RollerCall.sides, make, rollDice]
    rw [hcount, hgiven, id_map]
  | index sides =>
    simp only [times, RollerCall.sides]
    rw [hone]
    simp [make, given, rollIndex]
  | reset => exact absurd rfl hc

theorem outcome_make_reset (r : Roller σ) :
    Rolling.outcome reset.make r = .ok [] r.cleared.unlogged := rfl

theorem outcome_make {c : RollerCall} (hc : c ≠ reset) (r : Roller σ) :
    Rolling.outcome c.make r =
      match r.throwing c.times c.sides with
      | .ok faces s => .ok (c.given faces) s.unlogged
      | .error fault s => .error fault s.unlogged := by
  rw [make_eq hc, map_eq_pure_bind, Rolling.outcome_bind _ fun _ => Rolling.alike_pure _,
    outcome_rollDice, Int.toNat_natCast]
  cases r.throwing c.times c.sides <;> rfl

/-- Everything that can come of a call that is no reset. Whether it fails or not, the dice that it
leaves drawn are those for which there was room. -/
theorem outcome_make_cases {c : RollerCall} (hc : c ≠ reset) (r : Roller σ) :
    (∃ numbers, Rolling.outcome c.make r = .ok numbers (r.drawn (c.thrown r.room)).unlogged ∧
        (c.times = 0 ∨ 1 ≤ c.sides ∧ c.times ≤ r.room)) ∨
      ∃ fault, Rolling.outcome c.make r = .error fault (r.drawn (c.thrown r.room)).unlogged ∧
        (1 ≤ c.times ∧ c.sides < 1 ∧ fault = .dieWithoutSides c.sides ∨
          1 ≤ c.sides ∧ r.room < c.times ∧ fault = .drawLimit r.limit) := by
  rw [outcome_make hc]
  rcases Nat.eq_zero_or_pos c.times with htimes | htimes
  · have hnone : c.thrown r.room = [] := by simp [thrown, htimes]
    rw [htimes, Roller.throwing_zero, hnone, Roller.drawn_nil]
    exact .inl ⟨_, rfl, .inl rfl⟩
  by_cases hsides : c.sides < 1
  · have hnone : c.thrown r.room = [] := if_pos hsides
    rw [Roller.throwing_of_lt_one htimes hsides, hnone, Roller.drawn_nil]
    exact .inr ⟨_, rfl, .inl ⟨htimes, hsides, rfl⟩⟩
  have hpos : 1 ≤ c.sides := by omega
  rcases Nat.lt_or_ge r.room c.times with hroom | hroom
  · have hcut : c.thrown r.room = List.replicate r.room c.sides.toNat := by
      rw [thrown, if_neg hsides, Nat.min_eq_right (by omega)]
    rw [Roller.throwing_of_lt hroom hpos, hcut]
    exact .inr ⟨_, rfl, .inr ⟨hpos, hroom, rfl⟩⟩
  · have hall : c.thrown r.room = List.replicate c.times c.sides.toNat := by
      rw [thrown, if_neg hsides, Nat.min_eq_left hroom]
    rw [Roller.throwing_of_le hroom hpos, hall]
    exact .inl ⟨_, rfl, .inr ⟨hpos, hroom⟩⟩

theorem answerOf_make (c : RollerCall) (r : Roller σ) :
    answerOf (c.make.run r) = answerOf (Rolling.outcome c.make r) := by
  rw [Rolling.outcome, ← fst_shown, ← fst_shown, shown_withoutLog]

/-- A call fails for two reasons only: it asks for dice without sides, or for more dice than there
is room for. -/
theorem answerOf_make_eq_error_iff {c : RollerCall} {r : Roller σ} {fault : Fault} :
    answerOf (c.make.run r) = .error fault ↔
      1 ≤ c.times ∧ c.sides < 1 ∧ fault = .dieWithoutSides c.sides ∨
        1 ≤ c.sides ∧ r.room < c.times ∧ fault = .drawLimit r.limit := by
  rw [answerOf_make]
  by_cases hc : c = reset
  · subst hc
    rw [outcome_make_reset]
    simp [answerOf, times]
  rcases outcome_make_cases hc r with ⟨numbers, heq, hwell⟩ | ⟨fault', heq, hfails⟩
  · rw [heq]
    constructor
    · intro h
      cases h
    · rintro (⟨htimes, hsides, -⟩ | ⟨hsides, hroom, -⟩)
      · omega
      · omega
  · rw [heq]
    constructor
    · intro h
      obtain rfl : fault' = fault := Except.error.inj h
      exact hfails
    · -- The two reasons exclude each other, so the fault is the one that was raised.
      intro h
      show Except.error fault' = Except.error fault
      rcases hfails with ⟨-, hsides, rfl⟩ | ⟨hsides, -, rfl⟩
      · rcases h with ⟨-, -, rfl⟩ | ⟨hsides', -, -⟩
        · rfl
        · omega
      · rcases h with ⟨-, hsides', -⟩ | ⟨-, -, rfl⟩
        · omega
        · rfl

end

end RollerCall

/-! ## Runs of calls -/

/-- A tape beside a source does not change what is drawn. -/
theorem Tape.draws_eq {σ : Type} [DieSource σ] (dice : List Nat) (t : Tape σ) :
    DieSource.draws dice t = DieSource.draws dice t.source := by
  induction dice generalizing t with
  | nil => rfl
  | cons n dice ih =>
    rw [DieSource.draws_cons, DieSource.draws_cons, ih]
    rfl

namespace Roller

section
variable {σ : Type} [DieSource σ]

/-- The roller that a call leaves, whatever came of the call. -/
def after (r : Roller σ) (c : RollerCall) : Roller σ :=
  rollerLeft (c.make.run r)

/-- The roller that calls leave one after another. -/
def afterCalls (r : Roller σ) (calls : List RollerCall) : Roller σ :=
  calls.foldl after r

@[simp] theorem afterCalls_nil (r : Roller σ) : r.afterCalls [] = r := rfl

@[simp] theorem afterCalls_append (r : Roller σ) (calls : List RollerCall) (c : RollerCall) :
    r.afterCalls (calls ++ [c]) = (r.afterCalls calls).after c := by
  rw [afterCalls, List.foldl_append]
  rfl

theorem unlogged_after_eq (r : Roller σ) (c : RollerCall) :
    (r.after c).unlogged = rollerLeft (Rolling.outcome c.make r) := by
  rw [after, Rolling.outcome, rollerLeft_withoutLog]

/-- A reset empties the record and touches nothing else. -/
theorem after_reset (r : Roller σ) : r.after .reset = r.cleared := rfl

/-- Any other call draws the dice that it throws. -/
theorem unlogged_after {c : RollerCall} (hc : c ≠ .reset) (r : Roller σ) :
    (r.after c).unlogged = (r.drawn (c.thrown r.room)).unlogged := by
  rw [unlogged_after_eq]
  rcases RollerCall.outcome_make_cases hc r with ⟨numbers, heq, -⟩ | ⟨fault, heq, -⟩
  · rw [heq]
    rfl
  · rw [heq]
    rfl

theorem after_of_ne_reset {c : RollerCall} (hc : c ≠ .reset) (r : Roller σ) :
    (r.after c).source = DieSource.after (c.thrown r.room) r.source ∧
      (r.after c).limit = r.limit ∧
      (r.after c).record = r.record ++ (DieSource.draws (c.thrown r.room) r.source).toArray := by
  have h := unlogged_after hc r
  rw [unlogged_eq_iff] at h
  exact h

@[simp] theorem limit_after (r : Roller σ) (c : RollerCall) : (r.after c).limit = r.limit := by
  by_cases hc : c = .reset
  · subst hc
    rfl
  · exact (after_of_ne_reset hc r).2.1

@[simp] theorem limit_afterCalls (r : Roller σ) (calls : List RollerCall) :
    (r.afterCalls calls).limit = r.limit := by
  induction calls using List.reverseRecOn with
  | nil => rfl
  | append_singleton calls c ih => rw [afterCalls_append, limit_after, ih]

/-! ## The record is in order -/

theorem after_inOrder [LawfulDieSource σ] {r : Roller σ} (hr : r.InOrder) (c : RollerCall) :
    (r.after c).InOrder := by
  by_cases hc : c = .reset
  · subst hc
    exact ⟨by simp [after_reset], by simp [after_reset]⟩
  · obtain ⟨-, hlimit, hrecord⟩ := after_of_ne_reset hc r
    constructor
    · have hsize := hr.size_le
      have hthrown := c.length_thrown_le r.room
      have hroom : r.room = r.limit - r.record.size := rfl
      simp only [hrecord, hlimit, Array.size_append, List.size_toArray, DieSource.length_draws]
      omega
    · intro d hd
      simp only [hrecord, Array.mem_append, List.mem_toArray] at hd
      rcases hd with hd | hd
      · exact hr.face_mem d hd
      · exact DieSource.face_mem_of_mem_draws RollerCall.one_le_of_mem_thrown hd

theorem afterCalls_inOrder [LawfulDieSource σ] {r : Roller σ} (hr : r.InOrder)
    (calls : List RollerCall) : (r.afterCalls calls).InOrder := by
  induction calls using List.reverseRecOn with
  | nil => exact hr
  | append_singleton calls c ih =>
    rw [afterCalls_append]
    exact after_inOrder ih c

/-! ## The record is what was taken since the last reset -/

/-- A roller with a tape beside its source, and one without, that have come to the same. -/
structure Beside (t : Roller (Tape σ)) (r : Roller σ) : Prop where
  source_eq : t.source.source = r.source
  limit_eq : t.limit = r.limit
  record_eq : t.record = r.record

omit [DieSource σ] in
theorem taped_beside (r : Roller σ) : Beside r.taped r := ⟨rfl, rfl, rfl⟩

theorem Beside.after {t : Roller (Tape σ)} {r : Roller σ} (h : Beside t r) (c : RollerCall) :
    Beside (t.after c) (r.after c) := by
  by_cases hc : c = .reset
  · subst hc
    exact ⟨h.source_eq, h.limit_eq, rfl⟩
  · -- There is as much room beside the tape as without it, so the same dice are thrown.
    have hroom : t.room = r.room := by
      rw [room, room, h.limit_eq, h.record_eq]
    obtain ⟨hsource, hlimit, hrecord⟩ := after_of_ne_reset hc r
    obtain ⟨hsource', hlimit', hrecord'⟩ := after_of_ne_reset hc t
    constructor
    · rw [hsource, hsource', Tape.after_eq, h.source_eq, hroom]
    · rw [hlimit, hlimit', h.limit_eq]
    · rw [hrecord, hrecord', Tape.draws_eq, h.source_eq, hroom, h.record_eq]

theorem Beside.afterCalls {t : Roller (Tape σ)} {r : Roller σ} (h : Beside t r)
    (calls : List RollerCall) : Beside (t.afterCalls calls) (r.afterCalls calls) := by
  induction calls using List.reverseRecOn with
  | nil => exact h
  | append_singleton calls c ih =>
    rw [afterCalls_append, afterCalls_append]
    exact ih.after c

/-- Behind the tape as it was at the last reset stand the draws on record, and no others. -/
theorem taken_afterCalls {t : Roller (Tape σ)} (ht : t.record = #[]) (calls : List RollerCall) :
    (t.afterCalls calls).source.taken =
      (t.afterCalls (RollerCall.uptoReset calls)).source.taken ++
        (t.afterCalls calls).record.toList := by
  induction calls using List.reverseRecOn with
  | nil => simp [ht]
  | append_singleton calls c ih =>
    by_cases hc : c = .reset
    · subst hc
      rw [RollerCall.uptoReset_append_reset, afterCalls_append, after_reset]
      simp
    · obtain ⟨hsource, -, hrecord⟩ := after_of_ne_reset hc (t.afterCalls calls)
      rw [RollerCall.uptoReset_append hc, afterCalls_append, hsource, hrecord, Tape.after_eq,
        Array.toList_append, ← List.append_assoc, ← ih, Tape.draws_eq]

/-- A call for one die that fails leaves the roller as it was, but for a log record. -/
theorem unlogged_after_of_failed {c : RollerCall} (hc : c.IsSingle) {r : Roller σ} {fault : Fault}
    (h : answerOf (c.make.run r) = .error fault) : (r.after c).unlogged = r.unlogged := by
  have hne : c ≠ .reset := by
    rintro rfl
    exact hc
  have hone : c.times = 1 := by
    cases c with
    | die sides => rfl
    | index sides => rfl
    | dice times sides => exact absurd hc id
    | reset => exact absurd hc id
  have hnone : c.thrown r.room = [] := by
    rcases RollerCall.answerOf_make_eq_error_iff.mp h with ⟨-, hsides, -⟩ | ⟨-, hroom, -⟩
    · exact if_pos hsides
    · have hfull : r.room = 0 := by omega
      simp [RollerCall.thrown, hfull]
  rw [unlogged_after hne, hnone, drawn_nil]

/-- A call that fails at the limit leaves a record that is full. -/
theorem size_after_of_drawLimit {c : RollerCall} {r : Roller σ} (hr : r.record.size ≤ r.limit)
    {limit : Nat} (h : answerOf (c.make.run r) = .error (.drawLimit limit)) :
    (r.after c).record.size = r.limit := by
  rcases RollerCall.answerOf_make_eq_error_iff.mp h with ⟨-, -, hfault⟩ | ⟨hsides, hroom, -⟩
  · cases hfault
  · have hne : c ≠ .reset := by
      rintro rfl
      exact absurd hroom (Nat.not_lt_zero _)
    have hthrown : (c.thrown r.room).length = r.room := by
      rw [RollerCall.thrown, if_neg (by omega), List.length_replicate]
      omega
    have hspace : r.room = r.limit - r.record.size := rfl
    obtain ⟨-, -, hrecord⟩ := after_of_ne_reset hne r
    simp only [hrecord, Array.size_append, List.size_toArray, DieSource.length_draws, hthrown]
    omega

/-- The invariant of a roller over any run of calls, failed ones and senseless numbers included. A
tape beside the source shows that the record holds what has been taken from the source since the
last reset, draw by draw in its order; the tape itself makes no difference. The record is never
longer than the limit, and every draw on it is a face of its die. The next call fails only for a die
without sides, or when the record is full, and a call for one die that fails leaves the source and
the record as they were. -/
theorem record_eq_taken_since_reset [LawfulDieSource σ] {source : σ} {limit : Int}
    {start : Roller σ} (hstart : Roller.ofSource source limit = .ok start)
    (calls : List RollerCall) :
    Roller.ofSource (⟨source, []⟩ : Tape σ) limit = .ok start.taped ∧
      ∀ (r : Roller σ) (t : Roller (Tape σ)), r = start.afterCalls calls →
        t = start.taped.afterCalls calls →
        Beside t r ∧
        t.source.taken =
          (start.taped.afterCalls (RollerCall.uptoReset calls)).source.taken ++ r.record.toList ∧
        (r.record.size : Int) ≤ limit ∧
        (∀ d ∈ r.record, 1 ≤ d.face ∧ d.face ≤ d.sides) ∧
        ∀ (c : RollerCall) (fault : Fault), answerOf (c.make.run r) = .error fault →
          (c.sides < 1 ∧ fault = .dieWithoutSides c.sides ∨
            fault = .drawLimit limit.toNat ∧ ((r.after c).record.size : Int) = limit) ∧
          (c.IsSingle → (r.after c).source = r.source ∧ (r.after c).record = r.record) := by
  obtain ⟨-, hlimit, -, hrecord⟩ := Roller.of_ofSource hstart
  refine ⟨Roller.ofSource_taped hstart, ?_⟩
  rintro r t rfl rfl
  have hbeside := (taped_beside start).afterCalls calls
  have horder := afterCalls_inOrder (Roller.inOrder_of_ofSource hstart) calls
  have hbound : ((start.afterCalls calls).limit : Int) = limit := by
    rw [limit_afterCalls, hlimit]
  refine ⟨hbeside, ?_, ?_, horder.face_mem, ?_⟩
  · rw [← hbeside.record_eq]
    exact taken_afterCalls hrecord calls
  · have hsize := horder.size_le
    omega
  · intro c fault hfault
    constructor
    · rcases RollerCall.answerOf_make_eq_error_iff.mp hfault with
        ⟨-, hsides, heq⟩ | ⟨-, -, heq⟩
      · exact .inl ⟨hsides, heq⟩
      · subst heq
        have hfull := size_after_of_drawLimit horder.size_le hfault
        right
        constructor
        · rw [← hbound, Int.toNat_natCast]
        · rw [hfull, hbound]
    · intro hsingle
      have hsame := unlogged_after_of_failed hsingle hfault
      rw [unlogged_eq_iff] at hsame
      exact ⟨hsame.1, hsame.2.2⟩

/-- A limit of two draws: a roll that stops at it, a reset, a die without sides and fewer dice than
none. -/
theorem record_eq_taken_since_reset_two :
    let start : Roller Replay := { source := { faces := #[4, 2, 5] }, limit := 2 }
    let calls : List RollerCall :=
      [.die 6, .dice 3 20, .reset, .die 0, .index 8, .dice (-1) 0]
    Roller.ofSource start.source 2 = .ok start ∧
      (start.taped.afterCalls calls).source.taken = [⟨4, 6⟩, ⟨2, 20⟩, ⟨5, 8⟩] ∧
      answerOf ((RollerCall.die (-7)).make.run (start.afterCalls calls)) =
        .error (.dieWithoutSides (-7)) ∧
      ((start.afterCalls calls).after (.die (-7))).record = #[⟨5, 8⟩] := by
  intro start calls
  have hstart : Roller.ofSource start.source 2 = .ok start := rfl
  obtain ⟨-, hrun⟩ := record_eq_taken_since_reset hstart calls
  obtain ⟨-, htaken, -, -, hfails⟩ := hrun _ _ rfl rfl
  have hfault : answerOf ((RollerCall.die (-7)).make.run (start.afterCalls calls)) =
      .error (.dieWithoutSides (-7)) := by decide +kernel
  obtain ⟨-, hsame⟩ := hfails _ _ hfault
  refine ⟨hstart, ?_, hfault, ?_⟩
  · rw [htaken]
    decide +kernel
  · rw [(hsame trivial).2]
    decide +kernel

end

end Roller

end ChatDice
