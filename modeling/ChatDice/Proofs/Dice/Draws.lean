import ChatDice.Dice.Roller

/-!
# ChatDice.Proofs.Dice.Draws — what rolling takes from the source

Throwing dice one after another is described twice. `rollEach` is the evaluation: it fails at the
limit and keeps a record. `DieSource.draws` and `DieSource.after` are functions of the source alone:
the faces that dice would show, and the source behind them. `outcome_rollEach` ties the two
together: an evaluation throws the dice for which there is room, in their order, and no others.

Log records are left out of account. `Rolling.outcome` is what an evaluation comes to without them,
and `Rolling.Alike` says of two evaluations that they differ in log records at most. It is kept by
every way to put evaluations together (`Rolling.Alike.bind`), so that log records can be taken out
of an evaluation step by step.
-/

namespace ChatDice

/-! ## Faces as a function of the source -/

section
variable {σ : Type} [DieSource σ]

/-- The draws that dice with these numbers of sides make, one after another. -/
def DieSource.draws : List Nat → σ → List Draw
  | [], _ => []
  | n :: dice, s => ⟨(DieSource.roll n s).1, n⟩ :: draws dice (DieSource.roll n s).2

/-- The source behind the draws of these dice. -/
def DieSource.after : List Nat → σ → σ
  | [], s => s
  | n :: dice, s => after dice (DieSource.roll n s).2

/-- The faces that these dice show. -/
def DieSource.faces (dice : List Nat) (s : σ) : List Nat :=
  (DieSource.draws dice s).map Draw.face

namespace DieSource

@[simp] theorem draws_nil (s : σ) : draws [] s = [] := rfl

@[simp] theorem after_nil (s : σ) : after [] s = s := rfl

@[simp] theorem faces_nil (s : σ) : faces [] s = [] := rfl

theorem draws_cons (n : Nat) (dice : List Nat) (s : σ) :
    draws (n :: dice) s = ⟨(roll n s).1, n⟩ :: draws dice (roll n s).2 := rfl

theorem after_cons (n : Nat) (dice : List Nat) (s : σ) :
    after (n :: dice) s = after dice (roll n s).2 := rfl

theorem faces_cons (n : Nat) (dice : List Nat) (s : σ) :
    faces (n :: dice) s = (roll n s).1 :: faces dice (roll n s).2 := rfl

/-- Every die is drawn with its own number of sides. -/
@[simp] theorem map_sides_draws (dice : List Nat) (s : σ) :
    (draws dice s).map Draw.sides = dice := by
  induction dice generalizing s with
  | nil => rfl
  | cons n dice ih => simp [draws_cons, ih]

@[simp] theorem length_draws (dice : List Nat) (s : σ) : (draws dice s).length = dice.length := by
  have h := congrArg List.length (map_sides_draws dice s)
  rwa [List.length_map] at h

@[simp] theorem length_faces (dice : List Nat) (s : σ) : (faces dice s).length = dice.length := by
  simp [faces]

/-- More dice are drawn where the first ones left the source. -/
theorem draws_append (first rest : List Nat) (s : σ) :
    draws (first ++ rest) s = draws first s ++ draws rest (after first s) := by
  induction first generalizing s with
  | nil => rfl
  | cons n first ih => simp [draws_cons, after_cons, ih]

theorem after_append (first rest : List Nat) (s : σ) :
    after (first ++ rest) s = after rest (after first s) := by
  induction first generalizing s with
  | nil => rfl
  | cons n first ih => simp [after_cons, ih]

/-- The faces of dice of one kind, written back as draws. -/
theorem draws_replicate (count sides : Nat) (s : σ) :
    draws (List.replicate count sides) s =
      (faces (List.replicate count sides) s).map fun face => ⟨face, sides⟩ := by
  induction count generalizing s with
  | zero => rfl
  | succ count ih => rw [List.replicate_succ, draws_cons, faces_cons, ih, List.map_cons]

/-- The source promises its faces die by die, hence for all draws. -/
theorem face_mem_of_mem_draws [LawfulDieSource σ] {dice : List Nat} (hdice : ∀ n ∈ dice, 1 ≤ n)
    {s : σ} {d : Draw} (hd : d ∈ draws dice s) : 1 ≤ d.face ∧ d.face ≤ d.sides := by
  induction dice generalizing s with
  | nil => simp at hd
  | cons n dice ih =>
    have hn : 1 ≤ n := hdice n (by simp)
    rw [draws_cons] at hd
    rcases List.mem_cons.mp hd with rfl | hd
    · exact ⟨LawfulDieSource.one_le_roll n s hn, LawfulDieSource.roll_le n s hn⟩
    · exact ih (fun m hm => hdice m (List.mem_cons_of_mem n hm)) hd

end DieSource

end

/-! ## Rollers that have drawn -/

namespace Roller

section
variable {σ : Type}

/-- The roller without its log records. -/
def unlogged (r : Roller σ) : Roller σ := { r with log := #[] }

/-- The roller with an empty record. -/
def cleared (r : Roller σ) : Roller σ := { r with record := #[] }

/-- How many dice the roller still gives out. -/
def room (r : Roller σ) : Nat := r.limit - r.record.size

@[simp] theorem source_unlogged (r : Roller σ) : r.unlogged.source = r.source := rfl

@[simp] theorem limit_unlogged (r : Roller σ) : r.unlogged.limit = r.limit := rfl

@[simp] theorem record_unlogged (r : Roller σ) : r.unlogged.record = r.record := rfl

@[simp] theorem unlogged_unlogged (r : Roller σ) : r.unlogged.unlogged = r.unlogged := rfl

@[simp] theorem room_unlogged (r : Roller σ) : r.unlogged.room = r.room := rfl

@[simp] theorem source_cleared (r : Roller σ) : r.cleared.source = r.source := rfl

@[simp] theorem limit_cleared (r : Roller σ) : r.cleared.limit = r.limit := rfl

@[simp] theorem record_cleared (r : Roller σ) : r.cleared.record = #[] := rfl

@[simp] theorem room_cleared (r : Roller σ) : r.cleared.room = r.limit := rfl

@[simp] theorem cleared_unlogged (r : Roller σ) : r.unlogged.cleared = r.cleared.unlogged := rfl

/-- Rollers that differ in log records at most have everything else in common. -/
theorem unlogged_eq_iff {r s : Roller σ} :
    r.unlogged = s.unlogged ↔ r.source = s.source ∧ r.limit = s.limit ∧ r.record = s.record := by
  cases r
  cases s
  simp [unlogged]

variable [DieSource σ]

/-- The roller that has drawn dice with these numbers of sides. -/
def drawn (r : Roller σ) (dice : List Nat) : Roller σ :=
  { r with
    source := DieSource.after dice r.source
    record := r.record ++ (DieSource.draws dice r.source).toArray }

@[simp] theorem source_drawn (r : Roller σ) (dice : List Nat) :
    (r.drawn dice).source = DieSource.after dice r.source := rfl

@[simp] theorem limit_drawn (r : Roller σ) (dice : List Nat) : (r.drawn dice).limit = r.limit := rfl

@[simp] theorem record_drawn (r : Roller σ) (dice : List Nat) :
    (r.drawn dice).record = r.record ++ (DieSource.draws dice r.source).toArray := rfl

@[simp] theorem drawn_nil (r : Roller σ) : r.drawn [] = r := by
  simp [drawn]

@[simp] theorem drawn_unlogged (r : Roller σ) (dice : List Nat) :
    r.unlogged.drawn dice = (r.drawn dice).unlogged := rfl

/-- Dice drawn in two portions are drawn in one. -/
theorem drawn_append (r : Roller σ) (first rest : List Nat) :
    r.drawn (first ++ rest) = (r.drawn first).drawn rest := by
  simp [drawn, DieSource.after_append, DieSource.draws_append]

theorem room_drawn (r : Roller σ) (dice : List Nat) :
    (r.drawn dice).room = r.room - dice.length := by
  simp only [room, limit_drawn, record_drawn, Array.size_append, List.size_toArray,
    DieSource.length_draws]
  omega

end

end Roller

/-! ## Outcomes without log records -/

section
variable {σ α β : Type}

/-- An outcome without the log records of its roller. -/
def withoutLog : EStateM.Result Fault (Roller σ) α → EStateM.Result Fault (Roller σ) α
  | .ok a r => .ok a r.unlogged
  | .error fault r => .error fault r.unlogged

@[simp] theorem withoutLog_withoutLog (result : EStateM.Result Fault (Roller σ) α) :
    withoutLog (withoutLog result) = withoutLog result := by
  cases result <;> rfl

namespace Rolling

/-- What an evaluation comes to: its answer or fault, and the roller that it leaves, without log
records. -/
def outcome (x : Rolling σ α) (r : Roller σ) : EStateM.Result Fault (Roller σ) α :=
  withoutLog (x.run r)

/-- An evaluation that comes to an answer gives it, and leaves the roller up to log records. -/
theorem exists_run_of_outcome {x : Rolling σ α} {r s : Roller σ} {a : α}
    (h : outcome x r = .ok a s) : ∃ t, x.run r = .ok a t ∧ t.unlogged = s := by
  unfold outcome at h
  cases hrun : x.run r with
  | ok b t =>
    simp only [hrun, withoutLog, EStateM.Result.ok.injEq] at h
    obtain ⟨rfl, ht⟩ := h
    exact ⟨t, rfl, ht⟩
  | error fault t => simp [hrun, withoutLog] at h

/-- An evaluation that comes to a fault fails with it, and leaves the roller up to log records. -/
theorem exists_run_of_outcome_error {x : Rolling σ α} {r s : Roller σ} {fault : Fault}
    (h : outcome x r = .error fault s) : ∃ t, x.run r = .error fault t ∧ t.unlogged = s := by
  unfold outcome at h
  cases hrun : x.run r with
  | ok a t => simp [hrun, withoutLog] at h
  | error found t =>
    simp only [hrun, withoutLog, EStateM.Result.error.injEq] at h
    obtain ⟨rfl, ht⟩ := h
    exact ⟨t, rfl, ht⟩

/-- Two evaluations that differ in log records at most, wherever they start. -/
def Alike (x y : Rolling σ α) : Prop :=
  ∀ r s : Roller σ, r.unlogged = s.unlogged → outcome x r = outcome y s

theorem Alike.outcome_eq {x y : Rolling σ α} (h : Alike x y) (r : Roller σ) :
    outcome x r = outcome y r :=
  h r r rfl

/-- Evaluations put together of alike ones are alike. -/
theorem Alike.bind {x y : Rolling σ α} {k l : α → Rolling σ β} (hxy : Alike x y)
    (hkl : ∀ a, Alike (k a) (l a)) : Alike (x >>= k) (y >>= l) := by
  intro r s hrs
  have h := hxy r s hrs
  show withoutLog (EStateM.bind x k r) = withoutLog (EStateM.bind y l s)
  simp only [outcome, EStateM.run] at h
  unfold EStateM.bind
  -- The first parts end alike, so the second parts start from rollers that are alike.
  cases hx : x r with
  | ok a r' =>
    cases hy : y s with
    | ok b s' =>
      simp only [hx, hy, withoutLog, EStateM.Result.ok.injEq] at h
      obtain ⟨rfl, hrs'⟩ := h
      exact hkl a r' s' hrs'
    | error e s' => simp [hx, hy, withoutLog] at h
  | error e r' =>
    cases hy : y s with
    | ok b s' => simp [hx, hy, withoutLog] at h
    | error e' s' => simpa [hx, hy, withoutLog] using h

/-- An evaluation is alike itself if it does not look at log records. -/
theorem alike_self_of_unlogged {x : Rolling σ α} (h : ∀ r, outcome x r = outcome x r.unlogged) :
    Alike x x := by
  intro r s hrs
  rw [h r, h s, hrs]

/-- An evaluation put together comes to what its second part makes of the first one. -/
theorem outcome_bind (x : Rolling σ α) {k : α → Rolling σ β} (hk : ∀ a, Alike (k a) (k a))
    (r : Roller σ) :
    outcome (x >>= k) r =
      match outcome x r with
      | .ok a s => outcome (k a) s
      | .error fault s => .error fault s := by
  show withoutLog (EStateM.bind x k r) = _
  unfold outcome EStateM.run EStateM.bind
  cases x r with
  | ok a s => exact hk a s s.unlogged rfl
  | error fault s => rfl

theorem alike_pure (a : α) : Alike (pure a : Rolling σ α) (pure a) := by
  intro r s hrs
  exact congrArg (EStateM.Result.ok a) hrs

theorem Alike.map {x y : Rolling σ α} (hxy : Alike x y) (f : α → β) :
    Alike (f <$> x) (f <$> y) := by
  rw [map_eq_pure_bind, map_eq_pure_bind]
  exact hxy.bind fun a => alike_pure (f a)

theorem alike_throw (fault : Fault) : Alike (throw fault : Rolling σ α) (throw fault) := by
  intro r s hrs
  exact congrArg (EStateM.Result.error fault) hrs

/-- Nothing follows a fault. -/
theorem throw_bind (fault : Fault) (k : α → Rolling σ β) :
    (throw fault >>= k : Rolling σ β) = throw fault := rfl

theorem alike_ofExcept (e : Except Fault α) : Alike (ofExcept e : Rolling σ α) (ofExcept e) := by
  cases e with
  | ok a => exact alike_pure a
  | error fault => exact alike_throw fault

/-- A log record may be left out. -/
theorem alike_note (level : Log.Level) (site : Log.Site) (message : String) :
    Alike (note level site message : Rolling σ Unit) (pure ()) := by
  intro r s hrs
  exact congrArg (EStateM.Result.ok ()) hrs

theorem Alike.note_bind {x y : Rolling σ α} (hxy : Alike x y) (level : Log.Level)
    (site : Log.Site) (message : String) : Alike (note level site message >>= fun _ => x) y := by
  have h := (alike_note level site message).bind (fun _ => hxy)
  simpa using h

theorem alike_resetRecord : Alike (resetRecord : Rolling σ Unit) resetRecord := by
  intro r s hrs
  exact congrArg (fun t : Roller σ => EStateM.Result.ok () t.cleared) hrs

end Rolling

end

/-! ## Throwing dice one after another -/

section
variable {σ : Type} [DieSource σ]

/-- Throws dice with these numbers of sides, one after another. -/
def rollEach : List Nat → Rolling σ (List Nat)
  | [] => pure []
  | n :: dice => do
    let face ← rollDie n
    let faces ← rollEach dice
    return face :: faces

/-- A die without sides is refused whatever the record holds. -/
theorem rollDie_of_lt_one {sides : Int} (hsides : sides < 1) :
    (rollDie sides : Rolling σ Nat) = throw (.dieWithoutSides sides) := by
  unfold rollDie
  rw [if_pos hsides]
  exact Rolling.throw_bind _ _

/-- Without room nothing is drawn; only a log record tells of it. -/
theorem run_rollDie_of_le {n : Nat} (hn : 1 ≤ n) {r : Roller σ} (h : r.limit ≤ r.record.size) :
    ∃ log, (rollDie n : Rolling σ Nat).run r = .error (.drawLimit r.limit) { r with log } := by
  have hsides : ¬ ((n : Int) < 1) := by omega
  unfold rollDie
  rw [if_neg hsides]
  show ∃ log, (if r.limit ≤ r.record.size then _ else _ : Rolling σ Nat) r = .error _ { r with log }
  rw [if_pos h]
  exact ⟨_, rfl⟩

theorem run_rollDie_of_lt {n : Nat} (hn : 1 ≤ n) {r : Roller σ} (h : r.record.size < r.limit) :
    (rollDie n : Rolling σ Nat).run r =
      .ok (DieSource.roll n r.source).1
        { r with
          source := (DieSource.roll n r.source).2
          record := r.record.push ⟨(DieSource.roll n r.source).1, n⟩ } := by
  have hsides : ¬ ((n : Int) < 1) := by omega
  unfold rollDie
  rw [if_neg hsides]
  show (if r.limit ≤ r.record.size then _ else _ : Rolling σ Nat) r = _
  rw [if_neg (by omega)]
  rfl

/-- One die is drawn if there is room for it; else nothing happens. -/
theorem outcome_rollDie {n : Nat} (hn : 1 ≤ n) (r : Roller σ) :
    Rolling.outcome (rollDie n) r =
      if 1 ≤ r.room then .ok (DieSource.roll n r.source).1 (r.drawn [n]).unlogged
      else .error (.drawLimit r.limit) r.unlogged := by
  rcases Nat.lt_or_ge r.record.size r.limit with hroom | hroom
  · have hyes : 1 ≤ r.room := by unfold Roller.room; omega
    rw [if_pos hyes, Rolling.outcome, run_rollDie_of_lt hn hroom]
    simp [withoutLog, Roller.unlogged, Roller.drawn, DieSource.after_cons, DieSource.draws_cons]
  · have hno : ¬ 1 ≤ r.room := by unfold Roller.room; omega
    obtain ⟨log, hrun⟩ := run_rollDie_of_le hn hroom
    rw [if_neg hno, Rolling.outcome, hrun]
    rfl

theorem alike_rollDie (sides : Int) :
    Rolling.Alike (rollDie sides : Rolling σ Nat) (rollDie sides) := by
  apply Rolling.alike_self_of_unlogged
  intro r
  by_cases hsides : sides < 1
  · rw [rollDie_of_lt_one hsides]
    rfl
  · obtain ⟨n, rfl⟩ := Int.eq_ofNat_of_zero_le (show 0 ≤ sides by omega)
    have hn : 1 ≤ n := by omega
    rw [outcome_rollDie hn, outcome_rollDie hn]
    rfl

theorem alike_rollEach (dice : List Nat) :
    Rolling.Alike (rollEach dice : Rolling σ (List Nat)) (rollEach dice) := by
  induction dice with
  | nil => exact Rolling.alike_pure []
  | cons n dice ih =>
    exact (alike_rollDie n).bind fun face => ih.bind fun faces => Rolling.alike_pure (face :: faces)

/-- Dice thrown in two portions. -/
theorem rollEach_append (first rest : List Nat) :
    (rollEach (first ++ rest) : Rolling σ (List Nat)) = do
      let a ← rollEach first
      let b ← rollEach rest
      return a ++ b := by
  induction first with
  | nil => simp [rollEach]
  | cons n first ih => simp [rollEach, ih]

/-- What follows a throw may rely on one face for each of the dice. -/
theorem rollEach_bind_congr {α : Type} {dice : List Nat} {k l : List Nat → Rolling σ α}
    (h : ∀ faces, faces.length = dice.length → k faces = l faces) :
    rollEach dice >>= k = rollEach dice >>= l := by
  induction dice generalizing k l with
  | nil => simp [rollEach, h [] rfl]
  | cons n dice ih =>
    simp only [rollEach, bind_assoc, pure_bind]
    congr 1
    funext face
    apply ih
    intro faces hfaces
    exact h (face :: faces) (by simp [hfaces])

/-- The dice of one kind are thrown one after another. -/
theorem rollDice_eq_rollEach (times sides : Nat) :
    (rollDice times sides : Rolling σ (List Nat)) = rollEach (List.replicate times sides) := by
  -- The dice rolled before are kept in reverse, so the induction is over all of them.
  have hafter : ∀ (n : Nat) (rolled : List Nat),
      (rollDiceAfter sides n rolled : Rolling σ (List Nat)) = do
        let faces ← rollEach (List.replicate n sides)
        return rolled.reverse ++ faces := by
    intro n
    induction n with
    | zero => intro rolled; simp [rollDiceAfter, rollEach]
    | succ n ih => intro rolled; simp [rollDiceAfter, rollEach, List.replicate_succ, ih]
  simp [rollDice, hafter]

/-- Fewer dice than one are none, whatever their sides are. -/
theorem rollDice_of_lt_one {times : Int} (htimes : times < 1) (sides : Int) :
    (rollDice times sides : Rolling σ (List Nat)) = pure [] := by
  rw [rollDice, Int.toNat_of_nonpos (by omega)]
  rfl

/-- Of some dice without sides the first one is refused, and nothing follows a fault. -/
theorem rollDice_of_sides_lt_one {times : Int} (htimes : 1 ≤ times) {sides : Int}
    (hsides : sides < 1) :
    (rollDice times sides : Rolling σ (List Nat)) = throw (.dieWithoutSides sides) := by
  obtain ⟨n, hn⟩ : ∃ n, times.toNat = n + 1 := ⟨times.toNat - 1, by omega⟩
  rw [rollDice, hn, rollDiceAfter, rollDie_of_lt_one hsides, Rolling.throw_bind]

/-- Dice are drawn in their order as long as there is room; all of them, or as many as fit before
the limit ends the evaluation. -/
theorem outcome_rollEach {dice : List Nat} (hdice : ∀ n ∈ dice, 1 ≤ n) (r : Roller σ) :
    Rolling.outcome (rollEach dice) r =
      if dice.length ≤ r.room then .ok (DieSource.faces dice r.source) (r.drawn dice).unlogged
      else .error (.drawLimit r.limit) (r.drawn (dice.take r.room)).unlogged := by
  -- Behind the first die stands a roller with one place less, and the dice left over are thrown
  -- with it.
  induction dice generalizing r with
  | nil => simp [rollEach, Rolling.outcome, pure, EStateM.pure, EStateM.run, withoutLog]
  | cons n dice ih =>
    have hn : 1 ≤ n := hdice n (by simp)
    have hrest : ∀ m ∈ dice, 1 ≤ m := fun m hm => hdice m (List.mem_cons_of_mem n hm)
    rw [rollEach, Rolling.outcome_bind _
      (fun face => (alike_rollEach dice).bind fun faces => Rolling.alike_pure (face :: faces)),
      outcome_rollDie hn]
    by_cases hroom : 1 ≤ r.room
    · rw [if_pos hroom]
      show Rolling.outcome (rollEach dice >>= fun faces =>
        pure ((DieSource.roll n r.source).1 :: faces)) (r.drawn [n]).unlogged = _
      rw [Rolling.outcome_bind _ (fun faces => Rolling.alike_pure _), ih hrest]
      have hroom' : (r.drawn [n]).unlogged.room = r.room - 1 := by simp [Roller.room_drawn]
      rw [hroom']
      by_cases hall : dice.length ≤ r.room - 1
      · rw [if_pos hall, if_pos (by simp; omega)]
        show EStateM.Result.ok _ _ = _
        rw [Roller.drawn_unlogged, ← Roller.drawn_append]
        rfl
      · rw [if_neg hall, if_neg (by simp; omega)]
        show EStateM.Result.error _ _ = _
        obtain ⟨m, hm⟩ : ∃ m, r.room = m + 1 := ⟨r.room - 1, by omega⟩
        rw [Roller.drawn_unlogged, ← Roller.drawn_append, hm]
        rfl
    · have hnone : r.room = 0 := by omega
      simp [hnone]

end

end ChatDice
