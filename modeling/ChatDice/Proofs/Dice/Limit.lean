import ChatDice.Proofs.Dice.Calls

/-!
# ChatDice.Proofs.Dice.Limit — several dice and the limit

Several dice of one kind are rolled one after another, and the limit may fall between two of them.
What has been drawn by then stays drawn: the roll fails with the record full to the limit, and with
just as many faces gone from the source as there was room for. How many more dice were asked for
makes no difference.

* `Roller.HasDrawn` — so many dice of one kind have been drawn, and nothing else has happened;
* `rollDice_add` — dice rolled together are rolled in two portions, wherever the limit falls;
* `rollDice_up_to_limit` — all that can come of several dice.
-/

namespace ChatDice

section
variable {σ : Type} [DieSource σ]

/-- The roller `s` is what `r` becomes by drawing so many dice of one kind: their faces have been
taken from the source and stand at the end of the record. -/
structure Roller.HasDrawn (r : Roller σ) (count sides : Nat) (s : Roller σ) : Prop where
  source_eq : s.source = DieSource.after (List.replicate count sides) r.source
  limit_eq : s.limit = r.limit
  record_eq : s.record = r.record ++
    ((DieSource.faces (List.replicate count sides) r.source).map fun face => ⟨face, sides⟩).toArray

namespace Roller

theorem hasDrawn_of_unlogged {r s : Roller σ} {count sides : Nat}
    (h : s.unlogged = (r.drawn (List.replicate count sides)).unlogged) :
    r.HasDrawn count sides s := by
  obtain ⟨hsource, hlimit, hrecord⟩ := unlogged_eq_iff.mp h
  refine ⟨hsource, hlimit, ?_⟩
  rw [hrecord, record_drawn, DieSource.draws_replicate]

/-- Every die that is drawn is one more draw on record. -/
theorem HasDrawn.size_eq {r s : Roller σ} {count sides : Nat} (h : r.HasDrawn count sides s) :
    s.record.size = r.record.size + count := by
  simp only [h.record_eq, Array.size_append, List.size_toArray, List.length_map,
    DieSource.length_faces, List.length_replicate]

end Roller

/-- With room for all of them, dice with sides show the next faces of the source. -/
theorem run_rollDice_of_le {r : Roller σ} {times sides : Int} (hsides : 1 ≤ sides)
    (hroom : times ≤ r.room) :
    ∃ s, (rollDice times sides).run r =
        .ok (DieSource.faces (List.replicate times.toNat sides.toNat) r.source) s ∧
      r.HasDrawn times.toNat sides.toNat s := by
  have houtcome := outcome_rollDice times sides r
  rw [Roller.throwing_of_le (by omega) hsides] at houtcome
  obtain ⟨s, hrun, hs⟩ := Rolling.exists_run_of_outcome houtcome
  exact ⟨s, hrun, Roller.hasDrawn_of_unlogged hs⟩

/-- With more dice than there is room for, the faces that are drawn are those there was room for. -/
theorem run_rollDice_of_lt {r : Roller σ} {times sides : Int} (hsides : 1 ≤ sides)
    (hroom : r.room < times) :
    ∃ s, (rollDice times sides).run r = .error (.drawLimit r.limit) s ∧
      r.HasDrawn r.room sides.toNat s := by
  have houtcome := outcome_rollDice times sides r
  rw [Roller.throwing_of_lt (by omega) hsides] at houtcome
  obtain ⟨s, hrun, hs⟩ := Rolling.exists_run_of_outcome_error houtcome
  exact ⟨s, hrun, Roller.hasDrawn_of_unlogged hs⟩

/-- Dice rolled together are rolled in two portions, one after the other. This holds wherever the
limit falls, and also for dice without sides. -/
theorem rollDice_add {a b : Int} (ha : 0 ≤ a) (hb : 0 ≤ b) (sides : Int) :
    (rollDice (a + b) sides : Rolling σ (List Nat)) = do
      let first ← rollDice a sides
      let rest ← rollDice b sides
      return first ++ rest := by
  by_cases hsides : sides < 1
  · rcases Int.lt_or_le a 1 with hfirst | hfirst
    · -- The first portion is empty, and the second one is all there is.
      obtain rfl : a = 0 := by omega
      rw [rollDice_of_lt_one hfirst, Int.zero_add]
      simp
    · rw [rollDice_of_sides_lt_one hfirst hsides, rollDice_of_sides_lt_one (by omega) hsides,
        Rolling.throw_bind]
  · obtain ⟨m, rfl⟩ := Int.eq_ofNat_of_zero_le ha
    obtain ⟨n, rfl⟩ := Int.eq_ofNat_of_zero_le hb
    obtain ⟨k, rfl⟩ := Int.eq_ofNat_of_zero_le (show 0 ≤ sides by omega)
    have htogether := rollDice_eq_rollEach (σ := σ) (m + n) k
    rw [← List.replicate_append_replicate, rollEach_append, Int.natCast_add] at htogether
    rw [htogether, rollDice_eq_rollEach, rollDice_eq_rollEach]

/-- All that can come of several dice of one kind, for any integers. Fewer than one die are none,
and nothing happens. Dice without sides are refused before anything happens, also when the record is
full. Dice that fit into the record show the next faces of the source, which go on record in their
order. Otherwise the roll fails at the limit: the record is then full, the draws behind the old ones
are as many as there was room for, and so many faces are gone from the source. And dice rolled
together are rolled in two portions, whether they fit or not. -/
theorem rollDice_up_to_limit {r : Roller σ} (hr : r.record.size ≤ r.limit) (times sides : Int) :
    (times ≤ 0 → (rollDice times sides).run r = .ok [] r) ∧
    (1 ≤ times → sides < 1 →
      (rollDice times sides).run r = .error (.dieWithoutSides sides) r) ∧
    (1 ≤ times → 1 ≤ sides → r.record.size + times ≤ r.limit →
      ∃ s, (rollDice times sides).run r =
          .ok (DieSource.faces (List.replicate times.toNat sides.toNat) r.source) s ∧
        r.HasDrawn times.toNat sides.toNat s) ∧
    (1 ≤ times → 1 ≤ sides → r.limit < r.record.size + times →
      ∃ s, (rollDice times sides).run r = .error (.drawLimit r.limit) s ∧
        r.HasDrawn (r.limit - r.record.size) sides.toNat s ∧ s.record.size = r.limit) ∧
    ∀ a b : Int, 0 ≤ a → 0 ≤ b →
      (rollDice (a + b) sides : Rolling σ (List Nat)) = do
        let first ← rollDice a sides
        let rest ← rollDice b sides
        return first ++ rest := by
  have hspace : r.room = r.limit - r.record.size := rfl
  refine ⟨?_, ?_, ?_, ?_, fun a b ha hb => rollDice_add ha hb sides⟩
  · intro htimes
    rw [rollDice_of_lt_one (by omega)]
    rfl
  · intro htimes hsides
    rw [rollDice_of_sides_lt_one htimes hsides]
    rfl
  · intro _ hsides hroom
    exact run_rollDice_of_le hsides (by omega)
  · intro _ hsides hroom
    obtain ⟨s, hrun, hdrawn⟩ := run_rollDice_of_lt hsides (show r.room < times by omega)
    refine ⟨s, hrun, hdrawn, ?_⟩
    rw [hdrawn.size_eq]
    omega

/-- A draw on record and room for two more: fewer dice than none, dice without sides, two dice, and
more dice than anyone could count. -/
theorem rollDice_up_to_limit_three :
    let r : Roller Replay := { source := { faces := #[4, 2, 5] }, limit := 3, record := #[⟨1, 20⟩] }
    r.record.size ≤ r.limit ∧
      (rollDice (-5) 0).run r = .ok [] r ∧
      (rollDice 7 0).run r = .error (.dieWithoutSides 0) r ∧
      (∃ s, (rollDice 2 6).run r = .ok [4, 2] s ∧ s.record = #[⟨1, 20⟩, ⟨4, 6⟩, ⟨2, 6⟩]) ∧
      ∃ s, (rollDice 1000000000000000000000000000000 6).run r = .error (.drawLimit 3) s ∧
        s.source.taken = 2 ∧ s.record = #[⟨1, 20⟩, ⟨4, 6⟩, ⟨2, 6⟩] := by
  intro r
  have hr : r.record.size ≤ r.limit := by decide
  refine ⟨hr, ?_, ?_, ?_, ?_⟩
  · exact (rollDice_up_to_limit hr (-5) 0).1 (by decide)
  · exact (rollDice_up_to_limit hr 7 0).2.1 (by decide) (by decide)
  · obtain ⟨s, hrun, hdrawn⟩ :=
      (rollDice_up_to_limit hr 2 6).2.2.1 (by decide) (by decide) (by decide)
    exact ⟨s, hrun, hdrawn.record_eq⟩
  · obtain ⟨s, hrun, hdrawn, -⟩ :=
      (rollDice_up_to_limit hr 1000000000000000000000000000000 6).2.2.2.1
        (by decide) (by decide) (by decide)
    refine ⟨s, hrun, ?_, hdrawn.record_eq⟩
    rw [hdrawn.source_eq]
    rfl

end

end ChatDice
