import ChatDice.Dice.DiceTable
import ChatDice.Proofs.Dice.Calls
import ChatDice.Random.Replay

/-!
# ChatDice.Proofs.Dice.DiceTable — tables and the faces that select their entries

A table is set up if its announced die has as many sides as the table has entries
(`DiceTable.ofDie_eq_ok_iff`). A roll then throws a die of so many sides, so every face that a
source may show selects an entry, whatever else the roller has been used for before.

One table passes the set-up and cannot be rolled: the table without entries, announced by a die
without sides. The set-up compares the two numbers and finds them equal; only the roll refuses such
a die.

* `DiceTable.roll_selects_entry` — the rolls of a table that has entries, after any use of the
  roller;
* `DiceTable.roll_of_ofDie` — which of the tables that are set up can be rolled.
-/

namespace ChatDice

/-- The result of a roll that has drawn one die, with a side for each entry, and has selected the
entry of its face; `r` is the roller before it and `s` the one behind it. -/
structure TableResult.SelectedFrom {σ : Type} [DieSource σ] (result : TableResult) (name : String)
    (entries : Array String) (r s : Roller σ) : Prop where
  name_eq : result.name = name
  one_le_face : 1 ≤ result.face
  face_le : result.face ≤ entries.size
  body_eq : entries[result.face - 1]? = some result.body
  render_eq : result.render = name ++ "(" ++ toString result.face ++ ")" ++ " ＞ " ++ result.body
  roll_eq : DieSource.roll entries.size r.source = (result.face, s.source)
  limit_eq : s.limit = r.limit
  record_eq : s.record = r.record.push ⟨result.face, entries.size⟩

namespace DiceTable

/-! ## Setting up -/

/-- A die in writing: `1D`, where the letter may be small, and the digits of its sides. -/
def IsDie (die : String) (digits : List Char) : Prop :=
  IsNumeral digits ∧
    (die = String.ofList ('1' :: 'D' :: digits) ∨ die = String.ofList ('1' :: 'd' :: digits))

theorem sideDigits?_eq_some_iff {die : String} {digits : List Char} :
    sideDigits? die.toList = some digits ↔ IsDie die digits := by
  constructor
  · intro h
    unfold sideDigits? at h
    split at h
    · rename_i mark found hdie
      split at h
      · rename_i hgood
        obtain ⟨hmark, hne, hdigits⟩ := hgood
        obtain rfl := Option.some.inj h
        refine ⟨⟨hne, by simpa using hdigits⟩, ?_⟩
        rcases hmark with rfl | rfl
        · exact .inl (by rw [← hdie, String.ofList_toList])
        · exact .inr (by rw [← hdie, String.ofList_toList])
      · cases h
    · cases h
  · rintro ⟨⟨hne, hdigits⟩, rfl | rfl⟩
    · rw [String.toList_ofList, sideDigits?, if_pos ⟨.inl rfl, hne, by simpa using hdigits⟩]
    · rw [String.toList_ofList, sideDigits?, if_pos ⟨.inr rfl, hne, by simpa using hdigits⟩]

/-- A table is set up if it is announced by a die with as many sides as it has entries. -/
theorem ofDie_eq_ok_iff {name die : String} {entries : Array String} {t : DiceTable} :
    ofDie name die entries = .ok t ↔
      t = ⟨name, entries⟩ ∧
        ∃ digits, IsDie die digits ∧ digits.length ≤ Text.maxIntegerDigits ∧
          numeralValue digits = entries.size := by
  unfold ofDie
  cases hsides : sideDigits? die.toList with
  | none =>
    have hno : ∀ digits, ¬ IsDie die digits := by
      intro digits hdie
      rw [← sideDigits?_eq_some_iff, hsides] at hdie
      cases hdie
    simp [hno]
  | some digits =>
    have hdie : ∀ other, IsDie die other ↔ other = digits := by
      intro other
      rw [← sideDigits?_eq_some_iff, hsides, Option.some.injEq, eq_comm]
    simp only [hdie, exists_eq_left]
    by_cases hlong : Text.maxIntegerDigits < digits.length
    · rw [if_pos hlong]
      simp [Nat.not_le.mpr hlong]
    · rw [if_neg hlong]
      by_cases hcount : Nat.ofDigitChars 10 digits 0 = entries.size
      · rw [if_neg (not_not.mpr hcount), Except.ok.injEq, eq_comm]
        exact (and_iff_left ⟨Nat.not_lt.mp hlong, hcount⟩).symm
      · rw [if_pos hcount]
        simp [numeralValue, hcount]

/-! ## One roll -/

section
variable {σ : Type} [DieSource σ]

/-- With room for a draw, a table with entries gives one of them: no face of its die is beyond the
last entry. -/
theorem exists_run_roll [LawfulDieSource σ] {t : DiceTable} (hsome : 1 ≤ t.entries.size)
    {r : Roller σ} (hroom : r.record.size < r.limit) :
    ∃ result s, (t.roll : Rolling σ TableResult).run r = .ok result s ∧
      result.SelectedFrom t.name t.entries r s := by
  have hdie := run_rollDie_of_lt hsome hroom
  have hlow := LawfulDieSource.one_le_roll t.entries.size r.source hsome
  have hhigh := LawfulDieSource.roll_le t.entries.size r.source hsome
  obtain ⟨face, source, hroll⟩ : ∃ face source,
      DieSource.roll t.entries.size r.source = (face, source) := ⟨_, _, rfl⟩
  rw [hroll] at hdie hlow hhigh
  -- The index is the face less one, and the face is shown again behind it.
  have hback : face - 1 + 1 = face := Nat.sub_add_cancel hlow
  obtain ⟨body, hbody⟩ : ∃ body, t.entries[face - 1]? = some body :=
    ⟨_, Array.getElem?_eq_getElem (show face - 1 < t.entries.size by omega)⟩
  have hrun : (t.roll : Rolling σ TableResult).run r = .ok ⟨t.name, face, body⟩
      { r with source, record := r.record.push ⟨face, t.entries.size⟩ } := by
    rw [roll, rollIndex, sides, bind_assoc, EStateM.run_bind, hdie]
    simp only [pure_bind, hbody, hback]
    rfl
  refine ⟨_, _, hrun, rfl, hlow, hhigh, hbody, ?_, hroll, rfl, rfl⟩
  simp [TableResult.render, joinStages, stageSeparator, String.append_assoc]

/-- Without room for a draw, a roll fails and only a log record tells of it. -/
theorem exists_run_roll_of_le {t : DiceTable} (hsome : 1 ≤ t.entries.size) {r : Roller σ}
    (hfull : r.limit ≤ r.record.size) :
    ∃ s, (t.roll : Rolling σ TableResult).run r = .error (.drawLimit r.limit) s ∧
      s.unlogged = r.unlogged := by
  obtain ⟨log, hdie⟩ := run_rollDie_of_le hsome hfull
  refine ⟨{ r with log }, ?_, rfl⟩
  rw [roll, rollIndex, sides, bind_assoc, EStateM.run_bind, hdie]

/-- A table without entries rolls a die without sides. -/
theorem roll_of_no_entries {t : DiceTable} (hnone : t.entries.size = 0) :
    (t.roll : Rolling σ TableResult) = throw (.dieWithoutSides 0) := by
  rw [roll, rollIndex, sides, hnone, Int.natCast_zero, rollDie_of_lt_one (by decide),
    bind_assoc, Rolling.throw_bind]

/-- A roll leaves the roller as a die does that is counted from zero. -/
theorem rollerLeft_roll (t : DiceTable) (r : Roller σ) :
    rollerLeft ((t.roll : Rolling σ TableResult).run r) = r.after (.index t.sides) := by
  rw [Roller.after, RollerCall.make, roll, EStateM.run_bind, EStateM.run_bind]
  cases (rollIndex t.sides : Rolling σ Nat).run r with
  | error fault s => rfl
  | ok index s =>
    -- An entry is looked up behind the draw, found or not.
    cases hbody : t.entries[index]? with
    | some body => simp only [hbody]; rfl
    | none => simp only [hbody]; rfl

end

end DiceTable

/-! ## Uses of a roller -/

/-- Something that a roller is used for: a call that it answers itself, or the roll of a table. -/
inductive RollerUse where
  | call (c : RollerCall)
  | table (t : DiceTable)

namespace RollerUse

/-- The call that does to the roller what the use does. -/
def asCall : RollerUse → RollerCall
  | call c => c
  | table t => .index t.sides

end RollerUse

namespace Roller

section
variable {σ : Type} [DieSource σ]

/-- The roller behind a use, whatever came of it. -/
def afterUse (r : Roller σ) : RollerUse → Roller σ
  | .call c => r.after c
  | .table t => rollerLeft ((t.roll : Rolling σ TableResult).run r)

/-- The roller behind one use after another. -/
def afterUses (r : Roller σ) (uses : List RollerUse) : Roller σ :=
  uses.foldl afterUse r

theorem afterUse_eq (r : Roller σ) (u : RollerUse) : r.afterUse u = r.after u.asCall := by
  cases u with
  | call c => rfl
  | table t => exact t.rollerLeft_roll r

/-- A run of uses leaves the roller as a run of calls does. -/
theorem afterUses_eq (r : Roller σ) (uses : List RollerUse) :
    r.afterUses uses = r.afterCalls (uses.map RollerUse.asCall) := by
  rw [afterUses, afterCalls, List.foldl_map]
  simp only [← afterUse_eq]

theorem limit_afterUses (r : Roller σ) (uses : List RollerUse) :
    (r.afterUses uses).limit = r.limit := by
  rw [afterUses_eq, limit_afterCalls]

end

end Roller

namespace DiceTable

section
variable {σ : Type} [DieSource σ] [LawfulDieSource σ]

/-- The rolls of a table with entries, on a roller that may have been used in any way before: for
more rolls of this table or of others, for dice of any kind, with resets or without, and also for
what has failed. A roll succeeds exactly if the record has room for a draw. It then draws one die,
with a side for each entry, and gives the entry of its face. Otherwise it fails at the limit, and
the source and the record are what they were. -/
theorem roll_selects_entry {name die : String} {entries : Array String} {t : DiceTable}
    (ht : ofDie name die entries = .ok t) (hsome : 1 ≤ entries.size) {source : σ} {limit : Int}
    {start : Roller σ} (hstart : Roller.ofSource source limit = .ok start)
    (uses : List RollerUse) :
    ∀ r, r = start.afterUses uses →
      ((∃ result s, t.roll.run r = .ok result s) ↔ (r.record.size : Int) < limit) ∧
      (∀ result s, t.roll.run r = .ok result s → result.SelectedFrom name entries r s) ∧
      ∀ fault s, t.roll.run r = .error fault s →
        fault = .drawLimit limit.toNat ∧ s.unlogged = r.unlogged := by
  obtain ⟨rfl, -⟩ := ofDie_eq_ok_iff.mp ht
  obtain ⟨-, hlimit, -, -⟩ := Roller.of_ofSource hstart
  rintro r rfl
  rw [← start.limit_afterUses uses] at hlimit
  generalize start.afterUses uses = r at hlimit ⊢
  rcases Nat.lt_or_ge r.record.size r.limit with hroom | hfull
  · obtain ⟨result, s, hrun, hselected⟩ := exists_run_roll (t := ⟨name, entries⟩) hsome hroom
    rw [hrun]
    refine ⟨⟨fun _ => by omega, fun _ => ⟨result, s, rfl⟩⟩, ?_, ?_⟩
    · rintro _ _ ⟨⟩
      exact hselected
    · rintro _ _ ⟨⟩
  · obtain ⟨s, hrun, hs⟩ := exists_run_roll_of_le (t := ⟨name, entries⟩) hsome hfull
    rw [hrun]
    refine ⟨⟨?_, fun _ => by omega⟩, ?_, ?_⟩
    · rintro ⟨_, _, ⟨⟩⟩
    · rintro _ _ ⟨⟩
    · rintro _ _ ⟨⟩
      exact ⟨by rw [← hlimit, Int.toNat_natCast], hs⟩

/-- A table of three entries on a roller with a limit of three draws: behind a die of twenty sides,
a roll of the table and a die that is refused there is room for one more roll, and then for none. -/
theorem roll_selects_entry_weather :
    let t : DiceTable := ⟨"Weather", #["Sun", "Rain", "Snow"]⟩
    let start : Roller Replay := { source := { faces := #[5, 2, 6] }, limit := 3 }
    let uses : List RollerUse := [.call (.die 20), .table t, .call (.die 0)]
    ofDie "Weather" "1d03" t.entries = .ok t ∧ 1 ≤ t.entries.size ∧
      Roller.ofSource start.source 3 = .ok start ∧
      (∃ result s, t.roll.run (start.afterUses uses) = .ok result s ∧
        result.SelectedFrom "Weather" t.entries (start.afterUses uses) s) ∧
      ¬ ∃ result s, t.roll.run (start.afterUses (uses ++ [.table t])) = .ok result s := by
  intro t start uses
  have ht : ofDie "Weather" "1d03" t.entries = .ok t := rfl
  have hstart : Roller.ofSource start.source 3 = .ok start := rfl
  obtain ⟨hroom, hselected, -⟩ := roll_selects_entry ht (by decide) hstart uses _ rfl
  obtain ⟨hfull, -, -⟩ := roll_selects_entry ht (by decide) hstart (uses ++ [.table t]) _ rfl
  obtain ⟨result, s, hrun⟩ := hroom.mpr (by decide +kernel)
  exact ⟨ht, by decide, hstart, ⟨result, s, hrun, hselected result s hrun⟩,
    fun h => absurd (hfull.mp h) (by decide +kernel)⟩

/-- Which of the tables that are set up can be rolled. The die of such a table is `1D`, with the
letter in either case, and digits that come to the number of its entries. Where there is room for a
draw, a table with entries gives one of them; a table without entries fails, because its die has no
sides, and nothing happens. -/
theorem roll_of_ofDie {name die : String} {entries : Array String} {t : DiceTable}
    (ht : ofDie name die entries = .ok t) {r : Roller σ} (hroom : r.record.size < r.limit) :
    (∃ digits, IsDie die digits ∧ numeralValue digits = entries.size) ∧
      (1 ≤ entries.size → ∃ result s, t.roll.run r = .ok result s ∧
        result.SelectedFrom name entries r s) ∧
      (entries.size = 0 → t.roll.run r = .error (.dieWithoutSides 0) r) := by
  obtain ⟨rfl, digits, hdie, -, hcount⟩ := ofDie_eq_ok_iff.mp ht
  refine ⟨⟨digits, hdie, hcount⟩, fun hsome => ?_, fun hnone => ?_⟩
  · exact exists_run_roll (t := ⟨name, entries⟩) hsome hroom
  · rw [roll_of_no_entries hnone]
    rfl

/-- A table of three entries, and one of none whose die is announced with three zeros. -/
theorem roll_of_ofDie_zeros :
    let t : DiceTable := ⟨"Weather", #["Sun", "Rain", "Snow"]⟩
    let blank : DiceTable := ⟨"Blank", #[]⟩
    let r : Roller Replay := { source := { faces := #[5] }, limit := 1 }
    ofDie "Weather" "1D3" t.entries = .ok t ∧ ofDie "Blank" "1d000" #[] = .ok blank ∧
      r.record.size < r.limit ∧
      (∃ result s, t.roll.run r = .ok result s ∧ result.SelectedFrom "Weather" t.entries r s) ∧
      blank.roll.run r = .error (.dieWithoutSides 0) r := by
  intro t blank r
  have ht : ofDie "Weather" "1D3" t.entries = .ok t := rfl
  have hblank : ofDie "Blank" "1d000" #[] = .ok blank := rfl
  have hroom : r.record.size < r.limit := by decide
  exact ⟨ht, hblank, hroom, (roll_of_ofDie ht hroom).2.1 (by decide),
    (roll_of_ofDie hblank hroom).2.2 rfl⟩

/-- Not every table that is set up can be rolled: a die of no sides and no entries agree, and with
room for a draw the roll fails all the same. -/
theorem ofDie_admits_no_entries :
    ∃ t : DiceTable, ofDie "Blank" "1D0" #[] = .ok t ∧
      ∃ r : Roller Replay, r.record.size < r.limit ∧
        t.roll.run r = .error (.dieWithoutSides 0) r :=
  ⟨⟨"Blank", #[]⟩, rfl, { source := { faces := #[1] }, limit := 1 }, by decide, rfl⟩

end

end DiceTable

end ChatDice
