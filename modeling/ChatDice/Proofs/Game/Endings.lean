import ChatDice.Proofs.Game.Check
import ChatDice.Proofs.Game.Session

/-!
# ChatDice.Proofs.Game.Endings — how commands end

A command of the game ends in one of four ways: it has no answer, it has one, it states a number
that is too large, or it asks for more dice than the limit allows. Which way it is can be said from
the command and the limit, number by number in the order in which the program looks at them
(`CommandForm.ending`); the faces and the commands before have no part in it.

The proof goes through plans. `Plan.Ends` says that a plan has one ending and cannot go wrong
otherwise: all it refuses are numbers, and it makes something of any faces that its dice can show.
Every notation of the game has a lemma that its plan ends as the notation says.
-/

namespace ChatDice

/-- The ways in which the evaluation of a command ends. -/
inductive Ending where
  /-- There is no answer: the text is no command of the game, or one for no dice. -/
  | unhandled
  /-- There is a result, with so many draws. -/
  | answered (dice : Nat)
  /-- A number in the command has so many significant digits, and that is too many. -/
  | numberTooLarge (digits : Nat)
  /-- The command asks for more dice than the limit allows. -/
  | overLimit
deriving DecidableEq, Repr

namespace Ending

/-- An evaluation ends this way. Of the two faults, the text tells which one it is. -/
def Fits {σ : Type} (limit : Nat)
    (result : EStateM.Result Fault (Roller σ) (Option CommandResult)) : Ending → Prop
  | unhandled => ∃ r, result = .ok none r
  | answered dice => ∃ answer r, result = .ok (some answer) r ∧ answer.draws.length = dice
  | numberTooLarge digits =>
    ∃ fault r, result = .error fault r ∧ fault.isExcess = true ∧
      fault.message = "Number too large in command (" ++ toString digits ++ " digits)"
  | overLimit =>
    ∃ fault r, result = .error fault r ∧ fault.isExcess = true ∧
      fault.message = "Too many dice rolled in one command (limit " ++ toString limit ++ ")"

/-! ## Endings exclude each other -/

theorem digits_eq_of_message {m n : Nat}
    (h : (Fault.numberTooLarge m).message =
      "Number too large in command (" ++ toString n ++ " digits)") : m = n := by
  have htext : "Number too large in command (" ++ toString m ++ " digits)" =
      "Number too large in command (" ++ toString n ++ " digits)" := h
  have hlist := congrArg String.toList htext
  simp only [String.toList_append, List.append_cancel_right_eq, List.append_cancel_left_eq] at hlist
  rw [← numeralValue_toString m, hlist, numeralValue_toString]

theorem message_numberTooLarge_ne {m n : Nat} :
    (Fault.numberTooLarge m).message ≠
      "Too many dice rolled in one command (limit " ++ toString n ++ ")" := by
  intro h
  have htext : "Number too large in command (" ++ toString m ++ " digits)" =
      "Too many dice rolled in one command (limit " ++ toString n ++ ")" := h
  have hlist := congrArg (fun s => s.toList.head?) htext
  simp at hlist

theorem message_drawLimit_ne {m n : Nat} :
    (Fault.drawLimit m).message ≠
      "Number too large in command (" ++ toString n ++ " digits)" := by
  intro h
  have htext : "Too many dice rolled in one command (limit " ++ toString m ++ ")" =
      "Number too large in command (" ++ toString n ++ " digits)" := h
  have hlist := congrArg (fun s => s.toList.head?) htext
  simp at hlist

section
variable {σ : Type} {limit : Nat} {e e' : Ending}

theorem eq_of_fits_none {r : Roller σ} (h : e.Fits limit (.ok none r)) : e = unhandled := by
  cases e with
  | unhandled => rfl
  | answered dice => simp [Fits] at h
  | numberTooLarge digits => simp [Fits] at h
  | overLimit => simp [Fits] at h

theorem eq_of_fits_some {answer : CommandResult} {r : Roller σ}
    (h : e.Fits limit (.ok (some answer) r)) : e = answered answer.draws.length := by
  cases e with
  | unhandled => simp [Fits] at h
  | answered dice =>
    obtain ⟨answer', r', heq, hdice⟩ := h
    cases heq
    rw [hdice]
  | numberTooLarge digits => simp [Fits] at h
  | overLimit => simp [Fits] at h

/-- The text of a fault says which ending it is. -/
theorem eq_of_fits_error {fault : Fault} {r : Roller σ} (h : e.Fits limit (.error fault r)) :
    (∃ n, fault = .numberTooLarge n ∧ e = numberTooLarge n) ∨
      (∃ n, fault = .drawLimit n) ∧ e = overLimit := by
  cases e with
  | unhandled => simp [Fits] at h
  | answered dice => simp [Fits] at h
  | numberTooLarge digits =>
    obtain ⟨fault', r', heq, hexcess, hmessage⟩ := h
    cases heq
    cases fault with
    | numberTooLarge n => exact .inl ⟨n, rfl, by rw [digits_eq_of_message hmessage]⟩
    | drawLimit n => exact absurd hmessage message_drawLimit_ne
    | _ => simp [Fault.isExcess] at hexcess
  | overLimit =>
    obtain ⟨fault', r', heq, hexcess, hmessage⟩ := h
    cases heq
    cases fault with
    | numberTooLarge n => exact absurd hmessage message_numberTooLarge_ne
    | drawLimit n => exact .inr ⟨⟨n, rfl⟩, rfl⟩
    | _ => simp [Fault.isExcess] at hexcess

/-- No evaluation ends in two ways. -/
theorem Fits.unique {result : EStateM.Result Fault (Roller σ) (Option CommandResult)}
    (h : e.Fits limit result) (h' : e'.Fits limit result) : e = e' := by
  cases result with
  | ok answer r =>
    cases answer with
    | none => rw [eq_of_fits_none h, eq_of_fits_none h']
    | some answer => rw [eq_of_fits_some h, eq_of_fits_some h']
  | error fault r =>
    rcases eq_of_fits_error h with ⟨n, rfl, rfl⟩ | ⟨⟨n, rfl⟩, rfl⟩
    · rcases eq_of_fits_error h' with ⟨n', hn, rfl⟩ | ⟨⟨n', hn⟩, -⟩
      · rw [Fault.numberTooLarge.inj hn]
      · cases hn
    · rcases eq_of_fits_error h' with ⟨n', hn, -⟩ | ⟨-, rfl⟩
      · cases hn
      · rfl

end

/-- Log records do not show in an ending. -/
theorem fits_withoutLog {σ : Type} {limit : Nat} {e : Ending}
    {result : EStateM.Result Fault (Roller σ) (Option CommandResult)} :
    e.Fits limit (withoutLog result) ↔ e.Fits limit result := by
  cases result <;> cases e <;> simp [Fits, withoutLog]

/-! ## Endings of numbers and dice -/

/-- So many dice are thrown, or there are too many of them. -/
def ofDice (limit n : Nat) : Ending :=
  if limit < n then overLimit else answered n

/-- A number in the command is too large, or it is read and the command goes on. -/
def ofNumeral (digits : List Char) (next : Nat → Ending) : Ending :=
  if 18 < significantCount digits then numberTooLarge (significantCount digits)
  else next (numeralValue digits)

/-- A number is refused, and that is the ending, or it is read and the ending is that of the
rest. -/
theorem ofNumeral_cases (digits : List Char) (next : Nat → Ending) :
    (readNumber digits = .error (.numberTooLarge (significantCount digits)) ∧
        ofNumeral digits next = numberTooLarge (significantCount digits)) ∨
      significantCount digits ≤ maxDigits ∧ readNumber digits = .ok (numeralValue digits) ∧
        ofNumeral digits next = next (numeralValue digits) := by
  rcases Nat.lt_or_ge maxDigits (significantCount digits) with hlarge | hshort
  · exact .inl ⟨readNumber_of_lt hlarge, if_pos hlarge⟩
  · exact .inr ⟨hshort, readNumber_of_le hshort, if_neg (Nat.not_lt.mpr hshort)⟩

end Ending

/-! ## Endings of plans -/

namespace Plan

/-- A plan ends this way whatever the faces are, and in no other. -/
inductive Ends {α : Type} (limit : Nat) : Plan α → Ending → Prop
  | pass : Ends limit .pass .unhandled
  | refuse (digits : Nat) : Ends limit (.refuse (.numberTooLarge digits)) (.numberTooLarge digits)
  | throwing {dice : List Nat} {account : List Nat → Except Fault α}
      (haccount : ∀ draws : List Draw, draws.map Draw.sides = dice →
        (∀ d ∈ draws, 1 ≤ d.face ∧ d.face ≤ d.sides) → ∃ a, account (draws.map Draw.face) = .ok a) :
      Ends limit (.throwing dice account) (.ofDice limit dice.length)

section
variable {α β : Type} {limit : Nat}

theorem Ends.map {p : Plan α} {e : Ending} (h : Ends limit p e) (f : α → β) :
    Ends limit (p.map f) e := by
  cases h with
  | pass => exact .pass
  | refuse digits => exact .refuse digits
  | throwing haccount =>
    apply Ends.throwing
    intro draws hsides hfaces
    obtain ⟨a, ha⟩ := haccount draws hsides hfaces
    exact ⟨f a, by rw [ha]; rfl⟩

theorem Ends.unique {p : Plan α} {e e' : Ending} (h : Ends limit p e) (h' : Ends limit p e') :
    e = e' := by
  cases h <;> cases h' <;> rfl

/-- So many six-sided dice, with an account of any faces. -/
theorem ends_sixes {n : Nat} (make : List Nat → α) :
    Ends limit (.throwing (List.replicate n 6) fun faces => .ok (make faces))
      (.ofDice limit n) := by
  have hends : Ends limit (.throwing (List.replicate n 6) fun faces => .ok (make faces))
      (.ofDice limit (List.replicate n 6).length) :=
    .throwing fun draws _ _ => ⟨make (draws.map Draw.face), rfl⟩
  rwa [List.length_replicate] at hends

end

/-- Carrying a plan out ends the way the plan does. -/
theorem Ends.fits_carryOut {σ : Type} [DieSource σ] [LawfulDieSource σ]
    {p : Plan (String × Bool)} {e : Ending} {r : Roller σ} (h : Ends r.limit p e)
    (hp : p.Throwable) : e.Fits r.limit (GameSystem.carryOut p r) := by
  cases h with
  | pass => exact ⟨r.cleared, rfl⟩
  | refuse digits => exact ⟨_, _, rfl, rfl, rfl⟩
  | @throwing dice account haccount =>
    unfold Ending.ofDice GameSystem.carryOut
    rcases Nat.lt_or_ge r.limit dice.length with hroom | hroom
    · have hnone : r.cleared.room < dice.length := hroom
      rw [if_pos hroom, result_of_lt hnone]
      exact ⟨_, _, rfl, rfl, rfl⟩
    · obtain ⟨a, ha⟩ := haccount (DieSource.draws dice r.source)
        (DieSource.map_sides_draws dice r.source)
        (fun d hd => DieSource.face_mem_of_mem_draws hp hd)
      have hfaces : account (DieSource.faces dice r.cleared.source) = .ok a := ha
      rw [if_neg (by omega), result_of_le hroom, hfaces]
      refine ⟨_, _, rfl, ?_⟩
      simp

end Plan

/-! ## Endings of notations -/

namespace Ending

/-- A check reads its number of dice, then its target; of no dice it reads nothing more. -/
def ofCheck (limit : Nat) (count : List Char) (target : Option (List Char)) : Ending :=
  ofNumeral count fun n =>
    if n = 0 then unhandled
    else
      match target with
      | none => ofDice limit n
      | some digits => ofNumeral digits fun _ => ofDice limit n

/-- A roll reads its target behind all groups. -/
def ofComparison (limit total : Nat) : Option ComparisonForm → Ending
  | none => ofDice limit total
  | some c => ofNumeral c.target fun _ => ofDice limit total

/-- A roll reads its groups from left to right, each with its dice before their sides, and nothing
behind a group that is empty. So many dice stand in front of the groups. -/
def ofGroups (limit : Nat) (comparison : Option ComparisonForm) : Nat → List GroupForm → Ending
  | total, [] => ofComparison limit total comparison
  | total, g :: groups =>
    ofNumeral g.times fun times =>
      ofNumeral g.sides fun sides =>
        if times = 0 ∨ sides = 0 then unhandled
        else ofGroups limit comparison (total + times) groups

end Ending

section
variable {limit : Nat}

theorem DiceTable.plan_ends {t : DiceTable} (ht : t.sides ≠ 0) :
    t.plan.Ends limit (.ofDice limit 1) := by
  rw [plan, if_neg ht]
  apply Plan.Ends.throwing
  intro draws hsides hfaces
  obtain ⟨d, rest, rfl⟩ : ∃ d rest, draws = d :: rest := by
    cases draws with
    | nil => simp at hsides
    | cons d rest => exact ⟨d, rest, rfl⟩
  simp only [List.map_cons, List.cons.injEq] at hsides
  obtain ⟨hlow, hhigh⟩ := hfaces d (by simp)
  -- A face of the table's die is never behind the last entry.
  have hindex : d.face - 1 < t.entries.size := by
    have hsize : d.sides = t.entries.size := hsides.1
    omega
  rw [List.map_cons, List.headD_cons, entryFor, Array.getElem?_eq_getElem hindex]
  exact ⟨_, rfl⟩

theorem Check.plan_ends {c : Check} (hcount : c.count < 10 ^ maxDigits) :
    c.plan.Ends limit (.ofDice limit c.count) := by
  rw [plan_eq hcount]
  exact Plan.ends_sixes _

/-- A check cannot fail but for its numbers: its difficulty is known, and its own roll is one. -/
theorem CheckForm.reading_ends (f : CheckForm) :
    (match f.reading with
      | .ok (.check c) => c.plan
      | .ok _ => .pass
      | .error fault => .refuse fault).Ends limit (.ofCheck limit f.count f.target) := by
  rw [reading, Ending.ofCheck]
  rcases Ending.ofNumeral_cases f.count _ with ⟨hread, hending⟩ | ⟨hshort, hread, hending⟩
  · rw [hread, hending]
    exact .refuse _
  have hsize := (significantCount_le_iff f.count_isNumeral.2).mp hshort
  rw [hread, hending]
  simp only [bind, Except.bind]
  by_cases hpos : 0 < numeralValue f.count
  · rw [dif_pos hpos, if_neg (by omega)]
    cases f.target with
    | none => exact Check.plan_ends hsize
    | some digits =>
      simp only [Option.mapM_some]
      rcases Ending.ofNumeral_cases digits _ with ⟨hread, hending⟩ | ⟨-, hread, hending⟩
      · rw [hread, hending]
        exact .refuse _
      · rw [hread, hending]
        exact Check.plan_ends hsize
  · rw [dif_neg hpos, if_pos (by omega)]
    exact .pass

theorem SuccessRoll.plan_ends (n threshold : Nat) :
    (plan n threshold).Ends limit (if n = 0 then .unhandled else .ofDice limit n) := by
  unfold plan
  split
  · exact .pass
  · exact Plan.ends_sixes _

namespace BRoll

theorem length_dice (r : BRoll) : r.dice.length = (r.groups.map DiceGroup.times).sum := by
  have htimes : (fun g : DiceGroup => g.dice.length) = DiceGroup.times := by
    funext g
    simp [DiceGroup.dice]
  rw [dice, List.length_flatMap, htimes]

/-- The plan behind the groups of a roll. -/
def planOf (comparison : Option (CompareOp × List Char)) (fallback : Option Fallback)
    (groups : List DiceGroup) : Plan RollReport :=
  match readTarget comparison with
  | .error fault => .refuse fault
  | .ok comparison => .throwing (dice ⟨groups, comparison⟩) (account ⟨groups, comparison⟩ fallback)

theorem plan_form (f : BRollForm) (fallback : Option Fallback) :
    plan (String.ofList f.text) fallback =
      match readGroups (f.groups.map GroupForm.parts) with
      | .error fault => .refuse fault
      | .ok (.error _) => .pass
      | .ok (.ok groups) => planOf (f.comparison.map ComparisonForm.parts) fallback groups := by
  rw [plan, String.toList_ofList, read_text]
  simp only [planOf]
  cases readGroups (f.groups.map GroupForm.parts) with
  | error fault => rfl
  | ok groups =>
    cases groups with
    | error group => rfl
    | ok groups => cases readTarget (f.comparison.map ComparisonForm.parts) <;> rfl

/-- Every fallback of these is a comparison, and its target can be written. -/
def FallbackFit (fallback : Option Fallback) : Prop :=
  ∀ f ∈ fallback, ∃ c, f.comparison = .ok c ∧ ChatDice.Writable c.target

/-- With a fallback that fits, a roll has an account of all faces. -/
theorem exists_account {r : BRoll} (hr : r.Writable) {fallback : Option Fallback}
    (hfallback : FallbackFit fallback) (faces : List Nat) :
    ∃ report, r.account fallback faces = .ok report := by
  obtain ⟨judged, hjudged, hwritable⟩ :
      ∃ judged, r.withFallback fallback = .ok judged ∧ judged.Writable := by
    cases hstated : r.comparison with
    | some c => exact ⟨r, by simp only [withFallback, hstated], hr⟩
    | none =>
      cases fallback with
      | none => exact ⟨r, by simp only [withFallback, hstated], hr⟩
      | some f =>
        obtain ⟨c, hc, htarget⟩ := hfallback f rfl
        refine ⟨{ r with comparison := some c }, by simp only [withFallback, hstated, hc]; rfl, ?_⟩
        rintro d ⟨⟩
        exact htarget
  refine ⟨judged.writtenReport (deal r.groups faces), ?_⟩
  rw [account, hjudged]
  exact report_of_writable hwritable _

/-- Behind the groups there is one number left, the target; a fallback that fits makes something of
all faces. -/
theorem planOf_ends {fallback : Option Fallback} (hfallback : FallbackFit fallback)
    (comparison : Option ComparisonForm) (groups : List DiceGroup) :
    (planOf (comparison.map ComparisonForm.parts) fallback groups).Ends limit
      (.ofComparison limit (groups.map DiceGroup.times).sum comparison) := by
  have hthrow : ∀ stated : Option Comparison, (∀ c ∈ stated, ChatDice.Writable c.target) →
      (Plan.throwing (dice ⟨groups, stated⟩) (account ⟨groups, stated⟩ fallback)).Ends limit
        (.ofDice limit (groups.map DiceGroup.times).sum) := by
    intro stated hstated
    rw [← length_dice ⟨groups, stated⟩]
    exact .throwing fun draws _ _ => exists_account (r := ⟨groups, stated⟩) hstated hfallback _
  cases comparison with
  | none => exact hthrow none nofun
  | some c =>
    rw [Option.map_some, ComparisonForm.parts, planOf, readTarget, Ending.ofComparison]
    rcases Ending.ofNumeral_cases c.target _ with ⟨hread, hending⟩ | ⟨-, hread, hending⟩
    · rw [hread, hending]
      exact .refuse _
    · have hwritable := writable_of_lt (lt_of_readNumber c.target_isNumeral.2 hread)
      rw [hread, hending]
      apply hthrow (some ⟨c.op, numeralValue c.target⟩)
      rintro d ⟨⟩
      exact hwritable

/-- The groups that are read in front of the others count with their dice. -/
theorem ends_readGroups {fallback : Option Fallback} (hfallback : FallbackFit fallback)
    (comparison : Option ComparisonForm) (forms : List GroupForm) (front : List DiceGroup) :
    (match readGroups (forms.map GroupForm.parts) with
      | .error fault => Plan.refuse fault
      | .ok (.error _) => .pass
      | .ok (.ok groups) =>
        planOf (comparison.map ComparisonForm.parts) fallback (front ++ groups)).Ends limit
      (.ofGroups limit comparison (front.map DiceGroup.times).sum forms) := by
  -- The groups that were read move to the front one by one; each adds its dice to the total.
  induction forms generalizing front with
  | nil =>
    simp only [List.map_nil, readGroups, List.append_nil, Ending.ofGroups]
    exact planOf_ends hfallback comparison front
  | cons g forms ih =>
    rw [List.map_cons, readGroups_cons, Ending.ofGroups, GroupForm.parts]
    simp only
    rcases Ending.ofNumeral_cases g.times _ with ⟨hread, hending⟩ | ⟨-, hread, hending⟩
    · rw [hread, hending]
      exact .refuse _
    rw [hread, hending]
    simp only
    rcases Ending.ofNumeral_cases g.sides _ with ⟨hread', hending'⟩ | ⟨-, hread', hending'⟩
    · rw [hread', hending']
      exact .refuse _
    rw [hread', hending']
    simp only
    by_cases hempty : numeralValue g.times = 0 ∨ numeralValue g.sides = 0
    · rw [if_pos hempty, if_pos hempty]
      exact .pass
    · rw [if_neg hempty, if_neg hempty]
      have hrest := ih (front ++ [⟨numeralValue g.times, numeralValue g.sides⟩])
      simp only [List.append_assoc, List.singleton_append, List.map_append, List.map_cons,
        List.map_nil, List.sum_append, List.sum_cons, List.sum_nil, Nat.add_zero] at hrest
      cases hread : readGroups (forms.map GroupForm.parts) with
      | error fault =>
        rw [hread] at hrest
        exact hrest
      | ok groups =>
        rw [hread] at hrest
        cases groups <;> exact hrest

theorem plan_form_ends {fallback : Option Fallback} (hfallback : FallbackFit fallback)
    (f : BRollForm) :
    (plan (String.ofList f.text) fallback).Ends limit
      (.ofGroups limit f.comparison 0 f.groups) := by
  rw [plan_form]
  exact ends_readGroups hfallback f.comparison f.groups []

end BRoll

end

/-! ## Endings of commands -/

namespace NinjaSlayer

/-- How a command of the game ends. -/
def CommandForm.ending (limit : Nat) : CommandForm → Ending
  | normalCheck f => .ofCheck limit f.count none
  | check f => .ofCheck limit f.count f.target
  | table => .answered 1
  | roll f => .ofGroups limit f.comparison 0 f.groups

/-- What a command asks for ends the way its numbers say. -/
theorem CommandForm.plan_ends {limit : Nat} (hlimit : 1 ≤ limit) (form : CommandForm) :
    form.plan.Ends limit (form.ending limit) := by
  cases form with
  | normalCheck f =>
    rw [ending, Ending.ofCheck, plan]
    rcases Ending.ofNumeral_cases f.count _ with ⟨hread, hending⟩ | ⟨-, hread, hending⟩
    · rw [hread, hending]
      exact .refuse _
    · rw [hread, hending]
      exact (SuccessRoll.plan_ends _ _).map _
  | check f => exact f.reading_ends
  | table =>
    have hends : satsubatsuTable.plan.Ends limit (.ofDice limit 1) :=
      DiceTable.plan_ends (by decide)
    rwa [Ending.ofDice, if_neg (by omega)] at hends
  | roll f =>
    have hfallback : BRoll.FallbackFit system.fallback? := by
      intro g hg
      cases hg
      exact ⟨_, rfl, writable_of_lt (by decide)⟩
    exact (BRoll.plan_form_ends hfallback f).map _

/-- A text that is a command, with the flag or without, is let through and ends like the command. -/
theorem CommandForm.ends_of_text {limit : Nat} (hlimit : 1 ≤ limit) {form : CommandForm}
    {command : String}
    (h : (Text.trim command).toList = form.text ∨ (Text.trim command).toList = 'S' :: form.text) :
    (system.plan (Text.trim command)).Ends limit (form.ending limit) ∧
      system.passes command = true := by
  have hends := form.plan_ends hlimit
  obtain ⟨hstart, hflagged⟩ := form.start?_isSome
  rcases h with h | h
  · have htext : Text.trim command = String.ofList form.text := by
      rw [← h, String.ofList_toList]
    rw [GameSystem.passes, htext, plan_text]
    exact ⟨hends.map _, hstart⟩
  · have htext : Text.trim command = String.ofList ('S' :: form.text) := by
      rw [← h, String.ofList_toList]
    rw [GameSystem.passes, htext, plan_flagged_text]
    exact ⟨hends.map _, hflagged⟩

/-- Every text has an ending, and what is no command is unhandled. -/
theorem exists_ends {limit : Nat} (hlimit : 1 ≤ limit) (command : String) :
    ∃ ending : Ending, (system.plan (Text.trim command)).Ends limit ending ∧
      (system.passes command = true ∨ ending = .unhandled) ∧
      ((∀ form : CommandForm,
        (Text.trim command).toList ≠ form.text ∧ (Text.trim command).toList ≠ 'S' :: form.text) →
        ending = .unhandled) := by
  by_cases hform : ∃ form : CommandForm,
      (Text.trim command).toList = form.text ∨ (Text.trim command).toList = 'S' :: form.text
  · obtain ⟨form, hform⟩ := hform
    obtain ⟨hends, hpasses⟩ := CommandForm.ends_of_text hlimit hform
    refine ⟨form.ending limit, hends, .inl hpasses, ?_⟩
    intro hnone
    rcases hform with h | h
    · exact absurd h (hnone form).1
    · exact absurd h (hnone form).2
  · -- The gate may let such a text through, but there is nothing behind it.
    have hplan : system.plan (Text.trim command) = .pass := by
      apply CommandForm.plan_of_no_form
      intro form
      exact ⟨fun h => hform ⟨form, .inl h⟩, fun h => hform ⟨form, .inr h⟩⟩
    rw [hplan]
    exact ⟨.unhandled, .pass, .inr rfl, fun _ => rfl⟩

theorem fits_eval {σ : Type} [DieSource σ] [LawfulDieSource σ] {r : Roller σ} {e : Ending}
    {command : String} (hends : (system.plan (Text.trim command)).Ends r.limit e)
    (hgate : system.passes command = true ∨ e = .unhandled) :
    e.Fits r.limit ((system.eval command).run r) := by
  have houtcome : withoutLog ((system.eval command).run r) = _ := system.outcome_eval command r
  rw [← Ending.fits_withoutLog, houtcome]
  by_cases hstart : (system.start? (Text.trim command)).isSome = true
  · rw [if_pos hstart, Ending.fits_withoutLog]
    exact hends.fits_carryOut (system.plan_throwable _)
  · rw [if_neg hstart]
    rcases hgate with hpasses | rfl
    · exact absurd hpasses hstart
    · exact ⟨r.unlogged, rfl⟩

/-- Every command ends in exactly one way, and which one it is follows from its text and the limit:
it is the same for all sources, for all faces that they show, and behind every session. A text that
is a command, with the flag or without, ends as its numbers say; any other has no answer. -/
theorem eval_ending {limit : Int} (hlimit : 1 ≤ limit) (command : String) :
    ∃ ending : Ending,
      (∀ (σ : Type) [DieSource σ] [LawfulDieSource σ] (source : σ) (start : Roller σ),
        Roller.ofSource source limit = .ok start →
        ∀ (history : List String) (e : Ending),
          e.Fits limit.toNat ((system.eval command).run (system.session start history)) ↔
            e = ending) ∧
      (∀ form : CommandForm,
        (Text.trim command).toList = form.text ∨ (Text.trim command).toList = 'S' :: form.text →
        ending = form.ending limit.toNat) ∧
      ((∀ form : CommandForm,
        (Text.trim command).toList ≠ form.text ∧ (Text.trim command).toList ≠ 'S' :: form.text) →
        ending = .unhandled) := by
  have hpos : 1 ≤ limit.toNat := by omega
  obtain ⟨ending, hends, hgate, hforms⟩ := exists_ends hpos command
  refine ⟨ending, ?_, ?_, hforms⟩
  · intro σ _ _ source start hstart history e
    obtain ⟨-, hstartLimit, -, -⟩ := Roller.of_ofSource hstart
    have hsession : (system.session start history).limit = limit.toNat := by
      rw [GameSystem.limit_session]
      omega
    have hfits : ending.Fits limit.toNat
        ((system.eval command).run (system.session start history)) := by
      rw [← hsession] at hends ⊢
      exact fits_eval hends hgate
    constructor
    · intro he
      exact he.unique hfits
    · rintro rfl
      exact hfits
  · intro form hform
    exact hends.unique (CommandForm.ends_of_text hpos hform).1

/-- A secret evasion with a die too many, behind a table roll and a command at the limit. -/
theorem eval_ending_over_limit :
    let start : Roller Replay := { source := { faces := #[4] }, limit := 2 }
    Roller.ofSource start.source 2 = .ok start ∧
      Ending.overLimit.Fits 2
        ((system.eval " SEV03/00 ").run (system.session start ["SB", "NJ9"])) := by
  intro start
  have hstart : Roller.ofSource start.source 2 = .ok start := rfl
  have hcount : IsNumeral ['0', '3'] := by decide
  have htarget : IsNumeral ['0', '0'] := by decide
  let form : CommandForm := .check
    ⟨.ev, ['0', '3'], [], .normal, some ['0', '0'], hcount, .absent, by simpa using htarget,
      by simp⟩
  have hform : (Text.trim " SEV03/00 ").toList = 'S' :: form.text := by
    show _ = "SEV03/00".toList
    decide
  have hover : form.ending 2 = .overLimit := by
    show Ending.ofCheck 2 ['0', '3'] (some ['0', '0']) = .overLimit
    decide
  obtain ⟨ending, hfits, hforms, -⟩ := eval_ending (show (1 : Int) ≤ 2 by decide) " SEV03/00 "
  have hending : ending = .overLimit := by
    rw [hforms form (.inr hform)]
    exact hover
  refine ⟨hstart, ?_⟩
  exact (hfits Replay start.source start hstart ["SB", "NJ9"] .overLimit).mpr hending.symm

end NinjaSlayer

end ChatDice
