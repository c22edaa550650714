import ChatDice.Proofs.Settings.Group
import ChatDice.Proofs.Settings.Nested
import ChatDice.Proofs.Text.LowerCase

/-!
# ChatDice.Proofs.Settings.Members — members of the dice group

A field of the dice settings is given by members with its name, whatever their capitals. The members
of an object come first, the gathered variables are merged into them, and then all are renamed to
their fields. Renaming keeps the last of several members that become one, so a variable is found
under the name of its field if the object has one member for the field at most
(`Json.last?_mergeMembers`).
-/

namespace ChatDice

open Dictionary

namespace Json

/-! ## Merging -/

/-- A value that is no object stands for itself. -/
theorem merge_of_not_isObject {low : Option Json} {high : Json} (h : ¬high.IsObject) :
    merge low high = high := by
  rw [merge]
  rintro _ members - rfl
  exact h ⟨members, rfl⟩

theorem merge_none (high : Json) : merge none high = high := by
  rw [merge]
  rintro _ _ ⟨⟩

theorem isObject_merge {low : Option Json} {high : Json} (h : high.IsObject) :
    (merge low high).IsObject := by
  obtain ⟨members, rfl⟩ := h
  cases low with
  | none => exact ⟨members, merge_none _⟩
  | some low =>
    cases low with
    | object low => exact ⟨_, by rw [merge]⟩
    | _ => exact ⟨members, by rw [merge]; rintro _ _ ⟨⟩⟩

theorem mergeMembers_cons (low high : Members) (entry : LooseText × Json) :
    mergeMembers low (entry :: high) =
      mergeMembers (low.put entry.1 (merge (low.get? entry.1) entry.2)) high := by
  rw [mergeMembers]

/-- Members of the second object count for more. -/
theorem get?_mergeMembers {high : Members} (hhigh : (keys high).Nodup) (low : Members)
    (key : LooseText) :
    get? (mergeMembers low high) key =
      ((high.get? key).map (merge (low.get? key))).or (low.get? key) := by
  induction high generalizing low with
  | nil => rfl
  | cons entry high ih =>
    obtain ⟨hentry, hrest⟩ := List.nodup_cons.mp hhigh
    rw [mergeMembers_cons, ih hrest, get?_put]
    by_cases hkey : entry.1 = key
    · subst hkey
      rw [get?_eq_none_iff.mpr hentry, if_pos rfl, get?, if_pos rfl]
      rfl
    · rw [if_neg hkey, get?, if_neg hkey]

/-- Members with new names are put behind the others. -/
theorem mergeMembers_of_nodup {low high : Members} (h : (keys (low ++ high)).Nodup) :
    mergeMembers low high = low ++ high := by
  induction high generalizing low with
  | nil => rw [mergeMembers, List.append_nil]
  | cons entry high ih =>
    have hnew : entry.1 ∉ keys low := by
      intro hmem
      rw [keys_append] at h
      exact (List.nodup_append.mp h).2.2 entry.1 hmem entry.1 (by simp) rfl
    have happend : low ++ entry :: high = low ++ [entry] ++ high := by simp
    rw [mergeMembers_cons, get?_eq_none_iff.mpr hnew, merge_none, put_of_not_mem hnew,
      ih (happend ▸ h), happend]

/-- Merging members that do not pass leaves the others. -/
theorem last?_mergeMembers_of_neg {p : LooseText → Bool} {high : Members}
    (h : ∀ key ∈ keys high, p key = false) (low : Members) :
    last? p (mergeMembers low high) = last? p low := by
  induction high generalizing low with
  | nil => rfl
  | cons entry high ih =>
    obtain ⟨hentry, hrest⟩ := List.forall_mem_cons.mp h
    rw [mergeMembers_cons, ih hrest, last?_put_of_neg hentry]

/-- If the second object has one name that passes, its member is the last of those that pass, as
long as the first object has one of them at most. -/
theorem last?_mergeMembers {p : LooseText → Bool} {key : LooseText} (hkey : p key = true)
    {high : Members} (hnodup : (keys high).Nodup) (hhigh : ∀ k ∈ keys high, p k = true → k = key)
    {low : Members} (hlow : (keys low).countP p ≤ 1) :
    last? p (mergeMembers low high) =
      ((high.get? key).map (merge (low.get? key))).or (last? p low) := by
  induction high generalizing low with
  | nil => rfl
  | cons entry high ih =>
    obtain ⟨hentry, hrest⟩ := List.nodup_cons.mp hnodup
    obtain ⟨hfirst, hothers⟩ := List.forall_mem_cons.mp hhigh
    rw [mergeMembers_cons]
    by_cases h : entry.1 = key
    · -- This is the member; those behind it do not pass.
      have hneg : ∀ k ∈ keys high, p k = false := by
        intro k hk
        rw [Bool.eq_false_iff]
        intro hpass
        exact hentry (h.trans (hothers k hk hpass).symm ▸ hk)
      rw [last?_mergeMembers_of_neg hneg, last?_put_of_pos (h ▸ hkey) hlow, get?, if_pos h, h]
      rfl
    · have hneg : p entry.1 = false := Bool.eq_false_iff.mpr fun hpass => h (hfirst hpass)
      have hcount : (keys (low.put entry.1 (merge (low.get? entry.1) entry.2))).countP p ≤ 1 := by
        rwa [countP_keys_put_of_neg hneg]
      rw [ih hrest hothers hcount, get?_put, if_neg h, last?_put_of_neg hneg, get?, if_neg h]

end Json

namespace DiceSettings

/-! ## Names of fields -/

/-- Whether a member is meant for a field: its name is that of the field, whatever its capitals. -/
def isNamed (field : String) (name : LooseText) : Bool :=
  decide (name.text?.map Text.lowerCase = some field)

theorem isPlain_of_mem_fieldNames :
    ∀ field ∈ fieldNames, ∀ w ∈ field.toList, Text.IsPlain w := by
  simp [fieldNames, Text.IsPlain]

theorem lowerCase_fieldName : ∀ field ∈ fieldNames, Text.lowerCase field = field := by
  decide +kernel

/-- The name of a field is one step. -/
theorem stepsAfter_fieldName :
    ∀ field ∈ fieldNames, Variables.stepsAfter [] field.toList = [field] := by
  decide +kernel

/-- Members are renamed to the field that they are meant for. -/
theorem fieldName_eq_iff {field : String} (hfield : field ∈ fieldNames) (name : LooseText) :
    fieldName name = .text field ↔ isNamed field name = true := by
  cases name with
  | broken pieces => simp [fieldName, isNamed, LooseText.text?]
  | text s =>
    simp only [fieldName, isNamed, LooseText.text?, Option.bind_some, Option.map_some,
      decide_eq_true_eq, Option.some.injEq]
    cases hfind : fieldNames.find? (fun f => f == Text.lowerCase s) with
    | some f =>
      have hf : f = Text.lowerCase s := by simpa using List.find?_some hfind
      simp [hf]
    | none =>
      have hnone : ∀ f ∈ fieldNames, f ≠ Text.lowerCase s := by simpa using hfind
      constructor
      · -- The name of a field is its own in small letters, so it would have been found.
        intro h
        obtain rfl : s = field := LooseText.text.inj h
        exact absurd (lowerCase_fieldName s hfield).symm (hnone s hfield)
      · intro h
        exact absurd h.symm (hnone field hfield)

/-- Variables have names in small letters, so only the one with the very name is meant for a
field. -/
theorem eq_of_isNamed {field : String} (hfield : field ∈ fieldNames) {vars : Variables}
    (hvars : ∀ v ∈ vars, ∀ c ∈ v.1.toList, c.toLower = c) (start : String) :
    ∀ key ∈ keys (vars.nested start), isNamed field key = true → key = .text field := by
  intro key hkey hnamed
  obtain ⟨step, rfl, hchars⟩ := Variables.of_mem_keys_nested hvars key hkey
  simp only [isNamed, LooseText.text?, Option.map_some, decide_eq_true_eq,
    Option.some.injEq] at hnamed
  rw [Text.eq_of_lowerCase_eq (isPlain_of_mem_fieldNames field hfield) hchars hnamed]

/-! ## Members of the group -/

/-- The members of the group that a source gives, under the names of their fields. -/
def named (members : Json.Members) (vars : Variables) : Json.Members :=
  mapKeys fieldName (Json.mergeMembers members (vars.nested "dice__"))

/-- What a source gives for a field: the variable of the field, else the member of the object. -/
theorem get?_named {field : String} (hfield : field ∈ fieldNames) {vars : Variables}
    (hvars : ∀ v ∈ vars, ∀ c ∈ v.1.toList, c.toLower = c) {members : Json.Members}
    (hmembers : (keys members).countP (isNamed field) ≤ 1) :
    (named members vars).get? (.text field) =
      (((vars.nested "dice__").get? (.text field)).map
        (Json.merge (members.get? (.text field)))).or (last? (isNamed field) members) := by
  have hpass : isNamed field (.text field) = true :=
    decide_eq_true (congrArg some (lowerCase_fieldName field hfield))
  have htest : (fun key => decide (fieldName key = .text field)) = isNamed field := by
    funext key
    rw [Bool.eq_iff_iff, decide_eq_true_iff, fieldName_eq_iff hfield]
  rw [named, get?_mapKeys, htest]
  exact Json.last?_mergeMembers hpass (Variables.nodup_keys_nested vars "dice__")
    (eq_of_isNamed hfield hvars "dice__") hmembers

end DiceSettings

end ChatDice
