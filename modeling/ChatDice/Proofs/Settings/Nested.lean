import ChatDice.Proofs.Dictionary
import ChatDice.Settings.Variables

/-!
# ChatDice.Proofs.Settings.Nested — texts gathered into an object

A name with steps puts its text into an object of objects. Only two things can be found under the
first step of a path in the end. If there is a variable whose name is that one step, its text is
there, wherever the variable stands among the others: a deeper name that comes before it is written
over, and one that comes behind it leads nowhere. If there is none, an object may be there, or
nothing (`Variables.gathered_nested`).

A variable that has no steps is never found as an object, which is how the two are told apart.
-/

namespace ChatDice

open Dictionary

/-- The value is an object. -/
def Json.IsObject (value : Json) : Prop := ∃ members, value = .object members

instance (value : Json) : Decidable value.IsObject :=
  match value with
  | .object members => isTrue ⟨members, rfl⟩
  | .null | .bool _ | .integer _ | .double _ | .string _ | .array _ =>
    isFalse fun ⟨_, h⟩ => Json.noConfusion h

namespace Variables

/-! ## Steps of names -/

theorem stepsAfter_ne_nil (begun cs : List Char) : stepsAfter begun cs ≠ [] := by
  fun_induction stepsAfter begun cs with
  | case1 => simp
  | case2 _ _ _ _ ih => exact ih
  | case3 => simp

/-- A name of one step is that step. -/
theorem eq_of_stepsAfter {begun cs : List Char} {step : String}
    (h : stepsAfter begun cs = [step]) : step = String.ofList (begun.reverse ++ cs) := by
  fun_induction stepsAfter begun cs with
  | case1 begun rest => exact absurd (List.cons.inj h).2 (stepsAfter_ne_nil [] rest)
  | case2 begun c rest _ ih => simpa using ih h
  | case3 begun => simpa using (List.cons.inj h).1.symm

/-- The steps are made of the characters of the name. -/
theorem mem_of_mem_stepsAfter {begun cs : List Char} {step : String}
    (h : step ∈ stepsAfter begun cs) : ∀ c ∈ step.toList, c ∈ begun ∨ c ∈ cs := by
  fun_induction stepsAfter begun cs with
  | case1 begun rest ih =>
    intro c hc
    rcases List.mem_cons.mp h with rfl | h
    · exact .inl (by simpa using hc)
    · rcases ih h c hc with hmem | hmem
      · cases hmem
      · exact .inr (by simp [hmem])
  | case2 begun d rest _ ih =>
    intro c hc
    rcases ih h c hc with hmem | hmem
    · rcases List.mem_cons.mp hmem with rfl | hmem
      · exact .inr (by simp)
      · exact .inl hmem
    · exact .inr (by simp [hmem])
  | case3 begun =>
    intro c hc
    obtain rfl := List.mem_singleton.mp h
    exact .inl (by simpa using hc)

/-! ## Putting a value at a path -/

theorem putAt_step (members : Json.Members) (value : Json) (step : String) :
    putAt members value [step] = members.put (.text step) value := rfl

/-- Below a step there is an object, unless a plain value is there already. -/
theorem putAt_steps (members : Json.Members) (value : Json) (step : String) {steps : List String}
    (h : steps ≠ []) :
    (∃ inner, putAt members value (step :: steps) = members.put (.text step) (.object inner)) ∧
        (∀ found, members.get? (.text step) = some found → found.IsObject) ∨
      putAt members value (step :: steps) = members ∧
        ∃ found, members.get? (.text step) = some found := by
  rw [putAt]
  · cases hfound : members.get? (.text step) with
    | none => exact .inl ⟨⟨_, rfl⟩, by simp⟩
    | some found =>
      cases found with
      | object inner => exact .inl ⟨⟨_, rfl⟩, by simp [Json.IsObject]⟩
      | _ => exact .inr ⟨rfl, _, rfl⟩
  · exact h

/-! ## Gathering variables -/

/-- The value of a variable; a name without a text has a null. -/
def plain (text : Option String) : Json :=
  (text.map Json.ofText).getD .null

theorem not_isObject_plain (text : Option String) : ¬(plain text).IsObject := by
  rintro ⟨members, h⟩
  cases text <;> cases h

/-- One more variable among the gathered ones. -/
def gather (start : String) (members : Json.Members) (v : String × Option String) : Json.Members :=
  if start.toList.isPrefixOf v.1.toList then
    putAt members (plain v.2) (stepsAfter [] (v.1.toList.drop start.length))
  else members

theorem nested_eq (vars : Variables) (start : String) :
    vars.nested start = vars.foldl (gather start) [] := rfl

theorem nested_concat (vars : Variables) (v : String × Option String) (start : String) :
    nested (vars ++ [v]) start = gather start (vars.nested start) v := by
  rw [nested_eq, List.foldl_concat, nested_eq]

/-- Only variables whose names start in the right way are gathered. -/
theorem nested_filter {start : String} {p : String → Bool}
    (h : ∀ name : String, start.toList.isPrefixOf name.toList = true → p name = true)
    (vars : Variables) : nested (vars.filter fun v => p v.1) start = vars.nested start := by
  rw [nested_eq, nested_eq, List.foldl_filter]
  congr
  funext members v
  by_cases hp : p v.1 = true
  · rw [if_pos hp]
  · have hstart : start.toList.isPrefixOf v.1.toList = false :=
      Bool.eq_false_iff.mpr fun hprefix => hp (h v.1 hprefix)
    rw [if_neg hp, gather, hstart, if_neg Bool.false_ne_true]

/-- What is found under a step once variables have been gathered, by the text of the variable with
that one step: the text, or null for want of one; without such a variable, nothing or an object. -/
inductive Gathered : Option (Option String) → Option Json → Prop
  | given (text : Option String) : Gathered (some text) (some (plain text))
  | absent : Gathered none none
  | below (inner : Json.Members) : Gathered none (some (.object inner))

/-- Where an object is found, or nothing, there is no variable. -/
theorem Gathered.eq_none {text : Option (Option String)} {found : Option Json}
    (h : Gathered text found) (hobject : ∀ value, found = some value → value.IsObject) :
    text = none := by
  cases h with
  | given text =>
    exact absurd (hobject _ rfl) (not_isObject_plain text)
  | absent => rfl
  | below inner => rfl

theorem isPrefixOf_iff {start name : String} :
    start.toList.isPrefixOf name.toList = true ↔ ∃ rest, name = start ++ String.ofList rest := by
  rw [List.isPrefixOf_iff_prefix]
  constructor
  · rintro ⟨rest, hrest⟩
    refine ⟨rest, ?_⟩
    rw [← String.toList_inj, String.toList_append, String.toList_ofList, hrest]
  · rintro ⟨rest, rfl⟩
    exact ⟨rest, by rw [String.toList_append, String.toList_ofList]⟩

/-- One more variable keeps what is found in line with the variables. -/
theorem gathered_gather {vars : Variables} {v : String × Option String} (hv : v.1 ∉ keys vars)
    {start x : String} (hx : stepsAfter [] x.toList = [x]) {members : Json.Members}
    (h : Gathered (vars.get? (start ++ x)) (members.get? (.text x))) :
    Gathered (get? (vars ++ [v]) (start ++ x)) ((gather start members v).get? (.text x)) := by
  have hget : get? (vars ++ [v]) (start ++ x) =
      if v.1 = start ++ x then some v.2 else vars.get? (start ++ x) := by
    rw [← put_of_not_mem hv, get?_put]
  rw [hget, gather]
  by_cases hstart : start.toList.isPrefixOf v.1.toList = true
  · rw [if_pos hstart]
    obtain ⟨rest, hname⟩ := isPrefixOf_iff.mp hstart
    have hdrop : v.1.toList.drop start.length = rest := by
      rw [hname, String.toList_append, String.toList_ofList, ← String.length_toList,
        List.drop_left]
    rw [hdrop]
    by_cases hrest : v.1 = start ++ x
    · -- The variable of the step itself: its text is written over what is there.
      have hsame : rest = x.toList := by
        have hlists := congrArg String.toList (hname.symm.trans hrest)
        rwa [String.toList_append, String.toList_append, String.toList_ofList,
          List.append_cancel_left_eq] at hlists
      have hsteps : stepsAfter [] rest = [x] := hsame ▸ hx
      rw [if_pos hrest, hsteps, putAt_step, get?_put, if_pos rfl]
      exact .given v.2
    · rw [if_neg hrest]
      cases hsteps : stepsAfter [] rest with
      | nil => exact absurd hsteps (stepsAfter_ne_nil [] rest)
      | cons step steps =>
        by_cases hone : steps = []
        · subst hone
          have hne : LooseText.text step ≠ .text x := by
            rintro ⟨⟩
            have hstep := eq_of_stepsAfter hsteps
            rw [List.reverse_nil, List.nil_append] at hstep
            exact hrest (by rw [hname, hstep])
          rw [putAt_step, get?_put, if_neg hne]
          exact h
        · rcases putAt_steps members (plain v.2) step hone with
            ⟨⟨inner, hput⟩, hobject⟩ | ⟨hput, -⟩
          · rw [hput, get?_put]
            by_cases heq : LooseText.text step = .text x
            · rw [if_pos heq, h.eq_none (heq ▸ hobject)]
              exact .below inner
            · rw [if_neg heq]
              exact h
          · rw [hput]
            exact h
  · have hne : v.1 ≠ start ++ x := by
      intro heq
      apply hstart
      rw [isPrefixOf_iff]
      exact ⟨x.toList, by rw [heq, String.ofList_toList]⟩
    rw [if_neg hstart, if_neg hne]
    exact h

/-- What is found under a step among gathered variables. -/
theorem gathered_nested {vars : Variables} (hvars : (keys vars).Nodup) (start : String) {x : String}
    (hx : stepsAfter [] x.toList = [x]) :
    Gathered (vars.get? (start ++ x)) ((vars.nested start).get? (.text x)) := by
  induction vars using List.reverseRecOn with
  | nil => exact .absent
  | append_singleton vars v ih =>
    rw [keys_append] at hvars
    have hnew : v.1 ∉ keys vars := by
      intro hmem
      exact (List.nodup_append.mp hvars).2.2 v.1 hmem v.1 (by simp) rfl
    rw [nested_concat]
    exact gathered_gather hnew hx (ih (List.nodup_append.mp hvars).1)

/-! ## Keys of the gathered object -/

theorem putAt_cases (members : Json.Members) (value : Json) (step : String) (steps : List String) :
    (∃ put, putAt members value (step :: steps) = members.put (.text step) put) ∨
      putAt members value (step :: steps) = members ∧ members ≠ [] := by
  cases steps with
  | nil => exact .inl ⟨value, rfl⟩
  | cons next steps =>
    rcases putAt_steps members value step (List.cons_ne_nil next steps) with
      ⟨⟨inner, hput⟩, -⟩ | ⟨hput, found, hfound⟩
    · exact .inl ⟨_, hput⟩
    · refine .inr ⟨hput, ?_⟩
      rintro rfl
      cases hfound

/-- What one more variable does: it writes its first step, or leaves what is there. -/
theorem gather_cases (start : String) (members : Json.Members) (v : String × Option String) :
    start.toList.isPrefixOf v.1.toList = true ∧
        ((∃ step value, gather start members v = members.put (.text step) value ∧
          ∀ c ∈ step.toList, c ∈ v.1.toList) ∨
          gather start members v = members ∧ members ≠ []) ∨
      start.toList.isPrefixOf v.1.toList = false ∧ gather start members v = members := by
  by_cases hstart : start.toList.isPrefixOf v.1.toList = true
  · left
    refine ⟨hstart, ?_⟩
    rw [gather, if_pos hstart]
    cases hsteps : stepsAfter [] (v.1.toList.drop start.length) with
    | nil => exact absurd hsteps (stepsAfter_ne_nil [] _)
    | cons step steps =>
      rcases putAt_cases members (plain v.2) step steps with
        ⟨value, hput⟩ | hkept
      · refine .inl ⟨step, value, hput, ?_⟩
        intro c hc
        have hstep : step ∈ stepsAfter [] (v.1.toList.drop start.length) := by simp [hsteps]
        rcases mem_of_mem_stepsAfter hstep c hc with hmem | hmem
        · cases hmem
        · exact List.mem_of_mem_drop hmem
      · exact .inr hkept
  · right
    rw [Bool.not_eq_true] at hstart
    exact ⟨hstart, by rw [gather, hstart, if_neg Bool.false_ne_true]⟩

theorem nodup_keys_nested (vars : Variables) (start : String) :
    (keys (vars.nested start)).Nodup := by
  induction vars using List.reverseRecOn with
  | nil => exact List.nodup_nil
  | append_singleton vars v ih =>
    rw [nested_concat]
    rcases gather_cases start (nested vars start) v with
      ⟨-, ⟨step, value, hput, -⟩ | ⟨hkept, -⟩⟩ | ⟨-, hkept⟩
    · rw [hput]
      exact nodup_keys_put ih _ _
    · rwa [hkept]
    · rwa [hkept]

/-- The members of the gathered object are texts, made of the characters of the variables' names. -/
theorem of_mem_keys_nested {vars : Variables} {start : String} {P : Char → Prop}
    (hvars : ∀ v ∈ vars, ∀ c ∈ v.1.toList, P c) :
    ∀ key ∈ keys (vars.nested start),
      ∃ step : String, key = .text step ∧ ∀ c ∈ step.toList, P c := by
  induction vars using List.reverseRecOn with
  | nil => simp [nested]
  | append_singleton vars v ih =>
    have hrest := ih fun w hw => hvars w (List.mem_append_left [v] hw)
    rw [nested_concat]
    rcases gather_cases start (nested vars start) v with
      ⟨-, ⟨step, value, hput, hchars⟩ | ⟨hkept, -⟩⟩ | ⟨-, hkept⟩
    · rw [hput]
      intro key hkey
      rcases mem_keys_put.mp hkey with hold | rfl
      · exact hrest key hold
      · exact ⟨step, rfl, fun c hc => hvars v (by simp) c (hchars c hc)⟩
    · rwa [hkept]
    · rwa [hkept]

/-- Something is gathered if there is a variable whose name starts in the right way. -/
theorem nested_eq_nil_iff {vars : Variables} {start : String} :
    vars.nested start = [] ↔ ∀ v ∈ vars, start.toList.isPrefixOf v.1.toList = false := by
  induction vars using List.reverseRecOn with
  | nil => simp [nested]
  | append_singleton vars v ih =>
    rw [nested_concat, List.forall_mem_append, List.forall_mem_singleton, ← ih]
    rcases gather_cases start (nested vars start) v with
      ⟨hstart, ⟨step, value, hput, -⟩ | ⟨hkept, hne⟩⟩ | ⟨hstart, hkept⟩
    · simp [hput, hstart, put_ne_nil]
    · simp [hkept, hne]
    · simp [hkept, hstart]

end Variables

end ChatDice
