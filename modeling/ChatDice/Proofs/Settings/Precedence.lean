import ChatDice.Proofs.Settings.Members
import ChatDice.Settings.Cache

/-!
# ChatDice.Proofs.Settings.Precedence — which text a field of the dice settings has

Each field of the dice settings has the first value that is given for it by

* the variable `DICE__X` of the environment,
* the member `X` of the object that the environment has under `DICE`,
* the variable `DICE__X` of the file,
* the variable `DICE_X` of the environment,

and else its default, whatever is given for the other fields (`SettingsWorld.load_dice`).
`DiceSources.given` is that value, said of the sources themselves. The settings get there on one of
two ways: if a source gives the group, the members of both sources are merged and the group is
checked as a member of the settings; if none does, the dice settings are loaded by themselves. Both
ways read the same members, since a group that is not given has none (`Settings.group?_eq`).

Two things can come in between. Variables that lie below a field, as `DICE__X__Y` does, put an
object where the field is looked for; no field takes an object, so the settings do not load
(`Resolves.of_above`). And an object may have two members for one field that differ in their
capitals. Then the last one counts, even before the variable of the field, so members of one field
are taken to be single.
-/

namespace ChatDice

open Dictionary

/-! ## Variables -/

/-- The text of a name in small letters, whatever its capitals are in the environment; of several
the last one. -/
def Environment.textOf? (env : Environment) (name : String) : Option String :=
  last? (fun key => decide (Text.lowerCase key = name)) env

namespace Variables

/-- No name comes twice, and no name has an ASCII capital. -/
structure WellNamed (vars : Variables) : Prop where
  nodup : (keys vars).Nodup
  small : ∀ v ∈ vars, ∀ c ∈ v.1.toList, c.toLower = c

theorem wellNamed_ofNamed (named : Dictionary String (Option String)) :
    (ofNamed named).WellNamed where
  nodup := nodup_keys_mapKeys Text.lowerCase named
  small := by
    intro v hv
    have hmem : v.1 ∈ keys (mapKeys Text.lowerCase named) := List.mem_map_of_mem hv
    obtain ⟨name, -, hname⟩ := mem_keys_mapKeys.mp hmem
    rw [← hname]
    exact fun c hc => Text.toLower_of_mem_lowerCase hc

theorem get?_ofEnvironment {env : Environment}
    (henv : (env.map fun v => Text.lowerCase v.1).Nodup) (name : String) :
    get? (ofEnvironment env) name = (env.textOf? name).map some := by
  have hkeys : (keys env).Nodup := by
    apply List.Nodup.of_map Text.lowerCase
    rwa [keys, List.map_map]
  rw [ofEnvironment, ofNamed, get?_mapKeys, ofEntries_of_nodup hkeys]
  exact last?_map id some (fun key => decide (Text.lowerCase key = name)) env

theorem text?_ofEnvironment {env : Environment}
    (henv : (env.map fun v => Text.lowerCase v.1).Nodup) (name : String) :
    (ofEnvironment env).text? name = env.textOf? name := by
  rw [text?, get?_ofEnvironment henv]
  cases env.textOf? name <;> rfl

/-- A name of the environment in small letters is a name of its variables. -/
theorem mem_keys_ofEnvironment {env : Environment} {name : String} :
    name ∈ keys (ofEnvironment env) ↔ ∃ v ∈ env, Text.lowerCase v.1 = name := by
  have hkeys : keys ((ofEntries env).map fun v => (v.1, some v.2)) = keys (ofEntries env) := by
    rw [keys, List.map_map]
    rfl
  rw [ofEnvironment, ofNamed, mem_keys_mapKeys, hkeys]
  simp only [mem_keys_ofEntries]
  simp [keys]

/-- Nothing is gathered from the environment if none of its names starts in the right way. -/
theorem nested_ofEnvironment_eq_nil_iff {env : Environment} {start : String} :
    (ofEnvironment env).nested start = [] ↔
      ∀ v ∈ env, start.toList.isPrefixOf (Text.lowerCase v.1).toList = false := by
  rw [nested_eq_nil_iff]
  constructor
  · intro h v hv
    obtain ⟨w, hw, hname⟩ := List.mem_map.mp (mem_keys_ofEnvironment.mpr ⟨v, hv, rfl⟩)
    rw [← hname]
    exact h w hw
  · intro h w hw
    obtain ⟨v, hv, hname⟩ := mem_keys_ofEnvironment.mp (List.mem_map_of_mem hw)
    rw [← hname]
    exact h v hv

end Variables

/-! ## Values that are in the way -/

/-- What is found is what is given, unless there is an object in its place. -/
def UnlessObject (given found : Option Json) : Prop :=
  found = given ∨ ∃ value, found = some value ∧ value.IsObject

/-- Of merged values the first one given is found. -/
theorem UnlessObject.merge {high low found below : Option Json} (hhigh : UnlessObject high found)
    (hlow : UnlessObject low below) :
    UnlessObject (high.or low) ((found.map (Json.merge below)).or below) := by
  rcases hhigh with rfl | ⟨value, rfl, hvalue⟩
  · cases found with
    | none => simpa using hlow
    | some value =>
      -- A plain value replaces what is below it; an object stays one, whatever is merged into it.
      by_cases hvalue : value.IsObject
      · exact .inr ⟨_, rfl, Json.isObject_merge hvalue⟩
      · exact .inl (by simp [Json.merge_of_not_isObject hvalue])
  · exact .inr ⟨_, rfl, Json.isObject_merge hvalue⟩

/-- The value of a field: its default, or what the given value is found to be. -/
inductive Resolves {α : Type} (check : Json → Except Complaint α) (default : α) :
    Option Json → α → Prop
  | default : Resolves check default none default
  | given {value : Json} {a : α} (h : check value = .ok a) : Resolves check default (some value) a

/-- No object passes the check. -/
def RefusesObjects {α : Type} (check : Json → Except Complaint α) : Prop :=
  ∀ {value : Json} {a : α}, check value = .ok a → ¬value.IsObject

namespace Resolves

variable {α : Type} {check : Json → Except Complaint α} {default a b : α} {given : Option Json}

theorem of_fieldOr {name : String} (h : fieldOr name default check given = .ok a) :
    Resolves check default given a := by
  cases given with
  | none =>
    cases h
    exact .default
  | some value =>
    rw [fieldOr, requireField] at h
    split at h
    · rename_i hcheck
      cases h
      exact .given hcheck
    · cases h

/-- What is given decides the value. -/
theorem unique (h : Resolves check default given a) (h' : Resolves check default given b) :
    a = b := by
  cases h with
  | default =>
    cases h'
    rfl
  | given hcheck =>
    cases h' with
    | given hcheck' => exact Except.ok.inj (hcheck.symm.trans hcheck')

/-- A field that has a value has found no object. -/
theorem of_above (hcheck : RefusesObjects check) {found below : Option Json}
    (hfound : UnlessObject given found) (h : Resolves check default (found.or below) a) :
    Resolves check default (given.or below) a := by
  rcases hfound with rfl | ⟨value, rfl, hvalue⟩
  · exact h
  · cases h with
    | given hgiven => exact absurd hvalue (hcheck hgiven)

end Resolves

theorem refusesObjects_checkText : RefusesObjects checkText := by
  rintro _ a h ⟨members, rfl⟩
  cases h

theorem refusesObjects_checkInteger : RefusesObjects checkInteger := by
  rintro _ a h ⟨members, rfl⟩
  cases h

theorem refusesObjects_checkOptional {α : Type} {check : Json → Except Complaint α}
    (hcheck : RefusesObjects check) : RefusesObjects (checkOptional check) := by
  rintro _ a h ⟨members, rfl⟩
  rw [checkOptional] at h
  · cases hvalue : check (.object members) with
    | error complaint =>
      rw [hvalue] at h
      cases h
    | ok value => exact hcheck hvalue ⟨members, rfl⟩
  · rintro ⟨⟩

theorem refusesObjects_checkAbove (bound : Int) : RefusesObjects (checkAbove bound) := by
  intro value a h
  obtain ⟨n, hn, -⟩ := bind_eq_ok_iff.mp h
  exact refusesObjects_checkInteger hn

/-! ## The members of the group -/

namespace DiceSettings

/-- The members of the object that a text spells; without a text there are none. -/
inductive Spells : Option String → Json.Members → Prop
  | unset : Spells none []
  | object {text : String} {members : Json.Members} (h : Json.read? text = some (.object members)) :
    Spells (some text) members

/-- The members of the object that a text spells, if it spells one. -/
def membersIn (text : Option String) : Json.Members :=
  match text.bind Json.read? with
  | some (.object members) => members
  | _ => []

theorem spells_membersIn {text : Option String}
    (h : ∀ s ∈ text, ∃ value ∈ Json.read? s, value.IsObject) : Spells text (membersIn text) := by
  cases text with
  | none => exact .unset
  | some s =>
    obtain ⟨value, hread, members, rfl⟩ := h s rfl
    have hmembers : membersIn (some s) = members := by
      rw [membersIn, Option.bind_some, hread]
    rw [hmembers]
    exact .object hread

theorem Spells.eq_nil {text : Option String} {members : Json.Members} (h : Spells text members)
    (hunset : text = none) : members = [] := by
  cases h with
  | unset => rfl
  | object => cases hunset

/-- A source gives the group if it has the name of the group or a name below it. -/
theorem givenBy_eq (source : String) {vars : Variables} {members : Json.Members}
    (h : Spells (vars.text? "dice") members) :
    givenBy source vars =
      .ok (if vars.text? "dice" = none ∧ vars.nested "dice__" = [] then none
        else some (.object (named members vars))) := by
  unfold givenBy
  generalize vars.text? "dice" = text at h
  cases h with
  | unset =>
    have hmerge : Json.mergeMembers [] (vars.nested "dice__") = vars.nested "dice__" :=
      Json.mergeMembers_of_nodup (Variables.nodup_keys_nested vars "dice__")
    simp only [named, hmerge, true_and]
  | object hread => simp [hread, named]

/-- The members of the group as far as it is given: those of the environment merged into those of
the file. -/
def groupMembers (env : Variables) (members : Json.Members) (file : Variables) : Json.Members :=
  Json.mergeMembers (named [] file) (named members env)

theorem named_nil {vars : Variables} (h : vars.nested "dice__" = []) : named [] vars = [] := by
  rw [named, h, Json.mergeMembers]
  rfl

theorem nodup_keys_named (members : Json.Members) (vars : Variables) :
    (keys (named members vars)).Nodup :=
  nodup_keys_mapKeys fieldName _

end DiceSettings

open DiceSettings

/-- The group is given if the environment names it, or a source has a name below it; then it is an
object. -/
theorem Settings.group?_eq {env file : Variables} {members : Json.Members}
    (henv : Spells (env.text? "dice") members) (hfile : file.text? "dice" = none) :
    group? env file =
      .ok (if env.text? "dice" = none ∧ env.nested "dice__" = [] ∧ file.nested "dice__" = []
        then none else some (.object (groupMembers env members file))) := by
  have hspells : Spells (file.text? "dice") [] := hfile ▸ .unset
  rw [group?, givenBy_eq _ henv, givenBy_eq _ hspells]
  simp only [bind, Except.bind, pure, Except.pure, hfile, true_and, ← and_assoc]
  by_cases hgiven : env.text? "dice" = none ∧ env.nested "dice__" = []
  · -- The environment gives nothing, and the members are those of the file.
    have hgroup : groupMembers env members file = named [] file := by
      rw [groupMembers, henv.eq_nil hgiven.1, named_nil hgiven.2, Json.mergeMembers]
    simp [hgiven, hgroup]
  · by_cases hbelow : file.nested "dice__" = []
    · -- Merging into nothing leaves members as they are, since no name comes twice among them.
      have hgroup : groupMembers env members file = named members env := by
        rw [groupMembers, named_nil hbelow]
        exact Json.mergeMembers_of_nodup (nodup_keys_named members env)
      simp [hgiven, hbelow, hgroup, Json.merge_none]
    · simp only [hgiven, hbelow, false_and, if_false, Option.map_some, Option.some_or]
      rw [Json.merge, groupMembers]

namespace DiceSettings

/-- What is found among the members of a group. -/
theorem unlessObject_named {field : String} (hfield : field ∈ fieldNames) {vars : Variables}
    (hvars : vars.WellNamed) {members : Json.Members}
    (hmembers : (keys members).countP (isNamed field) ≤ 1) :
    UnlessObject
      (((vars.get? ("dice__" ++ field)).map Variables.plain).or (last? (isNamed field) members))
      ((named members vars).get? (.text field)) := by
  have hstep := stepsAfter_fieldName field hfield
  have hgathered := Variables.gathered_nested hvars.nodup "dice__" hstep
  rw [get?_named hfield hvars.small hmembers]
  -- What has been gathered is the variable of the field, or nothing, or an object in its place.
  generalize vars.get? ("dice__" ++ field) = text at hgathered
  generalize (vars.nested "dice__").get? (.text field) = found at hgathered
  cases hgathered with
  | given text =>
    refine .inl ?_
    simp only [Json.merge_of_not_isObject (Variables.not_isObject_plain text), Option.map_some,
      Option.some_or]
  | absent => exact .inl rfl
  | below inner => exact .inr ⟨_, rfl, Json.isObject_merge ⟨inner, rfl⟩⟩

/-- Dice settings that load have the values of their fields. -/
theorem of_load {members : Json.Members} {env : Variables} {dice : DiceSettings}
    (h : load members env = .ok dice) :
    let given (name : String) : Option Json :=
      (members.get? (.text name)).or ((env.text? ("dice_" ++ name)).map .ofText)
    Resolves checkText (.text "NinjaSlayer") (given "game_system") dice.gameSystem ∧
      Resolves (checkOptional checkInteger) none (given "seed") dice.seed ∧
      Resolves (checkAbove 0) Roller.defaultLimit (given "max_rands") dice.maxRands := by
  intro given
  simp only [load] at h
  split at h
  · cases h
  · split at h
    · rename_i hgame hseed hmax _
      cases h
      exact ⟨.of_fieldOr hgame, .of_fieldOr hseed, .of_fieldOr hmax⟩
    · cases h

theorem load_of_ofGroup {env : Variables} {members : Json.Members} {dice : DiceSettings}
    (h : ofGroup env (.object members) = .ok dice) : load members env = .ok dice := by
  rw [ofGroup] at h
  cases hload : load members env with
  | error issues =>
    rw [hload] at h
    cases h
  | ok loaded =>
    rw [hload] at h
    exact h

/-- On both ways the fields are read from the members of the group. -/
theorem load_of_ofGroup? {env file : Variables} {members : Json.Members} {group : Option Json}
    {dice : DiceSettings} (henv : Spells (env.text? "dice") members)
    (hfile : file.text? "dice" = none) (hgroup : Settings.group? env file = .ok group)
    (h : ofGroup? env group = .ok dice) : load (groupMembers env members file) env = .ok dice := by
  rw [Settings.group?_eq henv hfile] at hgroup
  obtain rfl := Except.ok.inj hgroup
  split at h
  · -- Where no group is given there are no members either.
    rename_i hnone
    rw [groupMembers, henv.eq_nil hnone.1, named_nil hnone.2.1, named_nil hnone.2.2,
      Json.mergeMembers]
    exact h
  · exact load_of_ofGroup h

/-- The values are the same but for one field. -/
structure SameBesides (field : String) (a b : DiceSettings) : Prop where
  gameSystem : field ≠ "game_system" → a.gameSystem = b.gameSystem
  seed : field ≠ "seed" → a.seed = b.seed
  maxRands : field ≠ "max_rands" → a.maxRands = b.maxRands

end DiceSettings

/-! ## Sources -/

/-- What the dice settings are loaded from: the environment, the members of the object that it has
for the group, and the file. -/
structure DiceSources where
  env : Environment
  members : Json.Members
  file : Variables

namespace DiceSources

/-- The value that the group has for a field: that of the variable of the environment, else that of
the member, else that of the variable of the file. -/
def inGroup (s : DiceSources) (field : String) : Option Json :=
  ((s.env.textOf? ("dice__" ++ field)).map Json.ofText).or
    ((last? (isNamed field) s.members).or
      ((s.file.get? ("dice__" ++ field)).map Variables.plain))

/-- The value that is given for a field: that of the group, else that of the environment alone. -/
def given (s : DiceSources) (field : String) : Option Json :=
  (s.inGroup field).or ((s.env.textOf? ("dice_" ++ field)).map Json.ofText)

/-- Each field has the value that is given for it, or its default. -/
structure Yields (s : DiceSources) (dice : DiceSettings) : Prop where
  gameSystem : Resolves checkText (.text "NinjaSlayer") (s.given "game_system") dice.gameSystem
  seed : Resolves (checkOptional checkInteger) none (s.given "seed") dice.seed
  maxRands : Resolves (checkAbove 0) Roller.defaultLimit (s.given "max_rands") dice.maxRands

/-- The sources have one value of each kind: no two names of the environment and no two members of
one field differ only in their capitals; the name of the group stands for the object, and only in
the environment. -/
structure Single (s : DiceSources) : Prop where
  names : (s.env.map fun v => Text.lowerCase v.1).Nodup
  object : Spells (s.env.textOf? "dice") s.members
  members : ∀ field ∈ fieldNames, (keys s.members).countP (isNamed field) ≤ 1
  file : "dice" ∉ keys s.file

/-- Some name gives the group: its own in the environment, or one below it. -/
def NamesGroup (s : DiceSources) : Prop :=
  (∃ v ∈ s.env, Text.lowerCase v.1 = "dice" ∨
      "dice__".toList.isPrefixOf (Text.lowerCase v.1).toList = true) ∨
    ∃ v ∈ s.file, "dice__".toList.isPrefixOf v.1.toList = true

/-! ### One field apart -/

/-- Whether a variable may have a part in the value of a field: the variable of the group, and those
of the field and below it. -/
def hasPart (field name : String) : Bool :=
  name ∈ ["dice", "dice_" ++ field, "dice__" ++ field] ||
    ("dice__" ++ field ++ "__").toList.isPrefixOf name.toList

/-- The sources without all that may have a part in the value of a field. -/
def without (s : DiceSources) (field : String) : DiceSources where
  env := s.env.filter fun v => !hasPart field (Text.lowerCase v.1)
  members := s.members.filter fun m => !isNamed field m.1
  file := s.file.filter fun v => !hasPart field v.1

theorem not_hasPart : ∀ field ∈ fieldNames, ∀ other ∈ fieldNames, field ≠ other →
    hasPart field ("dice_" ++ other) = false ∧ hasPart field ("dice__" ++ other) = false := by
  decide +kernel

theorem textOf?_filter {p : String → Bool} {name : String} (h : p name = true) (env : Environment) :
    Environment.textOf? (env.filter fun v => p (Text.lowerCase v.1)) name = env.textOf? name := by
  apply last?_filter (q := fun key => p (Text.lowerCase key))
  intro key hkey
  rw [of_decide_eq_true hkey]
  exact h

/-- What is given for a field is given without the names of another one. -/
theorem given_without (s : DiceSources) {field other : String} (hfield : field ∈ fieldNames)
    (hother : other ∈ fieldNames) (hne : field ≠ other) :
    (s.without field).given other = s.given other := by
  obtain ⟨hsingle, hdouble⟩ := not_hasPart field hfield other hother hne
  have hmembers : last? (isNamed other) (s.without field).members =
      last? (isNamed other) s.members := by
    apply last?_filter (q := fun key => !isNamed field key)
    intro key hkey
    rw [Bool.not_eq_true', Bool.eq_false_iff]
    intro hsame
    have heq := (of_decide_eq_true hkey).symm.trans (of_decide_eq_true hsame)
    exact hne (Option.some.inj heq).symm
  have hfile : (s.without field).file.get? ("dice__" ++ other) =
      s.file.get? ("dice__" ++ other) := by
    refine (get?_filter (fun name => !hasPart field name) s.file _).trans ?_
    rw [hdouble]
    rfl
  have henv (name : String) (hname : hasPart field name = false) :
      (s.without field).env.textOf? name = s.env.textOf? name :=
    textOf?_filter (p := fun name => !hasPart field name) (by rw [hname]; rfl) s.env
  rw [given, inGroup, hmembers, hfile, henv _ hsingle, henv _ hdouble, given, inGroup]

/-- Sources that differ in one field only yield the same values of the others. -/
theorem Yields.sameBesides {s t : DiceSources} {dice dice' : DiceSettings} {field : String}
    (hfield : field ∈ fieldNames) (h : s.Yields dice) (h' : t.Yields dice')
    (hsame : t.without field = s.without field) : dice'.SameBesides field dice := by
  have hgiven (other : String) (hother : other ∈ fieldNames) (hne : field ≠ other) :
      t.given other = s.given other := by
    rw [← given_without t hfield hother hne, hsame, given_without s hfield hother hne]
  constructor
  · intro hne
    have hgame := h'.gameSystem
    rw [hgiven "game_system" (by decide) hne] at hgame
    exact hgame.unique h.gameSystem
  · intro hne
    have hseed := h'.seed
    rw [hgiven "seed" (by decide) hne] at hseed
    exact hseed.unique h.seed
  · intro hne
    have hmax := h'.maxRands
    rw [hgiven "max_rands" (by decide) hne] at hmax
    exact hmax.unique h.maxRands

/-! ### Loading from sources -/

theorem not_namesGroup_iff {s : DiceSources} :
    ¬s.NamesGroup ↔
      s.env.textOf? "dice" = none ∧ (Variables.ofEnvironment s.env).nested "dice__" = [] ∧
        s.file.nested "dice__" = [] := by
  rw [Environment.textOf?, last?_eq_none_iff, Variables.nested_ofEnvironment_eq_nil_iff,
    Variables.nested_eq_nil_iff, NamesGroup, not_or]
  constructor
  · rintro ⟨henv, hfile⟩
    refine ⟨?_, ?_, ?_⟩
    · intro key hkey
      obtain ⟨v, hv, rfl⟩ := List.mem_map.mp hkey
      exact decide_eq_false fun hname => henv ⟨v, hv, .inl hname⟩
    · intro v hv
      exact Bool.eq_false_iff.mpr fun hstart => henv ⟨v, hv, .inr hstart⟩
    · intro v hv
      exact Bool.eq_false_iff.mpr fun hstart => hfile ⟨v, hv, hstart⟩
  · rintro ⟨hdice, hbelow, hfile⟩
    constructor
    · rintro ⟨v, hv, hname | hstart⟩
      · exact of_decide_eq_false (hdice v.1 (List.mem_map_of_mem hv)) hname
      · exact Bool.false_ne_true ((hbelow v hv).symm.trans hstart)
    · rintro ⟨v, hv, hstart⟩
      exact Bool.false_ne_true ((hfile v hv).symm.trans hstart)

/-- What is found for a field in the members of both sources. -/
theorem unlessObject_groupMembers {s : DiceSources} (hs : s.Single) (hfile : s.file.WellNamed)
    {field : String} (hfield : field ∈ fieldNames) :
    UnlessObject (s.inGroup field)
      ((groupMembers (.ofEnvironment s.env) s.members s.file).get? (.text field)) := by
  have hvars : (Variables.ofEnvironment s.env).WellNamed := Variables.wellNamed_ofNamed _
  have hnone : (keys ([] : Json.Members)).countP (isNamed field) ≤ 1 := Nat.zero_le 1
  have henv := unlessObject_named hfield hvars (hs.members field hfield)
  have hfile := unlessObject_named hfield hfile hnone
  rw [Variables.get?_ofEnvironment hs.names, Option.map_map] at henv
  rw [last?, Option.or_none] at hfile
  -- The file is below the environment, and its values are below the members as well.
  rw [inGroup, ← Option.or_assoc, groupMembers, Json.get?_mergeMembers (nodup_keys_named _ _)]
  exact henv.merge hfile

section
variable {s : DiceSources} {settings : Settings}

theorem Single.spells (hs : s.Single) :
    Spells ((Variables.ofEnvironment s.env).text? "dice") s.members :=
  Variables.text?_ofEnvironment hs.names "dice" ▸ hs.object

theorem Single.text?_file (hs : s.Single) : s.file.text? "dice" = none := by
  rw [Variables.text?, get?_eq_none_iff.mpr hs.file]
  rfl

/-- Settings that load from sources have the values that the sources yield. -/
theorem yields_of_load (hs : s.Single) (hfile : s.file.WellNamed)
    (h : Settings.load (.ofEnvironment s.env) s.file = .ok settings) : s.Yields settings.dice := by
  obtain ⟨group, hgroup, hdice⟩ := Settings.of_load h
  have hload := load_of_ofGroup? hs.spells hs.text?_file hgroup hdice
  obtain ⟨hgame, hseed, hmax⟩ := DiceSettings.of_load hload
  simp only [Variables.text?_ofEnvironment hs.names] at hgame hseed hmax
  exact
    { gameSystem := hgame.of_above refusesObjects_checkText
        (unlessObject_groupMembers hs hfile (by decide))
      seed := hseed.of_above (refusesObjects_checkOptional refusesObjects_checkInteger)
        (unlessObject_groupMembers hs hfile (by decide))
      maxRands := hmax.of_above (refusesObjects_checkAbove 0)
        (unlessObject_groupMembers hs hfile (by decide)) }

/-- The group that the sources give, if they give it. -/
def group? (s : DiceSources) : Except SettingsError (Option Json) :=
  Settings.group? (.ofEnvironment s.env) s.file

/-- What the sources name decides whether they give the group. -/
theorem group?_of_single (hs : s.Single) :
    (s.NamesGroup → ∃ members, s.group? = .ok (some (.object members))) ∧
      (¬s.NamesGroup → s.group? = .ok none) := by
  have htext := Variables.text?_ofEnvironment hs.names "dice"
  rw [group?, Settings.group?_eq hs.spells hs.text?_file]
  constructor
  · intro hnamed
    refine ⟨_, congrArg Except.ok (if_neg ?_)⟩
    intro hnone
    exact not_namesGroup_iff.mpr ⟨htext ▸ hnone.1, hnone.2⟩ hnamed
  · intro hnot
    obtain ⟨hdice, hbelow⟩ := not_namesGroup_iff.mp hnot
    exact congrArg Except.ok (if_pos ⟨htext.trans hdice, hbelow⟩)

/-- The dice settings are those of the group if it is given, and else those of no members. -/
theorem ofGroup_of_load (hs : s.Single)
    (h : Settings.load (.ofEnvironment s.env) s.file = .ok settings) :
    (s.NamesGroup → ∃ members, s.group? = .ok (some (.object members)) ∧
        DiceSettings.ofGroup (.ofEnvironment s.env) (.object members) = .ok settings.dice) ∧
      (¬s.NamesGroup → s.group? = .ok none ∧
        DiceSettings.load [] (.ofEnvironment s.env) = .ok settings.dice) := by
  obtain ⟨hgiven, habsent⟩ := group?_of_single hs
  obtain ⟨group, hgroup, hdice⟩ := Settings.of_load h
  constructor
  · intro hnamed
    obtain ⟨members, hmembers⟩ := hgiven hnamed
    obtain rfl := Except.ok.inj (hgroup.symm.trans hmembers)
    exact ⟨members, hmembers, hdice⟩
  · intro hnot
    obtain rfl := Except.ok.inj (hgroup.symm.trans (habsent hnot))
    exact ⟨habsent hnot, hdice⟩

end

end DiceSources

namespace SettingsWorld

/-- The file that is read: the named one, or else the default one. -/
def fileName (path? : Option String) : String :=
  match path? with
  | some path => if path = "" then Settings.defaultFile else path
  | none => Settings.defaultFile

/-- The variables of that file; without a file there are none. -/
def fileVariables (world : SettingsWorld) (path? : Option String) : Variables :=
  ((Settings.statements world.env world.files (fileName path?)).toOption.map
    (.ofStatements world.env)).getD []

/-- What the dice settings of a world are loaded from. -/
def diceSources (world : SettingsWorld) (path? : Option String) : DiceSources where
  env := world.env
  members := membersIn (world.env.textOf? "dice")
  file := world.fileVariables path?

theorem wellNamed_file (world : SettingsWorld) (path? : Option String) :
    (world.diceSources path?).file.WellNamed := by
  rw [diceSources, fileVariables]
  cases (Settings.statements world.env world.files (fileName path?)).toOption with
  | none => exact ⟨List.nodup_nil, by simp⟩
  | some statements => exact Variables.wellNamed_ofNamed _

/-- An environment that has an object for the group has its members. -/
theorem spells_members {world : SettingsWorld}
    (h : ∀ text ∈ world.env.textOf? "dice", ∃ value ∈ Json.read? text, value.IsObject)
    (path? : Option String) :
    Spells ((world.diceSources path?).env.textOf? "dice") (world.diceSources path?).members :=
  spells_membersIn h

/-- Loading the settings of a world loads them from its sources. -/
theorem load_of_load {world : SettingsWorld} {path? : Option String} {settings : Settings}
    (h : world.load path? = .ok settings) :
    Settings.load (.ofEnvironment (world.diceSources path?).env) (world.diceSources path?).file =
      .ok settings := by
  obtain ⟨statements, hread, hload⟩ := bind_eq_ok_iff.mp h
  have hread : Settings.statements world.env world.files (fileName path?) = .ok statements := hread
  have hfile : (world.diceSources path?).file = .ofStatements world.env statements := by
    rw [diceSources, fileVariables, hread]
    rfl
  rw [hfile]
  exact hload

/-- Each field of the dice settings has the first value that is given for it. So the names of one
field, be they added, removed or changed, leave the loaded values of the others as they are. Naming
the group makes its members what is checked, and without such a name the dice settings are loaded by
themselves. The texts of the file are those that it has once its references to other variables have
been replaced. -/
theorem load_dice {world : SettingsWorld} {path? : Option String} {settings : Settings}
    (hsingle : (world.diceSources path?).Single) (h : world.load path? = .ok settings) :
    (world.diceSources path?).Yields settings.dice ∧
      (∀ field ∈ fieldNames, ∀ (world' : SettingsWorld) (path?' : Option String)
        (settings' : Settings), (world'.diceSources path?').Single →
        world'.load path?' = .ok settings' →
        (world'.diceSources path?').without field = (world.diceSources path?).without field →
        settings'.dice.SameBesides field settings.dice) ∧
      ((world.diceSources path?).NamesGroup →
        ∃ members, (world.diceSources path?).group? = .ok (some (.object members)) ∧
          DiceSettings.ofGroup (.ofEnvironment world.env) (.object members) = .ok settings.dice) ∧
      (¬(world.diceSources path?).NamesGroup →
        (world.diceSources path?).group? = .ok none ∧
          DiceSettings.load [] (.ofEnvironment world.env) = .ok settings.dice) := by
  have hload := load_of_load h
  have hyields := DiceSources.yields_of_load hsingle (world.wellNamed_file path?) hload
  obtain ⟨hgiven, habsent⟩ := DiceSources.ofGroup_of_load hsingle hload
  refine ⟨hyields, ?_, hgiven, habsent⟩
  intro field hfield world' path?' settings' hsingle' h' hsame
  have hyields' := DiceSources.yields_of_load hsingle' (world'.wellNamed_file path?')
    (load_of_load h')
  exact hyields.sameBesides hfield hyields' hsame

/-- A seed from a variable, a limit from the object and a game from the file. -/
theorem load_dice_of_layers :
    let text := "\x7b\"Max_Rands\": 50, \"seed\": 5\x7d"
    let world : SettingsWorld :=
      { env := [("DICE", text), ("Dice__Seed", "7"), ("DICE_SEED", "8")]
        files := [(".env", "DICE__GAME_SYSTEM=NinjaSlayer")] }
    let settings : Settings :=
      ⟨.development, .info, none, ⟨.text "NinjaSlayer", some 7, 50⟩⟩
    (world.diceSources none).Single ∧ world.load none = .ok settings ∧
      (world.diceSources none).Yields settings.dice ∧
      ∃ members, (world.diceSources none).group? = .ok (some (.object members)) := by
  intro text world settings
  have hsingle : (world.diceSources none).Single :=
    { names := by decide +kernel
      object := spells_members (by decide +kernel) none
      members := by decide +kernel
      file := by decide +kernel }
  have hload : world.load none = .ok settings := eq_ok_of_toOption (by decide +kernel)
  have hnames : (world.diceSources none).NamesGroup :=
    .inl ⟨("DICE", text), by simp [diceSources, world], .inl (by decide +kernel)⟩
  obtain ⟨hyields, -, hgiven, -⟩ := load_dice hsingle hload
  obtain ⟨members, hgroup, -⟩ := hgiven hnames
  exact ⟨hsingle, hload, hyields, members, hgroup⟩

/-- Of two members for one field the last one counts, even before the variable of the field. And a
text of the file that refers to a variable changes with it, be it that of another field. -/
theorem not_load_dice_by_names :
    (let text := "\x7b\"seed\": 1, \"SEED\": 2\x7d"
      let world : SettingsWorld := { env := [("DICE", text), ("DICE__seed", "3")], files := [] }
      (world.env.map fun v => Text.lowerCase v.1).Nodup ∧
        (∃ value ∈ Json.read? text, value.IsObject) ∧
        world.env.textOf? "dice__seed" = some "3" ∧
        ∃ settings, world.load none = .ok settings ∧ settings.dice.seed = some 2) ∧
      (let world (seed : String) : SettingsWorld :=
        { env := [("DICE__SEED", seed)]
          files := [(".env", "DICE__MAX_RANDS=$\x7bDICE__SEED\x7d")] }
      ∃ settings settings', (world "5").load none = .ok settings ∧
        (world "6").load none = .ok settings' ∧
        settings.dice.maxRands = 5 ∧ settings'.dice.maxRands = 6) := by
  constructor
  · refine ⟨by decide +kernel, by decide +kernel, by decide +kernel, ?_⟩
    exact ⟨⟨.development, .info, none, ⟨.text "NinjaSlayer", some 2, 10000⟩⟩,
      eq_ok_of_toOption (by decide +kernel), rfl⟩
  · exact ⟨⟨.development, .info, none, ⟨.text "NinjaSlayer", some 5, 5⟩⟩,
      ⟨.development, .info, none, ⟨.text "NinjaSlayer", some 6, 6⟩⟩,
      eq_ok_of_toOption (by decide +kernel), eq_ok_of_toOption (by decide +kernel), rfl, rfl⟩

end SettingsWorld

end ChatDice
