import ChatDice.Text.Json
import ChatDice.Text.LowerCase

/-!
# ChatDice.Settings.Variables — named texts

Settings come as named texts: from the environment of the process, and from a file. Names are the
same whatever their capitals; of two texts of one name the later counts. A name may stand in a file
without a text.

Names may be paths: steps with two underscores between them. `Variables.nested` gathers the texts
below a step into an object of objects.
-/

namespace ChatDice

/-- The environment of the process: texts by their names, capitals and all. -/
abbrev Environment := List (String × String)

namespace Environment

/-- The text of a name with these very letters. -/
def text? (env : Environment) (name : String) : Option String :=
  (Dictionary.ofEntries env).get? name

end Environment

/-- Texts by their names in small letters. -/
abbrev Variables := Dictionary String (Option String)

namespace Variables

/-- The texts under their names in small letters. -/
def ofNamed (named : Dictionary String (Option String)) : Variables :=
  Dictionary.mapKeys Text.lowerCase named

/-- The variables of the environment. -/
def ofEnvironment (env : Environment) : Variables :=
  ofNamed ((Dictionary.ofEntries env).map fun v => (v.1, some v.2))

/-- The text of a name that is written in small letters, if it has one. -/
def text? (vars : Variables) (name : String) : Option String :=
  (Dictionary.get? vars name).join

/-! ## Nested names -/

/-- The steps of a name, behind the letters of a step that has been begun, the latest first. -/
def stepsAfter : (begun : List Char) → List Char → List String
  | begun, '_' :: '_' :: rest => String.ofList begun.reverse :: stepsAfter [] rest
  | begun, c :: rest => stepsAfter (c :: begun) rest
  | begun, [] => [String.ofList begun.reverse]

/-- The members with a value put at a path. A step that has a plain value already leads nowhere, and
then nothing is put. -/
def putAt (members : Json.Members) (value : Json) : List String → Json.Members
  | [] => members
  | [last] => members.put (.text last) value
  | step :: steps =>
    match members.get? (.text step) with
    | none => members.put (.text step) (.object (putAt [] value steps))
    | some (.object inner) => members.put (.text step) (.object (putAt inner value steps))
    | some _ => members

/-- The texts whose names start in one way, put at the paths that the rest of their names are. A
name without a text has a null. -/
def nested (vars : Variables) (start : String) : Json.Members :=
  vars.foldl (fun members v =>
    let name := v.1.toList
    if start.toList.isPrefixOf name then
      putAt members ((v.2.map Json.ofText).getD .null) (stepsAfter [] (name.drop start.length))
    else members) []

end Variables

end ChatDice
