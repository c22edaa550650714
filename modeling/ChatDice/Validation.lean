import ChatDice.Text.Integer
import ChatDice.Text.Json
import ChatDice.Text.Quoted

/-!
# ChatDice.Validation — values that must fit their fields

A value from outside is checked against the field that it is meant for. What is wrong with it is an
`Issue`: where, why, and what was given. The fields of a value are checked one by one and all issues
are reported, in the order of the fields and of the items in them.
-/

namespace ChatDice

/-! ## Issues -/

/-- Why a value does not fit. -/
inductive Complaint where
  | missing
  | unexpected
  | notAnObject (kind : String)
  | notAText
  /-- A half of a pair stands in it. -/
  | brokenText
  | notAList
  | notAnInteger
  | unreadableInteger
  | integerTooLong
  | fractional
  | notFinite
  | notAmong (choices : List String)
  | notAbove (bound : Int)
  | below (bound : Int)
  | above (bound : Int)
deriving DecidableEq, Repr

namespace Complaint

/-- The choices between apostrophes, the last one behind an "or". -/
def listChoices (choices : List String) : String :=
  let quoted := choices.map fun c => "'" ++ c ++ "'"
  match quoted.reverse with
  | [] => ""
  | [only] => only
  | last :: others => ", ".intercalate others.reverse ++ " or " ++ last

/-- The complaint in words. -/
def message : Complaint → String
  | missing => "Field required"
  | unexpected => "Extra inputs are not permitted"
  | notAnObject kind => "Input should be a valid dictionary or instance of " ++ kind
  | notAText => "Input should be a valid string"
  | brokenText =>
    "Input should be a valid string, unable to parse raw data as a unicode string"
  | notAList => "Input should be a valid list"
  | notAnInteger => "Input should be a valid integer"
  | unreadableInteger => "Input should be a valid integer, unable to parse string as an integer"
  | integerTooLong => "Unable to parse input string as an integer, exceeded maximum size"
  | fractional => "Input should be a valid integer, got a number with a fractional part"
  | notFinite => "Input should be a finite number"
  | notAmong choices => "Input should be " ++ listChoices choices
  | notAbove bound => s!"Input should be greater than {bound}"
  | below bound => s!"Input should be greater than or equal to {bound}"
  | above bound => s!"Input should be less than or equal to {bound}"

/-- The short name of the complaint. -/
def code : Complaint → String
  | missing => "missing"
  | unexpected => "extra_forbidden"
  | notAnObject _ => "model_type"
  | notAText => "string_type"
  | brokenText => "string_unicode"
  | notAList => "list_type"
  | notAnInteger => "int_type"
  | unreadableInteger => "int_parsing"
  | integerTooLong => "int_parsing_size"
  | fractional => "int_from_float"
  | notFinite => "finite_number"
  | notAmong _ => "literal_error"
  | notAbove _ => "greater_than"
  | below _ => "greater_than_equal"
  | above _ => "less_than_equal"

end Complaint

/-- A complaint about the value at a path. -/
structure Issue where
  path : List String
  complaint : Complaint
  given : Json
deriving Repr

namespace Issue

/-- The path as shown: its steps with points between them. -/
def location (i : Issue) : String :=
  ".".intercalate i.path

/-- The issue on one line. -/
def summary (i : Issue) : String :=
  i.location ++ ": " ++ i.complaint.message ++ " [" ++ i.complaint.code ++ "]"

/-- The same issue, seen from one step further out. -/
def within (step : String) (i : Issue) : Issue :=
  { i with path := step :: i.path }

end Issue

/-! ## Fields -/

/-- A field with the value that it was found to have, or what is wrong with it. -/
abbrev Checked (α : Type) := Except (List Issue) α

/-- The issues with a field. -/
def Checked.issues {α : Type} : Checked α → List Issue
  | .ok _ => []
  | .error issues => issues

/-- A field that must be given. -/
def requireField {α : Type} (name : String) (check : Json → Except Complaint α) :
    Option Json → Checked α
  | none => .error [⟨[name], .missing, .null⟩]
  | some given =>
    match check given with
    | .ok a => .ok a
    | .error complaint => .error [⟨[name], complaint, given⟩]

/-- A field that has a default. -/
def fieldOr {α : Type} (name : String) (default : α) (check : Json → Except Complaint α) :
    Option Json → Checked α
  | none => .ok default
  | some given => requireField name check (some given)

/-- The items of a list from one of them on; each item is a field under its place. -/
def requireItems {α : Type} (check : Json → Except Complaint α) :
    (place : Nat) → List Json → Checked (List α)
  | _, [] => .ok []
  | place, item :: rest =>
    match requireField (toString place) check (some item), requireItems check (place + 1) rest with
    | .ok a, .ok others => .ok (a :: others)
    | a, others => .error (a.issues ++ others.issues)

/-- A field that must be given a list. -/
def requireList {α : Type} (name : String) (check : Json → Except Complaint α) :
    Option Json → Checked (List α)
  | none => .error [⟨[name], .missing, .null⟩]
  | some (.array items) => (requireItems check 0 items).mapError (·.map (Issue.within name))
  | some given => .error [⟨[name], .notAList, given⟩]

/-! ## Checks -/

/-- A text. -/
def checkText : Json → Except Complaint LooseText
  | .string s => .ok s
  | _ => .error .notAText

/-- A text that is one of the choices. -/
def checkAmong (choices : List String) : Json → Except Complaint String
  | .string (.text s) => if s ∈ choices then .ok s else .error (.notAmong choices)
  | _ => .error (.notAmong choices)

/-- Numbers of double precision are integers below this size only. -/
def doubleBound : Nat := 9223372036854775808

/-- An integer, or a text that spells one. -/
def checkInteger : Json → Except Complaint Int
  | .integer n => .ok n
  | .bool b => .ok (if b then 1 else 0)
  | .double (.finite negative significand scale) =>
    match (Double.finite negative significand scale).whole? with
    | some n => if n.natAbs < doubleBound then .ok n else .error .integerTooLong
    | none => .error .fractional
  | .double _ => .error .notFinite
  | .string (.text s) =>
    match Text.readSetting s with
    | .ok n => .ok n
    | .error .unreadable => .error .unreadableInteger
    | .error .tooLong => .error .integerTooLong
  | .string (.broken _) => .error .brokenText
  | _ => .error .notAnInteger

/-- A value that may also be null. -/
def checkOptional {α : Type} (check : Json → Except Complaint α) :
    Json → Except Complaint (Option α)
  | .null => .ok none
  | given => (check given).map some

/-- An integer above a bound. -/
def checkAbove (bound : Int) (given : Json) : Except Complaint Int := do
  let n ← checkInteger given
  if bound < n then return n else throw (.notAbove bound)

/-- An integer from a bound up. -/
def checkFrom (least : Int) (given : Json) : Except Complaint Int := do
  let n ← checkInteger given
  if n < least then throw (.below least) else return n

/-- An integer between two bounds. -/
def checkBetween (least most : Int) (given : Json) : Except Complaint Int := do
  let n ← checkInteger given
  if most < n then throw (.above most)
  else if n < least then throw (.below least)
  else return n

end ChatDice
