import ChatDice.Text.Double.Shortest
import ChatDice.Text.Json

/-!
# ChatDice.Text.Json.Shown — JSON values as they are shown

Where a value does not fit, it is shown to the reader: strings between quotation marks, numbers with
the fewest digits, lists and objects with everything in them.
-/

namespace ChatDice.Json

mutual

/-- The value as it is shown. -/
def shown : Json → String
  | null => "None"
  | bool b => if b then "True" else "False"
  | integer n => toString n
  | double x => x.shown
  | string s => s.quote
  | array items => "[" ++ ", ".intercalate (shownItems items) ++ "]"
  | object members => "\x7b" ++ ", ".intercalate (shownMembers members) ++ "\x7d"

/-- The items of a list as they are shown. -/
def shownItems : List Json → List String
  | [] => []
  | item :: rest => item.shown :: shownItems rest

/-- The members of an object as they are shown, each behind its name. -/
def shownMembers : List (LooseText × Json) → List String
  | [] => []
  | (name, value) :: rest => (name.quote ++ ": " ++ value.shown) :: shownMembers rest

end

/-- The name of a value's type. -/
def typeName : Json → String
  | null => "NoneType"
  | bool _ => "bool"
  | integer _ => "int"
  | double _ => "float"
  | string _ => "str"
  | array _ => "list"
  | object _ => "dict"

end ChatDice.Json
