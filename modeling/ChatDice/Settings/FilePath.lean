/-!
# ChatDice.Settings.FilePath — paths and the files they name

A path is kept in its plain form: no empty step, and no step that stays where it is. Steps up are
kept as well, since the folder that they leave may not be there; they are gone when the file that a
path names is looked for. The files that a run can see are listed with their contents.
-/

namespace ChatDice

/-! ## Paths -/

/-- What stands in front of the steps of a path. Two slashes are told apart from one; more than two
are one. -/
def pathRoot (cs : List Char) : String :=
  match (cs.takeWhile (· == '/')).length with
  | 0 => ""
  | 2 => "//"
  | _ => "/"

/-- The steps of a path, without those that are empty and those that stay where they are. -/
def pathSteps (path : String) : List String :=
  ((path.toList.splitOn '/').map String.ofList).filter fun step => step ≠ "" ∧ step ≠ "."

/-- A path in its plain form; a path without steps and root is the place one is at. -/
def plainPath (path : String) : String :=
  let plain := pathRoot path.toList ++ "/".intercalate (pathSteps path)
  if plain = "" then "." else plain

/-- The steps in front of the last one, if there are any. -/
def parentPath? (path : String) : Option String :=
  match (path.toList.splitOn '/').dropLast with
  | [] => none
  | steps => some ("/".intercalate (steps.map String.ofList))

/-! ## Homes -/

/-- Why a path names no file: it starts at the home of someone who is not known. -/
inductive HomeError where
  | unknownHome
deriving DecidableEq, Repr

/-- A path that starts with a tilde starts at a home. The tilde alone is one's own home, if one has
any; no other homes are known. -/
def atHome? (home : Option String) (path : String) : Except HomeError (Option String) :=
  match path.toList with
  | '~' :: rest =>
    if rest = [] ∨ rest.head? = some '/' then
      match home with
      | none => .ok none
      | some home =>
        if home.toList.head? = some '~' then .error .unknownHome
        else
          let base := String.ofList (home.toList.reverse.dropWhile (· == '/')).reverse
          .ok (some (plainPath (base ++ "/" ++ String.ofList rest)))
    else .error .unknownHome
  | _ => .ok (some path)

/-! ## Files -/

/-- The place that steps lead to from another place, both from the last step to the first; none if a
step up leaves a folder that there is not. -/
def walk? (isFolder : List String → Bool) : (place steps : List String) → Option (List String)
  | place, [] => some place
  | place, step :: steps =>
    if step = ".." then
      match place with
      | [] => walk? isFolder [".."] steps
      | last :: parent =>
        if last = ".." then walk? isFolder (".." :: place) steps
        else if isFolder place then walk? isFolder parent steps
        else none
    else walk? isFolder (step :: place) steps

/-- Files by their paths, with their contents. -/
abbrev Files := List (String × String)

namespace Files

/-- Whether some file lies in a folder, or in a folder within it. -/
def hasFolder (files : Files) (place : List String) : Bool :=
  files.any fun file =>
    let filePlace := (pathSteps file.1).reverse
    place.length < filePlace.length && place.isSuffixOf filePlace

/-- Whether a file is the one at a place. -/
def isAt (root : String) (place : List String) (file : String × String) : Bool :=
  pathRoot file.1.toList == root && (pathSteps file.1).reverse == place

/-- The text of a file; none if there is no such file. -/
def read? (files : Files) (path : String) : Option String := do
  let place ← walk? files.hasFolder [] (pathSteps path)
  let file ← files.find? (isAt (pathRoot path.toList) place)
  return file.2

/-- The files after a text has been written behind the end of one of them. A file that there is not
comes into being, and so do the folders on its path. -/
def append (files : Files) (path text : String) : Files :=
  let root := pathRoot path.toList
  let place := (walk? (fun _ => true) [] (pathSteps path)).getD []
  if files.any (isAt root place) then
    files.map fun file => if isAt root place file then (file.1, file.2 ++ text) else file
  else files ++ [(root ++ "/".intercalate place.reverse, text)]

end Files

end ChatDice
