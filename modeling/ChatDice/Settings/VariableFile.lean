import ChatDice.Settings.Variables
import ChatDice.Text.Blank
import ChatDice.Text.Lines

/-!
# ChatDice.Settings.VariableFile — files of variables

A file of variables holds statements `NAME=text`, one on a line unless a text between quotation
marks has line ends in it. Comments and blank lines are passed over. A statement that cannot be read
is passed over up to the end of its line, and the line that it starts on is told.

A text may hold the texts of other variables, as `${NAME}` or `${NAME:-text for want of one}`. They
are those that stand above it in the file, and behind them those of the environment.
-/

namespace ChatDice

/-- A statement of a file of variables. -/
inductive Statement where
  /-- Blanks, or a comment. -/
  | empty
  /-- A name, and the text that it is given; a name alone is given none. -/
  | assignment (name : String) (text : Option String)
  /-- Something that cannot be read, by the number of the line that it starts on. -/
  | faulty (line : Nat)
deriving DecidableEq, Repr

namespace Statement

/-! ## Parts

A part that is read gives the text behind it. A part that cannot be read gives, as the error, the
text that has not been read yet. -/

/-- What comes of reading a part. -/
abbrev Reading (α : Type) := Except (List Char) (α × List Char)

/-- A blank within a line. -/
def isInlineBlank (c : Char) : Bool :=
  c != '\n' && Text.isBlank c

/-- The text behind the end of its line. -/
def behindLine (cs : List Char) : List Char :=
  (cs.dropWhile (· != '\n')).drop 1

/-- The text behind the word that may stand in front of a name. -/
def behindExport (cs : List Char) : List Char :=
  if "export".toList.isPrefixOf cs ∧ (cs.drop 6).head?.any isInlineBlank then
    (cs.drop 6).dropWhile isInlineBlank
  else cs

/-- A name, which may stand between apostrophes; a comment has none. -/
def readName (cs : List Char) : Reading (Option String) :=
  match cs with
  | '#' :: _ => .ok (none, cs)
  | '\x27' :: inner =>
    match inner.takeWhile (· != '\x27'), inner.dropWhile (· != '\x27') with
    | c :: name, _ :: rest => .ok (some (String.ofList (c :: name)), rest)
    | _, _ => .error cs
  | _ =>
    let isName (c : Char) : Bool := c != '=' && c != '#' && !Text.isBlank c
    match cs.takeWhile isName with
    | [] => .error cs
    | name => .ok (some (String.ofList name), cs.dropWhile isName)

/-- The text up to the first mark without a backslash in front of it, and the text behind. -/
def splitAtMark? (mark : Char) : List Char → Option (List Char × List Char)
  | [] => none
  | '\\' :: c :: rest =>
    if c = mark then (splitAtMark? mark rest).map fun (cs, behind) => ('\\' :: c :: cs, behind)
    else (splitAtMark? mark (c :: rest)).map fun (cs, behind) => ('\\' :: cs, behind)
  | c :: rest =>
    if c = mark then some ([], rest)
    else (splitAtMark? mark rest).map fun (cs, behind) => (c :: cs, behind)

/-- The text up to the last mark, and the text behind. -/
def splitAtLastMark? (mark : Char) (cs : List Char) : Option (List Char × List Char) :=
  match cs.reverse.dropWhile (· != mark) with
  | [] => none
  | _ :: inner => some (inner.reverse, (cs.reverse.takeWhile (· != mark)).reverse)

/-- The characters that are escaped between apostrophes. -/
def singleEscape? : Char → Option Char
  | '\\' => some '\\'
  | '\x27' => some '\x27'
  | _ => none

/-- The characters that are escaped between double quotation marks. -/
def doubleEscape? : Char → Option Char
  | '\\' => some '\\'
  | '\x27' => some '\x27'
  | '\x22' => some '\x22'
  | 'a' => some '\x07'
  | 'b' => some '\x08'
  | 'f' => some '\x0c'
  | 'n' => some '\n'
  | 'r' => some '\r'
  | 't' => some '\t'
  | 'v' => some '\x0b'
  | _ => none

/-- The text with its escapes replaced by what they stand for. -/
def unescape (escape? : Char → Option Char) : List Char → List Char
  | '\\' :: c :: rest =>
    match escape? c with
    | some plain => plain :: unescape escape? rest
    | none => '\\' :: unescape escape? (c :: rest)
  | c :: rest => c :: unescape escape? rest
  | [] => []

/-- A text between quotation marks, behind the first of them. It ends at a mark that no backslash
stands in front of; if the file has none, at the last mark there is. -/
def readQuoted (mark : Char) (escape? : Char → Option Char) (inner : List Char) :
    Reading String :=
  match (splitAtMark? mark inner).or (splitAtLastMark? mark inner) with
  | some (cs, rest) => .ok (String.ofList (unescape escape? cs), rest)
  | none => .error (mark :: inner)

/-- A text up to a comment, which starts with a number sign behind a blank. -/
def withoutComment : (afterBlank : Bool) → List Char → List Char
  | _, [] => []
  | afterBlank, c :: rest =>
    if afterBlank ∧ c = '#' then [] else c :: withoutComment (Text.isBlank c) rest

/-- The text behind an equals sign. -/
def readText (cs : List Char) : Reading String :=
  match cs.dropWhile isInlineBlank with
  | '\x27' :: inner => readQuoted '\x27' singleEscape? inner
  | '\x22' :: inner => readQuoted '\x22' doubleEscape? inner
  | cs =>
    let text := withoutComment false (cs.takeWhile (· != '\n'))
    .ok (String.ofList (Text.trimWhere Text.isBlank text), cs.dropWhile (· != '\n'))

/-- The end of a statement: nothing more than a comment on its line. -/
def readEnd (cs : List Char) : Reading Unit :=
  match cs.dropWhile isInlineBlank with
  | [] => .ok ((), [])
  | '\n' :: rest => .ok ((), rest)
  | '#' :: rest => .ok ((), behindLine rest)
  | _ => .error cs

/-! ## Statements -/

/-- A statement that starts with its first character. -/
def readStarted (cs : List Char) : Except (List Char) (Statement × List Char) := do
  let (name, rest) ← readName (behindExport cs)
  let rest := rest.dropWhile isInlineBlank
  let (text, rest) ←
    match rest with
    | '=' :: rest => do
      let (text, rest) ← readText rest
      pure (some text, rest)
    | _ => pure (none, rest)
  let ((), rest) ← readEnd rest
  match name with
  | some name => return (assignment name text, rest)
  | none => return (empty, rest)

/-- The statement at the front of a text, with the blanks and the line ends in front of it. -/
def read (line : Nat) (cs : List Char) : Statement × List Char :=
  match cs.dropWhile Text.isBlank with
  | [] => (empty, [])
  | started =>
    match readStarted started with
    | .ok result => result
    | .error rest => (faulty line, behindLine rest)

/-- The statements of a text from a line on. Each of them takes a character at least. -/
def readAll : (most : Nat) → (line : Nat) → List Char → List Statement
  | 0, _, _ => []
  | _ + 1, _, [] => []
  | most + 1, line, cs =>
    let (statement, rest) := read line cs
    let passed := cs.count '\n' - rest.count '\n'
    statement :: readAll most (line + passed) rest

/-- The statements of a file. A byte order mark in front of them does not count. -/
def ofText (text : String) : List Statement :=
  let cs := match text.toList with
    | '\uFEFF' :: rest => rest
    | cs => cs
  let cs := Text.unifyLineEnds cs
  readAll cs.length 1 cs

end Statement

/-! ## Texts within texts -/

/-- The name of a variable behind its dollar sign, the text for want of one, and what stands behind
its closing brace. -/
def takeVariable? : List Char → Option (String × Option String × List Char)
  | '{' :: cs =>
    let isName (c : Char) : Bool := c != '}' && c != ':'
    let name := String.ofList (cs.takeWhile isName)
    match cs.dropWhile isName with
    | '}' :: rest => some (name, none, rest)
    | ':' :: '-' :: rest =>
      match rest.dropWhile (· != '}') with
      | _ :: behind => some (name, some (String.ofList (rest.takeWhile (· != '}'))), behind)
      | [] => none
    | _ => none
  | _ => none

/-- The text with its variables replaced by their texts. A text of `n` characters has no more than
`n` parts. -/
def replaceVariables (textOf : String → Option String → String) :
    (most : Nat) → List Char → List Char
  | 0, cs => cs
  | _ + 1, [] => []
  | most + 1, c :: rest =>
    match if c = '$' then takeVariable? rest else none with
    | some (name, substitute, behind) =>
      (textOf name substitute).toList ++ replaceVariables textOf most behind
    | none => c :: replaceVariables textOf most rest

namespace Variables

/-- The text that a variable has within another text: what the file gave it, or else the
environment, or else the substitute. A name that the file has given no text is empty. -/
def textWithin (env : Environment) (above : Dictionary String (Option String)) (name : String)
    (substitute : Option String) : String :=
  match above.get? name with
  | some text => text.getD ""
  | none => (env.text? name).getD (substitute.getD "")

/-- The names with their texts after one more statement. -/
def assign (env : Environment) (above : Dictionary String (Option String)) :
    Statement → Dictionary String (Option String)
  | .assignment name text =>
    above.put name (text.map fun text =>
      let cs := text.toList
      String.ofList (replaceVariables (textWithin env above) cs.length cs))
  | _ => above

/-- The variables that the statements of a file give their texts. -/
def ofStatements (env : Environment) (statements : List Statement) : Variables :=
  ofNamed (statements.foldl (assign env) [])

end Variables

end ChatDice
