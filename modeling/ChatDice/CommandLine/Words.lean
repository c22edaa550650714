import ChatDice.Text.DecimalDigit
import ChatDice.Text.Quoted

/-!
# ChatDice.CommandLine.Words — arguments as options and words

The arguments of a command are told apart before any of them is acted upon: an argument that starts
with a hyphen is an option if it spells one, and all others are words. A long option may be cut
short as long as only one is meant, and may carry its value behind an equals sign. Behind a lone
double hyphen everything is a word.

`classify` tells one argument apart, `events` puts options, their values and words together. What is
wrong with an argument becomes an event as well, because what stands in front of it is done first.
-/

namespace ChatDice.CommandLine

/-! ## Options -/

/-- An option: its spellings, and whether it takes a value. -/
structure OptionSpec where
  names : List String
  takesValue : Bool
deriving DecidableEq, Repr

namespace OptionSpec

/-- The option as messages name it. -/
def title (o : OptionSpec) : String :=
  "/".intercalate o.names

end OptionSpec

/-- An option that an argument spells, and the value that the argument carries. -/
structure OptionMatch where
  spec : OptionSpec
  name : String
  /-- It stands behind an equals sign, or behind the letter of a short option. -/
  carried : Option String
deriving DecidableEq, Repr

/-- What an argument is. -/
inductive Word where
  /-- A word. -/
  | plain
  /-- The double hyphen. -/
  | separator
  /-- An option. -/
  | option (m : OptionMatch)
  /-- It looks like an option, but is none. -/
  | unknown
deriving DecidableEq, Repr

/-! ## Telling arguments apart -/

/-- The text in front of the first equals sign and the one behind it. -/
def splitEquals (s : String) : String × Option String :=
  let cs := s.toList
  match cs.dropWhile (· != '=') with
  | [] => (s, none)
  | _ :: value => (String.ofList (cs.takeWhile (· != '=')), some (String.ofList value))

/-- All spellings of all options, in their order. -/
def spellings (specs : List OptionSpec) : List (OptionSpec × String) :=
  specs.flatMap fun o => o.names.map (o, ·)

/-- The option of a spelling. -/
def spelled? (specs : List OptionSpec) (name : String) : Option OptionSpec :=
  ((spellings specs).find? fun s => s.2 == name).map Prod.fst

/-- The options that an argument may be short for. Behind two hyphens the argument is the start of
an option's name; behind one it is a short option with its value, or the start of a name. -/
def candidates (specs : List OptionSpec) (arg : String) : List OptionMatch :=
  match arg.toList with
  | '-' :: '-' :: _ =>
    let (start, value) := splitEquals arg
    ((spellings specs).filter fun s => start.isPrefixOf s.2).map fun s =>
      ⟨s.1, s.2, value⟩
  | '-' :: c :: value =>
    (spellings specs).filterMap fun s =>
      if s.2 = String.ofList ['-', c] then
        some ⟨s.1, s.2, some (String.ofList value)⟩
      else if arg.isPrefixOf s.2 then some ⟨s.1, s.2, none⟩
      else none
  | _ => []

/-- Whether an argument is a negative number: digits of any script, or digits around a point, of
which those in front may be missing. A line may end behind it. -/
def isNegativeNumber (arg : String) : Bool :=
  match arg.toList with
  | '-' :: number =>
    let number := if number.getLast? = some '\n' then number.dropLast else number
    let isDigit (c : Char) : Bool := (Text.digitValue? c).isSome
    match number.dropWhile isDigit with
    | [] => !number.isEmpty
    | '.' :: fraction => !fraction.isEmpty && fraction.all isDigit
    | _ => false
  | _ => false

/-- An argument that starts like an option is one if it spells one in full or in part. If it spells
none, it is still a word if it is a negative number or has a blank in it. The error names what an
argument may be short for. -/
def classify (specs : List OptionSpec) (arg : String) : Except String Word :=
  match arg.toList with
  | '-' :: _ :: _ =>
    match spelled? specs arg with
    | some o => .ok (.option ⟨o, arg, none⟩)
    | none =>
      match splitEquals arg with
      | (name, some value) =>
        match spelled? specs name with
        | some o => .ok (.option ⟨o, name, some value⟩)
        | none => classifyShort (candidates specs arg)
      | (_, none) => classifyShort (candidates specs arg)
  | _ => .ok .plain
where
  /-- Chooses among the options that an argument may be short for. -/
  classifyShort : List OptionMatch → Except String Word
    | [] =>
      if isNegativeNumber arg ∨ ' ' ∈ arg.toList then .ok .plain else .ok .unknown
    | [m] => .ok (.option m)
    | ms =>
      let meant := ", ".intercalate (ms.map OptionMatch.name)
      .error s!"ambiguous option: {arg} could match {meant}"

/-- The arguments of a command, told apart. -/
def classifyAll (specs : List OptionSpec) : List String → Except String (List (String × Word))
  | [] => .ok []
  | arg :: args =>
    if arg = "--" then .ok ((arg, .separator) :: args.map (·, .plain))
    else do
      let word ← classify specs arg
      return (arg, word) :: (← classifyAll specs args)

/-! ## Events -/

/-- Which words a command takes. -/
inductive WordRule where
  /-- None. -/
  | none
  /-- Its first run of words. -/
  | run
  /-- Its first word and every argument behind it. -/
  | rest
deriving DecidableEq, Repr

/-- What an argument comes to, in the order of the arguments. -/
inductive Event where
  /-- An option, with its value if it takes one. -/
  | option (spec : OptionSpec) (value : Option String)
  /-- The words that the command takes. -/
  | words (args : List String)
  /-- Arguments that the command does not know what to do with. -/
  | stray (args : List String)
  /-- A misuse of an option. -/
  | misuse (message : String)
deriving DecidableEq, Repr

/-- An option without value in an argument that carries one. Short options may stand together behind
one hyphen, so a value that repeats the option's letter is no value; no other letter stands for an
option here. -/
def refuseValue (o : OptionSpec) (name value : String) : Event :=
  let refusal (value : String) : Event :=
    .misuse s!"argument {o.title}: ignored explicit argument {Text.quote value}"
  match name.toList, value.toList with
  | [_, letter], c :: rest =>
    match (c :: rest).dropWhile (· == letter) with
    | [] => .option o none
    | left => refusal (String.ofList left)
  | _, _ => refusal value

/-- What a run of words without options comes to. -/
def closeRun (taken : Bool) (run : List (String × Word)) : List Event :=
  if run = [] then []
  else if taken ∨ run.all (·.2 = .separator) then [.stray (run.map Prod.fst)]
  else [.words (run.map Prod.fst)]

/-- Whether a command has taken its words when a run ends. -/
def takenAfter (taken : Bool) (run : List (String × Word)) : Bool :=
  taken || run.any (·.2 = .plain)

/-- What arguments come to, behind a run of words that has been begun. `taken` says that the command
has taken its words. -/
def eventsAfter (rule : WordRule) :
    (taken : Bool) → (run : List (String × Word)) → List (String × Word) → List Event
  | taken, run, [] => closeRun taken run
  | taken, run, (arg, .plain) :: rest =>
    -- Behind the first word everything belongs to it, options and separators included.
    if rule = .rest ∧ taken = false then
      [.words ((run.map Prod.fst) ++ arg :: rest.map Prod.fst)]
    else eventsAfter rule taken (run ++ [(arg, .plain)]) rest
  | taken, run, (arg, .separator) :: rest =>
    eventsAfter rule taken (run ++ [(arg, .separator)]) rest
  | taken, run, (arg, .unknown) :: rest =>
    closeRun taken run ++ .stray [arg] :: eventsAfter rule (takenAfter taken run) [] rest
  | taken, run, (_, .option m) :: rest =>
    let after := takenAfter taken run
    closeRun taken run ++
      match m.spec.takesValue, m.carried with
      | true, some carried => .option m.spec (some carried) :: eventsAfter rule after [] rest
      | true, none =>
        -- The value is the next argument, unless that one is an option itself.
        match rest with
        | (value, .plain) :: rest => .option m.spec (some value) :: eventsAfter rule after [] rest
        | _ => [.misuse s!"argument {m.spec.title}: expected one argument"]
      | false, some carried => refuseValue m.spec m.name carried :: eventsAfter rule after [] rest
      | false, none => .option m.spec none :: eventsAfter rule after [] rest

/-- What the arguments of a command come to. -/
def events (rule : WordRule) (args : List (String × Word)) : List Event :=
  eventsAfter rule (rule = .none) [] args

end ChatDice.CommandLine
