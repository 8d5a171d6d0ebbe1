import CodeSurvey.Decimal.Numeral

namespace CodeSurvey

namespace CommandLine

/-- Why a command line is not carried out. The first two are answered with a text
and are no mistakes. -/
inductive Problem where
  | helpAsked
  | versionAsked
  | nothingGiven
  | unknownCommand
  | missingCommand
  | unknownArgument
  /-- A value is missing, empty, or not one of the words that are possible. -/
  | invalidValue
  /-- A value is not a number. -/
  | malformedNumber
  | givenTwice
  /-- A value is attached to an option that takes none. -/
  | needlessValue
  deriving DecidableEq, Inhabited, Repr

/-- What an option takes. -/
inductive ValueKind where
  | flag
  | path
  | text
  | real
  | count
  | word (words : List String)
  deriving DecidableEq, Inhabited, Repr

inductive Value where
  | flag (on : Bool)
  | text (value : String)
  | real (value : Float)
  | count (value : Nat)
  deriving Inhabited

def ValueKind.read (kind : ValueKind) (text : String) : Except Problem Value :=
  match kind with
  | .flag =>
    if text == "true" then .ok (.flag true)
    else if text == "false" then .ok (.flag false)
    else .error .invalidValue
  | .path => if text.isEmpty then .error .invalidValue else .ok (.text text)
  | .text => .ok (.text text)
  | .real =>
    match Decimal.real? text with
    | some x => .ok (.real x)
    | none => .error .malformedNumber
  | .count =>
    match Decimal.count? text with
    | some n => .ok (.count n)
    | none => .error .malformedNumber
  | .word words => if words.contains text then .ok (.text text) else .error .invalidValue

/-- An option: its long name and perhaps a letter, what it takes, and the variable of the environment that sets it. -/
structure OptionSpec where
  name : String
  letter : Option Char := none
  kind : ValueKind := .flag
  environment : Option String := none
  repeatable : Bool := false
  /-- What the option asks for instead of a run. -/
  asks : Option Problem := none
  deriving Inhabited

/-- What may be written at one level of a command line. -/
structure Level where
  options : List OptionSpec
  /-- What a plain word stands for. -/
  operand : Option OptionSpec := none
  /-- The commands, each of which has a level of its own. -/
  commands : List String := []

def Level.byName? (level : Level) (name : String) : Option OptionSpec :=
  level.options.find? fun option => option.name == name

def Level.byLetter? (level : Level) (letter : Char) : Option OptionSpec :=
  level.options.find? fun option => option.letter == some letter

end CommandLine

end CodeSurvey
