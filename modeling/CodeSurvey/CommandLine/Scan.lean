import CodeSurvey.CommandLine.Option
import CodeSurvey.Name

namespace CodeSurvey

namespace CommandLine

/-- What has been read at a level. -/
structure Scan where
  values : List (String × Value) := []
  /-- The last option or operand. Its value may still have to come, and it is looked at only when the next
  argument has been recognised, so a mistake in that argument is reported first. -/
  pending : Option (OptionSpec × Option String) := none
  /-- Only operands follow. -/
  operandsOnly : Bool := false

namespace Scan

def isGiven (scan : Scan) (option : OptionSpec) : Bool :=
  scan.values.any fun v => v.1 == option.name

def put (scan : Scan) (option : OptionSpec) (value : Value) : Except Problem Scan :=
  if !option.repeatable && scan.isGiven option then .error .givenTwice
  else .ok { scan with values := scan.values ++ [(option.name, value)] }

def accept (scan : Scan) (option : OptionSpec) (text : String) : Except Problem Scan := do
  if !option.repeatable && scan.isGiven option then throw .givenTwice
  scan.put option (← option.kind.read text)

/-- Looks at the pending value. -/
def settle (scan : Scan) : Except Problem Scan :=
  match scan.pending with
  | none => .ok scan
  | some (option, some text) => { scan with pending := none }.accept option text
  | some (_, none) => .error .invalidValue

def awaitsValue (scan : Scan) : Bool :=
  match scan.pending with
  | some (_, none) => true
  | _ => false

/-- A flag, which takes effect at once. -/
def raise (scan : Scan) (option : OptionSpec) : Except Problem Scan := do
  let scan ← scan.settle
  match option.asks with
  | some problem => throw problem
  | none => scan.put option (.flag true)

/-- An option with a value, when one is attached. -/
def takeValue (scan : Scan) (option : OptionSpec) (attached : Option String) :
    Except Problem Scan := do
  let scan ← scan.settle
  match attached with
  | some text => scan.accept option text
  | none => return { scan with pending := some (option, none) }

/-- The name and the attached value of a long option. -/
def splitAttached (cs : List Char) : String × Option String :=
  let name := cs.takeWhile (· != '=')
  (String.ofList name, (cs.drop name.length).tail?.map String.ofList)

def long (level : Level) (scan : Scan) (cs : List Char) : Except Problem Scan :=
  let (name, attached) := splitAttached cs
  match level.byName? name with
  | none => .error .unknownArgument
  | some option =>
    if option.kind == .flag then
      if attached.isSome then .error .needlessValue else scan.raise option
    else scan.takeValue option attached

/-- Letters behind one dash. What follows the letter of an option that takes a value is the value. -/
def letters (level : Level) (scan : Scan) : List Char → Except Problem Scan
  | [] => .ok scan
  | letter :: rest =>
    match level.byLetter? letter with
    | none => .error .unknownArgument
    | some option =>
      if option.kind == .flag then do letters level (← scan.raise option) rest
      else
        scan.takeValue option (match rest with
          | [] => none
          | '=' :: value => some (String.ofList value)
          | value => some (String.ofList value))

/-- A plain word: the value that an option waits for, or an operand. -/
def plain (level : Level) (scan : Scan) (word : String) : Except Problem Scan :=
  match level.operand with
  | some option =>
    if scan.isGiven option || (scan.pending.any fun p => p.1.name == option.name) then
      .error .unknownArgument
    else do return { ← scan.settle with pending := some (option, some word) }
  | none =>
    .error (if scan.operandsOnly && level.commands.contains word then .unknownArgument
      else .unknownCommand)

def argument (level : Level) (scan : Scan) (word : String) : Except Problem Scan :=
  if scan.operandsOnly then scan.plain level word
  else
    match word.toList with
    | ['-', '-'] => .ok { scan with operandsOnly := true }
    | '-' :: '-' :: rest => scan.long level rest
    | '-' :: c :: rest => scan.letters level (c :: rest)
    | _ =>
      match scan.pending with
      | some (option, none) => .ok { scan with pending := some (option, some word) }
      | _ => scan.plain level word

/-- Reads up to the end or up to a command, which is given with the words after it. -/
def words (level : Level) (scan : Scan) :
    List String → Except Problem (Scan × Option (String × List String))
  | [] => .ok (scan, none)
  | word :: rest =>
    if !scan.operandsOnly && !scan.awaitsValue && level.commands.contains word then
      .ok (scan, some (word, rest))
    else do words level (← scan.argument level word) rest

end Scan

/-- Where a value comes from; what is typed counts more than what is set in the environment. -/
structure Setting where
  values : List Value
  typed : Bool

/-- The settings of a level: what has been read, and for the rest the variables of the environment. -/
def Scan.settings (level : Level) (environment : NameMap String) (scan : Scan) :
    Except Problem (NameMap Setting) := do
  let scan ← scan.settle
  let typed : NameMap Setting := scan.values.foldl (fun found (name, value) =>
    let before := match found.get? name with
      | some setting => setting.values
      | none => []
    found.insert name ⟨before ++ [value], true⟩) ∅
  (level.operand.toList ++ level.options).foldlM (fun found option =>
    match found.contains option.name, option.environment.bind environment.get? with
    | false, some text => do return found.insert option.name ⟨[← option.kind.read text], false⟩
    | _, _ => return found) typed

end CommandLine

end CodeSurvey
