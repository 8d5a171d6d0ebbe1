import CodeSurvey.Text.Blank

namespace CodeSurvey

namespace Glob

inductive Token where
  | byte (value : UInt8)
  | anyByte
  | anyRun
  /-- Any directories, or none, at the beginning of a path. -/
  | leadingDirectories
  /-- Any directories, or none, between two names. -/
  | innerDirectories
  /-- Anything below a directory. -/
  | anythingBelow
  | oneOf (negated : Bool) (ranges : List (Char × Char))
  /-- The marks of a choice between patterns. -/
  | openChoice
  | nextChoice
  | closeChoice
  deriving DecidableEq, Inhabited, Repr

def slash : UInt8 := 47

/-- What may remain when a run of bytes without a slash is taken away. -/
def withinName : List UInt8 → List (List UInt8)
  | [] => [[]]
  | b :: rest => (b :: rest) :: if b == slash then [] else withinName rest

/-- What follows each slash. -/
def afterSlashes : List UInt8 → List (List UInt8)
  | [] => []
  | b :: rest => if b == slash then rest :: afterSlashes rest else afterSlashes rest

def suffixes : List UInt8 → List (List UInt8)
  | [] => [[]]
  | b :: rest => (b :: rest) :: suffixes rest

def inRanges (ranges : List (Char × Char)) (b : UInt8) : Bool :=
  ranges.any fun r => r.1.toNat ≤ b.toNat && b.toNat ≤ r.2.toNat

/-- What may remain of a text when its beginning stands for a token. -/
def Token.remainders (token : Token) (bytes : List UInt8) : List (List UInt8) :=
  match token with
  | byte value =>
    match bytes with
    | b :: rest => if b == value then [rest] else []
    | [] => []
  | anyByte =>
    match bytes with
    | b :: rest => if b == slash then [] else [rest]
    | [] => []
  | anyRun => withinName bytes
  | leadingDirectories => bytes :: afterSlashes bytes
  | innerDirectories =>
    match bytes with
    | b :: rest => if b == slash then rest :: afterSlashes rest else []
    | [] => []
  | anythingBelow =>
    match bytes with
    | b :: rest => if b == slash then suffixes rest else []
    | [] => []
  | oneOf negated ranges =>
    match bytes with
    | b :: rest => if inRanges ranges b != negated then [rest] else []
    | [] => []
  | openChoice | nextChoice | closeChoice => [bytes]

/-- Whether tokens stand for the whole of a text. -/
def accepts : List Token → List UInt8 → Bool
  | [], bytes => bytes.isEmpty
  | token :: tokens, bytes => (token.remainders bytes).any (accepts tokens)

/-- A choice that is being spelt out: its finished branches, and the open branch, each as the sequences
it stands for. -/
structure Choice where
  finished : List (List Token) := []
  current : List (List Token) := [[]]

/-- Empty branches do not count. -/
def Choice.branches (choice : Choice) : List (List Token) :=
  match (choice.finished ++ choice.current).filter fun branch => !branch.isEmpty with
  | [] => [[]]
  | branches => branches

def Choice.extend (choice : Choice) (endings : List (List Token)) : Choice :=
  { choice with
    current := choice.current.flatMap fun front => endings.map fun ending => front ++ ending }

/-- Spells out one more token. The choices in progress stand innermost first. -/
def spell (choices : List Choice) (token : Token) : List Choice :=
  match token, choices with
  | .openChoice, choices => {} :: choices
  | .nextChoice, choice :: outer =>
    { finished := choice.finished ++ choice.current } :: outer
  | .closeChoice, choice :: around :: outer => around.extend choice.branches :: outer
  | token, choice :: outer => choice.extend [[token]] :: outer
  | _, [] => []

/-- All the sequences without choices that tokens stand for. -/
def spellOut (tokens : List Token) : List (List Token) :=
  (tokens.foldl spell [{}]).flatMap (·.current)

/-- A pattern read up to some place; its tokens stand last first. -/
structure Reading where
  read : List Token := []
  /-- How many tokens of the open branch have been read. -/
  inBranch : Nat := 0
  /-- The branch lengths of the patterns around the open choices. -/
  around : List Nat := []
  /-- The character before the next one. -/
  before : Option Char := none

namespace Reading

def push (r : Reading) (token : Token) (before : Char) : Reading :=
  { r with read := token :: r.read, inBranch := r.inBranch + 1, before := some before }

/-- A literal character, byte by byte. -/
def pushChar (r : Reading) (c : Char) : Reading :=
  let bytes := (String.singleton c).toUTF8.toList
  { r with
    read := (bytes.map Token.byte).reverse ++ r.read
    inBranch := r.inBranch + bytes.length
    before := some c }

/-- Replaces the slash before two stars by what the stars mean there, unless they repeat what has been
said. -/
def pushDirectories (r : Reading) (token : Token) (before : Char) : Reading :=
  match r.read with
  | .leadingDirectories :: _ | .anythingBelow :: _ => { r with before := some before }
  | _ :: read => { r with read := token :: read, before := some before }
  | [] => r

def openChoice (r : Reading) : Reading :=
  { read := .openChoice :: r.read, inBranch := 0, around := r.inBranch :: r.around, before := some '{' }

def nextChoice (r : Reading) : Reading :=
  { r with read := .nextChoice :: r.read, inBranch := 0, before := some ',' }

def closeChoice? (r : Reading) : Option Reading :=
  match r.around with
  | outer :: around =>
    some { read := .closeChoice :: r.read, inBranch := outer + 1, around, before := some '}' }
  | [] => none

end Reading

/-- The ranges between brackets and what follows them. A closing bracket that stands first is literal,
and so is a dash at either end. -/
def readRanges (first inRange : Bool) (ranges : List (Char × Char)) :
    List Char → Option (List (Char × Char) × List Char)
  | [] => none
  | c :: rest =>
    if c == ']' && !first then
      some ((if inRange then ('-', '-') :: ranges else ranges).reverse, rest)
    else if c == '-' && !first && !inRange then readRanges false true ranges rest
    else
      match inRange, ranges with
      | true, (low, _) :: others =>
        if c < low then none else readRanges false false ((low, c) :: others) rest
      | _, _ => readRanges false false ((c, c) :: ranges) rest

/-- Two stars, after which `rest` follows. -/
def readTwoStars (r : Reading) (rest : List Char) : Reading × List Char :=
  let plain := (r.push .anyRun '*').push .anyRun '*'
  if r.inBranch == 0 then
    match rest with
    | [] => (r.push .leadingDirectories '*', [])
    | '/' :: rest => (r.push .leadingDirectories '/', rest)
    | rest => (plain, rest)
  else if r.before != some '/' then (plain, rest)
  else
    match rest with
    | [] => (r.pushDirectories .anythingBelow '*', [])
    | '/' :: rest => (r.pushDirectories .innerDirectories '/', rest)
    | c :: _ =>
      if (c == ',' || c == '}') && !r.around.isEmpty then (r.pushDirectories .anythingBelow '*', rest)
      else (plain, rest)

/-- Reads one token; none when the pattern is malformed. -/
def readToken (r : Reading) (c : Char) (rest : List Char) : Option (Reading × List Char) :=
  match c with
  | '?' => some (r.push .anyByte c, rest)
  | '*' =>
    match rest with
    | '*' :: rest => some (readTwoStars r rest)
    | _ => some (r.push .anyRun c, rest)
  | '[' => do
    let (negated, body) := match rest with
      | '!' :: body | '^' :: body => (true, body)
      | body => (false, body)
    let (ranges, rest) ← readRanges true false [] body
    return (r.push (.oneOf negated ranges) ']', rest)
  | '{' => some (r.openChoice, rest)
  | '}' => r.closeChoice?.map (·, rest)
  | ',' => some (if r.around.isEmpty then r.pushChar c else r.nextChoice, rest)
  | '\\' =>
    match rest with
    | escaped :: rest => some (r.pushChar escaped, rest)
    | [] => none
  | c => some (r.pushChar c, rest)

/-- Reads a whole pattern; each token takes at least one character of the fuel. -/
def readTokens : Nat → Reading → List Char → Option Reading
  | _, r, [] => some r
  | 0, _, _ => none
  | fuel + 1, r, c :: rest => do
    let (r, rest) ← readToken r c rest
    readTokens fuel r rest

end Glob

/-- A pattern for paths, as the sequences of tokens it stands for. -/
structure Glob where
  sequences : List (List Glob.Token)
  deriving Inhabited, Repr

namespace Glob

def ofText? (text : List Char) : Option Glob := do
  let r ← readTokens text.length {} text
  guard r.around.isEmpty
  match r.read with
  -- Two stars alone stand for every path.
  | [.leadingDirectories] => return ⟨[[.leadingDirectories, .anyRun]]⟩
  | read => return ⟨spellOut read.reverse⟩

def matchesPath (glob : Glob) (path : String) : Bool :=
  let bytes := path.toUTF8.toList
  glob.sequences.any fun tokens => accepts tokens bytes

end Glob

end CodeSurvey
