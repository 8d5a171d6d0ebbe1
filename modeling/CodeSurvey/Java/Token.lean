import CodeSurvey.Java.Tree
import CodeSurvey.Text.Identifier

namespace CodeSurvey

namespace Java

inductive Shape where
  | word
  | number
  | string
  /-- a string up to its first embedded expression -/
  | templateStart
  /-- the part of a string between two embedded expressions -/
  | templateMiddle
  /-- a string from its last embedded expression on -/
  | templateEnd
  | character
  | sign
  | lineComment
  | blockComment
  | stray
  deriving DecidableEq, Inhabited, Repr

/-- A token with the comments before it. -/
structure Token where
  shape : Shape
  leaf : Leaf
  lead : List Tree
  deriving Inhabited, Repr

namespace Token

/-- The blanks that separate tokens. -/
def isSpace (c : Char) : Bool :=
  c == ' ' || (9 ≤ c.toNat && c.toNat ≤ 13)

/-- Operators and punctuation, a longer one before its beginnings. -/
def signs : List String :=
  ["<<=", "...", "@interface", "->", "--", "-=", "++", "+=", "&&", "&=", "||", "|=", "==", "!=", "<<", "<=",
    "*=", "/=", "%=", "^=", "::", "-", "+", "&", "|", "=", "!", "<", ">", "*", "/", "%", "^", "~", "?",
    ":", ";", ",", ".", "(", ")", "[", "]", "\x7b", "\x7d", "@"]

/-- The length of a comment's text up to its closing mark, counted from after the opening one. -/
def blockEnd : List Char → Option Nat
  | '*' :: '/' :: _ => some 2
  | _ :: rest => (blockEnd rest).map (· + 1)
  | [] => none

/-- The number of characters up to the quote that closes a character. -/
def characterEnd : List Char → Option Nat
  | [] => none
  | '\\' :: _ :: rest => (characterEnd rest).map (· + 2)
  | c :: rest =>
    if c == '\'' then some 1
    else if c == '\n' then none
    else (characterEnd rest).map (· + 1)

/-- The number of characters up to the quotes that close a string or text block, or up to an expression that is
embedded in it, and whether it is the latter. -/
def stringEnd (isBlock : Bool) : List Char → Option (Nat × Bool)
  | [] => none
  | '\\' :: '{' :: _ => some (2, true)
  | '\\' :: _ :: rest => (stringEnd isBlock rest).map fun (n, embeds) => (n + 2, embeds)
  | c :: rest =>
    if c == '"' && !isBlock then some (1, false)
    else if c == '"' && ['"', '"'].isPrefixOf rest then some (3, false)
    else (stringEnd isBlock rest).map fun (n, embeds) => (n + 1, embeds)

/-- Whether a point after digits belongs to the number: it does not when a name follows. -/
def pointContinues : List Char → Bool
  | [] => true
  | c :: rest =>
    if Text.isDigit c then true
    else if ['e', 'E', 'f', 'F', 'd', 'D'].contains c then
      match rest with
      | [] => true
      | next :: _ => !Text.startsIdentifier next
    else !(Text.startsIdentifier c || c == '.')

/-- The number of characters of a number that go on at this place. -/
def numberLength (hex : Bool) : List Char → Nat
  | [] => 0
  | c :: rest =>
    let exponentMark := if hex then c == 'p' || c == 'P' else c == 'e' || c == 'E'
    if exponentMark then
      match rest with
      | '+' :: rest => 2 + numberLength hex rest
      | '-' :: rest => 2 + numberLength hex rest
      | rest => 1 + numberLength hex rest
    else if Text.isLetter c || Text.isDigit c || c == '_' then 1 + numberLength hex rest
    else if c == '.' && pointContinues rest then 1 + numberLength hex rest
    else 0

def isHex : List Char → Bool
  | '0' :: 'x' :: _ => true
  | '0' :: 'X' :: _ => true
  | _ => false

def wordLength (cs : List Char) : Nat :=
  let length := (cs.takeWhile Text.continuesIdentifier).length
  let hyphened := "non-sealed".toList
  if hyphened.isPrefixOf cs && length == 3 &&
      !((cs.drop hyphened.length).head?.any Text.continuesIdentifier) then hyphened.length
  else length

/-- The shape and length of the token at the front of a text that starts with no blank. -/
def measure (cs : List Char) : Shape × Nat :=
  match cs with
  | '/' :: '/' :: _ => (.lineComment, (cs.takeWhile (· != '\n')).length)
  | '/' :: '*' :: rest =>
    match blockEnd rest with
    | some n => (.blockComment, n + 2)
    | none => (.stray, cs.length)
  | '"' :: '"' :: '"' :: rest =>
    match stringEnd true rest with
    | some (n, false) => (.string, n + 3)
    | some (n, true) => (.templateStart, n + 3)
    | none => (.stray, cs.length)
  | '"' :: rest =>
    match stringEnd false rest with
    | some (n, false) => (.string, n + 1)
    | some (n, true) => (.templateStart, n + 1)
    | none => (.stray, 1)
  | '\'' :: rest =>
    match characterEnd rest with
    | some n => if 1 < n then (.character, n + 1) else (.stray, 1)
    | none => (.stray, 1)
  | c :: rest =>
    if Text.isDigit c || (c == '.' && rest.head?.any Text.isDigit) then
      (.number, numberLength (isHex cs) cs)
    else if Text.startsIdentifier c then (.word, wordLength cs)
    else
      match signs.find? fun sign => sign.toList.isPrefixOf cs with
      | some sign => (.sign, sign.length)
      | none => (.stray, 1)
  | [] => (.stray, 0)

/-- A string around an embedded expression, with the number of braces that are open in the expression. -/
structure OpenString where
  isBlock : Bool
  braces : Nat

/-- Within an embedded expression, the brace that ends it leads back into the string. -/
def measureIn (strings : List OpenString) (cs : List Char) : Shape × Nat :=
  match strings, cs with
  | ⟨isBlock, 0⟩ :: _, '}' :: rest =>
    match stringEnd isBlock rest with
    | some (n, false) => (.templateEnd, n + 1)
    | some (n, true) => (.templateMiddle, n + 1)
    | none => (.stray, cs.length)
  | _, cs => measure cs

/-- The strings around what follows a token, the innermost first. -/
def stringsAfter (shape : Shape) (text : List Char) (strings : List OpenString) : List OpenString :=
  match shape, text, strings with
  | .templateStart, text, strings => ⟨['"', '"', '"'].isPrefixOf text, 0⟩ :: strings
  | .templateEnd, _, _ :: strings => strings
  | .sign, ['{'], string :: strings => { string with braces := string.braces + 1 } :: strings
  | .sign, ['}'], string :: strings => { string with braces := string.braces - 1 } :: strings
  | _, _, strings => strings

/-- The tokens of a text, and the comments after the last one. `lead` holds the comments, in reverse,
that wait for a token; `fuel` is at least the number of characters. -/
def scan : Nat → Nat → List OpenString → List Tree → List Char → List Token × List Tree
  | 0, _, _, lead, _ => ([], lead.reverse)
  | fuel + 1, row, strings, lead, cs =>
    let gap := cs.takeWhile isSpace
    match cs.dropWhile isSpace with
    | [] => ([], lead.reverse)
    | rest =>
      let (shape, length) := measureIn strings rest
      let text := rest.take length
      let row := row + gap.count '\n'
      let leaf : Leaf := { gap := String.ofList gap, text := String.ofList text, row }
      let after := row + text.count '\n'
      match shape with
      | .lineComment => scan fuel after strings (.leaf .none .lineComment leaf :: lead) (rest.drop length)
      | .blockComment => scan fuel after strings (.leaf .none .blockComment leaf :: lead) (rest.drop length)
      | shape =>
        let (tokens, last) := scan fuel after (stringsAfter shape text strings) [] (rest.drop length)
        ({ shape, leaf, lead := lead.reverse } :: tokens, last)

/-- The tokens of a file. A byte order mark at its very beginning counts for nothing. -/
def ofSource (source : String) : List Token × List Tree :=
  let cs := source.toList
  let cs := if cs.head? == some '\uFEFF' then cs.drop 1 else cs
  scan (cs.length + 1) 0 [] [] cs

/-- Words that name nothing. -/
def reserved : List String :=
  ["abstract", "assert", "boolean", "break", "byte", "case", "catch", "char", "class", "continue", "default",
    "do", "double", "else", "enum", "extends", "final", "finally", "float", "for", "if", "implements", "import",
    "instanceof", "int", "interface", "long", "native", "new", "package", "private", "protected", "public",
    "return", "short", "static", "strictfp", "super", "switch", "synchronized", "this", "throw", "throws",
    "transient", "try", "void", "volatile", "while", "true", "false", "null", "non-sealed"]

def isIdentifier (token : Token) : Bool :=
  token.shape == .word && !reserved.contains token.leaf.text

/-- Whether a token is this keyword or sign. -/
def isText (token : Token) (text : String) : Bool :=
  (token.shape == .word || token.shape == .sign) && token.leaf.text == text

/-- Whether nothing stands between a token and the one before it. -/
def isGlued (token : Token) : Bool :=
  token.lead.isEmpty && token.leaf.gap.isEmpty

end Token

end Java

end CodeSurvey
