import CodeSurvey.Java.Form

namespace CodeSurvey

namespace Java

/-- `arrow` says whether `->` may make a lambda of what stands before it: not in the labels of a
switch, where it ends the label. `binary` runs from the loosest to the tightest operators. -/
inductive Symbol where
  | qualifiedName
  | annotationForm | annotationArguments | elementValue | modifiers
  | type | unannotatedType | simpleType | dimensions | typeArguments | typeParameters
  | formalParameters | declaratorId | variableDeclarator | declarators | variableInitializer
  | arrayInitializer | argumentList
  | expression (arrow : Bool) | binary (level : Nat) (arrow : Bool) | operand (arrow : Bool)
  | lambda | cast (arrow : Bool) | postfixed | primary | creation | switchExpression | switchLabel
  | recordPattern
  | statement | block | localVariableDeclaration | parenthesized
  | typeDeclaration | classBody | methodDeclaration
  deriving DecidableEq, Inhabited, Repr

namespace Grammar

abbrev Rule : Type := Form Symbol

def tok (text : String) : Rule := .word text

def ident : Rule := .identifier .identifier

def words (texts : List String) : Rule := .alt (texts.map .word)

def commaSep (form : Rule) : Rule :=
  .seq [form, .many (.seq [tok ",", form])]

def many1 (form : Rule) : Rule :=
  .seq [form, .many form]

def between (opening closing : String) (forms : List Rule) : Rule :=
  .seq (tok opening :: forms ++ [tok closing])

def braced (forms : List Rule) : Rule :=
  between "\x7b" "\x7d" forms

/-- A node whose parts follow each other. -/
def nodeOf (kind : Kind) (forms : List Rule) : Rule :=
  .node kind (.seq forms)

def named (form : Rule) : Rule := .playing .name form

end Grammar

end Java

end CodeSurvey
