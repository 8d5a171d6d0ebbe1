import CodeSurvey.Java.Grammar.Declarations

namespace CodeSurvey

namespace Java

open Grammar in
/-- The form of every named construct. -/
def grammar : Symbol → Form Symbol
  | .qualifiedName => qualifiedName
  | .annotationForm => annotationForm
  | .annotationArguments => annotationArguments
  | .elementValue => elementValue
  | .modifiers => modifiers
  | .type => type
  | .unannotatedType => unannotatedType
  | .simpleType => simpleType
  | .dimensions => dimensions
  | .typeArguments => typeArguments
  | .typeParameters => typeParameters
  | .formalParameters => formalParameters
  | .declaratorId => declaratorId
  | .variableDeclarator => variableDeclarator
  | .declarators => declarators
  | .variableInitializer => variableInitializer
  | .arrayInitializer => arrayInitializer
  | .argumentList => argumentList
  | .expression arrow => expression arrow
  | .binary level arrow => binary level arrow
  | .operand arrow => operand arrow
  | .lambda => lambda
  | .cast arrow => cast arrow
  | .postfixed => postfixed
  | .primary => primary
  | .creation => creation
  | .switchExpression => switchExpression
  | .switchLabel => switchLabel
  | .recordPattern => recordPattern
  | .statement => statement
  | .block => block
  | .localVariableDeclaration => localVariableDeclaration
  | .parenthesized => parenthesized
  | .typeDeclaration => typeDeclaration
  | .classBody => classBody
  | .methodDeclaration => methodDeclaration

/-- The syntax tree of a text that follows the grammar. Of any other text it says nothing; whether some of its
declarations can be made out all the same is left to other front ends. Comments at the beginning and the end
belong to the file as a whole. No construct needs more than a hundred levels of recursion for each of its
tokens. -/
def parse? (source : String) : Option Tree :=
  let (tokens, last) := Token.ofSource source
  match Form.run grammar (100 * (tokens.length + 2)) (.many Grammar.topLevel) tokens with
  | some (pieces, []) => some (.node .none .compilationUnit (Piece.spread pieces ++ last))
  | _ => none

end Java

end CodeSurvey
