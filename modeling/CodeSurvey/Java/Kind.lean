namespace CodeSurvey

namespace Java

/-- `token` is the kind of keywords, operators and punctuation; every other kind is a construct of
the language or a comment. -/
inductive Kind where
  | token
  | lineComment | blockComment
  | compilationUnit
  -- names
  | identifier | scopedIdentifier | typeIdentifier | scopedTypeIdentifier | underscorePattern | asterisk
  -- types
  | voidType | integralType | floatingType | booleanType | genericType | arrayType | annotatedType
  | dimensions | typeArguments | wildcard | typeParameters | typeParameter | typeBound | typeList
  | catchType
  -- declarations
  | moduleDeclaration | moduleBody | moduleDirective | packageDeclaration | importDeclaration
  | classDeclaration | interfaceDeclaration | enumDeclaration | recordDeclaration
  | annotationTypeDeclaration | superclass | superInterfaces | extendsInterfaces | permits
  | classBody | interfaceBody | enumBody | enumBodyDeclarations | annotationTypeBody | enumConstant
  | modifiers | annotationMark | annotationUse | annotationArguments | elementValuePair
  | elementValueArray | fieldDeclaration | constantDeclaration | methodDeclaration
  | constructorDeclaration | compactConstructorDeclaration | annotationElementDeclaration
  | staticInitializer | variableDeclarator | formalParameters | formalParameter | spreadParameter
  | receiverParameter | inferredParameters | throwsClause | constructorBody
  | explicitConstructorInvocation
  -- statements
  | block | expressionStatement | labeledStatement | ifStatement | whileStatement | forStatement
  | enhancedForStatement | doStatement | assertStatement | breakStatement | continueStatement
  | returnStatement | yieldStatement | synchronizedStatement | throwStatement | tryStatement
  | tryWithResourcesStatement | resourceSpecification | resource | catchClause
  | catchFormalParameter | finallyClause | localVariableDeclaration | switchExpression | switchBlock
  | switchGroup | switchRule | switchLabel | pattern | typePattern | recordPattern
  | recordPatternBody | recordPatternComponent | guard
  -- expressions
  | numberLiteral | stringLiteral | characterLiteral | booleanLiteral | nullLiteral | this | super
  | classLiteral | parenthesizedExpression | objectCreation | fieldAccess | arrayAccess
  | methodInvocation | methodReference | arrayCreation | dimensionsExpression | arrayInitializer
  | templateExpression | argumentList | assignmentExpression | binaryExpression
  | instanceofExpression | lambdaExpression | ternaryExpression | updateExpression
  | unaryExpression | castExpression
  deriving DecidableEq, Inhabited, Repr

namespace Kind

/-- Whether nodes of this kind are constructs or comments, and not mere tokens. -/
def isNamed (kind : Kind) : Bool :=
  kind != .token

def isComment : Kind → Bool
  | lineComment | blockComment => true
  | _ => false

end Kind

/-- The part that a node plays in its parent; `none` where the parent tells its children apart by
kind or place alone. -/
inductive Role where
  | none
  | name
  | type
  | declarator
  | dimensions
  | value
  | body
  | parameters
  | superclass
  | interfaces
  | arguments
  | object
  | field
  | scope
  deriving DecidableEq, Inhabited, Repr

end Java

end CodeSurvey
