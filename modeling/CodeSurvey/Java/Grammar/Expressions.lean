import CodeSurvey.Java.Grammar.Types

namespace CodeSurvey

namespace Java

namespace Grammar

def argumentList : Rule :=
  .node .argumentList (between "(" ")" [.opt (commaSep (.sym (.expression true)))])

def parenthesized : Rule :=
  .node .parenthesizedExpression (between "(" ")" [.sym (.expression true)])

def expression (arrow : Bool) : Rule :=
  .grow (.sym (.binary 0 arrow)) [
    .step .ternaryExpression .none []
      (.seq [tok "?", .sym (.expression true), tok ":", .sym (.expression arrow)])]

def instanceofTail : Rule :=
  .seq [tok "instanceof", .opt (tok "final"),
    .alt [.sym .recordPattern, .seq [.sym .type, .opt (named ident)]]]

/-- The operators of each level. A shift is made of adjacent `>`. -/
def operators : Nat → Rule
  | 0 => tok "||"
  | 1 => tok "&&"
  | 2 => tok "|"
  | 3 => tok "^"
  | 4 => tok "&"
  | 5 => words ["==", "!="]
  | 6 => .alt [tok "<=", .glued [">", "="], tok "<", tok ">"]
  | 7 => .alt [tok "<<", .glued [">", ">", ">"], .glued [">", ">"]]
  | 8 => words ["+", "-"]
  | _ => words ["*", "/", "%"]

def binaryLevels : Nat := 10

def binary (level : Nat) (arrow : Bool) : Rule :=
  if level < binaryLevels then
    let tighter : Rule := .sym (.binary (level + 1) arrow)
    let applied : Rule := .step .binaryExpression .none [] (.seq [operators level, tighter])
    .grow tighter (if level == 6 then [.step .instanceofExpression .none [] instanceofTail, applied]
      else [applied])
  else .sym (.operand arrow)

def lambdaBody : Rule :=
  .playing .body (.alt [.sym .block, .sym (.expression true)])

def inferredParameters : Rule :=
  .node .inferredParameters (between "(" ")" [commaSep ident])

def lambda : Rule :=
  .alt [
    nodeOf .lambdaExpression [.playing .parameters ident, tok "->", lambdaBody],
    nodeOf .lambdaExpression [.playing .parameters (.sym .formalParameters), tok "->", lambdaBody],
    nodeOf .lambdaExpression [.playing .parameters inferredParameters, tok "->", lambdaBody]]

/-- A plain name in parentheses before a sign is an operand, not a cast of the signed value. -/
def signedName : Rule :=
  .seq [tok "(", ident, tok ")", words ["+", "-"]]

def cast (arrow : Bool) : Rule :=
  .alt [
    nodeOf .castExpression [.notAhead signedName, tok "(", .playing .type (.sym .type), tok ")",
      .playing .value (.sym (.operand arrow))],
    nodeOf .castExpression [tok "(", .playing .type (.sym .type),
      many1 (.seq [tok "&", .playing .type (.sym .type)]), tok ")",
      .playing .value (.alt [.sym .lambda, .sym .primary])]]

def operand (arrow : Bool) : Rule :=
  .alt ((if arrow then [.sym .lambda] else []) ++ [
    .sym (.cast arrow),
    nodeOf .unaryExpression [words ["+", "-", "!", "~"], .sym (.operand arrow)],
    nodeOf .updateExpression [words ["++", "--"], .sym (.operand arrow)],
    .sym .switchExpression,
    .sym .postfixed])

def assignmentOperator : Rule :=
  .alt [words ["=", "+=", "-=", "*=", "/=", "&=", "|=", "^=", "%=", "<<="],
    .glued [">", ">", ">", "="], .glued [">", ">", "="]]

def postfixed : Rule :=
  .grow (.sym .primary) [
    .step .assignmentExpression .none [.identifier, .fieldAccess, .arrayAccess]
      (.seq [assignmentOperator, .sym (.expression true)]),
    .step .updateExpression .none [] (words ["++", "--"])]

def superWord : Rule := .wordAs .super "super"

def referencedName : Rule :=
  .seq [tok "::", .opt (.sym .typeArguments), .alt [tok "new", ident]]

/-- A dotted name before `::` is read as an expression, any other type as a type. -/
def typeReference : Rule :=
  nodeOf .methodReference [.notAhead (.seq [.sym .qualifiedName, tok "::"]), .sym .type,
    referencedName]

def invocation : Rule :=
  .seq [.opt (.sym .typeArguments), named ident, .playing .arguments (.sym .argumentList)]

/-- A string, with the expressions that are embedded in it. -/
def stringLiteral : Rule :=
  .alt [.literal .stringLiteral .string,
    nodeOf .stringLiteral [.literal .token .templateStart, .sym (.expression true),
      .many (.seq [.literal .token .templateMiddle, .sym (.expression true)]), .literal .token .templateEnd]]

def literal : Rule :=
  .alt [.literal .numberLiteral .number, stringLiteral,
    .literal .characterLiteral .character, .wordAs .booleanLiteral "true",
    .wordAs .booleanLiteral "false", .wordAs .nullLiteral "null"]

def creation : Rule :=
  .seq [tok "new",
    .alt [.seq [annotations, .sym .typeArguments, annotations], annotations],
    .playing .type (.sym .simpleType), .playing .arguments (.sym .argumentList),
    .opt (.sym .classBody)]

def arrayCreation : Rule :=
  nodeOf .arrayCreation [tok "new", annotations, .playing .type (.sym .simpleType),
    .alt [
      .seq [many1 (nodeOf .dimensionsExpression
          [annotations, tok "[", .sym (.expression true), tok "]"]), .opt (.sym .dimensions)],
      .seq [.sym .dimensions, .playing .value (.sym .arrayInitializer)]]]

def primary : Rule :=
  .grow
    (.alt [literal,
      nodeOf .classLiteral [.sym .unannotatedType, tok ".", tok "class"],
      typeReference,
      .sym .parenthesized,
      .node .objectCreation (.sym .creation),
      arrayCreation,
      nodeOf .methodInvocation [named ident, .playing .arguments (.sym .argumentList)],
      .wordAs .this "this",
      .seq [superWord, .ahead (words [".", "::"])],
      ident])
    [ .step .methodInvocation .object []
        (.seq [tok ".", .opt (.seq [superWord, tok "."]), invocation]),
      .step .objectCreation .none [] (.seq [tok ".", .sym .creation]),
      .step .templateExpression .none [] (.seq [tok ".", stringLiteral]),
      .step .fieldAccess .object []
        (.seq [tok ".", .opt (.seq [superWord, tok "."]),
          .playing .field (.alt [ident, .wordAs .this "this"])]),
      .step .arrayAccess .none [] (between "[" "]" [.sym (.expression true)]),
      .step .methodReference .none [] referencedName]

def switchBlock : Rule :=
  .node .switchBlock (braced [.many (.alt [
    nodeOf .switchRule [.sym .switchLabel, tok "->", .alt [
      nodeOf .expressionStatement [.sym (.expression true), tok ";"],
      nodeOf .throwStatement [tok "throw", .sym (.expression true), tok ";"],
      .sym .block]],
    nodeOf .switchGroup [many1 (.seq [.sym .switchLabel, tok ":"]), .many (.sym .statement)]])])

def switchExpression : Rule :=
  nodeOf .switchExpression [tok "switch", .sym .parenthesized, .playing .body switchBlock]

def recordPatternComponent : Rule :=
  .alt [
    .sym .recordPattern,
    nodeOf .recordPatternComponent [.sym .unannotatedType,
      .alt [.wordAs .underscorePattern "_", ident]],
    .node .recordPatternComponent (.wordAs .underscorePattern "_")]

def recordPattern : Rule :=
  nodeOf .recordPattern [
    .alt [nodeOf .genericType [typeName, .sym .typeArguments], ident],
    .node .recordPatternBody (between "(" ")" [.opt (commaSep recordPatternComponent)])]

def casePattern : Rule :=
  .node .pattern (.alt [nodeOf .typePattern [.sym .unannotatedType, ident], .sym .recordPattern])

def switchLabel : Rule :=
  .node .switchLabel (.alt [
    .seq [tok "case", .alt [casePattern, commaSep (.sym (.expression false))],
      .opt (nodeOf .guard [tok "when", .sym (.expression false)])],
    tok "default"])

end Grammar

end Java

end CodeSurvey
