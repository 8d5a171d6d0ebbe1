import CodeSurvey.Java.Grammar.Expressions

namespace CodeSurvey

namespace Java

namespace Grammar

def expr : Rule := .sym (.expression true)

def stmt : Rule := .sym .statement

def bodied : Rule := .playing .body stmt

def bodyBlock : Rule := .playing .body (.sym .block)

def block : Rule := .node .block (braced [.many stmt])

def localVariableDeclaration : Rule :=
  nodeOf .localVariableDeclaration [.opt (.sym .modifiers), .playing .type (.sym .unannotatedType),
    .sym .declarators, tok ";"]

def enhancedFor : Rule :=
  nodeOf .enhancedForStatement [tok "for", tok "(", .opt (.sym .modifiers),
    .playing .type (.sym .unannotatedType), .sym .declaratorId, tok ":", .playing .value expr, tok ")",
    bodied]

def basicFor : Rule :=
  nodeOf .forStatement [tok "for", tok "(",
    .alt [.sym .localVariableDeclaration, .seq [.opt (commaSep expr), tok ";"]],
    .opt expr, tok ";", .opt (commaSep expr), tok ")", bodied]

def catchType : Rule :=
  .node .catchType
    (.seq [.sym .unannotatedType, .many (.seq [tok "|", .sym .unannotatedType])])

def catchClause : Rule :=
  nodeOf .catchClause [tok "catch", tok "(",
    nodeOf .catchFormalParameter [.opt (.sym .modifiers), catchType, .sym .declaratorId], tok ")",
    bodyBlock]

def finallyClause : Rule := nodeOf .finallyClause [tok "finally", .sym .block]

def resource : Rule :=
  .node .resource (.alt [
    .seq [.opt (.sym .modifiers), .playing .type (.sym .unannotatedType), .sym .declaratorId, tok "=",
      .playing .value expr],
    .seq [.sym .primary, .ahead (words [";", ")"])]])

def resources : Rule :=
  .node .resourceSpecification
    (between "(" ")" [resource, .many (.seq [tok ";", resource]), .opt (tok ";")])

def tryStatement : Rule :=
  .alt [
    nodeOf .tryWithResourcesStatement [tok "try", resources, bodyBlock, .many catchClause,
      .opt finallyClause],
    nodeOf .tryStatement [tok "try", bodyBlock,
      .alt [.seq [many1 catchClause, .opt finallyClause], finallyClause]]]

def keywordStatement : Rule :=
  .alt [
    nodeOf .ifStatement [tok "if", .sym .parenthesized, stmt, .opt (.seq [tok "else", stmt])],
    nodeOf .whileStatement [tok "while", .sym .parenthesized, bodied],
    enhancedFor,
    basicFor,
    nodeOf .doStatement [tok "do", bodied, tok "while", .sym .parenthesized, tok ";"],
    tryStatement,
    nodeOf .returnStatement [tok "return", .opt expr, tok ";"],
    nodeOf .throwStatement [tok "throw", expr, tok ";"],
    nodeOf .breakStatement [tok "break", .opt ident, tok ";"],
    nodeOf .continueStatement [tok "continue", .opt ident, tok ";"],
    nodeOf .assertStatement [tok "assert", expr, .opt (.seq [tok ":", expr]), tok ";"],
    nodeOf .synchronizedStatement [tok "synchronized", .sym .parenthesized, bodyBlock],
    nodeOf .yieldStatement [tok "yield", expr, tok ";"],
    .sym .switchExpression]

def statement : Rule :=
  .alt [
    tok ";",
    .sym .block,
    keywordStatement,
    .sym .typeDeclaration,
    nodeOf .labeledStatement [ident, tok ":", stmt],
    .sym .localVariableDeclaration,
    nodeOf .expressionStatement [expr, tok ";"]]

end Grammar

end Java

end CodeSurvey
