import CodeSurvey.Java.Grammar.Statements

namespace CodeSurvey

namespace Java

namespace Grammar

def qualified : Rule := .sym .qualifiedName

def moduleDirective : Rule :=
  .node .moduleDirective (.alt [
    .seq [tok "requires", .many (words ["transitive", "static"]), qualified, tok ";"],
    .seq [words ["exports", "opens"], qualified, .opt (.seq [tok "to", commaSep qualified]), tok ";"],
    .seq [tok "uses", qualified, tok ";"],
    .seq [tok "provides", qualified, tok "with", commaSep qualified, tok ";"]])

def moduleDeclaration : Rule :=
  nodeOf .moduleDeclaration [annotations, .opt (tok "open"), tok "module", named qualified,
    .playing .body (.node .moduleBody (braced [.many moduleDirective]))]

def packageDeclaration : Rule :=
  nodeOf .packageDeclaration [annotations, tok "package", qualified, tok ";"]

def importDeclaration : Rule :=
  nodeOf .importDeclaration [tok "import", .opt (tok "static"), qualified,
    .opt (.seq [tok ".", .wordAs .asterisk "*"]), tok ";"]

def optModifiers : Rule := .opt (.sym .modifiers)

def interfaces : Rule :=
  .opt (.playing .interfaces (nodeOf .superInterfaces [tok "implements", typeList]))

def permitted : Rule := .opt (nodeOf .permits [tok "permits", typeList])

def classDeclaration : Rule :=
  nodeOf .classDeclaration [optModifiers, tok "class", named ident, .opt (.sym .typeParameters),
    .opt (.playing .superclass (nodeOf .superclass [tok "extends", .sym .type])), interfaces, permitted,
    .playing .body (.sym .classBody)]

def recordDeclaration : Rule :=
  nodeOf .recordDeclaration [optModifiers, tok "record", named ident, .opt (.sym .typeParameters),
    .playing .parameters (.sym .formalParameters), interfaces, .playing .body (.sym .classBody)]

def enumConstant : Rule :=
  nodeOf .enumConstant [optModifiers, named ident, .opt (.playing .arguments (.sym .argumentList)),
    .opt (.playing .body (.sym .classBody))]

def staticInitializer : Rule := nodeOf .staticInitializer [tok "static", .sym .block]

def throwsClause : Rule :=
  .opt (nodeOf .throwsClause [tok "throws", commaSep (.sym .type)])

def explicitConstructorInvocation : Rule :=
  let arguments : Rule := .seq [.playing .arguments (.sym .argumentList), tok ";"]
  .alt [
    nodeOf .explicitConstructorInvocation [.opt (.sym .typeArguments),
      .alt [.wordAs .this "this", superWord], arguments],
    nodeOf .explicitConstructorInvocation [.playing .object (.sym .primary), tok ".",
      .opt (.sym .typeArguments), superWord, arguments]]

def constructorDeclaration : Rule :=
  nodeOf .constructorDeclaration [optModifiers, .opt (.sym .typeParameters), named ident,
    .playing .parameters (.sym .formalParameters), throwsClause,
    .playing .body (.node .constructorBody
      (braced [.opt explicitConstructorInvocation, .many stmt]))]

def compactConstructorDeclaration : Rule :=
  nodeOf .compactConstructorDeclaration [optModifiers, named ident, bodyBlock]

def methodDeclaration : Rule :=
  nodeOf .methodDeclaration [optModifiers, .opt (.seq [.sym .typeParameters, annotations]),
    .playing .type (.sym .unannotatedType), named ident, .playing .parameters (.sym .formalParameters),
    .opt (.playing .dimensions (.sym .dimensions)), throwsClause, .alt [bodyBlock, tok ";"]]

def variableList (kind : Kind) : Rule :=
  nodeOf kind [optModifiers, .playing .type (.sym .unannotatedType), .sym .declarators, tok ";"]

def annotationElementDeclaration : Rule :=
  nodeOf .annotationElementDeclaration [optModifiers, .playing .type (.sym .unannotatedType),
    named ident, tok "(", tok ")", .opt (.playing .dimensions (.sym .dimensions)),
    .opt (.seq [tok "default", .playing .value (.sym .elementValue)]), tok ";"]

def classMember : Rule :=
  .alt [tok ";", .sym .block, staticInitializer, .sym .typeDeclaration, constructorDeclaration,
    compactConstructorDeclaration, .sym .methodDeclaration, variableList .fieldDeclaration]

def classBody : Rule := .node .classBody (braced [.many classMember])

def enumDeclaration : Rule :=
  nodeOf .enumDeclaration [optModifiers, tok "enum", named ident, interfaces,
    .playing .body (.node .enumBody (braced [.opt (commaSep enumConstant), .opt (tok ","),
      .opt (nodeOf .enumBodyDeclarations [tok ";", .many classMember])]))]

def interfaceDeclaration : Rule :=
  nodeOf .interfaceDeclaration [optModifiers, tok "interface", named ident, .opt (.sym .typeParameters),
    .opt (nodeOf .extendsInterfaces [tok "extends", typeList]), permitted,
    .playing .body (.node .interfaceBody (braced [.many
      (.alt [tok ";", .sym .typeDeclaration, .sym .methodDeclaration,
        variableList .constantDeclaration])]))]

def annotationTypeDeclaration : Rule :=
  nodeOf .annotationTypeDeclaration [optModifiers, tok "@interface", named ident,
    .playing .body (.node .annotationTypeBody (braced [.many
      (.alt [tok ";", .sym .typeDeclaration, annotationElementDeclaration,
        variableList .constantDeclaration])]))]

def typeDeclaration : Rule :=
  .alt [classDeclaration, interfaceDeclaration, enumDeclaration, recordDeclaration,
    annotationTypeDeclaration]

/-- What may stand at the top of a file: declarations, but loose statements and methods as well. -/
def topLevel : Rule :=
  .alt [packageDeclaration, importDeclaration, moduleDeclaration, stmt, .sym .methodDeclaration]

end Grammar

end Java

end CodeSurvey
