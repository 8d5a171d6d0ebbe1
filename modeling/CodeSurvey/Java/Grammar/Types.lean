import CodeSurvey.Java.Grammar.Symbol

namespace CodeSurvey

namespace Java

namespace Grammar

def qualifiedName : Rule :=
  .grow ident [.step .scopedIdentifier .scope [] (.seq [tok ".", named ident])]

def annotationForm : Rule :=
  .alt [
    nodeOf .annotationUse [tok "@", named (.sym .qualifiedName),
      .playing .arguments (.sym .annotationArguments)],
    nodeOf .annotationMark [tok "@", named (.sym .qualifiedName)]]

def annotations : Rule := .many (.sym .annotationForm)

def elementValuePair : Rule :=
  nodeOf .elementValuePair [ident, tok "=", .playing .value (.sym .elementValue)]

def annotationArguments : Rule :=
  .node .annotationArguments (.alt [
    between "(" ")" [commaSep elementValuePair],
    between "(" ")" [.sym .elementValue],
    between "(" ")" []])

def elementValueArray : Rule :=
  .node .elementValueArray
    (braced [.opt (commaSep (.sym .elementValue)), .opt (tok ",")])

def elementValue : Rule :=
  .alt [elementValueArray, .sym .annotationForm, .sym (.expression true)]

def modifierWords : List String :=
  ["public", "protected", "private", "abstract", "static", "final", "strictfp", "default", "synchronized",
    "native", "transient", "volatile", "sealed", "non-sealed"]

def modifiers : Rule :=
  .node .modifiers (many1 (.alt [.sym .annotationForm, words modifierWords]))

def primitiveType : Rule :=
  .alt [.wordAs .voidType "void", .wordAs .booleanType "boolean", .wordAs .integralType "int",
    .wordAs .integralType "long", .wordAs .integralType "short", .wordAs .integralType "byte",
    .wordAs .integralType "char", .wordAs .floatingType "float", .wordAs .floatingType "double"]

def typeName : Rule := .identifier .typeIdentifier

def simpleType : Rule :=
  .alt [primitiveType,
    .grow typeName [
      .step .scopedTypeIdentifier .none [.typeIdentifier, .scopedTypeIdentifier, .genericType]
        (.seq [tok ".", annotations, typeName]),
      .step .genericType .none [.typeIdentifier, .scopedTypeIdentifier] (.sym .typeArguments)]]

def dimensions : Rule :=
  .node .dimensions (many1 (.seq [annotations, tok "[", tok "]"]))

def unannotatedType : Rule :=
  .grow (.sym .simpleType) [
    .step .arrayType .none
      [.voidType, .booleanType, .integralType, .floatingType, .typeIdentifier, .scopedTypeIdentifier,
        .genericType]
      (.playing .dimensions (.sym .dimensions))]

def type : Rule :=
  .alt [.sym .unannotatedType,
    nodeOf .annotatedType [many1 (.sym .annotationForm), .sym .unannotatedType]]

def wildcard : Rule :=
  nodeOf .wildcard [annotations, tok "?",
    .opt (.alt [.seq [tok "extends", .sym .type], .seq [.wordAs .super "super", .sym .type]])]

def typeArguments : Rule :=
  .node .typeArguments (between "<" ">" [.opt (commaSep (.alt [.sym .type, wildcard]))])

def typeBound : Rule :=
  nodeOf .typeBound [tok "extends", .sym .type, .many (.seq [tok "&", .sym .type])]

def typeParameters : Rule :=
  .node .typeParameters
    (between "<" ">" [commaSep (nodeOf .typeParameter [annotations, typeName, .opt typeBound])])

def typeList : Rule := .node .typeList (commaSep (.sym .type))

def declaratorId : Rule :=
  .seq [named (.alt [.wordAs .underscorePattern "_", ident]),
    .opt (.playing .dimensions (.sym .dimensions))]

def variableDeclarator : Rule :=
  nodeOf .variableDeclarator [.sym .declaratorId,
    .opt (.seq [tok "=", .playing .value (.sym .variableInitializer)])]

def declarators : Rule :=
  commaSep (.playing .declarator (.sym .variableDeclarator))

def variableInitializer : Rule :=
  .alt [.sym .arrayInitializer, .sym (.expression true)]

def arrayInitializer : Rule :=
  .node .arrayInitializer
    (braced [.opt (commaSep (.sym .variableInitializer)), .opt (tok ",")])

def receiverParameter : Rule :=
  nodeOf .receiverParameter [annotations, .sym .unannotatedType, .many (.seq [ident, tok "."]),
    .wordAs .this "this"]

def formalParameter : Rule :=
  .alt [
    nodeOf .formalParameter [.opt (.sym .modifiers), .playing .type (.sym .unannotatedType),
      .sym .declaratorId],
    nodeOf .spreadParameter [.opt (.sym .modifiers), .sym .unannotatedType, tok "...", annotations,
      .sym .variableDeclarator]]

def formalParameters : Rule :=
  .node .formalParameters (between "(" ")" [.opt (.alt [
    .seq [receiverParameter, .many (.seq [tok ",", formalParameter])],
    commaSep formalParameter])])

end Grammar

end Java

end CodeSurvey
