import ResultLint.Syntax

/-!
# Java syntax

The named symbols of the Java grammar whose trees the analysis reads: declarations, statements,
expressions, types and literals, and `error` for text that the grammar does not cover.
-/

namespace ResultLint
namespace Java

/-- A named symbol of the Java grammar. -/
inductive Kind where
  | program
  | packageDeclaration
  | importDeclaration
  | moduleDeclaration
  | moduleBody
  | moduleDirective
  | requiresModifier
  | asterisk
  | identifier
  | scopedIdentifier
  | modifiers
  | annotationMarker
  | annotationWithArguments
  | annotationArgumentList
  | elementValuePair
  | elementValueArrayInitializer
  | classDeclaration
  | interfaceDeclaration
  | enumDeclaration
  | recordDeclaration
  | annotationTypeDeclaration
  | classBody
  | interfaceBody
  | enumBody
  | enumBodyDeclarations
  | enumConstant
  | annotationTypeBody
  | annotationTypeElementDeclaration
  | constantDeclaration
  | typeParameters
  | typeParameter
  | typeBound
  | superclass
  | superInterfaces
  | extendsInterfaces
  | permits
  | typeList
  | fieldDeclaration
  | variableDeclarator
  | arrayInitializer
  | dimensions
  | dimensionsExpr
  | methodDeclaration
  | constructorDeclaration
  | compactConstructorDeclaration
  | constructorBody
  | explicitConstructorInvocation
  | staticInitializer
  | throws
  | formalParameters
  | formalParameter
  | spreadParameter
  | receiverParameter
  | typeIdentifier
  | scopedTypeIdentifier
  | genericType
  | typeArguments
  | wildcard
  | arrayType
  | annotatedType
  | integralType
  | floatingPointType
  | booleanType
  | voidType
  | block
  | localVariableDeclaration
  | expressionStatement
  | labeledStatement
  | ifStatement
  | whileStatement
  | doStatement
  | forStatement
  | enhancedForStatement
  | returnStatement
  | breakStatement
  | continueStatement
  | yieldStatement
  | throwStatement
  | assertStatement
  | synchronizedStatement
  | tryStatement
  | catchClause
  | catchFormalParameter
  | catchType
  | finallyClause
  | tryWithResourcesStatement
  | resourceSpecification
  | resource
  | switchExpression
  | switchBlock
  | switchBlockStatementGroup
  | switchLabel
  | switchRule
  | guard
  | typePattern
  | recordPattern
  | recordPatternBody
  | recordPatternComponent
  | underscorePattern
  | pattern
  | assignmentExpression
  | binaryExpression
  | instanceofExpression
  | lambdaExpression
  | inferredParameters
  | ternaryExpression
  | unaryExpression
  | updateExpression
  | castExpression
  | parenthesizedExpression
  | objectCreationExpression
  | arrayCreationExpression
  | fieldAccess
  | arrayAccess
  | methodInvocation
  | argumentList
  | methodReference
  | classLiteral
  | this
  | super
  | stringLiteral
  | stringFragment
  | multilineStringFragment
  | escapeSequence
  | stringInterpolation
  | characterLiteral
  | decimalIntegerLiteral
  | hexIntegerLiteral
  | octalIntegerLiteral
  | binaryIntegerLiteral
  | decimalFloatingPointLiteral
  | hexFloatingPointLiteral
  | true
  | false
  | nullLiteral
  | error
  deriving DecidableEq, Repr, Inhabited

/-- A Java syntax tree. -/
abbrev Syntax := Tree Kind

end Java
end ResultLint
