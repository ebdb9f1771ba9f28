import ResultLint.Syntax

/-!
# Kotlin syntax

The named symbols of the Kotlin grammar whose trees the analysis reads: the file header,
declarations and their parts, statements, expressions with their suffixes, types, literals and
string templates, `error` for text the grammar does not cover, and `keyword` for the few unnamed
tokens the analysis reads.
-/

namespace ResultLint
namespace Kotlin

/-- A named symbol of the Kotlin grammar. -/
inductive Kind where
  | sourceFile
  | shebangLine
  | fileAnnotationNode
  | packageHeader
  | importList
  | importHeader
  | wildcardImport
  | importAlias
  | identifier
  | simpleIdentifier
  | typeIdentifier
  | typeAlias
  | classDeclaration
  | objectDeclaration
  | companionObject
  | primaryConstructor
  | classParameter
  | classBody
  | enumClassBody
  | enumEntry
  | delegationSpecifier
  | constructorInvocation
  | explicitDelegation
  | typeParameters
  | typeParameter
  | typeParameterModifiers
  | reificationModifier
  | varianceModifier
  | typeConstraints
  | typeConstraint
  | functionDeclaration
  | functionBody
  | functionValueParameters
  | parameter
  | parameterModifiers
  | parameterModifier
  | parameterWithOptionalType
  | propertyDeclaration
  | propertyDelegate
  | bindingPatternKind
  | getter
  | setter
  | variableDeclaration
  | multiVariableDeclaration
  | secondaryConstructor
  | constructorDelegationCall
  | anonymousInitializer
  | modifiers
  | annotationNode
  | useSiteTarget
  | userType
  | typeArguments
  | typeProjection
  | typeProjectionModifiers
  | nullableType
  | parenthesizedType
  | functionType
  | functionTypeParameters
  | typeModifiers
  | statements
  | label
  | forStatement
  | whileStatement
  | doWhileStatement
  | assignment
  | directlyAssignableExpression
  | controlStructureBody
  | postfixExpression
  | callExpression
  | indexingExpression
  | navigationExpression
  | prefixExpression
  | asExpression
  | spreadExpression
  | multiplicativeExpression
  | additiveExpression
  | rangeExpression
  | infixExpression
  | elvisExpression
  | checkExpression
  | comparisonExpression
  | equalityExpression
  | conjunctionExpression
  | disjunctionExpression
  | indexingSuffix
  | navigationSuffix
  | callSuffix
  | annotatedLambda
  | valueArguments
  | valueArgument
  | parenthesizedExpression
  | collectionLiteral
  | booleanLiteral
  | integerLiteral
  | hexLiteral
  | binLiteral
  | realLiteral
  | longLiteral
  | unsignedLiteral
  | characterLiteral
  | stringLiteral
  | stringContent
  | interpolatedExpression
  | interpolatedIdentifier
  | characterEscapeSeq
  | lambdaLiteral
  | lambdaParameters
  | anonymousFunction
  | objectLiteral
  | thisExpression
  | superExpression
  | ifExpression
  | whenExpression
  | whenSubject
  | whenEntry
  | whenCondition
  | rangeTest
  | typeTest
  | tryExpression
  | catchBlock
  | finallyBlock
  | jumpExpression
  | callableReference
  | error
  /-- An unnamed token kept because the analysis reads it: `null`, the `=` of a default value or
  an expression body, the `:` before a result type, and the keywords inside modifiers. -/
  | keyword
  deriving DecidableEq, Repr, Inhabited

/-- A Kotlin syntax tree. -/
abbrev Syntax := Tree Kind

end Kotlin
end ResultLint
