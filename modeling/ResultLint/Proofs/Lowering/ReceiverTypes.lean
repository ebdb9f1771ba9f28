import ResultLint.Proofs.Java.ReceiverTypes
import ResultLint.Proofs.Kotlin.ReceiverTypes

/-!
# Receiver types in both languages

In both languages, the type recorded for a call on a plain name `x` is the simple type of a
declaration of `x` held by the nearest enclosing node that holds one. Such a declaration stands
among that node's children, and one always exists when some enclosing node holds one.

This is no lexical scope. A node holds every declaration among its children, including those
written after the call. A local declared below a call in the same block therefore types the
call's receiver, even when a field of the class declares the name before it. The same holds for
a Kotlin property declared below the call, whose type is read off its constructor call.
-/

namespace ResultLint

/-- Every call site on a plain name, in a lowered Java or Kotlin tree, comes from a call of the
tree on that name. Its type is the nearest declaration of the name held by the call's callee,
by the call or by one of their ancestors. -/
theorem receiver_types_nearest_held_declaration :
    (∀ (path text : String) (root : Java.Syntax),
      ∀ c ∈ (SourceUnit.ofJavaTree path text root).calls.toList,
        Java.ReceiverSite root (Source.ofString text) c) ∧
    (∀ (path text : String) (root : Kotlin.Syntax),
      ∀ c ∈ (SourceUnit.ofKotlinTree path text root).calls.toList,
        Kotlin.ReceiverSite root (Source.ofString text) c) :=
  ⟨Java.receiverTypes_lowered, Kotlin.receiverTypes_lowered⟩

/-- A Java class with a field `Bar x` and a method whose block calls `x.foo()` and then declares
a local `Foo x`. -/
def laterLocalText : String :=
  "class A \x7b\n  Bar x;\n  void m() \x7b\n    x.foo();\n    Foo x = null;\n  \x7d\n\x7d\n"

/-- The tree of `laterLocalText`. -/
def laterLocalTree : Java.Syntax :=
  .node .program none ⟨0, 69⟩ [.node .classDeclaration none ⟨0, 68⟩ [
    .node .identifier (some .name) ⟨6, 7⟩ [],
    .node .classBody (some .body) ⟨8, 68⟩ [
      .node .fieldDeclaration none ⟨12, 18⟩ [
        .node .typeIdentifier (some .type) ⟨12, 15⟩ [],
        .node .variableDeclarator none ⟨16, 17⟩ [.node .identifier (some .name) ⟨16, 17⟩ []]],
      .node .methodDeclaration none ⟨21, 66⟩ [
        .node .voidType (some .type) ⟨21, 25⟩ [],
        .node .identifier (some .name) ⟨26, 27⟩ [],
        .node .formalParameters (some .parameters) ⟨27, 29⟩ [],
        .node .block (some .body) ⟨30, 66⟩ [
          .node .expressionStatement none ⟨36, 44⟩ [.node .methodInvocation none ⟨36, 43⟩ [
            .node .identifier (some .object) ⟨36, 37⟩ [],
            .node .identifier (some .name) ⟨38, 41⟩ [],
            .node .argumentList (some .arguments) ⟨41, 43⟩ []]],
          .node .localVariableDeclaration none ⟨49, 62⟩ [
            .node .typeIdentifier (some .type) ⟨49, 52⟩ [],
            .node .variableDeclarator none ⟨53, 61⟩ [
              .node .identifier (some .name) ⟨53, 54⟩ [],
              .node .nullLiteral (some .value) ⟨57, 61⟩ []]]]]]]]

/-- A Kotlin function that calls `x.foo()` and then declares `val x = Foo()`. -/
def laterPropertyText : String := "fun m() \x7b\n  x.foo()\n  val x = Foo()\n\x7d\n"

/-- The tree of `laterPropertyText`. -/
def laterPropertyTree : Kotlin.Syntax :=
  .node .sourceFile none ⟨0, 38⟩ [.node .functionDeclaration none ⟨0, 37⟩ [
    .node .simpleIdentifier none ⟨4, 5⟩ [],
    .node .functionValueParameters none ⟨5, 7⟩ [],
    .node .functionBody none ⟨8, 37⟩ [.node .statements none ⟨12, 35⟩ [
      .node .callExpression none ⟨12, 19⟩ [
        .node .navigationExpression none ⟨12, 17⟩ [
          .node .simpleIdentifier none ⟨12, 13⟩ [],
          .node .navigationSuffix none ⟨13, 17⟩ [.node .simpleIdentifier none ⟨14, 17⟩ []]],
        .node .callSuffix none ⟨17, 19⟩ [.node .valueArguments none ⟨17, 19⟩ []]],
      .node .propertyDeclaration none ⟨22, 35⟩ [
        .node .bindingPatternKind none ⟨22, 25⟩ [],
        .node .variableDeclaration none ⟨26, 27⟩ [.node .simpleIdentifier none ⟨26, 27⟩ []],
        .node .callExpression none ⟨30, 35⟩ [
          .node .simpleIdentifier none ⟨30, 33⟩ [],
          .node .callSuffix none ⟨33, 35⟩ [.node .valueArguments none ⟨33, 35⟩ []]]]]]]]

/-- In both files the call on `x` is a site the receiver-type theorem describes. The Java one
is recorded with the type `Foo` of the local written after it. -/
theorem later_declarations_type_receivers :
    (∃ c ∈ (SourceUnit.ofJavaTree "A.java" laterLocalText laterLocalTree).calls.toList,
      c.receiver = .named "x" ∧ c.receiverType = some "Foo" ∧
        Java.ReceiverSite laterLocalTree (Source.ofString laterLocalText) c) ∧
    (∃ c ∈ (SourceUnit.ofKotlinTree "A.kt" laterPropertyText laterPropertyTree).calls.toList,
      c.receiver = .named "x" ∧
        Kotlin.ReceiverSite laterPropertyTree (Source.ofString laterPropertyText) c) := by
  have hjava : (SourceUnit.ofJavaTree "A.java" laterLocalText laterLocalTree).calls.toList.map
      (fun c => (c.receiver, c.receiverType)) = [(.named "x", some "Foo")] := by
    decide +kernel
  -- the Kotlin lookup is well-founded recursion, which the kernel does not run; the receivers are
  -- read without it
  have hkotlin :
      (SourceUnit.ofKotlinTree "A.kt" laterPropertyText laterPropertyTree).calls.toList.map
        (fun c => c.receiver) = [.named "x", .implicit] := by
    decide +kernel
  obtain ⟨c, _, hc, hcx, -⟩ := List.map_eq_cons_iff.mp hjava
  obtain ⟨d, _, hd, hdx, -⟩ := List.map_eq_cons_iff.mp hkotlin
  have hcm := hc ▸ List.mem_cons_self
  have hdm := hd ▸ List.mem_cons_self
  obtain ⟨hcr, hct⟩ := Prod.mk.inj hcx
  exact ⟨⟨c, hcm, hcr, hct, receiver_types_nearest_held_declaration.1 _ _ _ c hcm⟩,
    ⟨d, hdm, hdx, receiver_types_nearest_held_declaration.2 _ _ _ d hdm⟩⟩

/-- The call `x.foo()` of `laterLocalText`, at byte 38, is recorded with the type `Foo` of the
local declared after it, not with the type `Bar` of the field in scope at the call. -/
theorem later_local_types_receiver :
    (SourceUnit.ofJavaTree "A.java" laterLocalText laterLocalTree).calls.toList.map
        (fun c => (c.receiver, c.receiverType, c.location.startByte)) =
      [(.named "x", some "Foo", 38)] ∧
      (Source.ofString laterLocalText).slice 49 52 = "Foo" ∧
      (Source.ofString laterLocalText).slice 12 15 = "Bar" := by
  decide +kernel

end ResultLint
