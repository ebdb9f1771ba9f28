import ResultLint.Proofs.Java.Sound
import ResultLint.Proofs.Kotlin.Sound
import ResultLint.Proofs.Lowering.Units

/-!
# Lowering Java and Kotlin files

A file's unit is what lowering its root leaves in a fresh builder (`ofJavaTree_run`,
`ofKotlinTree_run`), the root being one node over the lowering of its children
(`Java.lower_root`, `Kotlin.lower_root`). So every file's arena hangs from node 0 with every chain
closed, and its tables agree with the arena, whatever the tree; for a tree as the grammar writes
it the ranges nest and the call sites come in source order. The parsers only ever return a
program, a source file or an error node as the root (`Java.parse_kind`, `Kotlin.parse_kind`), so
every file they read lowers to a well-formed arena (`ofJava_wellFormed`, `ofKotlin_wellFormed`).
-/

namespace ResultLint

namespace Java

/-- The root of a Java file, a program or an error, is lowered as one node over its children. -/
theorem lower_root {root : Syntax} (h : root.kind = .program ∨ root.kind = .error) :
    ∃ k : NodeKind, (k ≠ .typeDeclaration ∧ k ≠ .call) ∧
      lower root [] none none =
        (Build.push k none root.span >>= fun n => lowerAll root.children [root] (some n) none) := by
  obtain ⟨kind, field, span, children⟩ := root
  rcases h with rfl | rfl
  · exact ⟨.other, ⟨by decide, by decide⟩, by rw [lower]; rfl⟩
  · exact ⟨.expression, ⟨by decide, by decide⟩, by rw [lower]; rfl⟩

theorem repairEnd_kind (f : FileText) (toks : Array Token) (before : List Syntax) (trees : Nat)
    (item : Syntax) (missing : List Token) :
    (repairEnd f toks before trees item missing).kind = .program ∨
      (repairEnd f toks before trees item missing).kind = .error := by
  unfold repairEnd
  dsimp only
  split
  · exact .inl rfl
  · split
    · exact .inr rfl
    · exact .inl rfl

theorem readItems_kind (fuel : Nat) (f : FileText) (toks : Array Token) (n pos : Nat)
    (acc : List Syntax) (trees : Nat) (clean : Bool) :
    (readItems fuel f toks n pos acc trees clean).kind = .program ∨
      (readItems fuel f toks n pos acc trees clean).kind = .error := by
  fun_induction readItems fuel f toks n pos acc trees clean <;>
    first | exact .inl rfl | exact repairEnd_kind .. | assumption

/-- The root of every Java file the parser reads is a program or an error. -/
theorem parse_kind (text : String) :
    (parse text).kind = .program ∨ (parse text).kind = .error := by
  unfold parse
  exact readItems_kind ..

end Java

namespace Kotlin

/-- The root of every Kotlin file the parser reads is a source file or an error. -/
theorem parse_kind (text : String) :
    (parse text).kind = .sourceFile ∨ (parse text).kind = .error := by
  unfold parse
  dsimp only
  split
  · split
    · exact .inr rfl
    · exact .inl rfl
  · exact .inl rfl

/-- The root of a Kotlin file, a source file or an error, is lowered as one node over its
children: the fuel of three steps a node covers the root's own two. -/
theorem lower_root {root : Syntax} (h : root.kind = .sourceFile ∨ root.kind = .error) :
    ∃ (k : NodeKind) (fuel : Nat), (k ≠ .typeDeclaration ∧ k ≠ .call) ∧
      lower (3 * root.size) root none [] none none =
        (Build.push k none root.span >>= fun n =>
          lowerAll fuel root.children none [root] (some n) none) := by
  obtain ⟨kind, field, span, children⟩ := root
  have hfuel : 3 * (Tree.node kind field span children).size =
      3 * Tree.sizeAll children + 1 + 1 + 1 := by
    rw [Tree.size]
    omega
  rw [hfuel]
  rcases h with rfl | rfl
  · exact ⟨.other, _, ⟨by decide, by decide⟩, by rw [lower, lowerPlain]; rfl⟩
  · exact ⟨.expression, _, ⟨by decide, by decide⟩, by rw [lower, lowerPlain]; rfl⟩

end Kotlin

namespace SourceUnit

variable (path text : String)

/-- The unit of a Java file is what lowering its root leaves in a fresh builder: the package's
annotations are all the builder holds before. -/
theorem ofJavaTree_run (root : Java.Syntax) :
    ∃ b : UnitBuilder, b.Fresh ∧
      ofJavaTree path text root = ((Java.lower root [] none none).run b).2.finish .java := by
  unfold ofJavaTree
  dsimp only
  cases root.childOfKind? .packageDeclaration with
  | none =>
    refine ⟨_, ?_, rfl⟩
    exact ⟨rfl, rfl, rfl, rfl⟩
  | some p =>
    simp only [Build.run_bind, Build.run_get]
    refine ⟨_, ?_, rfl⟩
    exact UnitBuilder.Fresh.addFileAnnotations ⟨rfl, rfl, rfl, rfl⟩ _

/-- The unit of a Kotlin file is what lowering its root leaves in a fresh builder: the file's
annotations are all the builder holds before. -/
theorem ofKotlinTree_run (root : Kotlin.Syntax) :
    ∃ b : UnitBuilder, b.Fresh ∧
      ofKotlinTree path text root =
        ((Kotlin.lower (3 * root.size) root none [] none none).run b).2.finish .kotlin := by
  unfold ofKotlinTree
  dsimp only
  simp only [Build.run_bind, Build.run_get]
  refine ⟨_, ?_, rfl⟩
  exact UnitBuilder.Fresh.addFileAnnotations ⟨rfl, rfl, rfl, rfl⟩ _

/-! ## Java files -/

theorem ofJavaTree_wellFormed {root : Java.Syntax}
    (h : root.kind = .program ∨ root.kind = .error) :
    (ofJavaTree path text root).tree.WellFormed (· = .call) := by
  obtain ⟨b, hb, heq⟩ := ofJavaTree_run path text root
  obtain ⟨k, hk, hlower⟩ := Java.lower_root h
  rw [heq]
  refine Arena.WellFormed.of_rooted ?_
    (Sound.fresh (Java.sound_lower Span.stop root [] none none) hb).2.1
  show ((Java.lower root [] none none).run b).2.tree.Rooted
  rw [hlower]
  exact Sound.rooted hk (fun n => Java.sound_lowerAll Span.stop root.children [root] (some n) none
    root.span.start root.span.stop) hb

theorem ofJavaTree_nested {root : Java.Syntax} (hn : root.nests = true)
    (hs : Java.invocationsSplit root = true) : (ofJavaTree path text root).tree.Nested := by
  obtain ⟨b, hb, heq⟩ := ofJavaTree_run path text root
  rw [heq]
  exact (Sound.fresh (Java.sound_lower Span.stop root [] none none) hb).2.2.1 (Java.fits_stop hn hs)

theorem ofKotlinTree_wellFormed {root : Kotlin.Syntax}
    (h : root.kind = .sourceFile ∨ root.kind = .error) :
    (ofKotlinTree path text root).tree.WellFormed (fun k => k = .call ∨ k = .expression) := by
  obtain ⟨b, hb, heq⟩ := ofKotlinTree_run path text root
  obtain ⟨k, fuel, hk, hlower⟩ := Kotlin.lower_root h
  rw [heq]
  refine Arena.WellFormed.of_rooted ?_
    (Sound.fresh (Kotlin.sound_lower Span.stop _ root none [] none none) hb).2.1
  show ((Kotlin.lower (3 * root.size) root none [] none none).run b).2.tree.Rooted
  rw [hlower]
  exact Sound.rooted hk (fun n => Kotlin.sound_lowerAll Span.stop fuel root.children none [root]
    (some n) none root.span.start root.span.stop) hb

theorem ofKotlinTree_nested {root : Kotlin.Syntax} (hn : root.nests = true)
    (hr : Kotlin.receiversFirst root = true) : (ofKotlinTree path text root).tree.Nested := by
  obtain ⟨b, hb, heq⟩ := ofKotlinTree_run path text root
  rw [heq]
  exact (Sound.fresh (Kotlin.sound_lower Span.stop _ root none [] none none) hb).2.2.1
    (Kotlin.fits_stop hn hr)

/-- The arena of every Java file hangs from node 0, and every chain of it ends on a call. -/
theorem ofJava_wellFormed : (ofJava path text).tree.WellFormed (· = .call) :=
  ofJavaTree_wellFormed path text (Java.parse_kind text)

/-- The arena of every Kotlin file hangs from node 0, and every chain of it ends on a call or an
expression. -/
theorem ofKotlin_wellFormed :
    (ofKotlin path text).tree.WellFormed (fun k => k = .call ∨ k = .expression) :=
  ofKotlinTree_wellFormed path text (Kotlin.parse_kind text)

/-! ## Lowered units -/

/-- Lowering any Java or Kotlin file whose root is a program, a source file or an error leaves an
arena that hangs from node 0, whose chains end on a call (in Kotlin, on a call or an expression)
as their last child; for a tree as the grammar writes it, the ranges of the arena nest. -/
theorem lowered_arena_wellFormed :
    (∀ (path text : String) (root : Java.Syntax), root.kind = .program ∨ root.kind = .error →
      (ofJavaTree path text root).tree.WellFormed (· = .call) ∧
      (root.nests = true → Java.invocationsSplit root = true →
        (ofJavaTree path text root).tree.Nested)) ∧
    (∀ (path text : String) (root : Kotlin.Syntax),
      root.kind = .sourceFile ∨ root.kind = .error →
      (ofKotlinTree path text root).tree.WellFormed (fun k => k = .call ∨ k = .expression) ∧
      (root.nests = true → Kotlin.receiversFirst root = true →
        (ofKotlinTree path text root).tree.Nested)) :=
  ⟨fun path text _ h => ⟨ofJavaTree_wellFormed path text h, ofJavaTree_nested path text⟩,
    fun path text _ h => ⟨ofKotlinTree_wellFormed path text h, ofKotlinTree_nested path text⟩⟩

/-- `a.f(b);` as the Java grammar writes it. -/
def javaReceiverCall : Java.Syntax :=
  .node .program none ⟨0, 7⟩ [
    .node .expressionStatement none ⟨0, 7⟩ [
      .node .methodInvocation none ⟨0, 6⟩ [
        .node .identifier (some .object) ⟨0, 1⟩ [],
        .node .identifier (some .name) ⟨2, 3⟩ [],
        .node .argumentList (some .arguments) ⟨3, 6⟩ [.node .identifier none ⟨4, 5⟩ []]]]]

/-- `a.f(b)` as the Kotlin grammar writes it. -/
def kotlinReceiverCall : Kotlin.Syntax :=
  .node .sourceFile none ⟨0, 6⟩ [
    .node .callExpression none ⟨0, 6⟩ [
      .node .navigationExpression none ⟨0, 3⟩ [
        .node .simpleIdentifier none ⟨0, 1⟩ [],
        .node .navigationSuffix none ⟨1, 3⟩ [.node .simpleIdentifier none ⟨2, 3⟩ []]],
      .node .callSuffix none ⟨3, 6⟩ [
        .node .valueArguments none ⟨3, 6⟩ [
          .node .valueArgument none ⟨4, 5⟩ [.node .simpleIdentifier none ⟨4, 5⟩ []]]]]]

theorem receiver_call_arenas :
    (ofJavaTree "A.java" "a.f(b);" javaReceiverCall).tree.WellFormed (· = .call) ∧
    (ofJavaTree "A.java" "a.f(b);" javaReceiverCall).tree.Nested ∧
    (ofKotlinTree "A.kt" "a.f(b)" kotlinReceiverCall).tree.WellFormed
      (fun k => k = .call ∨ k = .expression) ∧
    (ofKotlinTree "A.kt" "a.f(b)" kotlinReceiverCall).tree.Nested :=
  ⟨(lowered_arena_wellFormed.1 _ _ _ (.inl rfl)).1,
    (lowered_arena_wellFormed.1 _ _ _ (.inl rfl)).2 (by decide) (by decide),
    (lowered_arena_wellFormed.2 _ _ _ (.inl rfl)).1,
    (lowered_arena_wellFormed.2 _ _ _ (.inl rfl)).2 (by decide) (by decide)⟩

end SourceUnit

end ResultLint
