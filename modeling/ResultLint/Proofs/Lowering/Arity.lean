import Mathlib.Data.List.Basic
import ResultLint.Java.SourceUnit
import ResultLint.Kotlin.SourceUnit

/-!
# Declared arity

The fewest and most arguments a declared parameter list accepts.

A Kotlin parameter list holds, for each parameter, the modifiers before it if there are any,
the parameter, and `=` with its default value if it has one (`ListedParameter`). The count reads
these nodes one at a time (`arityStep`): modifiers whose words include `vararg` make the next
parameter variadic, a variadic parameter may be left out and leaves no most, and every `=` lets
one argument be left out (`Kotlin.parameterArity_listed`). Two things part the count from the
declared arity. A parameter with the `vararg` modifier and a default is left out twice, and an
annotation whose text holds the word `vararg` makes its parameter variadic, since the words
read are those of all the modifiers (`vararg_words_miscount_required`).

A Java parameter list accepts exactly as many arguments as it has parameters, or one fewer and
any more when one is variadic. In both languages the fewest never exceeds the most, and where
no Kotlin parameter has both a default and the `vararg` modifier and no annotation holds the
word, the fewest is the number of parameters with neither (`declared_arity_bounds`).
-/

namespace ResultLint

namespace Kotlin

/-! ## Reading a parameter list one node at a time -/

/-- What the count does with one node of a parameter list, on the parameters seen, the
arguments that may be left out, whether some parameter is variadic, and whether the modifiers
just read say `vararg`. -/
def arityStep (b : UnitBuilder) (st : Nat × Nat × Bool × Bool) (c : Syntax) :
    Nat × Nat × Bool × Bool :=
  if c.kind = .parameterModifiers then
    (st.1, st.2.1, st.2.2.1, (Text.words (b.text c.span)).contains "vararg")
  else if c.kind = .parameter then
    if st.2.2.2 then (st.1 + 1, st.2.1 + 1, true, false) else (st.1 + 1, st.2.1, st.2.2.1, false)
  else if c.kind = .keyword ∧ b.text c.span = "=" then (st.1, st.2.1 + 1, st.2.2.1, st.2.2.2)
  else st

theorem parameterArity_eq (b : UnitBuilder) (params : Syntax) :
    parameterArity b params =
      let st := params.children.foldl (arityStep b) (0, 0, false, false)
      if st.2.2.1 then (st.1 - st.2.1, none) else (st.1 - st.2.1, some st.1) := by
  simp only [parameterArity]
  rw [List.foldl_ext _ (arityStep b)]
  intro st c _
  obtain ⟨count, optional, vararg, pending⟩ := st
  simp only [arityStep]
  split <;> simp_all

/-- A parameter as a parameter list holds it: the modifiers before it if there are any, the
parameter, and `=` with the default value if it has one. -/
structure ListedParameter where
  modifiers : Option Syntax
  parameter : Syntax
  default : Option (Syntax × Syntax)

namespace ListedParameter

/-- The nodes of a listed parameter, in the order the list holds them. -/
def nodes (p : ListedParameter) : List Syntax :=
  p.modifiers.toList ++ p.parameter :: (p.default.map fun d => [d.1, d.2]).getD []

/-- Whether the words of a parameter's modifiers include `vararg`. -/
def isVararg (b : UnitBuilder) (p : ListedParameter) : Bool :=
  (p.modifiers.map fun m => (Text.words (b.text m.span)).contains "vararg").getD false

/-- Whether a parameter carries the `vararg` modifier: one of the nodes among its modifiers is a
parameter modifier written `vararg`. -/
def hasVarargModifier (b : UnitBuilder) (p : ListedParameter) : Bool :=
  (p.modifiers.map fun m => m.children.any fun c =>
    c.kind == .parameterModifier && b.text c.span == "vararg").getD false

/-- Whether a parameter has a default value. -/
def hasDefault (p : ListedParameter) : Bool := p.default.isSome

/-- The nodes of a listed parameter are of the kinds the grammar gives them: modifiers, the
parameter, an `=` token, and a value that is none of these. The words of the modifiers are
those of the annotations and modifiers they hold, and a modifier is one word. -/
structure WellFormed (b : UnitBuilder) (p : ListedParameter) : Prop where
  modifiers : ∀ m ∈ p.modifiers, m.kind = .parameterModifiers
  parameter : p.parameter.kind = .parameter
  equals : ∀ d ∈ p.default, d.1.kind = .keyword ∧ b.text d.1.span = "="
  value : ∀ d ∈ p.default, d.2.kind ≠ .parameterModifiers ∧ d.2.kind ≠ .parameter ∧
    ¬(d.2.kind = .keyword ∧ b.text d.2.span = "=")
  words : ∀ m ∈ p.modifiers,
    Text.words (b.text m.span) = m.children.flatMap fun c => Text.words (b.text c.span)
  modifier_word : ∀ m ∈ p.modifiers, ∀ c ∈ m.children, c.kind = .parameterModifier →
    Text.words (b.text c.span) = [b.text c.span]

/-- The count's test for `vararg` reads the words of all the modifiers; it agrees with the
`vararg` modifier when no annotation among them has the word `vararg` in its text. -/
theorem isVararg_eq_hasVarargModifier {b : UnitBuilder} {p : ListedParameter}
    (hp : p.WellFormed b)
    (hann : ∀ m ∈ p.modifiers, ∀ c ∈ m.children, c.kind ≠ .parameterModifier →
      "vararg" ∉ Text.words (b.text c.span)) :
    p.isVararg b = p.hasVarargModifier b := by
  obtain ⟨modifiers, parameter, default⟩ := p
  cases modifiers with
  | none => rfl
  | some m =>
    simp only [isVararg, hasVarargModifier, Option.map_some, Option.getD_some]
    rw [hp.words m rfl]
    apply Bool.eq_iff_iff.mpr
    simp only [List.contains_iff_mem, List.mem_flatMap, List.any_eq_true, Bool.and_eq_true,
      beq_iff_eq]
    constructor
    · rintro ⟨c, hc, hw⟩
      by_cases hk : c.kind = .parameterModifier
      · rw [hp.modifier_word m rfl c hc hk, List.mem_singleton] at hw
        exact ⟨c, hc, hk, hw.symm⟩
      · exact absurd hw (hann m rfl c hc hk)
    · rintro ⟨c, hc, hk, ht⟩
      exact ⟨c, hc, by rw [hp.modifier_word m rfl c hc hk, ht, List.mem_singleton]⟩

end ListedParameter

open ListedParameter

theorem foldl_arityStep_nodes {b : UnitBuilder} {p : ListedParameter} (hp : p.WellFormed b)
    (count optional : Nat) (vararg : Bool) :
    p.nodes.foldl (arityStep b) (count, optional, vararg, false) =
      (count + 1, optional + (if p.isVararg b then 1 else 0) + (if p.hasDefault then 1 else 0),
        vararg || p.isVararg b, false) := by
  obtain ⟨modifiers, parameter, default⟩ := p
  obtain ⟨hmods, hparam, hequals, hvalue, -, -⟩ := hp
  dsimp only at hmods hparam hequals hvalue
  have hparam' : parameter.kind ≠ .parameterModifiers := by rw [hparam]; decide
  cases modifiers with
  | none =>
    cases default with
    | none => simp [nodes, isVararg, hasDefault, arityStep, hparam]
    | some d =>
      obtain ⟨heq, htext⟩ := hequals d rfl
      obtain ⟨hv1, hv2, hv3⟩ := hvalue d rfl
      simp [nodes, isVararg, hasDefault, arityStep, hparam, heq, htext, hv1, hv2, hv3]
  | some m =>
    have hm := hmods m rfl
    cases default with
    | none =>
      by_cases hw : "vararg" ∈ Text.words (b.text m.span) <;>
        simp [nodes, isVararg, hasDefault, arityStep, hparam, hm, hw]
    | some d =>
      obtain ⟨heq, htext⟩ := hequals d rfl
      obtain ⟨hv1, hv2, hv3⟩ := hvalue d rfl
      by_cases hw : "vararg" ∈ Text.words (b.text m.span) <;>
        simp [nodes, isVararg, hasDefault, arityStep, hparam, hm, hw, heq, htext, hv1, hv2, hv3]

theorem foldl_arityStep_flatMap {b : UnitBuilder} :
    ∀ {ds : List ListedParameter}, (∀ p ∈ ds, p.WellFormed b) →
      ∀ (count optional : Nat) (vararg : Bool),
      (ds.flatMap nodes).foldl (arityStep b) (count, optional, vararg, false) =
        (count + ds.length, optional + ds.countP (·.isVararg b) + ds.countP (·.hasDefault),
          vararg || ds.any (·.isVararg b), false)
  | [], _, count, optional, vararg => by simp
  | p :: ds, hwf, count, optional, vararg => by
    rw [List.flatMap_cons, List.foldl_append, foldl_arityStep_nodes (hwf p List.mem_cons_self),
      foldl_arityStep_flatMap (fun q hq => hwf q (List.mem_cons_of_mem p hq))]
    simp only [List.length_cons, List.countP_cons, List.any_cons, Bool.or_assoc, Prod.mk.injEq,
      and_true]
    omega

theorem length_add_countP_both (b : UnitBuilder) (ds : List ListedParameter) :
    ds.length + ds.countP (fun p => p.hasDefault && p.isVararg b) =
      ds.countP (fun p => !p.hasDefault && !p.isVararg b) + ds.countP (·.isVararg b) +
        ds.countP (·.hasDefault) := by
  induction ds with
  | nil => rfl
  | cons p ds ih =>
    simp only [List.length_cons, List.countP_cons]
    cases hd : p.hasDefault <;> cases hv : p.isVararg b <;> simp <;> omega

/-- The arity of a parameter list as the grammar lays it out: the fewest arguments is the number
of parameters with neither a default nor `vararg`, less the number with both; the most is the
number of parameters, or none when one is variadic. -/
theorem parameterArity_listed (b : UnitBuilder) {ds : List ListedParameter}
    (hwf : ∀ p ∈ ds, p.WellFormed b) {params : Syntax}
    (hparams : params.children = ds.flatMap nodes) :
    parameterArity b params =
      (ds.countP (fun p => !p.hasDefault && !p.isVararg b) -
          ds.countP (fun p => p.hasDefault && p.isVararg b),
        if ds.any (·.isVararg b) then none else some ds.length) := by
  rw [parameterArity_eq, hparams, foldl_arityStep_flatMap hwf]
  have hcount := length_add_countP_both b ds
  simp only [Nat.zero_add, Bool.false_or]
  split <;> simp only [Prod.mk.injEq, and_true] <;> omega

end Kotlin

/-- Declared arity bounds, where no Kotlin parameter has both a default and the `vararg` modifier
and no annotation before a parameter has the word `vararg` in its text. A Kotlin parameter list,
as the grammar lays out its parameters, accepts at fewest as many arguments as it has parameters
with neither a default nor the `vararg` modifier, and at most as many as it has parameters,
unless one has the `vararg` modifier. A Java parameter list accepts its `n` parameters, or
`n - 1` and any more when one is variadic. In both the fewest never exceeds the most. -/
theorem declared_arity_bounds (b : UnitBuilder) (ds : List Kotlin.ListedParameter)
    (params : Kotlin.Syntax) (hwf : ∀ p ∈ ds, p.WellFormed b)
    (hparams : params.children = ds.flatMap Kotlin.ListedParameter.nodes)
    (hboth : ∀ p ∈ ds, ¬(p.hasDefault = true ∧ p.hasVarargModifier b = true))
    (hann : ∀ p ∈ ds, ∀ m ∈ p.modifiers, ∀ c ∈ m.children, c.kind ≠ .parameterModifier →
      "vararg" ∉ Text.words (b.text c.span))
    (jparams : Java.Syntax) :
    (Kotlin.parameterArity b params =
        (ds.countP (fun p => !p.hasDefault && !p.hasVarargModifier b),
          if ds.any (·.hasVarargModifier b) then none else some ds.length) ∧
      ∀ m, (Kotlin.parameterArity b params).2 = some m → (Kotlin.parameterArity b params).1 ≤ m) ∧
    (let n := (jparams.children.filter fun p =>
        p.kind == .formalParameter || p.kind == .spreadParameter).length
     Java.parameterArity jparams =
        (if jparams.children.any (·.kind == .spreadParameter) then (n - 1, none) else (n, some n)) ∧
      ∀ m, (Java.parameterArity jparams).2 = some m → (Java.parameterArity jparams).1 ≤ m) := by
  have hvar : ∀ p ∈ ds, p.isVararg b = p.hasVarargModifier b :=
    fun p hp => Kotlin.ListedParameter.isVararg_eq_hasVarargModifier (hwf p hp) (hann p hp)
  have hnone : ds.countP (fun p => p.hasDefault && p.isVararg b) = 0 :=
    List.countP_eq_zero.mpr fun p hp h => hboth p hp (by rw [← hvar p hp]; simpa using h)
  have hneither : ds.countP (fun p => !p.hasDefault && !p.isVararg b) =
      ds.countP (fun p => !p.hasDefault && !p.hasVarargModifier b) :=
    List.countP_congr fun p hp => by rw [hvar p hp]
  have hany : ds.any (·.isVararg b) = ds.any (·.hasVarargModifier b) := by
    apply Bool.eq_iff_iff.mpr
    simp only [List.any_eq_true]
    exact exists_congr fun p => and_congr_right fun hp => by rw [hvar p hp]
  have harity := Kotlin.parameterArity_listed b hwf hparams
  rw [hnone, Nat.sub_zero, hneither, hany] at harity
  refine ⟨⟨harity, ?_⟩, rfl, ?_⟩
  · intro m hm
    rw [harity] at hm ⊢
    split at hm
    · cases hm
    · cases hm
      exact List.countP_le_length
  · intro m hm
    simp only [Java.parameterArity] at hm ⊢
    split at hm
    · cases hm
    · next hs =>
      cases hm
      exact Nat.le_of_eq (by rw [if_neg hs])

namespace Kotlin

/-- A function with a required parameter and a variadic one with a default value. -/
def varargDefaultText : String := "fun f(a: Int, vararg x: Int = 1) \x7b\x7d"

/-- The lowering of `varargDefaultText` starts from this builder. -/
def varargDefaultBuilder : UnitBuilder :=
  { path := "A.kt", source := Source.ofString varargDefaultText, package := none, imports := [] }

/-- The parameters of `varargDefaultText` as the grammar lays them out. -/
def varargDefaultParameters : List ListedParameter :=
  [⟨none, .node .parameter none ⟨6, 12⟩ [.node .simpleIdentifier none ⟨6, 7⟩ [],
      .node .userType none ⟨9, 12⟩ [.node .typeIdentifier none ⟨9, 12⟩ []]], none⟩,
    ⟨some (.node .parameterModifiers none ⟨14, 20⟩ [.node .parameterModifier none ⟨14, 20⟩ []]),
      .node .parameter none ⟨21, 27⟩ [.node .simpleIdentifier none ⟨21, 22⟩ [],
        .node .userType none ⟨24, 27⟩ [.node .typeIdentifier none ⟨24, 27⟩ []]],
      some (.node .keyword none ⟨28, 29⟩ [], .node .integerLiteral none ⟨30, 31⟩ [])⟩]

/-- The parameter list of `varargDefaultText`. -/
def varargDefaultList : Syntax :=
  .node .functionValueParameters none ⟨5, 32⟩ (varargDefaultParameters.flatMap ListedParameter.nodes)

/-- The syntax tree of `varargDefaultText`. -/
def varargDefaultTree : Syntax :=
  .node .sourceFile none ⟨0, 35⟩ [.node .functionDeclaration none ⟨0, 35⟩
    [.node .simpleIdentifier none ⟨4, 5⟩ [], varargDefaultList, .node .functionBody none ⟨33, 35⟩ []]]

/-- A function whose one parameter is annotated with a text holding the word `vararg`. -/
def annotatedText : String := "fun f(@Doc(\"no vararg here\") x: Int) \x7b\x7d"

/-- The lowering of `annotatedText` starts from this builder. -/
def annotatedBuilder : UnitBuilder :=
  { path := "A.kt", source := Source.ofString annotatedText, package := none, imports := [] }

/-- The parameter of `annotatedText` as the grammar lays it out. -/
def annotatedParameters : List ListedParameter :=
  [⟨some (.node .parameterModifiers none ⟨6, 28⟩ [.node .annotationNode none ⟨6, 28⟩
      [.node .constructorInvocation none ⟨7, 28⟩
        [.node .userType none ⟨7, 10⟩ [.node .typeIdentifier none ⟨7, 10⟩ []],
          .node .valueArguments none ⟨10, 28⟩ [.node .valueArgument none ⟨11, 27⟩
            [.node .stringLiteral none ⟨11, 27⟩ [.node .stringContent none ⟨12, 26⟩ []]]]]]]),
    .node .parameter none ⟨29, 35⟩ [.node .simpleIdentifier none ⟨29, 30⟩ [],
      .node .userType none ⟨32, 35⟩ [.node .typeIdentifier none ⟨32, 35⟩ []]], none⟩]

/-- The syntax tree of `annotatedText`. -/
def annotatedTree : Syntax :=
  .node .sourceFile none ⟨0, 39⟩ [.node .functionDeclaration none ⟨0, 39⟩
    [.node .simpleIdentifier none ⟨4, 5⟩ [],
      .node .functionValueParameters none ⟨5, 36⟩
        (annotatedParameters.flatMap ListedParameter.nodes),
      .node .functionBody none ⟨37, 39⟩ []]]

/-- A function with a required parameter, one with a default value and a variadic one. -/
def optionalText : String := "fun g(a: Int, b: Int = 0, vararg c: Int) \x7b\x7d"

/-- The lowering of `optionalText` starts from this builder. -/
def optionalBuilder : UnitBuilder :=
  { path := "A.kt", source := Source.ofString optionalText, package := none, imports := [] }

/-- The parameters of `optionalText` as the grammar lays them out. -/
def optionalParameters : List ListedParameter :=
  [⟨none, .node .parameter none ⟨6, 12⟩ [.node .simpleIdentifier none ⟨6, 7⟩ [],
      .node .userType none ⟨9, 12⟩ [.node .typeIdentifier none ⟨9, 12⟩ []]], none⟩,
    ⟨none, .node .parameter none ⟨14, 20⟩ [.node .simpleIdentifier none ⟨14, 15⟩ [],
        .node .userType none ⟨17, 20⟩ [.node .typeIdentifier none ⟨17, 20⟩ []]],
      some (.node .keyword none ⟨21, 22⟩ [], .node .integerLiteral none ⟨23, 24⟩ [])⟩,
    ⟨some (.node .parameterModifiers none ⟨26, 32⟩ [.node .parameterModifier none ⟨26, 32⟩ []]),
      .node .parameter none ⟨33, 39⟩ [.node .simpleIdentifier none ⟨33, 34⟩ [],
        .node .userType none ⟨36, 39⟩ [.node .typeIdentifier none ⟨36, 39⟩ []]], none⟩]

/-- The parameter list of `optionalText`. -/
def optionalList : Syntax :=
  .node .functionValueParameters none ⟨5, 40⟩ (optionalParameters.flatMap ListedParameter.nodes)

theorem optionalParameters_wellFormed :
    ∀ p ∈ optionalParameters, p.WellFormed optionalBuilder := by
  intro p hp
  simp only [optionalParameters, List.mem_cons, List.not_mem_nil, or_false] at hp
  rcases hp with rfl | rfl | rfl
  · exact ⟨by simp, rfl, by simp, by simp, by simp, by simp⟩
  · exact ⟨by simp, rfl, by simp; decide, by simp; decide, by simp, by simp⟩
  · exact ⟨by simp [Tree.kind], rfl, by simp, by simp, by simp; decide +kernel,
      by simp; decide +kernel⟩

end Kotlin

namespace Java

/-- The parameters of `void m(int a, String... b)`: one plain, one variadic. -/
def spreadList : Syntax :=
  .node .formalParameters (some .parameters) ⟨16, 36⟩
    [.node .formalParameter none ⟨17, 22⟩ [.node .integralType (some .type) ⟨17, 20⟩ [],
        .node .identifier (some .name) ⟨21, 22⟩ []],
      .node .spreadParameter none ⟨24, 35⟩ [.node .typeIdentifier none ⟨24, 30⟩ [],
        .node .variableDeclarator none ⟨34, 35⟩ [.node .identifier (some .name) ⟨34, 35⟩ []]]]

end Java

theorem optional_parameters_arity :
    (∀ p ∈ Kotlin.optionalParameters, p.WellFormed Kotlin.optionalBuilder) ∧
      Kotlin.optionalList.children = Kotlin.optionalParameters.flatMap Kotlin.ListedParameter.nodes ∧
      (∀ p ∈ Kotlin.optionalParameters,
        ¬(p.hasDefault = true ∧ p.hasVarargModifier Kotlin.optionalBuilder = true)) ∧
      (∀ p ∈ Kotlin.optionalParameters, ∀ m ∈ p.modifiers, ∀ c ∈ m.children,
        c.kind ≠ .parameterModifier → "vararg" ∉ Text.words (Kotlin.optionalBuilder.text c.span)) ∧
      ((Kotlin.parameterArity Kotlin.optionalBuilder Kotlin.optionalList =
          (Kotlin.optionalParameters.countP (fun p =>
              !p.hasDefault && !p.hasVarargModifier Kotlin.optionalBuilder),
            if Kotlin.optionalParameters.any (·.hasVarargModifier Kotlin.optionalBuilder) then none
            else some Kotlin.optionalParameters.length) ∧
        ∀ m, (Kotlin.parameterArity Kotlin.optionalBuilder Kotlin.optionalList).2 = some m →
          (Kotlin.parameterArity Kotlin.optionalBuilder Kotlin.optionalList).1 ≤ m) ∧
      (let n := (Java.spreadList.children.filter fun p =>
          p.kind == .formalParameter || p.kind == .spreadParameter).length
       Java.parameterArity Java.spreadList =
          (if Java.spreadList.children.any (·.kind == .spreadParameter) then (n - 1, none)
          else (n, some n)) ∧
        ∀ m, (Java.parameterArity Java.spreadList).2 = some m →
          (Java.parameterArity Java.spreadList).1 ≤ m)) :=
  have hboth : ∀ p ∈ Kotlin.optionalParameters,
      ¬(p.hasDefault = true ∧ p.hasVarargModifier Kotlin.optionalBuilder = true) := by
    decide +kernel
  have hann : ∀ p ∈ Kotlin.optionalParameters, ∀ m ∈ p.modifiers, ∀ c ∈ m.children,
      c.kind ≠ .parameterModifier → "vararg" ∉ Text.words (Kotlin.optionalBuilder.text c.span) := by
    simp [Kotlin.optionalParameters, Tree.kind, Tree.children]
  ⟨Kotlin.optionalParameters_wellFormed, rfl, hboth, hann,
    declared_arity_bounds Kotlin.optionalBuilder Kotlin.optionalParameters Kotlin.optionalList
      Kotlin.optionalParameters_wellFormed rfl hboth hann Java.spreadList⟩

/-- Two functions the count records as accepting no arguments at fewest and any number at most,
though each has a parameter with neither a default nor the `vararg` modifier: one whose variadic
parameter has a default, which is left out twice, and one whose only parameter is annotated with
a text holding the word `vararg`, which makes it variadic. -/
theorem vararg_words_miscount_required :
    (SourceUnit.ofKotlinTree "A.kt" Kotlin.varargDefaultText Kotlin.varargDefaultTree).methods.toList.map
        (fun m => (m.minArity, m.maxArity)) = [(0, none)] ∧
      Kotlin.varargDefaultParameters.countP (fun p =>
        !p.hasDefault && !p.hasVarargModifier Kotlin.varargDefaultBuilder) = 1 ∧
    (SourceUnit.ofKotlinTree "A.kt" Kotlin.annotatedText Kotlin.annotatedTree).methods.toList.map
        (fun m => (m.minArity, m.maxArity)) = [(0, none)] ∧
      Kotlin.annotatedParameters.countP (fun p =>
        !p.hasDefault && !p.hasVarargModifier Kotlin.annotatedBuilder) = 1 ∧
      Kotlin.annotatedParameters.any (·.hasVarargModifier Kotlin.annotatedBuilder) = false := by
  refine ⟨?_, ?_, ?_, ?_, ?_⟩ <;> decide +kernel

end ResultLint
