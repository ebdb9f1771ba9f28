import ResultLint.Proofs.Kotlin.Sound
import ResultLint.Proofs.Lowering.Sites

/-!
# Receiver types of Kotlin calls

A call `x.m(...)` on a plain name `x` records the simple type `x` is declared with, looked up
from the navigation `x.m` outward through its ancestors. An ancestor holds the declarations
standing among its named children (`Holds`): a property whose variable is `x`, with the type
written on the variable or, when none is written, the capitalised name its initializer calls; a
variable declaration, parameter or class parameter named `x` with a written type; and a
parameter list (function value parameters, a primary constructor, lambda parameters) holding one
of these. A declaration counts wherever it stands among the children, before the call or after
it.

The lookup gives a type held by the nearest ancestor holding one, and gives one whenever an
ancestor holds one (`declaredType_nearestHeld`). Every call site that lowering records on a
plain name comes from that lookup at a navigation call of the tree, through the navigation's own
ancestors (`receiverTypes_lowered`).
-/

namespace ResultLint
namespace Kotlin

section Declarations

variable (src : Source) (x : String)

/-- The node's first simple identifier reads `x`. -/
def Names (n : Syntax) : Prop :=
  ∃ i, n.childOfKind? .simpleIdentifier = some i ∧ src.slice i.start i.stop = x

/-- The first user or nullable type among the node's named children has the simple name `T`. -/
def WrittenType (n : Syntax) (T : String) : Prop :=
  ∃ ty, (namedChildren n).find? (fun c => c.kind == .userType || c.kind == .nullableType) = some ty ∧
    TypeName.simpleTypeName (src.slice ty.start ty.stop) = some T

/-- The property's initializer calls the capitalised simple name `T`. -/
def ConstructedType (property : Syntax) (T : String) : Prop :=
  ∃ call callee, property.childOfKind? .callExpression = some call ∧
    (namedChildren call).head? = some callee ∧ callee.kind = .simpleIdentifier ∧
    src.slice callee.start callee.stop = T ∧ (T.toList.head?.map Text.isUppercase).getD false = true

/-- A node standing in a scope declares `x` with the simple type `T`. -/
inductive Declares : Syntax → String → Prop
  /-- A property whose variable is `x` and carries the written type `T`. -/
  | property {d v : Syntax} {T : String} (hk : d.kind = .propertyDeclaration)
      (hv : d.childOfKind? .variableDeclaration = some v) (hn : Names src x v)
      (hT : WrittenType src v T) : Declares d T
  /-- A property whose variable is `x`, with no written type, initialized by a call of the
  capitalised name `T`. -/
  | constructed {d v : Syntax} {T : String} (hk : d.kind = .propertyDeclaration)
      (hv : d.childOfKind? .variableDeclaration = some v) (hn : Names src x v)
      (hw : ∀ T', ¬ WrittenType src v T') (hT : ConstructedType src d T) : Declares d T
  /-- A variable declaration, parameter or class parameter named `x` with a written type. -/
  | typed {d : Syntax} {T : String}
      (hk : d.kind = .variableDeclaration ∨ d.kind = .parameter ∨ d.kind = .classParameter)
      (hn : Names src x d) (hT : WrittenType src d T) : Declares d T
  /-- A parameter list holding a declaration of `x`. -/
  | list {d c : Syntax} {T : String}
      (hk : d.kind = .functionValueParameters ∨ d.kind = .primaryConstructor ∨
        d.kind = .lambdaParameters)
      (hc : c ∈ d.children) (hkw : c.kind ≠ .keyword) (h : Declares c T) : Declares d T

/-- The declarations of `x` a scope holds: those among its named children. -/
def Holds (s : Syntax) (T : String) : Prop :=
  ∃ d ∈ namedChildren s, Declares src x d T

end Declarations

variable {src : Source} {x T : String} {b : UnitBuilder}

theorem declares_iff (hb : b.source = src) (n : Syntax) : declares b n x = true ↔ Names src x n := by
  unfold declares Names
  cases n.childOfKind? .simpleIdentifier <;> simp [UnitBuilder.text_span hb]

theorem writtenType_eq_some_iff (hb : b.source = src) (n : Syntax) :
    writtenType b n = some T ↔ WrittenType src n T := by
  unfold writtenType WrittenType
  simp [Option.bind_eq_some_iff, UnitBuilder.text_span hb]

theorem constructedType_eq_some_iff (hb : b.source = src) (p : Syntax) :
    constructedType b p = some T ↔ ConstructedType src p T := by
  unfold constructedType ConstructedType
  simp only [Option.bind_eq_some_iff, UnitBuilder.text_span hb]
  constructor
  · rintro ⟨call, hcall, callee, hcallee, h⟩
    split at h
    · next hk =>
      simp only [Bool.and_eq_true, beq_iff_eq] at hk
      cases h
      exact ⟨call, callee, hcall, hcallee, hk.1, rfl, hk.2⟩
    · cases h
  · rintro ⟨call, callee, hcall, hcallee, hk, rfl, hu⟩
    exact ⟨call, hcall, callee, hcallee, by simp [hk, hu]⟩

theorem exists_item_of_findSome? {children : List Syntax}
    (h : children.attach.findSome? (fun ⟨c, _⟩ =>
      if c.kind == .keyword then none else declarationType b x c) = some T) :
    ∃ c ∈ children, c.kind ≠ .keyword ∧ declarationType b x c = some T := by
  obtain ⟨-, ⟨c, hc⟩, -, -, hcT, -⟩ := List.findSome?_eq_some_iff.mp h
  dsimp only at hcT
  split at hcT
  · cases hcT
  · next hkw => exact ⟨c, hc, by simpa using hkw, hcT⟩

theorem findSome?_isSome_of_item {children : List Syntax} {c : Syntax} (hc : c ∈ children)
    (hkw : c.kind ≠ .keyword) (h : (declarationType b x c).isSome) :
    (children.attach.findSome? (fun ⟨c, _⟩ =>
      if c.kind == .keyword then none else declarationType b x c)).isSome :=
  List.findSome?_isSome_iff.mpr ⟨⟨c, hc⟩, List.mem_attach _ _, by simpa [hkw] using h⟩

theorem declares_of_typed (hb : b.source = src) {d : Syntax}
    (hk : d.kind = .variableDeclaration ∨ d.kind = .parameter ∨ d.kind = .classParameter)
    (h : (if declares b d x then writtenType b d else none) = some T) : Declares src x d T := by
  split at h
  · next hd => exact .typed hk ((declares_iff hb d).mp hd) ((writtenType_eq_some_iff hb d).mp h)
  · cases h

theorem declares_of_declarationType (hb : b.source = src) :
    ∀ {d : Syntax} {T : String}, declarationType b x d = some T → Declares src x d T
  | .node kind field span children, T, h => by
    unfold declarationType at h
    split at h
    · split at h
      · next v hv =>
        split at h
        · next hd =>
          cases hw : writtenType b v with
          | some T' =>
            rw [hw, Option.orElse_some] at h
            cases h
            exact .property rfl hv ((declares_iff hb v).mp hd) ((writtenType_eq_some_iff hb v).mp hw)
          | none =>
            rw [hw, Option.orElse_none] at h
            exact .constructed rfl hv ((declares_iff hb v).mp hd)
              (fun T' hT' => by rw [← writtenType_eq_some_iff hb v, hw] at hT'; cases hT')
              ((constructedType_eq_some_iff hb _).mp h)
        · cases h
      · cases h
    · exact declares_of_typed hb (.inl rfl) h
    · exact declares_of_typed hb (.inr (.inl rfl)) h
    · exact declares_of_typed hb (.inr (.inr rfl)) h
    · obtain ⟨c, hc, hkw, hcT⟩ := exists_item_of_findSome? h
      exact .list (.inl rfl) hc hkw (declares_of_declarationType hb hcT)
    · obtain ⟨c, hc, hkw, hcT⟩ := exists_item_of_findSome? h
      exact .list (.inr (.inl rfl)) hc hkw (declares_of_declarationType hb hcT)
    · obtain ⟨c, hc, hkw, hcT⟩ := exists_item_of_findSome? h
      exact .list (.inr (.inr rfl)) hc hkw (declares_of_declarationType hb hcT)
    · cases h

theorem declarationType_isSome (hb : b.source = src) {d : Syntax} (h : Declares src x d T) :
    (declarationType b x d).isSome := by
  induction h with
  | @property d v T hk hv hn hT =>
    obtain ⟨kind, field, span, children⟩ := d
    cases hk
    unfold declarationType
    simp [hv, (declares_iff hb v).mpr hn, (writtenType_eq_some_iff hb v).mpr hT]
  | @constructed d v T hk hv hn hw hT =>
    have hwt : writtenType b v = none := Option.eq_none_iff_forall_ne_some.mpr fun T' hT' =>
      hw T' ((writtenType_eq_some_iff hb v).mp hT')
    obtain ⟨kind, field, span, children⟩ := d
    cases hk
    unfold declarationType
    simp [hv, (declares_iff hb v).mpr hn, hwt, (constructedType_eq_some_iff hb _).mpr hT]
  | @typed d T hk hn hT =>
    obtain ⟨kind, field, span, children⟩ := d
    rcases hk with hk | hk | hk <;> cases hk <;> unfold declarationType <;>
      simp [(declares_iff hb _).mpr hn, (writtenType_eq_some_iff hb _).mpr hT]
  | @list d c T hk hc hkw h ih =>
    obtain ⟨kind, field, span, children⟩ := d
    rcases hk with hk | hk | hk <;> cases hk <;> unfold declarationType <;>
      exact findSome?_isSome_of_item hc hkw ih

theorem holds_of_scope (hb : b.source = src) {s : Syntax}
    (h : (namedChildren s).findSome? (declarationType b x) = some T) : Holds src x s T := by
  obtain ⟨pre, d, post, hsplit, hd, -⟩ := List.findSome?_eq_some_iff.mp h
  exact ⟨d, hsplit ▸ List.mem_append_right pre List.mem_cons_self,
    declares_of_declarationType hb hd⟩

theorem scope_isSome (hb : b.source = src) {s : Syntax} (h : Holds src x s T) :
    ((namedChildren s).findSome? (declarationType b x)).isSome := by
  obtain ⟨d, hd, hdecl⟩ := h
  exact List.findSome?_isSome_iff.mpr ⟨d, hd, declarationType_isSome hb hdecl⟩

/-- The declared type of a name is held by the nearest scope that holds one, and there is one
whenever a scope holds one. -/
theorem declaredType_nearestHeld (hb : b.source = src) (scopes : List Syntax) :
    NearestHeld (Holds src x) scopes (declaredType b scopes x) := by
  unfold declaredType
  exact @nearestHeld_findSome? _ _ (Holds src x) _ (fun _ _ h => holds_of_scope hb h)
    (fun _ _ h => scope_isSome hb h) scopes

/-! ## Call sites of a lowered tree -/

/-- What a call site records of a receiver `x`: it comes from a call of the tree whose callee is
a navigation from the plain name `x`, the site's name is the one the navigation selects, at the
site's location, and its type is the nearest declaration of `x` held by the navigation or one
of its ancestors. -/
def ReceiverSite (root : Syntax) (src : Source) (c : CallSite) : Prop :=
  ∀ x, c.receiver = .named x →
    ∃ t A callee r nav ident, Tree.Within root t A ∧ t.kind = .callExpression ∧
      (namedChildren t).head? = some callee ∧ callee.kind = .navigationExpression ∧
      (namedChildren callee).head? = some r ∧ r.kind = .simpleIdentifier ∧
      src.slice r.start r.stop = x ∧ callee.childOfKind? .navigationSuffix = some nav ∧
      nav.childOfKind? .simpleIdentifier = some ident ∧ c.name = src.slice ident.start ident.stop ∧
      c.location.startByte = ident.start ∧ NearestHeld (Holds src x) (callee :: t :: A) c.receiverType

theorem receiverSite_of_ne {root : Syntax} {c : CallSite} (h : ∀ x, c.receiver ≠ .named x) :
    ReceiverSite root src c :=
  fun x hx => absurd hx (h x)

section Lowering

variable (root : Syntax) (src : Source)

mutual

theorem sites_lower : ∀ (fuel : Nat) (t : Syntax) (previous : Option Syntax) (scopes : List Syntax)
    (P cls : Option Nat), Tree.Within root t scopes →
      KeepsSites src (ReceiverSite root src) (lower fuel t previous scopes P cls)
  | 0, _, _, _, _, _, _ => by
    rw [lower]
    exact .pure _
  | fuel + 1, .node kind field span children, previous, scopes, P, cls, ht => by
    have hall : ∀ Q cls', KeepsSites src (ReceiverSite root src)
        (lowerAll fuel children none (.node kind field span children :: scopes) Q cls') :=
      fun Q cls' => sites_lowerAll fuel children none _ Q cls' fun _ hc => .child ht hc
    have hplain : KeepsSites src (ReceiverSite root src)
        (lowerPlain fuel kind span children (.node kind field span children :: scopes) P cls) :=
      sites_lowerPlain fuel kind span children _ P cls fun _ hc => .child ht hc
    rw [lower]
    cases hr : role kind with
    | dropped => exact .pure _
    | transparent => exact hall P cls
    | typeDeclaration =>
      exact .read fun _ _ => .bind (.push _ _ _) fun id => .read fun _ _ =>
        .bind (.addClass _ _) fun index => hall (some id) (some index)
    | function | constructor =>
      refine .read fun b _ => ?_
      rcases (((Tree.node kind field span children).childOfKind? .functionValueParameters).map
        (parameterArity b)).getD (0, some 0) with ⟨_, _⟩
      exact .bind (.push _ _ _) fun id => .bind (.discard (.addMethod _ _)) fun _ => hall (some id) cls
    | call =>
      have hk : (Tree.node kind field span children).kind = .callExpression := role_call hr
      have hsuffix : ∀ s, (Tree.node kind field span children).childOfKind? .callSuffix = some s →
          ∀ Q, KeepsSites src (ReceiverSite root src)
            (lowerAll fuel (suffixChildren (.node kind field span children)) none
              (s :: .node kind field span children :: scopes) Q cls) :=
        fun s hs Q => sites_lowerAll fuel _ none _ Q cls fun _ hc =>
          .child (.child ht (mem_of_childOfKind? hs)) (by simpa [suffixChildren, hs] using hc)
      dsimp only
      cases hn : namedChildren (Tree.node kind field span children) with
      | nil => exact hplain
      | cons callee others =>
        have hcallee : (namedChildren (Tree.node kind field span children)).head? = some callee := by
          rw [hn]
          rfl
        have hc : callee ∈ children := mem_of_head?_namedChildren hcallee
        dsimp only
        split
        · refine .read fun _ _ => .bind (.push _ _ _) fun call =>
            .bind (.addCall fun _ _ _ => receiverSite_of_ne fun _ h => by cases h) fun _ => ?_
          split
          · next s hs => exact hsuffix s hs _
          · exact .pure _
        · next hkc =>
          cases hrecv : (namedChildren callee).head? with
          | none => exact hplain
          | some receiver =>
            cases hnav : callee.childOfKind? .navigationSuffix with
            | none => exact hplain
            | some nav =>
              simp only [Option.bind_some]
              cases hi : nav.childOfKind? .simpleIdentifier with
              | none => exact hplain
              | some ident =>
                have hreceiver : Tree.Within root receiver
                    (callee :: .node kind field span children :: scopes) :=
                  .child (.child ht hc) (mem_of_head?_namedChildren hrecv)
                refine .bind (.push _ _ _) fun q =>
                  .bind (sites_lower fuel receiver none _ (some q) cls hreceiver) fun _ =>
                  .bind (.push _ _ _) fun call => .bind (.setSelector _ _) fun _ =>
                  .read fun b hb => ?_
                split
                case h_3 hid =>
                  refine .bind (.addCall fun n l hl => ?_) fun _ => ?_
                  · intro y hy
                    cases hy
                    exact ⟨_, scopes, callee, receiver, nav, ident, ht, hk, hcallee, hkc, hrecv,
                      hid, (UnitBuilder.text_span hb receiver).symm, hnav, hi,
                      UnitBuilder.text_span hb ident, hl, declaredType_nearestHeld hb _⟩
                  · split
                    · next s hs => exact hsuffix s hs _
                    · exact .pure _
                all_goals
                  refine .bind (.addCall fun _ _ _ => receiverSite_of_ne fun _ h => by cases h)
                    fun _ => ?_
                  split
                  · next s hs => exact hsuffix s hs _
                  · exact .pure _
        · exact hplain
    | navigation =>
      dsimp only
      cases hrecv : (namedChildren (Tree.node kind field span children)).head? with
      | none => exact hplain
      | some receiver =>
        cases hnav : (Tree.node kind field span children).childOfKind? .navigationSuffix with
        | none => exact hplain
        | some nav =>
          exact .bind (.push _ _ _) fun q => .bind (sites_lower fuel receiver none _ (some q) cls
            (.child ht (mem_of_head?_namedChildren hrecv))) fun _ => .bind (.push _ _ _) fun sel =>
            .bind (.setSelector _ _) fun _ => sites_lowerAll fuel nav.children none _ (some sel) cls
              fun _ hc => .child (.child ht (mem_of_childOfKind? hnav)) hc
    | plain => exact hplain

theorem sites_lowerPlain : ∀ (fuel : Nat) (kind : Kind) (span : Span)
    (children inner : List Syntax) (P cls : Option Nat),
    (∀ t ∈ children, Tree.Within root t inner) →
      KeepsSites src (ReceiverSite root src) (lowerPlain fuel kind span children inner P cls)
  | 0, _, _, _, _, _, _, _ => by
    rw [lowerPlain]
    exact .pure _
  | fuel + 1, kind, span, children, inner, P, cls, hts => by
    rw [lowerPlain]
    exact .bind (.push _ _ _) fun id => sites_lowerAll fuel children none inner (some id) cls hts

theorem sites_lowerAll : ∀ (fuel : Nat) (ts : List Syntax) (previous : Option Syntax)
    (scopes : List Syntax) (P cls : Option Nat), (∀ t ∈ ts, Tree.Within root t scopes) →
      KeepsSites src (ReceiverSite root src) (lowerAll fuel ts previous scopes P cls)
  | 0, _, _, _, _, _, _ => by
    rw [lowerAll]
    exact .pure _
  | _ + 1, [], _, _, _, _, _ => by
    rw [lowerAll]
    exact .pure _
  | fuel + 1, n :: rest, previous, scopes, P, cls, hts => by
    rw [lowerAll]
    exact .bind (sites_lower fuel n previous scopes P cls (hts n List.mem_cons_self)) fun _ =>
      sites_lowerAll fuel rest _ scopes P cls fun t ht => hts t (List.mem_cons_of_mem n ht)

end

end Lowering

/-- Every call site of a lowered tree on a plain name `x` comes from a call of the tree whose
callee is a navigation from the name `x`, and its type is the nearest declaration of `x` held by
the navigation or one of its ancestors. -/
theorem receiverTypes_lowered (path text : String) (root : Syntax) :
    ∀ c ∈ (SourceUnit.ofKotlinTree path text root).calls.toList,
      ReceiverSite root (Source.ofString text) c :=
  KeepsSites.run_start (.read fun _ _ => .bind (.addFileAnnotations _) fun _ =>
    sites_lower root (Source.ofString text) _ root none [] none none .root) rfl rfl

end Kotlin
end ResultLint
