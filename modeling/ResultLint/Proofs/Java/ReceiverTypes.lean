import ResultLint.Proofs.Java.Sound
import ResultLint.Proofs.Lowering.Sites

/-!
# Receiver types of Java calls

A call `x.m(...)` on a plain name `x` records the simple type `x` is declared with, looked up
from the invocation outward through its ancestors. An ancestor holds the declarations standing
directly among its children: local variable and field declarations, parameter lists, and formal,
catch and resource parameters; an enhanced `for` also holds its own variable (`Holds`). A
declaration counts wherever it stands among the children, before the call or after it, and one
whose written type has no simple name (`var`) holds nothing.

The lookup gives a type held by the nearest ancestor holding one, and gives one whenever an
ancestor holds one (`declaredType_nearestHeld`). Every call site that lowering records on a
plain name comes from that lookup at an invocation of the tree, through the invocation's own
ancestors (`receiverTypes_lowered`).
-/

namespace ResultLint
namespace Java

section Declarations

variable (src : Source) (x : String)

/-- The node is named `x` and carries a written type with the simple name `T`. -/
def NamedWithType (n : Syntax) (T : String) : Prop :=
  ∃ d, n.child? .name = some d ∧ src.slice d.start d.stop = x ∧
    ∃ ty, n.child? .type = some ty ∧ TypeName.simpleTypeName (src.slice ty.start ty.stop) = some T

/-- A node standing in a scope declares `x` with a written type whose simple name is `T`. -/
inductive Declares : Syntax → String → Prop
  /-- A local variable or field declaration with a declarator named `x`. -/
  | declarators {d v nm ty : Syntax} {T : String}
      (hk : d.kind = .localVariableDeclaration ∨ d.kind = .fieldDeclaration)
      (hv : v ∈ d.children) (hvk : v.kind = .variableDeclarator) (hnm : v.child? .name = some nm)
      (hx : src.slice nm.start nm.stop = x) (hty : d.child? .type = some ty)
      (hT : TypeName.simpleTypeName (src.slice ty.start ty.stop) = some T) : Declares d T
  /-- A parameter list with a parameter named `x`. -/
  | parameterList {d p : Syntax} {T : String} (hk : d.kind = .formalParameters)
      (hp : p ∈ d.children) (h : NamedWithType src x p T) : Declares d T
  /-- A formal, catch or resource parameter named `x`. -/
  | parameter {d : Syntax} {T : String}
      (hk : d.kind = .formalParameter ∨ d.kind = .catchFormalParameter ∨ d.kind = .resource)
      (h : NamedWithType src x d T) : Declares d T

/-- The declarations of `x` a scope holds: an enhanced `for` over `x` its own variable, and any
node the declarations standing among its children. -/
def Holds (s : Syntax) (T : String) : Prop :=
  (s.kind = .enhancedForStatement ∧ NamedWithType src x s T) ∨ ∃ d ∈ s.children, Declares src x d T

end Declarations

variable {src : Source} {x T : String} {b : UnitBuilder}

theorem typedName_eq_some_iff (hb : b.source = src) (n : Syntax) :
    typedName b n x = some T ↔ NamedWithType src x n T := by
  unfold typedName NamedWithType
  cases hn : n.child? .name with
  | none => simp
  | some d =>
    simp only [UnitBuilder.text_span hb, beq_iff_eq, Option.some.injEq, exists_eq_left']
    by_cases hx : src.slice d.start d.stop = x
    · simp [hx, Option.bind_eq_some_iff]
    · simp [hx]

theorem any_declarator_iff (hb : b.source = src) (d : Syntax) :
    d.children.any (fun v => v.kind == .variableDeclarator &&
      ((v.child? .name).map fun n => b.text n.span == x).getD false) = true ↔
      ∃ v ∈ d.children, v.kind = .variableDeclarator ∧
        ∃ nm, v.child? .name = some nm ∧ src.slice nm.start nm.stop = x := by
  simp only [List.any_eq_true, Bool.and_eq_true, beq_iff_eq]
  refine exists_congr fun v => and_congr_right fun _ => and_congr_right fun _ => ?_
  cases v.child? .name <;> simp [UnitBuilder.text_span hb]

theorem declares_of_variables (hb : b.source = src) {d : Syntax}
    (hk : d.kind = .localVariableDeclaration ∨ d.kind = .fieldDeclaration)
    (h : (if d.children.any (fun v => v.kind == .variableDeclarator &&
        ((v.child? .name).map fun n => b.text n.span == x).getD false) then
        (d.child? .type).bind fun t => TypeName.simpleTypeName (b.text t.span) else none) = some T) :
    Declares src x d T := by
  split at h
  · next hdecl =>
    obtain ⟨v, hv, hvk, nm, hnm, hx⟩ := (any_declarator_iff hb d).mp hdecl
    obtain ⟨ty, hty, hT⟩ := Option.bind_eq_some_iff.mp h
    exact .declarators hk hv hvk hnm hx hty (by rwa [UnitBuilder.text_span hb] at hT)
  · cases h

theorem declares_of_declarationType (hb : b.source = src) {d : Syntax}
    (h : declarationType b d x = some T) : Declares src x d T := by
  unfold declarationType at h
  split at h
  · next hk => exact declares_of_variables hb (.inl hk) h
  · next hk => exact declares_of_variables hb (.inr hk) h
  · next hk =>
    obtain ⟨pre, p, post, hsplit, hp, -⟩ := List.findSome?_eq_some_iff.mp h
    exact .parameterList hk (hsplit ▸ List.mem_append_right pre List.mem_cons_self)
      ((typedName_eq_some_iff hb p).mp hp)
  · next hk => exact .parameter (.inl hk) ((typedName_eq_some_iff hb d).mp h)
  · next hk => exact .parameter (.inr (.inl hk)) ((typedName_eq_some_iff hb d).mp h)
  · next hk => exact .parameter (.inr (.inr hk)) ((typedName_eq_some_iff hb d).mp h)
  · cases h

theorem declarationType_isSome (hb : b.source = src) {d : Syntax} (h : Declares src x d T) :
    (declarationType b d x).isSome := by
  cases h with
  | declarators hk hv hvk hnm hx hty hT =>
    have hdecl := (any_declarator_iff hb d).mpr ⟨_, hv, hvk, _, hnm, hx⟩
    have htype : ((d.child? .type).bind fun t => TypeName.simpleTypeName (b.text t.span)) =
        some T := by
      simp [hty, UnitBuilder.text_span hb, hT]
    unfold declarationType
    rcases hk with hk | hk <;> simp only [hk, hdecl, if_true, htype, Option.isSome_some]
  | parameterList hk hp h =>
    unfold declarationType
    simp only [hk]
    exact List.findSome?_isSome_iff.mpr ⟨_, hp, by simp [(typedName_eq_some_iff hb _).mpr h]⟩
  | parameter hk h =>
    unfold declarationType
    rcases hk with hk | hk | hk <;> simp [hk, (typedName_eq_some_iff hb d).mpr h]

theorem holds_of_scope (hb : b.source = src) {s : Syntax}
    (h : ((if s.kind == .enhancedForStatement then typedName b s x else none).orElse
      fun _ => s.children.findSome? (declarationType b · x)) = some T) : Holds src x s T := by
  cases hfor : (if s.kind == .enhancedForStatement then typedName b s x else none) with
  | some T' =>
    rw [hfor, Option.orElse_some, Option.some.injEq] at h
    subst h
    split at hfor
    · next hk => exact .inl ⟨by simpa using hk, (typedName_eq_some_iff hb s).mp hfor⟩
    · cases hfor
  | none =>
    rw [hfor, Option.orElse_none] at h
    obtain ⟨pre, d, post, hsplit, hd, -⟩ := List.findSome?_eq_some_iff.mp h
    exact .inr ⟨d, hsplit ▸ List.mem_append_right pre List.mem_cons_self,
      declares_of_declarationType hb hd⟩

theorem scope_isSome (hb : b.source = src) {s : Syntax} (h : Holds src x s T) :
    ((if s.kind == .enhancedForStatement then typedName b s x else none).orElse
      fun _ => s.children.findSome? (declarationType b · x)).isSome := by
  rcases h with ⟨hk, hn⟩ | ⟨d, hd, hdecl⟩
  · have hfor : (if s.kind == .enhancedForStatement then typedName b s x else none) = some T := by
      rw [if_pos (by simpa using hk)]
      exact (typedName_eq_some_iff hb s).mpr hn
    rw [hfor, Option.orElse_some, Option.isSome_some]
  · cases (if s.kind == .enhancedForStatement then typedName b s x else none) with
    | some _ => rw [Option.orElse_some, Option.isSome_some]
    | none =>
      rw [Option.orElse_none]
      exact List.findSome?_isSome_iff.mpr ⟨d, hd, declarationType_isSome hb hdecl⟩

/-- The declared type of a name is held by the nearest scope that holds one, and there is one
whenever a scope holds one. -/
theorem declaredType_nearestHeld (hb : b.source = src) (scopes : List Syntax) :
    NearestHeld (Holds src x) scopes (declaredType b scopes x) := by
  unfold declaredType
  exact @nearestHeld_findSome? _ _ (Holds src x) _ (fun _ _ h => holds_of_scope hb h)
    (fun _ _ h => scope_isSome hb h) scopes

/-! ## Call sites of a lowered tree -/

/-- What a call site records of a receiver `x`: it comes from an invocation of the tree whose
receiver is the identifier `x` and whose name is the site's, at the site's location, and its
type is the nearest declaration of `x` held by the invocation or one of its ancestors. -/
def ReceiverSite (root : Syntax) (src : Source) (c : CallSite) : Prop :=
  ∀ x, c.receiver = .named x →
    ∃ t A obj nm, Tree.Within root t A ∧ t.kind = .methodInvocation ∧
      t.children.find? (·.field == some .object) = some obj ∧ obj.kind = .identifier ∧
      src.slice obj.start obj.stop = x ∧ t.children.find? (·.field == some .name) = some nm ∧
      c.name = src.slice nm.start nm.stop ∧ c.location.startByte = nm.start ∧
      NearestHeld (Holds src x) (t :: A) c.receiverType

theorem receiverSite_of_ne {root : Syntax} {c : CallSite} (h : ∀ x, c.receiver ≠ .named x) :
    ReceiverSite root src c :=
  fun x hx => absurd hx (h x)

section Lowering

variable (root : Syntax) (src : Source)

mutual

theorem sites_lower : ∀ (t : Syntax) (scopes : List Syntax) (P cls : Option Nat),
    Tree.Within root t scopes → KeepsSites src (ReceiverSite root src) (lower t scopes P cls)
  | .node kind field span children, scopes, P, cls, ht => by
    have hall : ∀ Q cls', KeepsSites src (ReceiverSite root src)
        (lowerAll children (.node kind field span children :: scopes) Q cls') := fun Q cls' =>
      sites_lowerAll children _ Q cls' fun _ hc => .child ht hc
    rw [lower]
    cases hr : role kind with
    | dropped => exact .pure _
    | transparent => exact hall P cls
    | typeDeclaration =>
      exact .read fun _ _ => .bind (.push _ _ _) fun id => .read fun _ _ =>
        .bind (.addClass _ _) fun index => hall (some id) (some index)
    | callable c =>
      refine .read fun _ _ => ?_
      rcases ((Tree.node kind field span children).child? .parameters |>.map parameterArity).getD
        (0, some 0) with ⟨_, _⟩
      exact .bind (.push _ _ _) fun id => .read fun _ _ =>
        .bind (.discard (.addMethod _ _)) fun _ => hall (some id) cls
    | block =>
      exact .ite (.bind (.push _ _ _) fun _ => .bind (.push _ _ _) fun id => hall (some id) cls)
        (.bind (.push _ _ _) fun id => hall (some id) cls)
    | invocation =>
      have hk := role_invocation hr
      dsimp only
      cases hname : children.find? (·.field == some .name) with
      | none => exact .bind (.push _ _ _) fun id => hall (some id) cls
      | some nameNode =>
        refine .read fun b hb => ?_
        have hargs : ∀ Q, KeepsSites src (ReceiverSite root src)
            (lowerArguments children (.node kind field span children :: scopes) Q cls) := fun Q =>
          sites_lowerArguments children _ Q cls fun _ hc => .child ht hc
        cases hobj : children.find? (·.field == some .object) with
        | none =>
          exact .bind (.push _ _ _) fun call =>
            .bind (.addCall fun _ _ _ => receiverSite_of_ne fun _ h => by cases h)
              fun _ => hargs (some call)
        | some obj =>
          refine .bind (.push _ _ _) fun chain => .bind (sites_lowerField children _ _ cls .object
            fun _ hc => .child ht hc) fun _ => .bind (.push _ _ _) fun call =>
            .bind (.setSelector _ _) fun _ => ?_
          split
          case h_3 hid =>
            refine .bind (.addCall fun n l hl => ?_) fun _ => hargs (some call)
            intro y hy
            cases hy
            exact ⟨_, scopes, obj, nameNode, ht, hk, hobj, hid,
              (UnitBuilder.text_span hb obj).symm, hname, UnitBuilder.text_span hb nameNode, hl,
              declaredType_nearestHeld hb _⟩
          all_goals
            exact .bind (.addCall fun _ _ _ => receiverSite_of_ne fun _ h => by cases h)
              fun _ => hargs (some call)
    | switchGroup =>
      exact .bind (.push _ _ _) fun id =>
        sites_lowerExceptLabels children _ (some id) cls fun _ hc => .child ht hc
    | plain k => exact .bind (.push _ _ _) fun id => hall (some id) cls

theorem sites_lowerAll : ∀ (ts scopes : List Syntax) (P cls : Option Nat),
    (∀ t ∈ ts, Tree.Within root t scopes) →
      KeepsSites src (ReceiverSite root src) (lowerAll ts scopes P cls)
  | [], _, _, _, _ => by
    rw [lowerAll]
    exact .pure _
  | n :: rest, scopes, P, cls, hts => by
    rw [lowerAll]
    exact .bind (sites_lower n scopes P cls (hts n List.mem_cons_self)) fun _ =>
      sites_lowerAll rest scopes P cls fun t ht => hts t (List.mem_cons_of_mem n ht)

theorem sites_lowerField : ∀ (ts scopes : List Syntax) (P cls : Option Nat) (f : Field),
    (∀ t ∈ ts, Tree.Within root t scopes) →
      KeepsSites src (ReceiverSite root src) (lowerField ts scopes P cls f)
  | [], _, _, _, _, _ => by
    rw [lowerField]
    exact .pure _
  | n :: rest, scopes, P, cls, f, hts => by
    rw [lowerField]
    have hrest := sites_lowerField rest scopes P cls f fun t ht => hts t (List.mem_cons_of_mem n ht)
    exact .ite (.bind (sites_lower n scopes P cls (hts n List.mem_cons_self)) fun _ => hrest) hrest

theorem sites_lowerArguments : ∀ (ts scopes : List Syntax) (P cls : Option Nat),
    (∀ t ∈ ts, Tree.Within root t scopes) →
      KeepsSites src (ReceiverSite root src) (lowerArguments ts scopes P cls)
  | [], _, _, _, _ => by
    rw [lowerArguments]
    exact .pure _
  | .node k f s cs :: rest, scopes, P, cls, hts => by
    rw [lowerArguments]
    have hn := hts _ List.mem_cons_self
    have hrest := sites_lowerArguments rest scopes P cls fun t ht => hts t (List.mem_cons_of_mem _ ht)
    exact .ite (.bind (sites_lowerAll cs _ P cls fun _ hc => .child hn hc) fun _ => hrest) hrest

theorem sites_lowerExceptLabels : ∀ (ts scopes : List Syntax) (P cls : Option Nat),
    (∀ t ∈ ts, Tree.Within root t scopes) →
      KeepsSites src (ReceiverSite root src) (lowerExceptLabels ts scopes P cls)
  | [], _, _, _, _ => by
    rw [lowerExceptLabels]
    exact .pure _
  | n :: rest, scopes, P, cls, hts => by
    rw [lowerExceptLabels]
    have hrest := sites_lowerExceptLabels rest scopes P cls fun t ht =>
      hts t (List.mem_cons_of_mem n ht)
    exact .ite (.bind (sites_lower n scopes P cls (hts n List.mem_cons_self)) fun _ => hrest) hrest

end

end Lowering

/-- Every call site of a lowered tree on a plain name `x` comes from an invocation of the tree
whose receiver is the identifier `x`, and its type is the nearest declaration of `x` held by
the invocation or one of its ancestors. -/
theorem receiverTypes_lowered (path text : String) (root : Syntax) :
    ∀ c ∈ (SourceUnit.ofJavaTree path text root).calls.toList,
      ReceiverSite root (Source.ofString text) c := by
  refine KeepsSites.run_start ?_ rfl rfl
  have hroot := sites_lower root (Source.ofString text) root [] none none .root
  dsimp only
  split
  · exact .read fun _ _ => .bind (.addFileAnnotations _) fun _ => hroot
  · exact hroot

end Java
end ResultLint
