import ResultLint.Proofs.Kotlin.Subtrees
import ResultLint.Proofs.Lowering.Rules
import ResultLint.Proofs.Lowering.Spans

/-!
# Lowering a Kotlin tree is sound

Lowering any Kotlin tree, with any fuel, keeps the unit's tables in agreement with its arena and
closes every chain on a call or an expression (`sound_lower`). The ranges of the arena nest, and
its call sites come in source order, when the tree is shaped as the grammar writes it: the
children of a node lie inside it one after another, a navigation starts with its receiver, and
the children of a call's suffix lie from `next` of the name the call records on (`fitsHere`).

For nested ranges the grammar's nesting and receivers are enough (`fits_stop`): a call's suffix
comes after its callee. For call sites in order the suffix must start past the first byte of the
name (`fits_succ`), since a name may be empty where the parser supplied a missing one.
-/

namespace ResultLint

namespace Kotlin

/-- The children of a call's suffix: the nodes lowering reads as the call's arguments. -/
def suffixChildren (t : Syntax) : List Syntax :=
  ((t.childOfKind? .callSuffix).map Tree.children).getD []

/-- The name a call records as its site: a callee that is a plain name, or the name a navigation
callee selects. -/
def callSite? (t : Syntax) : Option Syntax :=
  (namedChildren t).head?.bind fun callee =>
    if callee.kind = .simpleIdentifier then some callee
    else if callee.kind = .navigationExpression then
      (((namedChildren callee).head?.bind fun _ => callee.childOfKind? .navigationSuffix).bind
        (·.childOfKind? .simpleIdentifier))
    else none

/-- The children of a call's suffix lie from `next` of its site on, and `next` is not before the
site's start. -/
def argumentsFrom (next : Span → Nat) (t : Syntax) : Bool :=
  (callSite? t).all fun n =>
    decide (n.start ≤ next n.span) && Tree.spaced (next n.span) t.stop (suffixChildren t)

/-- The facts of one node that lowering relies on: its children lie inside it one after another,
a navigation starts with its receiver, and a call's suffix lies from `next` of its site on. -/
def fitsHere (next : Span → Nat) (t : Syntax) : Bool :=
  Tree.spaced t.start t.stop t.children && startsWithReceiver t &&
    (t.kind != .callExpression || argumentsFrom next t)

theorem callSite?_name {t callee : Syntax} {others : List Syntax}
    (hn : namedChildren t = callee :: others) (hk : callee.kind = .simpleIdentifier) :
    callSite? t = some callee := by
  simp [callSite?, hn, hk]

theorem callSite?_navigation {t callee receiver nav ident : Syntax} {others : List Syntax}
    (hn : namedChildren t = callee :: others) (hk : callee.kind = .navigationExpression)
    (hr : (namedChildren callee).head? = some receiver)
    (hnav : callee.childOfKind? .navigationSuffix = some nav)
    (hi : nav.childOfKind? .simpleIdentifier = some ident) : callSite? t = some ident := by
  simp [callSite?, hn, hk, hr, hnav, hi]

mutual

theorem receiversFirst_eq : ∀ t : Syntax, receiversFirst t = t.every startsWithReceiver
  | .node k f s cs => by rw [receiversFirst, Tree.every, receiversFirstAll_eq cs]

theorem receiversFirstAll_eq :
    ∀ ts : List Syntax, receiversFirstAll ts = Tree.everyAll startsWithReceiver ts
  | [] => rfl
  | t :: ts => by rw [receiversFirstAll, Tree.everyAll, receiversFirst_eq t, receiversFirstAll_eq ts]

end

theorem stop_le_of_first_named {t first s : Syntax} {others : List Syntax} {k : Kind}
    {lo hi : Nat} (hs : Tree.spaced lo hi t.children = true)
    (hn : namedChildren t = first :: others) (hk : t.childOfKind? k = some s)
    (hkw : k ≠ .keyword) (hne : first.kind ≠ k) : first.stop ≤ s.start := by
  obtain ⟨pre, rest, hcs, hpre, -, -⟩ := List.filter_eq_cons_iff.mp hn
  -- only keywords come before the first named child, so the child of kind `k` comes after it
  have hnone : pre.find? (·.kind == k) = none := List.find?_eq_none.mpr fun x hx => by
    have hx' := hpre x hx
    simp only [bne_iff_ne, ne_eq, Decidable.not_not] at hx'
    simp [hx', Ne.symm hkw]
  have hrest : rest.find? (·.kind == k) = some s := by
    rw [Tree.childOfKind?, hcs, List.find?_append, hnone, Option.none_or,
      List.find?_cons_of_neg (by simpa using hne)] at hk
    exact hk
  rw [hcs, List.append_cons] at hs
  exact Tree.stop_le_of_spaced hs first (List.mem_append_right pre (List.mem_singleton_self first))
    s (List.mem_of_find?_eq_some hrest)

theorem mem_of_head?_namedChildren {t c : Syntax} (h : (namedChildren t).head? = some c) :
    c ∈ t.children :=
  (List.mem_filter.mp (List.mem_of_mem_head? h)).1

theorem mem_of_childOfKind? {t c : Syntax} {k : Kind} (h : t.childOfKind? k = some c) :
    c ∈ t.children :=
  List.mem_of_find?_eq_some h

/-! ## The roles of nodes -/

theorem role_call {k : Kind} (h : role k = .call) : k = .callExpression := by
  unfold role at h
  split at h <;> simp_all

theorem role_navigation {k : Kind} (h : role k = .navigation) : k = .navigationExpression := by
  unfold role at h
  split at h <;> simp_all

theorem plainKind_plain (kind : Kind) :
    plainKind kind ≠ .qualifiedReference ∧ plainKind kind ≠ .call ∧
      plainKind kind ≠ .typeDeclaration := by
  refine ⟨(plainKind_ne kind).1, (plainKind_ne kind).2, ?_⟩
  unfold plainKind
  split <;> simp

/-! ## What lowering reads of a node -/

section Facts

variable {next : Span → Nat}

theorem fits_node {kind : Kind} {field : Option Field} {span : Span} {children : List Syntax}
    (h : (Tree.node kind field span children).every (fitsHere next) = true) :
    Tree.spaced span.start span.stop children = true ∧
      Tree.everyAll (fitsHere next) children = true := by
  rw [Tree.every, Bool.and_eq_true] at h
  simp only [fitsHere, Tree.start, Tree.stop, Tree.span, Tree.children, Bool.and_eq_true] at h
  exact ⟨h.1.1.1, h.2⟩

theorem fits_child {t c : Syntax} (h : t.every (fitsHere next) = true) (hc : c ∈ t.children) :
    t.start ≤ c.start ∧ c.start ≤ c.stop ∧ c.stop ≤ t.stop ∧ c.every (fitsHere next) = true := by
  obtain ⟨kind, field, span, children⟩ := t
  have hf := fits_node h
  exact ⟨(Tree.bounds_of_spaced hf.1 c hc).1, (Tree.bounds_of_spaced hf.1 c hc).2.1,
    (Tree.bounds_of_spaced hf.1 c hc).2.2, Tree.everyAll_iff.mp hf.2 c hc⟩

theorem receiver_before_suffix {t receiver nav : Syntax} (h : t.every (fitsHere next) = true)
    (hk : t.kind = .navigationExpression) (hr : (namedChildren t).head? = some receiver)
    (hnav : t.childOfKind? .navigationSuffix = some nav) : receiver.stop ≤ nav.start := by
  have hfit := Tree.every_here h
  simp only [fitsHere, startsWithReceiver, hk, bne_self_eq_false, Bool.false_or, hr,
    Option.map_some, Option.getD_some, Bool.and_eq_true, bne_iff_ne, ne_eq] at hfit
  obtain ⟨others, hn⟩ := List.head?_eq_some_iff.mp hr
  exact stop_le_of_first_named hfit.1.1 hn hnav (by decide) hfit.1.2

theorem arguments_spaced {t n : Syntax} (h : t.every (fitsHere next) = true)
    (hk : t.kind = .callExpression) (hn : callSite? t = some n) :
    n.start ≤ next n.span ∧ Tree.spaced (next n.span) t.stop (suffixChildren t) = true := by
  have hfit := Tree.every_here h
  simp only [fitsHere, argumentsFrom, hk, bne_self_eq_false, Bool.false_or, hn, Option.all_some,
    Bool.and_eq_true, decide_eq_true_eq] at hfit
  exact hfit.2

theorem fits_suffix {t s : Syntax} (h : t.every (fitsHere next) = true)
    (hs : t.childOfKind? .callSuffix = some s) : Tree.everyAll (fitsHere next) s.children = true := by
  have hc := (fits_child h (mem_of_childOfKind? hs)).2.2.2
  obtain ⟨kind, field, span, children⟩ := s
  exact (fits_node hc).2

theorem fits_le {t : Syntax} (h : t.every (fitsHere next) = true) : t.start ≤ t.stop := by
  obtain ⟨kind, field, span, children⟩ := t
  exact Tree.le_of_spaced (fits_node h).1

theorem suffix_spaced {t n : Syntax} (h : t.every (fitsHere next) = true)
    (hk : t.kind = .callExpression) (hn : callSite? t = some n) :
    (∀ s, t.childOfKind? .callSuffix = some s → Tree.spaced (next n.span) t.stop s.children = true ∧
      Tree.everyAll (fitsHere next) s.children = true) ∧
    (t.childOfKind? .callSuffix = none → next n.span ≤ t.stop) := by
  have ha := (arguments_spaced h hk hn).2
  refine ⟨fun s hs => ⟨?_, fits_suffix h hs⟩, fun hs => ?_⟩
  · simpa [suffixChildren, hs] using ha
  · simp only [suffixChildren, hs, Option.map_none, Option.getD_none] at ha
    exact Tree.le_of_spaced ha

theorem navigation_facts {t receiver nav : Syntax} (h : t.every (fitsHere next) = true)
    (hk : t.kind = .navigationExpression) (hr : (namedChildren t).head? = some receiver)
    (hnav : t.childOfKind? .navigationSuffix = some nav) :
    t.start ≤ receiver.start ∧ receiver.stop ≤ nav.start ∧ nav.stop ≤ t.stop ∧
      receiver.every (fitsHere next) = true ∧
      (Tree.spaced nav.start nav.stop nav.children = true ∧
        Tree.everyAll (fitsHere next) nav.children = true) := by
  have hrecv := fits_child h (mem_of_head?_namedChildren hr)
  have hsuffix := fits_child h (mem_of_childOfKind? hnav)
  obtain ⟨k, f, s, cs⟩ := nav
  exact ⟨hrecv.1, receiver_before_suffix h hk hr hnav, hsuffix.2.2.1, hrecv.2.2.2,
    fits_node hsuffix.2.2.2⟩

theorem call_chain_facts {t callee receiver nav ident : Syntax}
    (h : t.every (fitsHere next) = true) (hc : callee ∈ t.children)
    (hk : callee.kind = .navigationExpression) (hr : (namedChildren callee).head? = some receiver)
    (hnav : callee.childOfKind? .navigationSuffix = some nav)
    (hi : nav.childOfKind? .simpleIdentifier = some ident) :
    t.start ≤ receiver.start ∧ receiver.stop ≤ nav.start ∧ nav.start ≤ ident.start ∧
      nav.start ≤ t.stop ∧ receiver.every (fitsHere next) = true := by
  have hcallee := fits_child h hc
  have hnavigation := navigation_facts hcallee.2.2.2 hk hr hnav
  have hsuffix := fits_child hcallee.2.2.2 (mem_of_childOfKind? hnav)
  have hname := fits_child hsuffix.2.2.2 (mem_of_childOfKind? hi)
  exact ⟨by omega, hnavigation.2.1, hname.1, by omega, hnavigation.2.2.2.1⟩

end Facts

/-! ## Trees as the grammar writes them -/

section Shaped

/-- The children of every node of the tree nest inside it, and every navigation starts with its
receiver. -/
def nestsHere (u : Syntax) : Bool :=
  Tree.spaced u.start u.stop u.children && startsWithReceiver u

theorem callSite?_cases {t n : Syntax} (h : callSite? t = some n) :
    ∃ callee others, namedChildren t = callee :: others ∧
      (callee.kind = .simpleIdentifier ∧ n = callee ∨
        callee.kind = .navigationExpression ∧ ∃ nav,
          callee.childOfKind? .navigationSuffix = some nav ∧
          nav.childOfKind? .simpleIdentifier = some n) := by
  unfold callSite? at h
  cases hn : namedChildren t with
  | nil => simp [hn] at h
  | cons callee others =>
    simp only [hn, List.head?_cons, Option.bind_some] at h
    refine ⟨callee, others, rfl, ?_⟩
    by_cases hk : callee.kind = .simpleIdentifier
    · simp only [hk, if_true, Option.some.injEq] at h
      exact .inl ⟨hk, h.symm⟩
    · by_cases hk' : callee.kind = .navigationExpression
      · rw [if_neg hk, if_pos hk'] at h
        simp only [Option.bind_eq_some_iff] at h
        obtain ⟨nav, ⟨_, -, hnav⟩, hi⟩ := h
        exact .inr ⟨hk', nav, hnav, hi⟩
      · simp [hk, hk'] at h

theorem site_inside {t n : Syntax} (hn : callSite? t = some n)
    (hc : ∀ c ∈ t.children, c.every nestsHere = true) :
    ∃ callee others, namedChildren t = callee :: others ∧ callee.kind ≠ .callSuffix ∧
      n.start ≤ n.stop ∧ n.stop ≤ callee.stop := by
  obtain ⟨callee, others, hcs, hsite⟩ := callSite?_cases hn
  have hcallee := hc callee (mem_of_head?_namedChildren (by rw [hcs]; rfl))
  have hspaced : Tree.spaced callee.start callee.stop callee.children = true :=
    ((Bool.and_eq_true _ _).mp (Tree.every_here hcallee)).1
  rcases hsite with ⟨hk, rfl⟩ | ⟨hk, nav, hnav, hi⟩
  · exact ⟨n, others, hcs, by rw [hk]; decide, Tree.le_of_spaced hspaced, Nat.le_refl _⟩
  · have hsuffix := Tree.bounds_of_spaced hspaced nav (mem_of_childOfKind? hnav)
    have hnav' : Tree.spaced nav.start nav.stop nav.children = true :=
      ((Bool.and_eq_true _ _).mp
        (Tree.every_here (Tree.every_child hcallee (mem_of_childOfKind? hnav)))).1
    have hname := Tree.bounds_of_spaced hnav' n (mem_of_childOfKind? hi)
    exact ⟨callee, others, hcs, by rw [hk]; decide, hname.2.1, by omega⟩

theorem fitsHere_stop {u : Syntax} (hu : nestsHere u = true)
    (hc : ∀ c ∈ u.children, c.every nestsHere = true) : fitsHere Span.stop u = true := by
  obtain ⟨hsp, hrecv⟩ := (Bool.and_eq_true _ _).mp hu
  simp only [fitsHere, hsp, hrecv, Bool.true_and, Bool.or_eq_true, bne_iff_ne, ne_eq]
  refine .inr ?_
  unfold argumentsFrom
  cases hn : callSite? u with
  | none => rfl
  | some n =>
    obtain ⟨callee, others, hcs, hk, hle, hin⟩ := site_inside hn hc
    simp only [Option.all_some, Bool.and_eq_true, decide_eq_true_eq]
    refine ⟨hle, ?_⟩
    show Tree.spaced n.stop u.stop (suffixChildren u) = true
    unfold suffixChildren
    cases hs : u.childOfKind? .callSuffix with
    | none =>
      simp only [Option.map_none, Option.getD_none, Tree.spaced_nil, decide_eq_true_eq]
      exact Nat.le_trans hin (Tree.bounds_of_spaced hsp callee
        (mem_of_head?_namedChildren (by rw [hcs]; rfl))).2.2
    | some s =>
      have hafter := stop_le_of_first_named hsp hcs hs (by decide) hk
      have hb := Tree.bounds_of_spaced hsp s (mem_of_childOfKind? hs)
      have hs' : Tree.spaced s.start s.stop s.children = true :=
        ((Bool.and_eq_true _ _).mp (Tree.every_here (hc s (mem_of_childOfKind? hs)))).1
      exact Tree.spaced_mono hs' (by omega) hb.2.2

/-- A tree whose nodes nest, with every navigation starting with its receiver, is shaped for
lowering with a call's suffix from the end of its site on. -/
theorem fits_stop {t : Syntax} (hn : t.nests = true) (hr : receiversFirst t = true) :
    t.every (fitsHere Span.stop) = true := by
  have h : t.every nestsHere = true := by
    show t.every (fun u => Tree.spaced u.start u.stop u.children && startsWithReceiver u) = true
    rw [Tree.every_and, Bool.and_eq_true, ← receiversFirst_eq]
    exact ⟨hn, hr⟩
  exact Tree.every_imp (fun u hu hc => fitsHere_stop hu hc) t h

end Shaped

/-! ## Lowering is sound -/

section Lowering

variable (next : Span → Nat)

mutual

/-- Lowering a tree over its own range, with any fuel, is sound for a tree shaped as
`fitsHere next` asks, and call sites come in order when `next` moves past the first byte of
every range. -/
theorem sound_lower : ∀ (fuel : Nat) (t : Syntax) (previous : Option Syntax)
    (scopes : List Syntax) (P cls : Option Nat),
    Sound (fun k => k = .call ∨ k = .expression) (lower fuel t previous scopes P cls) P cls
      t.start t.stop (t.every (fitsHere next) = true) (∀ sp : Span, sp.start < next sp)
  | 0, _, _, _, _, _ => by
    rw [lower]
    exact Sound.pure fits_le
  | fuel + 1, .node kind field span children, previous, scopes, P, cls => by
    have hall : ∀ Q cls', Sound (fun k => k = .call ∨ k = .expression)
        (lowerAll fuel children none (.node kind field span children :: scopes) Q cls') Q cls'
        span.start span.stop ((Tree.node kind field span children).every (fitsHere next) = true)
        (∀ sp : Span, sp.start < next sp) := fun Q cls' =>
      (sound_lowerAll fuel children none _ Q cls' span.start span.stop).mono (fun h => fits_node h)
        fun _ h => h
    have hplain : Sound (fun k => k = .call ∨ k = .expression)
        (lowerPlain fuel kind span children (.node kind field span children :: scopes) P cls) P cls
        span.start span.stop ((Tree.node kind field span children).every (fitsHere next) = true)
        (∀ sp : Span, sp.start < next sp) :=
      (sound_lowerPlain fuel kind span children _ P cls).mono (fun h => fits_node h) fun _ h => h
    have hin : (Tree.node kind field span children).every (fitsHere next) = true →
        span.start ≤ span.start ∧ span.start ≤ span.stop ∧ span.stop ≤ span.stop :=
      fun h => ⟨Nat.le_refl _, fits_le h, Nat.le_refl _⟩
    rw [lower]
    cases hr : role kind with
    | dropped => exact Sound.pure fits_le
    | transparent => exact hall P cls
    | typeDeclaration =>
      exact Sound.read fun _ => Sound.typeDeclaration (fun _ _ => ⟨_, rfl, rfl⟩)
        (fun n c => hall (some n) (some c)) hin
    | function | constructor =>
      exact Sound.read fun _ => Sound.method (fun _ _ => ⟨_, rfl, rfl, rfl⟩)
        (fun n => hall (some n) cls) hin
    | call =>
      have hk : (Tree.node kind field span children).kind = .callExpression := role_call hr
      dsimp only
      cases hn : namedChildren (Tree.node kind field span children) with
      | nil => exact hplain
      | cons callee others =>
        have hc : callee ∈ children :=
          mem_of_head?_namedChildren (t := .node kind field span children) (by rw [hn]; rfl)
        dsimp only
        split
        · next hkc =>
          have hsite := callSite?_name hn hkc
          refine Sound.read fun _ => Sound.call (fun _ _ => ⟨_, _, _, _, rfl⟩) (fun c => ?_)
            (fun h => ?_) fun _ hN => hN _
          · cases hs : (Tree.node kind field span children).childOfKind? .callSuffix with
            | none => exact Sound.pure fun h => (suffix_spaced h hk hsite).2 hs
            | some s =>
              exact (sound_lowerAll fuel s.children none _ (some c) cls _ _).mono
                (fun h => (suffix_spaced h hk hsite).1 s hs) fun _ h => h
          · have hb := fits_child h hc
            have ha := arguments_spaced h hk hsite
            have hle := Tree.le_of_spaced ha.2
            simp only [Tree.start, Tree.stop, Tree.span] at hb ha hle ⊢
            exact ⟨Nat.le_refl _, hb.1, by omega, hle, Nat.le_refl _⟩
        · next hkc =>
          cases hrecv : (namedChildren callee).head? with
          | none => exact hplain
          | some receiver =>
            cases hnav : callee.childOfKind? .navigationSuffix with
            | none => exact hplain
            | some nav =>
              simp only [Option.bind_some]
              cases hi : nav.childOfKind? .simpleIdentifier with
              | none => exact hplain
              | some ident =>
                have hsite := callSite?_navigation hn hkc hrecv hnav hi
                refine Sound.chain (Or.inl rfl) (by decide) (fun q => ?_)
                  (fun q => SelectorStep.call (fun _ => Records.read fun _ _ => ⟨_, _, _, _, rfl⟩)
                    (fun c => ?_) (fun h => ?_) fun _ hN => hN _) fun h => ?_
                · exact ((sound_lower fuel receiver none _ (some q) cls).mono
                    (fun h => (call_chain_facts h hc hkc hrecv hnav hi).2.2.2.2) fun _ h => h).widen
                    (fun h => (call_chain_facts h hc hkc hrecv hnav hi).1)
                    fun h => (call_chain_facts h hc hkc hrecv hnav hi).2.1
                · cases hs : (Tree.node kind field span children).childOfKind? .callSuffix with
                  | none => exact Sound.pure fun h => (suffix_spaced h hk hsite).2 hs
                  | some s =>
                    exact (sound_lowerAll fuel s.children none _ (some c) cls _ _).mono
                      (fun h => (suffix_spaced h hk hsite).1 s hs) fun _ h => h
                · have hf := call_chain_facts h hc hkc hrecv hnav hi
                  have ha := (arguments_spaced h hk hsite).1
                  simp only [Tree.start, Tree.stop, Tree.span] at hf ha ⊢
                  exact ⟨hf.2.2.1, by omega, hf.2.2.2.1⟩
                · have hf := call_chain_facts h hc hkc hrecv hnav hi
                  have hr := fits_le hf.2.2.2.2
                  simp only [Tree.start, Tree.stop, Tree.span] at hf hr ⊢
                  exact ⟨Nat.le_refl _, by omega, hf.2.2.2.1, Nat.le_refl _, Nat.le_refl _⟩
        · exact hplain
    | navigation =>
      have hk : (Tree.node kind field span children).kind = .navigationExpression :=
        role_navigation hr
      dsimp only
      cases hrecv : (namedChildren (Tree.node kind field span children)).head? with
      | none => exact hplain
      | some receiver =>
        cases hnav : (Tree.node kind field span children).childOfKind? .navigationSuffix with
        | none => exact hplain
        | some nav =>
          refine Sound.chain (Or.inr rfl) (by decide) (fun q => ?_)
            (fun q => SelectorStep.node ⟨by decide, by decide⟩ (fun c =>
              (sound_lowerAll fuel nav.children none _ (some c) cls nav.start nav.stop).mono
                (fun h => (navigation_facts h hk hrecv hnav).2.2.2.2) fun _ h => h)
              fun h => Tree.le_of_spaced (navigation_facts h hk hrecv hnav).2.2.2.2.1)
            fun h => ?_
          · exact ((sound_lower fuel receiver none _ (some q) cls).mono
              (fun h => (navigation_facts h hk hrecv hnav).2.2.2.1) fun _ h => h).widen
              (fun h => (navigation_facts h hk hrecv hnav).1)
              fun h => (navigation_facts h hk hrecv hnav).2.1
          · obtain ⟨h₁, h₂, h₃, hr, hn⟩ := navigation_facts h hk hrecv hnav
            have h₄ := fits_le hr
            have h₅ := Tree.le_of_spaced hn.1
            simp only [Tree.start, Tree.stop, Tree.span] at h₁ h₂ h₃ h₄ h₅ ⊢
            exact ⟨Nat.le_refl _, by omega, h₅, h₃, Nat.le_refl _⟩
    | plain => exact hplain

theorem sound_lowerPlain : ∀ (fuel : Nat) (kind : Kind) (span : Span)
    (children inner : List Syntax) (P cls : Option Nat),
    Sound (fun k => k = .call ∨ k = .expression) (lowerPlain fuel kind span children inner P cls)
      P cls span.start span.stop
      (Tree.spaced span.start span.stop children = true ∧
        Tree.everyAll (fitsHere next) children = true)
      (∀ sp : Span, sp.start < next sp)
  | 0, _, _, _, _, _, _ => by
    rw [lowerPlain]
    exact Sound.pure fun h => Tree.le_of_spaced h.1
  | fuel + 1, kind, span, children, inner, P, cls => by
    rw [lowerPlain]
    exact Sound.node (plainKind_plain kind)
      (fun n => sound_lowerAll fuel children none inner (some n) cls span.start span.stop)
      fun h => ⟨Nat.le_refl _, Tree.le_of_spaced h.1, Nat.le_refl _⟩

theorem sound_lowerAll : ∀ (fuel : Nat) (ts : List Syntax) (previous : Option Syntax)
    (scopes : List Syntax) (P cls : Option Nat) (lo hi : Nat),
    Sound (fun k => k = .call ∨ k = .expression) (lowerAll fuel ts previous scopes P cls) P cls
      lo hi (Tree.spaced lo hi ts = true ∧ Tree.everyAll (fitsHere next) ts = true)
      (∀ sp : Span, sp.start < next sp)
  | 0, _, _, _, _, _, _, _ => by
    rw [lowerAll]
    exact Sound.pure fun h => Tree.le_of_spaced h.1
  | _ + 1, [], _, _, _, _, _, _ => by
    rw [lowerAll]
    exact Sound.pure fun h => Tree.le_of_spaced h.1
  | fuel + 1, n :: rest, previous, scopes, P, cls, lo, hi => by
    rw [lowerAll]
    exact Sound.cons (sound_lower fuel n previous scopes P cls)
      (sound_lowerAll fuel rest _ scopes P cls n.stop hi)

end

end Lowering

end Kotlin

end ResultLint
