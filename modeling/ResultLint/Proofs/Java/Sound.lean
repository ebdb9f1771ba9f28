import ResultLint.Java.SourceUnit
import ResultLint.Proofs.Lowering.Rules
import ResultLint.Proofs.Lowering.Spans

/-!
# Lowering a Java tree is sound

Lowering any Java tree keeps the unit's tables in agreement with its arena and closes every chain
on a call (`sound_lower`). The ranges of the arena nest, and its call sites come in source order,
when the tree is shaped as the grammar writes it: the children of a node lie inside it one after
another, an invocation's receiver comes before its name and its arguments after it, and the
nodes of its arguments lie from a byte past the name's first on (`fitsHere`).

What the arguments are asked to leave free depends on what is to be proved: for nested ranges it
is the name itself (`fits_stop`), which every nested tree leaves free; for call sites in order it
is the first byte of the name (`fits_succ`), since a name may be empty where the parser supplied
a missing one.
-/

namespace ResultLint

namespace Java

/-- The nodes an invocation lowers as its arguments: the children of its argument lists. -/
def argumentsOf (children : List Syntax) : List Syntax :=
  (children.filter (·.field == some .arguments)).flatMap Tree.children

/-- Before its first name, an invocation has no argument list, and after it no receiver. -/
def namesSplit : List Syntax → Bool
  | [] => true
  | c :: cs =>
    if c.field == some .name then cs.all (·.field != some .object)
    else c.field != some .arguments && namesSplit cs

/-- An invocation with a name has its receiver before the name and its arguments after it. -/
def invocationSplit (children : List Syntax) : Bool :=
  (children.find? (·.field == some .name)).isNone || namesSplit children

/-- The node, if an invocation, is written receiver, name, arguments. -/
def splitHere (u : Syntax) : Bool :=
  u.kind != .methodInvocation || invocationSplit u.children

/-- Every invocation of the tree is written receiver, name, arguments, as the grammar writes it. -/
def invocationsSplit (t : Syntax) : Bool := t.every splitHere

/-- The nodes of an invocation's arguments lie from `next` of its name's range to its end, and
`next` is not before the name's start. -/
def argumentsFrom (next : Span → Nat) (t : Syntax) : Bool :=
  (t.children.find? (·.field == some .name)).all fun n =>
    decide (n.start ≤ next n.span) && Tree.spaced (next n.span) t.stop (argumentsOf t.children)

/-- The facts of one node that lowering relies on: its children lie inside it one after another,
and an invocation is split at its name, with its arguments from `next` of the name on. -/
def fitsHere (next : Span → Nat) (t : Syntax) : Bool :=
  Tree.spaced t.start t.stop t.children &&
    (t.kind != .methodInvocation || invocationSplit t.children && argumentsFrom next t)

theorem argumentsOf_cons (c : Syntax) (cs : List Syntax) :
    argumentsOf (c :: cs) =
      (if c.field == some .arguments then c.children ++ argumentsOf cs else argumentsOf cs) := by
  unfold argumentsOf
  rw [List.filter_cons]
  split <;> simp

theorem argumentsOf_append (xs ys : List Syntax) :
    argumentsOf (xs ++ ys) = argumentsOf xs ++ argumentsOf ys := by
  simp [argumentsOf, List.filter_append, List.flatMap_append]

theorem namesSplit_parts {n : Syntax} {rest : List Syntax} (hn : n.field = some .name) :
    ∀ {pre : List Syntax}, (∀ x ∈ pre, (x.field == some .name) = false) →
      namesSplit (pre ++ n :: rest) = true →
      (∀ x ∈ pre, x.field ≠ some .arguments) ∧ ∀ x ∈ rest, x.field ≠ some .object
  | [], _, h => by
    simp only [List.nil_append, namesSplit, hn, beq_self_eq_true, if_true, List.all_eq_true,
      bne_iff_ne, ne_eq] at h
    exact ⟨fun _ hx => (by cases hx), h⟩
  | x :: pre, hpre, h => by
    have hx := hpre x List.mem_cons_self
    simp only [List.cons_append, namesSplit, hx, Bool.false_eq_true, if_false, Bool.and_eq_true,
      bne_iff_ne, ne_eq] at h
    obtain ⟨hargs, hobj⟩ := namesSplit_parts hn (fun y hy => hpre y (List.mem_cons_of_mem _ hy)) h.2
    refine ⟨fun y hy => ?_, hobj⟩
    rcases List.mem_cons.mp hy with rfl | hy
    · exact h.1
    · exact hargs y hy

theorem split_of_find? {cs : List Syntax} {n : Syntax} (hn : cs.find? (·.field == some .name) = some n)
    (hs : invocationSplit cs = true) :
    ∃ pre rest, cs = pre ++ n :: rest ∧ n.field = some .name ∧
      pre.filter (·.field == some .object) = cs.filter (·.field == some .object) ∧
      argumentsOf rest = argumentsOf cs := by
  rw [invocationSplit, hn] at hs
  obtain ⟨hname, pre, rest, rfl, hpre⟩ := List.find?_eq_some_iff_append.mp hn
  simp only [beq_iff_eq] at hname
  obtain ⟨hargs, hobj⟩ := namesSplit_parts hname (fun x hx => by simpa using hpre x hx) hs
  refine ⟨pre, rest, rfl, hname, ?_, ?_⟩
  · -- the name and what follows it hold no receiver
    have hrest : rest.filter (·.field == some .object) = [] :=
      List.filter_eq_nil_iff.mpr fun x hx => by simpa using hobj x hx
    rw [List.filter_append, List.filter_cons, if_neg (by simp [hname]), hrest, List.append_nil]
  · -- what comes before the name holds no arguments
    have hpre' : argumentsOf pre = [] := by
      have : pre.filter (·.field == some .arguments) = [] :=
        List.filter_eq_nil_iff.mpr fun x hx => by simpa using hargs x hx
      rw [argumentsOf, this, List.flatMap_nil]
    rw [argumentsOf_append, hpre', List.nil_append, argumentsOf_cons, if_neg (by simp [hname])]

/-! ## The roles of nodes -/

theorem role_invocation {k : Kind} (h : role k = .invocation) : k = .methodInvocation := by
  unfold role at h
  split at h <;> simp_all

theorem role_plain {kind : Kind} {k : NodeKind} (h : role kind = .plain k) :
    k ≠ .qualifiedReference ∧ k ≠ .call ∧ k ≠ .typeDeclaration := by
  unfold role at h
  split at h <;> try cases h
  unfold plainKind
  split <;> simp

/-! ## What lowering reads of a node -/

section Facts

variable {next : Span → Nat} {kind : Kind} {field : Option Field} {span : Span}
  {children : List Syntax}

theorem fits_node (h : (Tree.node kind field span children).every (fitsHere next) = true) :
    Tree.spaced span.start span.stop children = true ∧
      Tree.everyAll (fitsHere next) children = true := by
  rw [Tree.every, Bool.and_eq_true] at h
  simp only [fitsHere, Tree.start, Tree.stop, Tree.span, Tree.children, Bool.and_eq_true] at h
  exact ⟨h.1.1, h.2⟩

theorem fits_invocation (h : (Tree.node kind field span children).every (fitsHere next) = true)
    (hk : kind = .methodInvocation) :
    invocationSplit children = true ∧ argumentsFrom next (.node kind field span children) = true := by
  rw [Tree.every, Bool.and_eq_true] at h
  simp only [fitsHere, Tree.kind, Tree.children, hk, bne_self_eq_false, Bool.false_or,
    Bool.and_eq_true] at h
  exact h.1.2

theorem receivers_spaced (h : (Tree.node kind field span children).every (fitsHere next) = true)
    (hk : kind = .methodInvocation) {n : Syntax}
    (hn : children.find? (·.field == some .name) = some n) :
    Tree.spaced span.start n.start (children.filter (·.field == some .object)) = true := by
  obtain ⟨pre, rest, hcs, -, hobj, -⟩ := split_of_find? hn (fits_invocation h hk).1
  have hsp := (fits_node h).1
  rw [hcs, Tree.spaced_append, Bool.and_eq_true] at hsp
  rw [← hobj]
  refine Tree.spaced_filter _ (Tree.spaced_mono (Tree.spaced_reach hsp.1) (Nat.le_refl _) ?_)
  have := hsp.2
  simp only [Tree.spaced_cons, Bool.and_eq_true, decide_eq_true_eq] at this
  exact this.1.1

theorem arguments_spaced (h : (Tree.node kind field span children).every (fitsHere next) = true)
    (hk : kind = .methodInvocation) {n : Syntax}
    (hn : children.find? (·.field == some .name) = some n) :
    n.start ≤ next n.span ∧ Tree.spaced (next n.span) span.stop (argumentsOf children) = true := by
  have := (fits_invocation h hk).2
  simp only [argumentsFrom, Tree.children, hn, Option.all_some, Bool.and_eq_true,
    decide_eq_true_eq] at this
  exact this

theorem name_bounds (h : (Tree.node kind field span children).every (fitsHere next) = true)
    {n : Syntax} (hn : children.find? (·.field == some .name) = some n) :
    span.start ≤ n.start ∧ n.start ≤ n.stop ∧ n.stop ≤ span.stop :=
  Tree.bounds_of_spaced (fits_node h).1 n (List.mem_of_find?_eq_some hn)

theorem arguments_facts {k : Kind} {f : Option Field} {s : Span} {cs ts : List Syntax}
    {lo hi : Nat}
    (h : Tree.spaced lo hi (argumentsOf (.node k f s cs :: ts)) = true ∧
      Tree.everyAll (fitsHere next) (.node k f s cs :: ts) = true)
    (hf : (f == some .arguments) = true) :
    (Tree.spaced lo (Tree.reach lo cs) cs = true ∧ Tree.everyAll (fitsHere next) cs = true) ∧
      (Tree.spaced (Tree.reach lo cs) hi (argumentsOf ts) = true ∧
        Tree.everyAll (fitsHere next) ts = true) ∧ Tree.reach lo cs ≤ hi := by
  obtain ⟨hs, he⟩ := h
  have hargs : argumentsOf (.node k f s cs :: ts) = cs ++ argumentsOf ts := by
    rw [argumentsOf_cons]
    exact if_pos hf
  rw [hargs, Tree.spaced_append, Bool.and_eq_true] at hs
  rw [Tree.everyAll, Bool.and_eq_true] at he
  exact ⟨⟨hs.1, (fits_node he.1).2⟩, ⟨hs.2, he.2⟩, Tree.le_of_spaced hs.2⟩

end Facts

/-! ## Trees as the grammar writes them -/

section Shaped

theorem arguments_after_name {lo hi : Nat} {cs : List Syntax} {n : Syntax}
    (hs : Tree.spaced lo hi cs = true) (hsplit : invocationSplit cs = true)
    (hn : cs.find? (·.field == some .name) = some n)
    (hc : ∀ c ∈ cs, Tree.spaced c.start c.stop c.children = true) :
    Tree.spaced n.stop hi (argumentsOf cs) = true := by
  obtain ⟨pre, rest, rfl, -, -, hargs⟩ := split_of_find? hn hsplit
  rw [Tree.spaced_append, Bool.and_eq_true] at hs
  have hrest := hs.2
  simp only [Tree.spaced_cons, Bool.and_eq_true] at hrest
  rw [← hargs]
  exact Tree.spaced_flatMap (Tree.spaced_filter _ hrest.2) fun c hc' =>
    hc c (List.mem_append_right pre (List.mem_cons_of_mem n (List.mem_filter.mp hc').1))

/-- A tree whose nodes nest, with its invocations split as the grammar writes them, is shaped for
lowering with a call's arguments from the end of its name on. -/
theorem fits_stop {t : Syntax} (hn : t.nests = true) (hs : invocationsSplit t = true) :
    t.every (fitsHere Span.stop) = true := by
  have h : t.every (fun u => Tree.spaced u.start u.stop u.children && splitHere u) = true := by
    rw [Tree.every_and, Bool.and_eq_true]
    exact ⟨hn, hs⟩
  refine Tree.every_imp (fun u hu hc => ?_) t h
  obtain ⟨hsp, hsplit⟩ := (Bool.and_eq_true _ _).mp hu
  simp only [fitsHere, hsp, Bool.true_and]
  -- only an invocation asks more than nesting
  cases hk : u.kind != .methodInvocation with
  | true => rfl
  | false =>
    simp only [splitHere, hk, Bool.false_or] at hsplit
    simp only [hsplit, Bool.false_or, Bool.true_and, argumentsFrom]
    cases hf : u.children.find? (·.field == some .name) with
    | none => rfl
    | some n =>
      have hb := Tree.bounds_of_spaced hsp n (List.mem_of_find?_eq_some hf)
      simp only [Option.all_some, Bool.and_eq_true, decide_eq_true_eq]
      exact ⟨hb.2.1, arguments_after_name hsp hsplit hf fun c hc' =>
        ((Bool.and_eq_true _ _).mp (Tree.every_here (hc c hc'))).1⟩

end Shaped

/-! ## Lowering is sound -/

section Lowering

variable (next : Span → Nat)

mutual

/-- Lowering a tree over its own range is sound, for a tree shaped as `fitsHere next` asks, and
call sites come in order when `next` moves past the first byte of every range. -/
theorem sound_lower : ∀ (t : Syntax) (scopes : List Syntax) (P cls : Option Nat),
    Sound (· = .call) (lower t scopes P cls) P cls t.start t.stop
      (t.every (fitsHere next) = true) (∀ sp : Span, sp.start < next sp)
  | .node kind field span children, scopes, P, cls => by
    have hall : ∀ Q cls', Sound (· = .call)
        (lowerAll children (.node kind field span children :: scopes) Q cls') Q cls'
        span.start span.stop ((Tree.node kind field span children).every (fitsHere next) = true)
        (∀ sp : Span, sp.start < next sp) := fun Q cls' =>
      (sound_lowerAll children _ Q cls' span.start span.stop).mono (fun h => fits_node h)
        fun _ h => h
    have hwf : (Tree.node kind field span children).every (fitsHere next) = true →
        span.start ≤ span.stop := fun h => Tree.le_of_spaced (fits_node h).1
    have hin : (Tree.node kind field span children).every (fitsHere next) = true →
        span.start ≤ span.start ∧ span.start ≤ span.stop ∧ span.stop ≤ span.stop :=
      fun h => ⟨Nat.le_refl _, hwf h, Nat.le_refl _⟩
    rw [lower]
    cases hr : role kind with
    | dropped => exact Sound.pure hwf
    | transparent => exact hall P cls
    | typeDeclaration =>
      exact Sound.read fun _ => Sound.typeDeclaration (fun _ _ => ⟨_, rfl, rfl⟩)
        (fun n c => hall (some n) (some c)) hin
    | callable c =>
      exact Sound.read fun _ => Sound.method (fun _ _ => ⟨_, rfl, rfl, rfl⟩)
        (fun n => hall (some n) cls) hin
    | block =>
      have hbody : Sound (· = .call) (Build.push .block P span >>= fun id =>
          lowerAll children (.node kind field span children :: scopes) (some id) cls) P cls
          span.start span.stop ((Tree.node kind field span children).every (fitsHere next) = true)
          (∀ sp : Span, sp.start < next sp) :=
        Sound.node (by decide) (fun n => hall (some n) cls) hin
      have hinit : Sound (· = .call) (Build.push .classInitializer P span >>= fun init =>
          Build.push .block (some init) span >>= fun id =>
          lowerAll children (.node kind field span children :: scopes) (some id) cls) P cls
          span.start span.stop ((Tree.node kind field span children).every (fitsHere next) = true)
          (∀ sp : Span, sp.start < next sp) :=
        Sound.node (by decide) (fun _ => Sound.node (by decide) (fun n => hall (some n) cls) hin) hin
      dsimp only
      cases scopes.head? with
      | none => exact hbody
      | some p =>
        dsimp only
        by_cases hp : opensClassBody p.kind = true
        · rw [if_pos hp]
          exact hinit
        · rw [if_neg hp]
          exact hbody
    | invocation =>
      have hk := role_invocation hr
      dsimp only
      cases hname : children.find? (·.field == some .name) with
      | none => exact Sound.node (by decide) (fun n => hall (some n) cls) hin
      | some nameNode =>
        refine Sound.read fun b => ?_
        have hargs : ∀ c, Sound (· = .call)
            (lowerArguments children (.node kind field span children :: scopes) (some c) cls)
            (some c) cls (next nameNode.span) span.stop
            ((Tree.node kind field span children).every (fitsHere next) = true)
            (∀ sp : Span, sp.start < next sp) := fun c =>
          (sound_lowerArguments children _ (some c) cls (next nameNode.span) span.stop).mono
            (fun h => ⟨(arguments_spaced h hk hname).2, (fits_node h).2⟩) fun _ h => h
        have hat : (Tree.node kind field span children).every (fitsHere next) = true →
            span.start ≤ nameNode.start ∧ nameNode.start ≤ next nameNode.span ∧
              nameNode.start ≤ span.stop ∧ next nameNode.span ≤ span.stop := fun h => by
          have hb := name_bounds h hname
          have ha := arguments_spaced h hk hname
          exact ⟨hb.1, ha.1, by omega, Tree.le_of_spaced ha.2⟩
        cases hobj : children.find? (·.field == some .object) with
        | some obj =>
          refine Sound.chain rfl (by decide) ?_
            (fun q => SelectorStep.call (fun _ _ => ⟨_, _, _, _, rfl⟩) hargs
              (fun h => ⟨Nat.le_refl _, (hat h).2.1, (hat h).2.2.1⟩) fun _ hN => hN _)
            fun h => ⟨Nat.le_refl _, (hat h).1, (hat h).2.2.1, Nat.le_refl _, Nat.le_refl _⟩
          exact fun q => (sound_lowerField children _ (some q) cls .object span.start
            nameNode.start).mono (fun h => ⟨receivers_spaced h hk hname, (fits_node h).2⟩)
              fun _ h => h
        | none =>
          refine Sound.call (fun _ _ => ⟨_, _, _, _, rfl⟩) hargs (fun h => ?_) fun _ hN => hN _
          have := hat h
          exact ⟨Nat.le_refl _, this.1, by omega, this.2.2.2, Nat.le_refl _⟩
    | switchGroup =>
      exact Sound.node (by decide) (fun n =>
        (sound_lowerExceptLabels children _ (some n) cls span.start span.stop).mono
          (fun h => ⟨Tree.spaced_filter _ (fits_node h).1, (fits_node h).2⟩) fun _ h => h) hin
    | plain k => exact Sound.node (role_plain hr) (fun n => hall (some n) cls) hin

theorem sound_lowerAll : ∀ (ts scopes : List Syntax) (P cls : Option Nat) (lo hi : Nat),
    Sound (· = .call) (lowerAll ts scopes P cls) P cls lo hi
      (Tree.spaced lo hi ts = true ∧ Tree.everyAll (fitsHere next) ts = true)
      (∀ sp : Span, sp.start < next sp)
  | [], _, _, _, _, _ => by
    rw [lowerAll]
    exact Sound.pure fun h => Tree.le_of_spaced h.1
  | n :: rest, scopes, P, cls, lo, hi => by
    rw [lowerAll]
    exact Sound.cons (sound_lower n scopes P cls) (sound_lowerAll rest scopes P cls n.stop hi)

theorem sound_lowerField : ∀ (ts scopes : List Syntax) (P cls : Option Nat) (f : Field)
    (lo hi : Nat),
    Sound (· = .call) (lowerField ts scopes P cls f) P cls lo hi
      (Tree.spaced lo hi (ts.filter (·.field == some f)) = true ∧
        Tree.everyAll (fitsHere next) ts = true)
      (∀ sp : Span, sp.start < next sp)
  | [], _, _, _, _, _, _ => by
    rw [lowerField]
    exact Sound.pure fun h => Tree.le_of_spaced h.1
  | n :: rest, scopes, P, cls, f, lo, hi => by
    rw [lowerField]
    split
    · next hp =>
      exact Sound.kept hp (sound_lower n scopes P cls) (sound_lowerField rest scopes P cls f n.stop hi)
    · next hp => exact Sound.skipped hp (sound_lowerField rest scopes P cls f lo hi)

theorem sound_lowerArguments : ∀ (ts scopes : List Syntax) (P cls : Option Nat) (lo hi : Nat),
    Sound (· = .call) (lowerArguments ts scopes P cls) P cls lo hi
      (Tree.spaced lo hi (argumentsOf ts) = true ∧ Tree.everyAll (fitsHere next) ts = true)
      (∀ sp : Span, sp.start < next sp)
  | [], _, _, _, _, _ => by
    rw [lowerArguments]
    exact Sound.pure fun h => Tree.le_of_spaced h.1
  | .node k f s cs :: rest, scopes, P, cls, lo, hi => by
    rw [lowerArguments]
    split
    · next hf =>
      exact Sound.seq ((sound_lowerAll cs _ P cls lo (Tree.reach lo cs)).mono
          (fun h => (arguments_facts h hf).1) fun _ h => h)
        ((sound_lowerArguments rest scopes P cls (Tree.reach lo cs) hi).mono
          (fun h => (arguments_facts h hf).2.1) fun _ h => h) fun h => (arguments_facts h hf).2.2
    · next hf =>
      refine (sound_lowerArguments rest scopes P cls lo hi).mono (fun h => ?_) fun _ h => h
      obtain ⟨hs, he⟩ := h
      have hargs : argumentsOf (.node k f s cs :: rest) = argumentsOf rest := by
        rw [argumentsOf_cons]
        exact if_neg hf
      rw [hargs] at hs
      rw [Tree.everyAll, Bool.and_eq_true] at he
      exact ⟨hs, he.2⟩

theorem sound_lowerExceptLabels : ∀ (ts scopes : List Syntax) (P cls : Option Nat) (lo hi : Nat),
    Sound (· = .call) (lowerExceptLabels ts scopes P cls) P cls lo hi
      (Tree.spaced lo hi (ts.filter (·.kind != .switchLabel)) = true ∧
        Tree.everyAll (fitsHere next) ts = true)
      (∀ sp : Span, sp.start < next sp)
  | [], _, _, _, _, _ => by
    rw [lowerExceptLabels]
    exact Sound.pure fun h => Tree.le_of_spaced h.1
  | n :: rest, scopes, P, cls, lo, hi => by
    rw [lowerExceptLabels]
    split
    · next hp =>
      exact Sound.kept hp (sound_lower n scopes P cls)
        (sound_lowerExceptLabels rest scopes P cls n.stop hi)
    · next hp => exact Sound.skipped hp (sound_lowerExceptLabels rest scopes P cls lo hi)

end

end Lowering

end Java

end ResultLint
