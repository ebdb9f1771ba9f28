import ResultLint.Proofs.Lowering.Sound
import ResultLint.Proofs.Lowering.Spans

/-!
# Rules for sound lowering steps

A lowering is written from a few kinds of step, and each kind gets one rule that builds a sound
step from sound steps: nothing (`Sound.pure`), a read of the unit (`Sound.read`), one step after
another (`Sound.seq`), a node with the steps under it (`Sound.node`, `Sound.typeDeclaration`,
`Sound.method`, `Sound.call`), and a chain, whose receiver is lowered under it before its
selector is pushed as its last child (`Sound.chain`). Lowering a run of syntax trees one after
another has its own rules (`Sound.cons`, `Sound.kept`, `Sound.skipped`).

The rules for nodes share one argument (`Sound.opening`): the step first opens a node, that is,
appends it under the parent and binds it (`Opened`), and then runs a sound step under it. The
openings themselves are `Opened.plain`, `Opened.typeDeclaration`, `Opened.method` and
`Opened.call`, one for each way the builder binds a node.
-/

namespace ResultLint

namespace Arena

theorem get?_setSelector_congr {a a' : Arena} {i : Nat} (h : a'.get? i = a.get? i) (q c : Nat) :
    (a'.setSelector q c).get? i = (a.setSelector q c).get? i := by
  by_cases hq : q = i
  · subst hq
    simp only [setSelector, get?_modify_self, h]
  · rw [get?_setSelector_ne hq, get?_setSelector_ne hq, h]

theorem classAt_of_not_type {a : Arena} {i : Nat} (h : ∀ c, a.bindingOf i ≠ some (.type c)) :
    a.classAt i = (a.classesAbove i).head? := by
  unfold classAt
  split
  · next c hc => exact absurd hc (h c)
  · rfl

end Arena

/-- `b₁` is `b` with the node `b.tree.size` opened: appended under `P` as a node of kind `k` over
the bytes `s`, bound as its kind asks, and ready to take nodes inside the class `cls'`. A parent
open at `lo` leaves the new node open at `y`, and call sites before `lo` come before `y`. -/
structure Opened (P cls' : Option Nat) (k : NodeKind) (s : Span) (lo y : Nat) (S N : Prop)
    (b b₁ : UnitBuilder) : Prop where
  tables : b₁.Tables
  ext : Extends P b b₁
  appended : b.tree.Appended b₁.tree k P s
  ready : b₁.Ready (some b.tree.size) cls'
  nested : S → b.tree.Nested → b.tree.Open P lo → b.tree.Fits P s.stop →
    b₁.tree.Nested ∧ b₁.tree.Open (some b.tree.size) y
  located : S → N → b.Located lo → b₁.Located y

namespace Opened

variable {P cls cls' : Option Nat} {k : NodeKind} {s : Span} {lo y : Nat} {S N : Prop}
  {b b₁ : UnitBuilder} {a' : Arena}

theorem chains (h : Opened P cls' k s lo y S N b b₁) (sel : NodeKind → Prop)
    (hk : k ≠ .qualifiedReference) : Chains sel b b₁ := by
  intro q hq hkq
  have hq₁ : q < b₁.tree.size := Arena.lt_size_of_kindOf hkq (by decide)
  rw [h.appended.size] at hq₁
  rw [h.appended.kind, if_pos (by omega)] at hkq
  exact absurd hkq hk

theorem of_appended (ha : b.tree.Appended b₁.tree k P s)
    (hold : ∀ i < b.tree.size, b₁.tree.get? i = b.tree.get? i)
    (hcl : ∀ (c : Nat) (d : ClassDecl), b.classes[c]? = some d → b₁.classes[c]? = some d)
    (hm : ∀ (m : Nat) (d : MethodDecl), b.methods[m]? = some d → b₁.methods[m]? = some d)
    (hca : ∀ (c : Nat) (d : CallSite), b.calls[c]? = some d → b₁.calls[c]? = some d)
    (ht : b₁.Tables) (hr : b₁.Ready (some b.tree.size) cls')
    (hs : S → lo ≤ s.start ∧ s.start ≤ y ∧ s.start ≤ s.stop)
    (hloc : S → N → b.Located lo → b₁.Located y) : Opened P cls' k s lo y S N b b₁ where
  tables := ht
  ext :=
    { size_le := by rw [ha.size]; omega
      old := hold
      parent := fun i hi hi' => by
        rw [ha.size] at hi'
        rw [ha.parent, if_pos (by omega)]
        exact .inl rfl
      classes := hcl
      methods := hm
      calls := hca }
  appended := ha
  ready := hr
  nested hS hn ho hf := by
    obtain ⟨hs₁, hs₂, hs₃⟩ := hs hS
    obtain ⟨hn', ho'⟩ := hn.append ha ho hf hs₁ hs₃
    exact ⟨hn', ho'.mono hs₂⟩
  located := hloc

/-- Opening an unbound node. -/
theorem plain (ht : b.Tables) (hr : b.Ready P cls) (ha : b.tree.Appended a' k P s)
    (hold : ∀ i < b.tree.size, a'.get? i = b.tree.get? i) (hn : a'.bindingOf b.tree.size = none)
    (hkt : k ≠ .typeDeclaration) (hkc : k ≠ .call)
    (hs : S → lo ≤ s.start ∧ s.start ≤ s.stop) :
    Opened P cls k s lo s.start S N b { b with tree := a' } := by
  have hlt : b.tree.size < a'.size := by rw [ha.size]; omega
  refine of_appended ha hold (fun _ _ h => h) (fun _ _ h => h) (fun _ _ h => h)
    (ht.append ha hn hkt hkc) ⟨fun p hp => ?_, ?_, hr.class_lt⟩
    (fun hS => ⟨(hs hS).1, Nat.le_refl _, (hs hS).2⟩) fun hS _ hl => hl.mono (hs hS).1
  · cases hp
    exact hlt
  · show a'.classAt b.tree.size = cls
    rw [Arena.classAt_of_not_type (by rw [hn]; simp), ha.head?_classesAbove hr.parent_lt,
      hr.classAt_eq]

/-- Opening a type declaration declares a class inside the class at its parent, and the nodes
under it are inside the new class. -/
theorem typeDeclaration (ht : b.Tables) (hr : b.Ready P cls)
    (ha : b.tree.Appended a' .typeDeclaration P s)
    (hold : ∀ i < b.tree.size, a'.get? i = b.tree.get? i) {d : ClassDecl} (hd : d.parent = cls)
    (hs : S → lo ≤ s.start ∧ s.start ≤ s.stop) :
    Opened P (some b.classes.size) .typeDeclaration s lo s.start S N b
      { b with classes := b.classes.push d,
               tree := a'.bind b.tree.size (.type b.classes.size) } := by
  have hlt : b.tree.size < a'.size := by rw [ha.size]; omega
  refine of_appended (ha.bind _) (fun i hi => (Arena.get?_bind_ne (by omega)).trans (hold i hi))
    (fun _ _ h => UnitBuilder.getElem?_push_of_getElem? h) (fun _ _ h => h) (fun _ _ h => h)
    (ht.declareClass hr ha hd) ⟨fun p hp => ?_, ?_, fun c hc => ?_⟩
    (fun hS => ⟨(hs hS).1, Nat.le_refl _, (hs hS).2⟩) fun hS _ hl => hl.mono (hs hS).1
  · cases hp
    rw [Arena.size_bind]
    exact hlt
  · show (a'.bind b.tree.size (.type b.classes.size)).classAt b.tree.size = some b.classes.size
    unfold Arena.classAt
    rw [Arena.bindingOf_bind_self _ hlt]
  · cases hc
    simp

/-- Opening a method or constructor declares it in the class at its parent. -/
theorem method (ht : b.Tables) (hr : b.Ready P cls) {d : MethodDecl}
    (ha : b.tree.Appended a' (.callable d.isConstructor) P s)
    (hold : ∀ i < b.tree.size, a'.get? i = b.tree.get? i) (hd : d.owner = cls)
    (hs : S → lo ≤ s.start ∧ s.start ≤ s.stop) :
    Opened P cls (.callable d.isConstructor) s lo s.start S N b
      { b with methods := b.methods.push d,
               tree := a'.bind b.tree.size (.method b.methods.size) } := by
  have hlt : b.tree.size < a'.size := by rw [ha.size]; omega
  refine of_appended (ha.bind _) (fun i hi => (Arena.get?_bind_ne (by omega)).trans (hold i hi))
    (fun _ _ h => h) (fun _ _ h => UnitBuilder.getElem?_push_of_getElem? h) (fun _ _ h => h)
    (ht.declareMethod hr ha hd) ⟨fun p hp => ?_, ?_, hr.class_lt⟩
    (fun hS => ⟨(hs hS).1, Nat.le_refl _, (hs hS).2⟩) fun hS _ hl => hl.mono (hs hS).1
  · cases hp
    rw [Arena.size_bind]
    exact hlt
  · show (a'.bind b.tree.size (.method b.methods.size)).classAt b.tree.size = cls
    rw [Arena.classAt_of_not_type (by rw [Arena.bindingOf_bind_self _ hlt]; simp),
      Arena.classesAbove_bind _ _ _ (Nat.le_refl _), ha.head?_classesAbove hr.parent_lt,
      hr.classAt_eq]

/-- Opening a call records its site, located at `at_` inside the call; the cursor moves past the
site's first byte to `y`. -/
theorem call (ht : b.Tables) (hr : b.Ready P cls) (ha : b.tree.Appended a' .call P s)
    (hold : ∀ i < b.tree.size, a'.get? i = b.tree.get? i) {name : String} {arity : Nat}
    {r : Receiver} {rt : Option String} {at_ : Span}
    (hs : S → lo ≤ s.start ∧ s.start ≤ at_.start ∧ s.start ≤ y ∧ s.start ≤ s.stop)
    (hy : S → N → at_.start < y) :
    Opened P cls .call s lo y S N b
      { b with calls := b.calls.push ⟨b.tree.size, name, arity, r, rt, b.location at_⟩,
               tree := a'.bind b.tree.size (.call b.calls.size) } := by
  have hlt : b.tree.size < a'.size := by rw [ha.size]; omega
  refine of_appended (ha.bind _) (fun i hi => (Arena.get?_bind_ne (by omega)).trans (hold i hi))
    (fun _ _ h => h) (fun _ _ h => h) (fun _ _ h => UnitBuilder.getElem?_push_of_getElem? h)
    (ht.recordCall ha rfl) ⟨fun p hp => ?_, ?_, hr.class_lt⟩
    (fun hS => ⟨(hs hS).1, (hs hS).2.2.1, (hs hS).2.2.2⟩) fun hS hN hl => ?_
  · cases hp
    rw [Arena.size_bind]
    exact hlt
  · show (a'.bind b.tree.size (.call b.calls.size)).classAt b.tree.size = cls
    rw [Arena.classAt_of_not_type (by rw [Arena.bindingOf_bind_self _ hlt]; simp),
      Arena.classesAbove_bind _ _ _ (Nat.le_refl _), ha.head?_classesAbove hr.parent_lt,
      hr.classAt_eq]
  · obtain ⟨hlo, hat, -, -⟩ := hs hS
    exact UnitBuilder.Located.push (hl.mono (Nat.le_trans hlo hat)) (hy hS hN)

end Opened

/-! ## The rules -/

/-- `g` records a call site at the node `n`, located at the bytes `at_`, then runs `body`. -/
def Records (g : Build Unit) (n : Nat) (at_ : Span) (body : Build Unit) : Prop :=
  ∀ b, ∃ name arity r rt, g.run b = (Build.addCall n name arity r rt at_ >>= fun _ => body).run b

/-- A step that reads the unit and then records a call site records it. -/
theorem Records.read {f : UnitBuilder → Build Unit} {n : Nat} {at_ : Span} {body : Build Unit}
    (h : ∀ b, Records (f b) n at_ body) : Records (get >>= f) n at_ body := fun b => h b b

/-- `g` declares a class at the node `n` inside the class `cls`, then runs `body` with the new
class. -/
def DeclaresClass (g : Build Unit) (n : Nat) (cls : Option Nat) (body : Nat → Build Unit) : Prop :=
  ∀ b, ∃ d : ClassDecl, g.run b = (Build.addClass n d >>= body).run b ∧ d.parent = cls

/-- `g` declares a method at the node `n`, a constructor when `c` holds, owned by the class
`cls`, then runs `body`. -/
def DeclaresMethod (g : Build Unit) (n : Nat) (c : Bool) (cls : Option Nat) (body : Build Unit) :
    Prop :=
  ∀ b, ∃ d : MethodDecl,
    g.run b = (discard (Build.addMethod n d) >>= fun _ => body).run b ∧ d.isConstructor = c ∧
      d.owner = cls

/-- Run under the chain `q`, `t` pushes a selector of kind `k` over `s'`, makes it the chain's
selector and opens it, then runs a sound step under it. The opening is seen from the unit with
the selector already set, which is what the chain ends up with. -/
def SelectorStep (sel : NodeKind → Prop) (q : Nat) (k : NodeKind) (s' : Span) (cls : Option Nat)
    (y : Nat) (S N : Prop) (t : Build Unit) : Prop :=
  ∀ b : UnitBuilder, b.Ready (some q) cls → b.Tables → ∃ b₁ mb, t.run b = mb.run b₁ ∧
    Opened (some q) cls k s' s'.start y S N { b with tree := b.tree.setSelector q b.tree.size } b₁ ∧
    Sound sel mb (some b.tree.size) cls y s'.stop S N

namespace SelectorStep

variable {sel : NodeKind → Prop} {q : Nat} {cls : Option Nat} {S N : Prop}

/-- A selector that is a plain node, with a sound step under it. -/
theorem node {k : NodeKind} {s' : Span} {body : Nat → Build Unit}
    (hk : k ≠ .call ∧ k ≠ .typeDeclaration)
    (hbody : ∀ c, Sound sel (body c) (some c) cls s'.start s'.stop S N)
    (hs : S → s'.start ≤ s'.stop) :
    SelectorStep sel q k s' cls s'.start S N
      (Build.push k (some q) s' >>= fun c => Build.setSelector q c >>= fun _ => body c) := by
  intro b hr ht
  have hsz : (b.tree.setSelector q b.tree.size).size = b.tree.size := Arena.size_setSelector _ _
  refine ⟨{ b with tree := ((b.tree.push k (some q) s').1).setSelector q b.tree.size },
    body b.tree.size, rfl, ?_, hbody b.tree.size⟩
  exact Opened.plain (ht.setSelector q b.tree.size) (hr.setSelector q b.tree.size)
    ((Arena.Appended.push hr.parent_lt).setSelector_both q b.tree.size)
    (fun i hi => Arena.get?_setSelector_congr (Arena.get?_push_lt _ _ _ (hsz ▸ hi)) _ _)
    (by dsimp only; rw [hsz, Arena.bindingOf_setSelector, Arena.bindingOf_push_size]) hk.2 hk.1
    fun hS => ⟨Nat.le_refl _, hs hS⟩

/-- A selector that is a call, whose site is recorded at `at_`, with a sound step under it from
`y` on. -/
theorem call {s' at_ : Span} {y : Nat} {g body : Nat → Build Unit}
    (hg : ∀ c, Records (g c) c at_ (body c))
    (hbody : ∀ c, Sound sel (body c) (some c) cls y s'.stop S N)
    (hs : S → s'.start ≤ at_.start ∧ s'.start ≤ y ∧ s'.start ≤ s'.stop)
    (hy : S → N → at_.start < y) :
    SelectorStep sel q .call s' cls y S N
      (Build.push .call (some q) s' >>= fun c => Build.setSelector q c >>= fun _ => g c) := by
  intro b hr ht
  have hsz : (b.tree.setSelector q b.tree.size).size = b.tree.size := Arena.size_setSelector _ _
  let a' := ((b.tree.push .call (some q) s').1).setSelector q b.tree.size
  obtain ⟨name, arity, r, rt, hrun⟩ := hg b.tree.size { b with tree := a' }
  refine ⟨{ b with calls := b.calls.push ⟨b.tree.size, name, arity, r, rt, b.location at_⟩,
                   tree := a'.bind b.tree.size (.call b.calls.size) },
    body b.tree.size, hrun, ?_, hbody b.tree.size⟩
  have ho : Opened (some q) cls .call s' s'.start y S N
      { b with tree := b.tree.setSelector q b.tree.size }
      { b with calls := b.calls.push ⟨(b.tree.setSelector q b.tree.size).size, name, arity, r, rt,
                 b.location at_⟩,
               tree := a'.bind (b.tree.setSelector q b.tree.size).size (.call b.calls.size) } :=
    Opened.call (ht.setSelector q b.tree.size) (hr.setSelector q b.tree.size)
      ((Arena.Appended.push hr.parent_lt).setSelector_both q b.tree.size)
      (fun i hi => Arena.get?_setSelector_congr (Arena.get?_push_lt _ _ _ (hsz ▸ hi)) _ _)
      (fun hS => ⟨Nat.le_refl _, (hs hS).1, (hs hS).2.1, (hs hS).2.2⟩) hy
  rwa [hsz] at ho

end SelectorStep

namespace Sound

variable {sel : NodeKind → Prop} {P cls : Option Nat} {lo hi : Nat} {S N : Prop}

theorem pure (hle : S → lo ≤ hi) : Sound sel (pure ()) P cls lo hi S N := fun b _ ht =>
  ⟨ht, Extends.refl P b, Chains.refl sel b, fun hS hn ho _ => ⟨hn, ho.mono (hle hS)⟩,
    fun hS _ hl => hl.mono (hle hS)⟩

theorem read {f : UnitBuilder → Build Unit} (h : ∀ b, Sound sel (f b) P cls lo hi S N) :
    Sound sel (get >>= f) P cls lo hi S N := fun b hr ht => h b b hr ht

/-- One step after another: the first leaves the cursor at `mid`, where the second starts. -/
theorem seq {m₁ m₂ : Build Unit} {mid : Nat} (h₁ : Sound sel m₁ P cls lo mid S N)
    (h₂ : Sound sel m₂ P cls mid hi S N) (hmid : S → mid ≤ hi) :
    Sound sel (m₁ >>= fun _ => m₂) P cls lo hi S N := by
  intro b hr ht
  rw [Build.run_bind]
  obtain ⟨ht₁, he₁, hc₁, hn₁, hl₁⟩ := h₁ b hr ht
  obtain ⟨ht₂, he₂, hc₂, hn₂, hl₂⟩ := h₂ _ (he₁.ready hr) ht₁
  refine ⟨ht₂, he₁.trans_of he₂ (.inl rfl),
    hc₁.trans hc₂ he₂ fun p hp => .inl (hr.parent_lt p hp),
    fun hS hn ho hf => ?_, fun hS hN hl => hl₂ hS hN (hl₁ hS hN hl)⟩
  obtain ⟨hn', ho'⟩ := hn₁ hS hn ho (hf.mono (hmid hS))
  exact hn₂ hS hn' ho' (he₁.fits hr.parent_lt hf)

theorem widen {m : Build Unit} {lo' hi' : Nat} (h : Sound sel m P cls lo' hi' S N)
    (hlo : S → lo ≤ lo') (hhi : S → hi' ≤ hi) : Sound sel m P cls lo hi S N := by
  intro b hr ht
  obtain ⟨ht', he, hc, hn, hl⟩ := h b hr ht
  refine ⟨ht', he, hc, fun hS hn' ho hf => ?_, fun hS hN hl' => (hl hS hN (hl'.mono (hlo hS))).mono
    (hhi hS)⟩
  obtain ⟨hn'', ho'⟩ := hn hS hn' (ho.mono (hlo hS)) (hf.mono (hhi hS))
  exact ⟨hn'', ho'.mono (hhi hS)⟩

theorem mono {m : Build Unit} {S' N' : Prop} (h : Sound sel m P cls lo hi S N) (hS : S' → S)
    (hN : S' → N' → N) : Sound sel m P cls lo hi S' N' := by
  intro b hr ht
  obtain ⟨ht', he, hc, hn, hl⟩ := h b hr ht
  exact ⟨ht', he, hc, fun hS' => hn (hS hS'), fun hS' hN' => hl (hS hS') (hN hS' hN')⟩

/-- The shared rule for nodes: a step that opens a node and then runs a sound step under it. -/
theorem opening {m : Build Unit} {k : NodeKind} {s : Span} (y : Nat)
    (hk : k ≠ .qualifiedReference)
    (hm : ∀ b, b.Ready P cls → b.Tables → ∃ b₁ mb cls', m.run b = mb.run b₁ ∧
      Opened P cls' k s lo y S N b b₁ ∧ Sound sel mb (some b.tree.size) cls' y s.stop S N)
    (hs : S → lo ≤ hi ∧ s.stop ≤ hi) : Sound sel m P cls lo hi S N := by
  intro b hr ht
  obtain ⟨b₁, mb, cls', hrun, ho, hmb⟩ := hm b hr ht
  rw [hrun]
  obtain ⟨ht₂, he₂, hc₂, hn₂, hl₂⟩ := hmb b₁ ho.ready ho.tables
  have hsize : b₁.tree.size = b.tree.size + 1 := ho.appended.size
  have hkn : b₁.tree.kindOf b.tree.size = k := by rw [ho.appended.kind, if_pos rfl]
  have he : Extends P b (mb.run b₁).2 := ho.ext.trans_of he₂ (.inr ⟨_, rfl, Nat.le_refl _⟩)
  refine ⟨ht₂, he, (ho.chains sel hk).trans hc₂ he₂ fun p hp => .inr ?_, fun hS hn ho' hf => ?_,
    fun hS hN hl => (hl₂ hS hN (ho.located hS hN hl)).mono (hs hS).2⟩
  · cases hp
    rw [hkn]
    exact hk
  obtain ⟨hn₁, ho₁⟩ := ho.nested hS hn ho' (hf.mono (hs hS).2)
  have hf₁ : b₁.tree.Fits (some b.tree.size) s.stop := fun p hp => by
    cases hp
    exact Nat.le_of_eq (by rw [ho.appended.span, if_pos rfl])
  obtain ⟨hn₂', -⟩ := hn₂ hS hn₁ ho₁ hf₁
  refine ⟨hn₂', he.open_one hr.parent_lt ho' (hs hS).1 ?_ fun i hi p hp => ?_⟩
  · rw [he₂.spanOf_old (by omega), ho.appended.span, if_pos rfl]
    exact (hs hS).2
  · exact he₂.le_parent (fun q hq => by cases hq; exact Nat.le_refl _) (by omega) (by omega) hp

/-- A node of a kind that is no chain, no call and no declaration, with a sound step under it. -/
theorem node {k : NodeKind} {s : Span} {body : Nat → Build Unit}
    (hk : k ≠ .qualifiedReference ∧ k ≠ .call ∧ k ≠ .typeDeclaration)
    (hbody : ∀ n, Sound sel (body n) (some n) cls s.start s.stop S N)
    (hs : S → lo ≤ s.start ∧ s.start ≤ s.stop ∧ s.stop ≤ hi) :
    Sound sel (Build.push k P s >>= body) P cls lo hi S N := by
  refine opening s.start hk.1 (fun b hr ht =>
    ⟨{ b with tree := (b.tree.push k P s).1 }, body b.tree.size, cls, rfl, ?_, hbody b.tree.size⟩)
    fun hS => ⟨by have := hs hS; omega, (hs hS).2.2⟩
  exact Opened.plain ht hr (Arena.Appended.push hr.parent_lt)
    (fun _ hi => Arena.get?_push_lt _ _ _ hi) (Arena.bindingOf_push_size _ _) hk.2.2 hk.2.1
    fun hS => ⟨(hs hS).1, (hs hS).2.1⟩

/-- A type declaration: the class it declares holds the nodes under it. -/
theorem typeDeclaration {s : Span} {g : Nat → Build Unit} {body : Nat → Nat → Build Unit}
    (hg : ∀ n, DeclaresClass (g n) n cls (body n))
    (hbody : ∀ n c, Sound sel (body n c) (some n) (some c) s.start s.stop S N)
    (hs : S → lo ≤ s.start ∧ s.start ≤ s.stop ∧ s.stop ≤ hi) :
    Sound sel (Build.push .typeDeclaration P s >>= g) P cls lo hi S N := by
  refine opening s.start (show NodeKind.typeDeclaration ≠ .qualifiedReference by decide)
    (fun b hr ht => ?_) fun hS => ⟨by have := hs hS; omega, (hs hS).2.2⟩
  obtain ⟨d, hrun, hd⟩ := hg b.tree.size { b with tree := (b.tree.push .typeDeclaration P s).1 }
  refine ⟨{ b with classes := b.classes.push d,
                   tree := (b.tree.push .typeDeclaration P s).1.bind b.tree.size
                     (.type b.classes.size) },
    body b.tree.size b.classes.size, some b.classes.size, hrun, ?_, hbody b.tree.size b.classes.size⟩
  exact Opened.typeDeclaration ht hr (Arena.Appended.push hr.parent_lt)
    (fun _ hi => Arena.get?_push_lt _ _ _ hi) hd fun hS => ⟨(hs hS).1, (hs hS).2.1⟩

/-- A method or constructor, declared in the class around it. -/
theorem method {c : Bool} {s : Span} {g body : Nat → Build Unit}
    (hg : ∀ n, DeclaresMethod (g n) n c cls (body n))
    (hbody : ∀ n, Sound sel (body n) (some n) cls s.start s.stop S N)
    (hs : S → lo ≤ s.start ∧ s.start ≤ s.stop ∧ s.stop ≤ hi) :
    Sound sel (Build.push (.callable c) P s >>= g) P cls lo hi S N := by
  refine opening s.start (show NodeKind.callable c ≠ .qualifiedReference by simp)
    (fun b hr ht => ?_) fun hS => ⟨by have := hs hS; omega, (hs hS).2.2⟩
  obtain ⟨d, hrun, hc, hd⟩ := hg b.tree.size { b with tree := (b.tree.push (.callable c) P s).1 }
  subst hc
  refine ⟨{ b with methods := b.methods.push d,
                   tree := (b.tree.push (.callable d.isConstructor) P s).1.bind b.tree.size
                     (.method b.methods.size) },
    body b.tree.size, cls, hrun, ?_, hbody b.tree.size⟩
  exact Opened.method ht hr (Arena.Appended.push hr.parent_lt)
    (fun _ hi => Arena.get?_push_lt _ _ _ hi) hd fun hS => ⟨(hs hS).1, (hs hS).2.1⟩

/-- A call without a receiver: its site is recorded at `at_`, and the steps under it start at
`y`, past the site's first byte. -/
theorem call {s at_ : Span} {y : Nat} {g body : Nat → Build Unit}
    (hg : ∀ n, Records (g n) n at_ (body n))
    (hbody : ∀ n, Sound sel (body n) (some n) cls y s.stop S N)
    (hs : S → lo ≤ s.start ∧ s.start ≤ at_.start ∧ s.start ≤ y ∧ y ≤ s.stop ∧ s.stop ≤ hi)
    (hy : S → N → at_.start < y) :
    Sound sel (Build.push .call P s >>= g) P cls lo hi S N := by
  refine opening y (show NodeKind.call ≠ .qualifiedReference by decide)
    (fun b hr ht => ?_) fun hS => ⟨by have := hs hS; omega, (hs hS).2.2.2.2⟩
  obtain ⟨name, arity, r, rt, hrun⟩ := hg b.tree.size
    { b with tree := (b.tree.push .call P s).1 }
  refine ⟨{ b with calls := b.calls.push
                     ⟨b.tree.size, name, arity, r, rt, b.location at_⟩,
                   tree := (b.tree.push .call P s).1.bind b.tree.size (.call b.calls.size) },
    body b.tree.size, cls, hrun, ?_, hbody b.tree.size⟩
  exact Opened.call ht hr (Arena.Appended.push hr.parent_lt)
    (fun _ hi => Arena.get?_push_lt _ _ _ hi)
    (fun hS => ⟨(hs hS).1, (hs hS).2.1, (hs hS).2.2.1, by have := hs hS; omega⟩) hy

/-- A chain over `s`: its receiver is lowered under it up to `s'.start`, then its selector over
`s'` is pushed as its last child and made its selector. -/
theorem chain {s s' : Span} {k : NodeKind} {y : Nat} {fobj tail : Nat → Build Unit}
    (hsel : sel k) (hk : k ≠ .qualifiedReference)
    (hobj : ∀ q, Sound sel (fobj q) (some q) cls s.start s'.start S N)
    (htail : ∀ q, SelectorStep sel q k s' cls y S N (tail q))
    (hs : S → lo ≤ s.start ∧ s.start ≤ s'.start ∧ s'.start ≤ s'.stop ∧ s'.stop ≤ s.stop ∧
      s.stop ≤ hi) :
    Sound sel (Build.push .qualifiedReference P s >>= fun q => fobj q >>= fun _ => tail q)
      P cls lo hi S N := by
  intro b hr ht
  let b₁ : UnitBuilder := { b with tree := (b.tree.push .qualifiedReference P s).1 }
  have ho₁ : Opened P cls .qualifiedReference s lo s.start S N b b₁ :=
    Opened.plain ht hr (Arena.Appended.push hr.parent_lt) (fun _ hi => Arena.get?_push_lt _ _ _ hi)
      (Arena.bindingOf_push_size _ _) (by decide) (by decide)
      fun hS => ⟨(hs hS).1, by have := hs hS; omega⟩
  have hsize₁ : b₁.tree.size = b.tree.size + 1 := ho₁.appended.size
  obtain ⟨ht₂, he₂, hc₂, hn₂, hl₂⟩ := hobj b.tree.size b₁ ho₁.ready ho₁.tables
  let b₂ := ((fobj b.tree.size).run b₁).2
  have hkn : b₂.tree.kindOf b.tree.size = .qualifiedReference := by
    rw [he₂.kindOf_old (by omega), ho₁.appended.kind, if_pos rfl]
  obtain ⟨b₃, mb, hrun₃, ho₃, hmb⟩ := htail b.tree.size b₂ (he₂.ready ho₁.ready) ht₂
  have hc : b.tree.size + 1 ≤ b₂.tree.size := hsize₁ ▸ he₂.size_le
  have hsz : (b₂.tree.setSelector b.tree.size b₂.tree.size).size = b₂.tree.size :=
    Arena.size_setSelector _ _
  have hsize₃ : b₃.tree.size = b₂.tree.size + 1 := by
    have := ho₃.appended.size
    dsimp only at this
    rw [this, hsz]
  have hkc : b₃.tree.kindOf b₂.tree.size = k := by
    have := ho₃.appended.kind b₂.tree.size
    dsimp only at this
    rw [this, hsz, if_pos rfl]
  have hr₃ : b₃.Ready (some b₂.tree.size) cls := by
    have := ho₃.ready
    dsimp only at this
    rwa [hsz] at this
  obtain ⟨ht₄, he₄, hc₄, hn₄, hl₄⟩ := hmb b₃ hr₃ ho₃.tables
  have hrun : (Build.push .qualifiedReference P s >>= fun q => fobj q >>= fun _ => tail q).run b =
      mb.run b₃ := hrun₃
  rw [hrun]
  have e₂ : Extends P b b₂ := ho₁.ext.trans_of he₂ (.inr ⟨_, rfl, Nat.le_refl _⟩)
  have e₃ : Extends P b b₃ :=
    (e₂.setSelector (Nat.le_refl _) b₂.tree.size).trans_of ho₃.ext (.inr ⟨_, rfl, Nat.le_refl _⟩)
  have e₄ : Extends P b (mb.run b₃).2 := e₃.trans_of he₄ (.inr ⟨_, rfl, by omega⟩)
  refine ⟨ht₄, e₄, fun q hq hkq => ?_, fun hS hn ho hf => ?_, fun hS hN hl => ?_⟩
  · -- the chain ends on its selector; the chains below it were closed on the way
    by_cases hqn : q = b.tree.size
    · subst hqn
      refine ⟨b₂.tree.size, ?_, ?_, ?_⟩
      · rw [he₄.selectorOf_old (by omega), ho₃.ext.selectorOf_old (by dsimp only; omega)]
        exact Arena.selectorOf_setSelector_self hkn
      · unfold Arena.isLastChild
        rw [he₄.children_old (by omega) (by simp; omega), ho₃.appended.children]
        simp [hsz]
      · rw [he₄.kindOf_old (by omega), hkc]
        exact hsel
    · have hc₁₃ : Chains sel b₁ b₃ :=
        (hc₂.setSelector (by omega) _).trans (ho₃.chains sel hk) ho₃.ext fun p hp => by
          cases hp
          exact .inl (by omega)
      exact hc₁₃.trans hc₄ he₄ (fun p hp => by cases hp; exact .inr (by rw [hkc]; exact hk)) q
        (by omega) hkq
  · obtain ⟨hlo, hss', hs', hs's, hshi⟩ := hs hS
    have hspan : b₂.tree.spanOf b.tree.size = s := by
      rw [he₂.spanOf_old (by omega), ho₁.appended.span, if_pos rfl]
    obtain ⟨hn₁, ho₁'⟩ := ho₁.nested hS hn ho (hf.mono hshi)
    obtain ⟨hn₂', ho₂⟩ := hn₂ hS hn₁ ho₁' fun p hp => by
      cases hp
      rw [ho₁.appended.span, if_pos rfl]
      omega
    have hn₂'' : (b₂.tree.setSelector b.tree.size b₂.tree.size).Nested :=
      hn₂'.congr (Arena.size_setSelector _ _) (fun i => Arena.parentOf_setSelector _ _ _)
        fun i => Arena.spanOf_setSelector _ _ _
    have ho₂' : (b₂.tree.setSelector b.tree.size b₂.tree.size).Open (some b.tree.size) s'.start :=
      ho₂.congr (fun i => Arena.parentOf_setSelector _ _ _) fun i => Arena.spanOf_setSelector _ _ _
    obtain ⟨hn₃, ho₃'⟩ := ho₃.nested hS hn₂'' ho₂' fun p hp => by
      cases hp
      dsimp only
      rw [Arena.spanOf_setSelector, hspan]
      exact hs's
    obtain ⟨hn₄, -⟩ := hn₄ hS hn₃ (by dsimp only at ho₃'; rwa [hsz] at ho₃') fun p hp => by
      cases hp
      have := ho₃.appended.span b₂.tree.size
      dsimp only at this
      exact Nat.le_of_eq (by rw [this, hsz, if_pos rfl])
    -- under the parent, only the chain is new; everything else hangs below the chain
    have hb₁ : ∀ i, b.tree.size + 1 ≤ i → ∀ p, b₁.tree.parentOf i = some p → b.tree.size ≤ p :=
      fun i hi p hp => absurd (Arena.lt_size_of_parentOf hp) (by omega)
    have hb₂ := he₂.hangs (fun q hq => by cases hq; exact Nat.le_refl _) (by omega) hb₁
    have hb₃ := ho₃.ext.hangs (fun q hq => by cases hq; exact Nat.le_refl _) (by dsimp only; omega)
      fun i hi p hp => hb₂ i hi p ((Arena.parentOf_setSelector _ _ _).symm.trans hp)
    refine ⟨hn₄, e₄.open_one hr.parent_lt ho (by omega) ?_
      (he₄.hangs (fun q hq => by cases hq; omega) (by omega) hb₃)⟩
    rw [he₄.spanOf_old (by omega), ho₃.ext.spanOf_old (by dsimp only; omega)]
    dsimp only
    rw [Arena.spanOf_setSelector, hspan]
    exact hshi
  · exact (hl₄ hS hN (ho₃.located hS hN (hl₂ hS hN (ho₁.located hS hN hl)))).mono
      (by have := hs hS; omega)

/-! ## Runs of syntax trees -/

section Runs

variable {κ : Type} {p : Tree κ → Bool} {t : Tree κ} {ts : List (Tree κ)} {m₁ m₂ : Build Unit}

/-- Lowering the first of some spaced trees over its own range, then the rest from its end. -/
theorem cons (h₁ : Sound sel m₁ P cls t.start t.stop (Tree.every p t = true) N)
    (h₂ : Sound sel m₂ P cls t.stop hi
      (Tree.spaced t.stop hi ts = true ∧ Tree.everyAll p ts = true) N) :
    Sound sel (m₁ >>= fun _ => m₂) P cls lo hi
      (Tree.spaced lo hi (t :: ts) = true ∧ Tree.everyAll p (t :: ts) = true) N :=
  seq ((h₁.mono (fun h => (Tree.cons_facts h).2.1) fun _ h => h).widen
      (fun h => (Tree.cons_facts h).1) fun _ => Nat.le_refl _)
    (h₂.mono (fun h => (Tree.cons_facts h).2.2.2) fun _ h => h) fun h => (Tree.cons_facts h).2.2.1

/-- Lowering the first of some trees, which a filter keeps, then the rest from its end. -/
theorem kept {f : Tree κ → Bool} (hf : f t = true)
    (h₁ : Sound sel m₁ P cls t.start t.stop (Tree.every p t = true) N)
    (h₂ : Sound sel m₂ P cls t.stop hi
      (Tree.spaced t.stop hi (ts.filter f) = true ∧ Tree.everyAll p ts = true) N) :
    Sound sel (m₁ >>= fun _ => m₂) P cls lo hi
      (Tree.spaced lo hi ((t :: ts).filter f) = true ∧ Tree.everyAll p (t :: ts) = true) N :=
  seq ((h₁.mono (fun h => (Tree.kept_facts h hf).2.1) fun _ h => h).widen
      (fun h => (Tree.kept_facts h hf).1) fun _ => Nat.le_refl _)
    (h₂.mono (fun h => (Tree.kept_facts h hf).2.2.2) fun _ h => h)
    fun h => (Tree.kept_facts h hf).2.2.1

/-- Passing over the first of some trees, which a filter leaves out. -/
theorem skipped {m : Build Unit} {f : Tree κ → Bool} (hf : ¬f t = true)
    (h : Sound sel m P cls lo hi
      (Tree.spaced lo hi (ts.filter f) = true ∧ Tree.everyAll p ts = true) N) :
    Sound sel m P cls lo hi
      (Tree.spaced lo hi ((t :: ts).filter f) = true ∧ Tree.everyAll p (t :: ts) = true) N :=
  h.mono (fun h => Tree.skipped_facts h hf) fun _ h => h

end Runs

end Sound

end ResultLint
