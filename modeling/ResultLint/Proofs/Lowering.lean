import ResultLint.SourceUnit
import ResultLint.Proofs.Arena.Shape

/-!
# Lowering steps that lay out shapes

A lowering runs in the state of the unit being built. `Lays m parent recorded F` says that, from
any state, the step `m` appends to the arena exactly the layout of the forest `F` under `parent`
(kinds, parents and selectors, `Shape.entriesAll`), and appends to the call sites first the nodes
`recorded` and then one site for each call node of that layout, in order.

Each combinator the lowerings are written with has a rule: `pure` lays nothing, a sequence lays
the two forests one after the other, `push` followed by a step laying `F` under the new node lays
one node with children `F`, a chain is laid with its selector as last child, recording a call
site puts its node in front, and a step that only reads the state or records a declaration lays
what its continuation lays. A lowering is then simulated by a shape case by case, never by
unfolding the state.
-/

namespace ResultLint

open Shape

namespace Shape

theorem entriesAll_append {α : Type} (base : Nat) (P : Option Nat) (F G : List (Shape α)) :
    entriesAll base P (F ++ G) = entriesAll base P F ++ entriesAll (base + sizeAll F) P G := by
  induction F generalizing base with
  | nil => simp [entriesAll, sizeAll]
  | cons s ss ih => simp [entriesAll, sizeAll, ih, Nat.add_assoc]

end Shape

namespace Arena

theorem skeleton_push (a : Arena) (k : NodeKind) (p : Option Nat) (s : Span) :
    (a.push k p s).1.skeleton = a.skeleton ++ [(k, p.filter (· < a.size), none)] := by
  simp [push, skeleton, size]
  rfl

@[simp]
theorem size_push (a : Arena) (k : NodeKind) (p : Option Nat) (s : Span) :
    (a.push k p s).1.size = a.size + 1 := by
  simp [push, size]

theorem skeleton_bind (a : Arena) (i : Nat) (b : Binding) : (a.bind i b).skeleton = a.skeleton := by
  apply List.ext_getElem?
  intro j
  simp only [bind, modify, skeleton, Array.toList_modify, List.getElem?_map, List.getElem?_modify]
  cases a.nodes.toList[j]? <;> simp only [Option.map_none, Option.map_some] <;> split <;> rfl

theorem skeleton_setSelector (a : Arena) (i s : Nat) :
    (a.setSelector i s).skeleton = a.skeleton.modify i fun e => (e.1, e.2.1, some s) := by
  apply List.ext_getElem?
  intro j
  simp only [setSelector, modify, skeleton, Array.toList_modify, List.getElem?_map,
    List.getElem?_modify]
  cases a.nodes.toList[j]? <;> simp only [Option.map_none, Option.map_some] <;> split <;> rfl

end Arena

theorem List.modify_append_of_length {α : Type} {L : List α} {i : Nat} (R : List α) (x : α)
    (f : α → α) (h : L.length = i) : (L ++ x :: R).modify i f = L ++ f x :: R := by
  induction L generalizing i with
  | nil => subst h; rfl
  | cons y L ih =>
    subst h
    simp [List.modify_succ_cons, ih]

/-- The verdicts the usage walk gives to a unit's call sites, in order. -/
def SourceUnit.callVerdicts (u : SourceUnit) : List Bool :=
  u.calls.toList.map fun c => u.tree.isValueDiscarded c.node

/-- A lowering step lays out the forest `F` under `parent`: from any state it appends the layout
of `F` to the arena, and appends to the call sites the nodes `recorded` and then one site for each
call node of the layout. -/
def Lays {α : Type} (m : Build Unit) (parent : Option Nat) (recorded : List Nat)
    (F : List (Shape α)) : Prop :=
  ∀ b : UnitBuilder, (∀ p ∈ parent, p < b.tree.size) →
    (m.run b).2.tree.skeleton = b.tree.skeleton ++ entriesAll b.tree.size parent F ∧
    (m.run b).2.calls.toList.map CallSite.node =
      b.calls.toList.map CallSite.node ++ recorded ++
        callPositions b.tree.size (entriesAll b.tree.size parent F)

/-- A step that only reads the state or records a declaration: the layout of the arena and the
call sites stay as they are. -/
def Keeps {α : Type} (m : Build α) : Prop :=
  ∀ b : UnitBuilder, (m.run b).2.tree.skeleton = b.tree.skeleton ∧ (m.run b).2.calls = b.calls

namespace Keeps

theorem get : Keeps (get : Build UnitBuilder) := fun _ => ⟨rfl, rfl⟩

theorem addClass (n : Nat) (d : ClassDecl) : Keeps (Build.addClass n d) :=
  fun b => ⟨Arena.skeleton_bind b.tree n _, rfl⟩

theorem addMethod (n : Nat) (d : MethodDecl) : Keeps (Build.addMethod n d) :=
  fun b => ⟨Arena.skeleton_bind b.tree n _, rfl⟩

theorem discard {α : Type} {m : Build α} (h : Keeps m) : Keeps (discard m) := h

theorem addFileAnnotations (as : List Annotation) : Keeps (Build.addFileAnnotations as) :=
  fun _ => ⟨rfl, rfl⟩

end Keeps

theorem Build.run_bind {α β : Type} (m : Build α) (f : α → Build β) (b : UnitBuilder) :
    (m >>= f).run b = (f (m.run b).1).run (m.run b).2 := rfl

namespace Lays

variable {α : Type} {m m' : Build Unit} {P : Option Nat} {pre : List Nat} {F G : List (Shape α)}

theorem size_run (h : Lays m P pre F) {b : UnitBuilder} (hP : ∀ p ∈ P, p < b.tree.size) :
    (m.run b).2.tree.size = b.tree.size + sizeAll F := by
  rw [← Arena.length_skeleton, (h b hP).1, List.length_append, length_entriesAll,
    Arena.length_skeleton]

theorem pure (P : Option Nat) : Lays (Pure.pure ()) P [] ([] : List (Shape α)) := by
  intro b _
  simp only [entriesAll, callPositions, List.append_nil]
  exact ⟨rfl, rfl⟩

theorem seq (h : Lays m P pre F) (h' : Lays m' P [] G) :
    Lays (m >>= fun _ => m') P pre (F ++ G) := by
  intro b hP
  obtain ⟨hs, hc⟩ := h b hP
  have hsize := h.size_run hP
  obtain ⟨hs', hc'⟩ := h' (m.run b).2 fun p hp => by have := hP p hp; omega
  rw [Build.run_bind, hs', hc', hs, hc, hsize, entriesAll_append, callPositions_append, length_entriesAll]
  simp

theorem keep {α : Type} {m : Build α} {f : α → Build Unit} (hm : Keeps m)
    (h : ∀ x, Lays (f x) P pre F) : Lays (m >>= f) P pre F := by
  intro b hP
  obtain ⟨hs, hc⟩ := hm b
  have hsize : (m.run b).2.tree.size = b.tree.size := by
    rw [← Arena.length_skeleton, hs, Arena.length_skeleton]
  obtain ⟨hs', hc'⟩ := h (m.run b).1 (m.run b).2 (by rw [hsize]; exact hP)
  rw [Build.run_bind, hs', hc', hs, hc, hsize]
  exact ⟨rfl, rfl⟩

theorem addCall {c : Nat} {name : String} {arity : Nat} {r : Receiver} {rt : Option String}
    {s : Span} (h : Lays m P pre F) :
    Lays (Build.addCall c name arity r rt s >>= fun _ => m) P (c :: pre) F := by
  intro b hP
  let b' := ((Build.addCall c name arity r rt s).run b).2
  have hsk : b'.tree.skeleton = b.tree.skeleton := Arena.skeleton_bind _ _ _
  have hsize : b'.tree.size = b.tree.size := by
    rw [← Arena.length_skeleton, hsk, Arena.length_skeleton]
  have hcalls : b'.calls.toList.map CallSite.node = b.calls.toList.map CallSite.node ++ [c] := by
    show (b.calls.push _).toList.map CallSite.node = _
    simp
  obtain ⟨hs, hc⟩ := h b' (by rw [hsize]; exact hP)
  rw [Build.run_bind, hs, hc, hsk, hsize, hcalls]
  simp

theorem push_of {k : NodeKind} {t : α} {s : Span} {f : Nat → Build Unit} (hk : k ≠ .qualifiedReference)
    (h : ∀ id, Lays (f id) (some id) (if k = .call then [id] else []) F) :
    Lays (Build.push k P s >>= f) P [] [node k t F] := by
  intro b hP
  have hfilter : P.filter (· < b.tree.size) = P := by
    cases P with
    | none => rfl
    | some p => simp [hP p rfl]
  have hrun : (Build.push k P s >>= f).run b =
      (f b.tree.size).run { b with tree := (b.tree.push k P s).1 } := rfl
  obtain ⟨hs, hc⟩ := h b.tree.size { b with tree := (b.tree.push k P s).1 }
    (by simp [Arena.size_push])
  rw [hrun, hs, hc, Arena.skeleton_push, Arena.size_push, hfilter]
  constructor
  · simp [entriesAll, entries, selectorAt, hk]
  · cases hk : decide (k = .call) <;> simp_all [entriesAll, entries, callPositions]

/-- A node pushed under the forest's parent, with the nodes its continuation lays under it. -/
theorem push {k : NodeKind} {t : α} {s : Span} {f : Nat → Build Unit} (hk : k ≠ .qualifiedReference)
    (hc : k ≠ .call) (h : ∀ id, Lays (f id) (some id) [] F) :
    Lays (Build.push k P s >>= f) P [] [node k t F] :=
  push_of hk fun id => by simpa [hc] using h id

theorem pushCall {t : α} {s : Span} {f : Nat → Build Unit} (h : ∀ id, Lays (f id) (some id) [id] F) :
    Lays (Build.push .call P s >>= f) P [] [node .call t F] :=
  push_of (by decide) fun id => by simpa using h id

theorem chain {k : NodeKind} {s : Span} {s' : Nat → Span} {fobj : Nat → Build Unit}
    {g : Nat → Nat → Build Unit} {Fobj Fsel : List (Shape α)} {tc ts : α}
    (hk : k ≠ .qualifiedReference)
    (hobj : ∀ c, Lays (fobj c) (some c) [] Fobj)
    (hsel : ∀ c sel, Lays (g c sel) (some sel) (if k = .call then [sel] else []) Fsel) :
    Lays (Build.push .qualifiedReference P s >>= fun c => fobj c >>= fun _ =>
      Build.push k (some c) (s' c) >>= fun sel => Build.setSelector c sel >>= fun _ => g c sel)
      P [] [node .qualifiedReference tc (Fobj ++ [node k ts Fsel])] := by
  intro b hP
  let n := b.tree.size
  have hfilter : P.filter (· < n) = P := by
    cases P with
    | none => rfl
    | some p => simp [hP p rfl, n]
  let b1 : UnitBuilder := { b with tree := (b.tree.push .qualifiedReference P s).1 }
  have hs1 : b1.tree.skeleton = b.tree.skeleton ++ [(.qualifiedReference, P, none)] := by
    rw [Arena.skeleton_push, hfilter]
  have hsize1 : b1.tree.size = n + 1 := Arena.size_push _ _ _ _
  let b2 := ((fobj n).run b1).2
  obtain ⟨hs2, hc2⟩ := hobj n b1 (by simp [hsize1])
  have hsize2 : b2.tree.size = n + 1 + sizeAll Fobj := by
    rw [(hobj n).size_run (b := b1) (by simp [hsize1]), hsize1]
  let sel := b2.tree.size
  let b4 : UnitBuilder :=
    { b2 with tree := ((b2.tree.push k (some n) (s' n)).1).setSelector n sel }
  have hsel4 : (some n).filter (· < b2.tree.size) = some n := by
    have : n < n + 1 + sizeAll Fobj := by omega
    simp [hsize2, this]
  have hs4 : b4.tree.skeleton = b.tree.skeleton ++ (.qualifiedReference, P, some sel) ::
      (entriesAll (n + 1) (some n) Fobj ++ [(k, some n, none)]) := by
    simp only [b4, Arena.skeleton_setSelector, Arena.skeleton_push, hsel4, b2, hs2, hs1, hsize1]
    rw [List.append_assoc, List.append_assoc, List.singleton_append,
      List.modify_append_of_length _ _ _ Arena.length_skeleton]
  have hsize4 : b4.tree.size = sel + 1 := by
    rw [← Arena.length_skeleton, hs4]
    simp [length_entriesAll, Arena.length_skeleton, sel, hsize2, n]
    omega
  obtain ⟨hs5, hc5⟩ := hsel n sel b4 (by simp [hsize4])
  have hrun : (Build.push .qualifiedReference P s >>= fun c => fobj c >>= fun _ =>
      Build.push k (some c) (s' c) >>= fun sel => Build.setSelector c sel >>= fun _ => g c sel).run b =
      (g n sel).run b4 := rfl
  have hentries : entriesAll n P [node .qualifiedReference tc (Fobj ++ [node k ts Fsel])] =
      (.qualifiedReference, P, some sel) :: (entriesAll (n + 1) (some n) Fobj ++
        (k, some n, none) :: entriesAll (sel + 1) (some sel) Fsel) := by
    simp [entriesAll, entries, selectorAt, entriesAll_append, hk, sel, hsize2, Nat.add_assoc]
  rw [hrun, hs5, hc5, hs4, hentries, hsize4]
  constructor
  · simp
  · have hc4 : b4.calls.toList.map CallSite.node =
        b.calls.toList.map CallSite.node ++ callPositions (n + 1) (entriesAll (n + 1) (some n) Fobj) := by
      show b2.calls.toList.map CallSite.node = _
      rw [hc2, hsize1, List.append_nil]
    have hsel : n + 1 + sizeAll Fobj = sel := hsize2.symm
    rw [hc4]
    have hq : ¬ (NodeKind.qualifiedReference = NodeKind.call) := by decide
    simp only [callPositions, callPositions_append, length_entriesAll, List.append_assoc,
      List.nil_append, if_neg hq]
    rw [← hsel]

theorem run_start (h : Lays m none [] F) (b : UnitBuilder) (htree : b.tree = .empty)
    (hcalls : b.calls = #[]) :
    (m.run b).2.tree.skeleton = entriesAll 0 none F ∧
      (m.run b).2.calls.toList.map CallSite.node = callPositions 0 (entriesAll 0 none F) := by
  obtain ⟨hs, hc⟩ := h b (by simp)
  rw [hs, hc, htree, hcalls]
  simp [Arena.skeleton, Arena.empty, Arena.size]

end Lays

end ResultLint
