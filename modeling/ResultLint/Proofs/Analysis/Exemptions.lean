import ResultLint.Analysis
import ResultLint.Proofs.Findings.Order
import ResultLint.Proofs.Project.Tables

/-!
# Adding an exemption

An exemption put anywhere in a method's, a class's or a file's annotations can only take
findings on discarded results away: every finding that stays is one the project had before,
with the same location, name, message and fix, in the same order
(`ignoredReturns_insertExemption`).

The argument follows the data. Nothing that picks a call's candidates reads annotations, so the
candidates stay. Every annotation list of the new project is the old one or holds the exemption
(`Project.Exempted`), and an exemption can only end a search for a marker or silence a report:
the marker in effect for a method is kept or lost, never replaced (`appliedMarker_of_exempted`),
and the scopes around a call exempt at least what they did.
-/

open List

namespace ResultLint

/-- One annotation list of a source unit: a method's, a class's, or the file's. -/
inductive AnnotationList where
  | method (index : Nat)
  | type (index : Nat)
  | file
  deriving DecidableEq, Repr

/-- The unit with an annotation put at a position of one of its annotation lists. A position past
the end leaves the list as it is. -/
def SourceUnit.annotate (u : SourceUnit) (list : AnnotationList) (pos : Nat)
    (a : Annotation) : SourceUnit :=
  match list with
  | .method i =>
    { u with
      methods := u.methods.modify i fun d =>
        { d with annotations := d.annotations.insertIdx pos a } }
  | .type i =>
    { u with
      classes := u.classes.modify i fun c =>
        { c with annotations := c.annotations.insertIdx pos a } }
  | .file => { u with fileAnnotations := u.fileAnnotations.insertIdx pos a }

/-- The project with an annotation put into one annotation list of one of its units. -/
def Project.annotate (p : Project) (unit : Nat) (list : AnnotationList) (pos : Nat)
    (a : Annotation) : Project :=
  ⟨p.units.modify unit (·.annotate list pos a)⟩

section Related

/-! Lists whose elements are related one to one. -/

variable {α β γ : Type} {R : α → β → Prop}

theorem getElem?_rel_of_forall₂ {l : List α} {l' : List β} (h : Forall₂ R l l') (i : Nat) :
    (l[i]? = none ∧ l'[i]? = none) ∨ ∃ a b, l[i]? = some a ∧ l'[i]? = some b ∧ R a b := by
  induction h generalizing i with
  | nil => exact .inl ⟨rfl, rfl⟩
  | cons hab _ ih =>
    cases i with
    | zero => exact .inr ⟨_, _, rfl, rfl, hab⟩
    | succ i => simpa using ih i

theorem forall₂_zipIdx {l : List α} {l' : List β} (h : Forall₂ R l l') (n : Nat) :
    Forall₂ (fun x y => R x.1 y.1 ∧ x.2 = y.2) (l.zipIdx n) (l'.zipIdx n) := by
  induction h generalizing n with
  | nil => exact .nil
  | cons hab _ ih => exact .cons ⟨hab, rfl⟩ (ih (n + 1))

theorem forall₂_modify {R : α → α → Prop} (refl : ∀ a, R a a) {f : α → α} (hf : ∀ a, R a (f a)) :
    ∀ (l : List α) (i : Nat), Forall₂ R l (l.modify i f)
  | [], _ => by simp
  | a :: l, 0 => by
    rw [modify_zero_cons]
    exact .cons (hf a) (forall₂_same.2 fun x _ => refl x)
  | a :: l, i + 1 => by
    rw [modify_succ_cons]
    exact .cons (refl a) (forall₂_modify refl hf l i)

theorem any_eq_of_forall₂ {f : α → Bool} {g : β → Bool} (hfg : ∀ a b, R a b → f a = g b)
    {l : List α} {l' : List β} (h : Forall₂ R l l') : l.any f = l'.any g := by
  induction h with
  | nil => rfl
  | cons hab _ ih => simp [hfg _ _ hab, ih]

theorem flatMap_eq_of_forall₂ {f : α → List γ} {g : β → List γ} (hfg : ∀ a b, R a b → f a = g b)
    {l : List α} {l' : List β} (h : Forall₂ R l l') : l.flatMap f = l'.flatMap g := by
  induction h with
  | nil => rfl
  | cons hab _ ih => simp [hfg _ _ hab, ih]

theorem map_filter_eq_of_forall₂ {p : α → Bool} {q : β → Bool} {f : α → γ} {g : β → γ}
    (hpq : ∀ a b, R a b → p a = q b ∧ f a = g b) {l : List α} {l' : List β}
    (h : Forall₂ R l l') : (l.filter p).map f = (l'.filter q).map g := by
  induction h with
  | nil => rfl
  | @cons a b _ _ hab _ ih =>
    obtain ⟨hp, hf⟩ := hpq a b hab
    cases hq : q b <;> simp [hp, hq, hf, ih]

theorem flatMap_sublist_of_forall₂ {f : α → List γ} {g : β → List γ}
    (hfg : ∀ a b, R a b → g b <+ f a) {l : List α} {l' : List β} (h : Forall₂ R l l') :
    l'.flatMap g <+ l.flatMap f := by
  induction h with
  | nil => exact .slnil
  | cons hab _ ih => simpa using (hfg _ _ hab).append ih

theorem filterMap_sublist_of_some {f g : α → Option γ} (hfg : ∀ a b, g a = some b → f a = some b)
    (l : List α) : l.filterMap g <+ l.filterMap f := by
  induction l with
  | nil => exact .slnil
  | cons a l ih =>
    cases hg : g a with
    | none =>
      rw [filterMap_cons_none hg]
      exact ih.trans ((sublist_cons_self a l).filterMap f)
    | some b =>
      rw [filterMap_cons_some hg, filterMap_cons_some (hfg a b hg)]
      exact ih.cons_cons b

end Related

namespace MarkerSet

/-- `L'` is the annotation list `L`, or holds the exemption. -/
def SameOrExempt (m : MarkerSet) (L L' : List Annotation) : Prop :=
  L' = L ∨ L'.any m.isExemption = true

namespace SameOrExempt

variable {m : MarkerSet} {L L' : List Annotation}

theorem refl (L : List Annotation) : m.SameOrExempt L L := .inl rfl

theorem eq_of_any_eq_false (h : m.SameOrExempt L L') (hL' : L'.any m.isExemption = false) :
    L' = L :=
  h.resolve_right (by simp [hL'])

theorem append {L₁ L₁' L₂ L₂' : List Annotation} (h₁ : m.SameOrExempt L₁ L₁')
    (h₂ : m.SameOrExempt L₂ L₂') : m.SameOrExempt (L₁ ++ L₂) (L₁' ++ L₂') := by
  rcases h₁ with rfl | h₁
  · rcases h₂ with rfl | h₂
    · exact .inl rfl
    · exact .inr (by simp [h₂])
  · exact .inr (by simp [h₁])

theorem flatMap {α β : Type} {R : α → β → Prop} {f : α → List Annotation}
    {g : β → List Annotation} (hfg : ∀ a b, R a b → m.SameOrExempt (f a) (g b)) {l : List α}
    {l' : List β} (h : Forall₂ R l l') : m.SameOrExempt (l.flatMap f) (l'.flatMap g) := by
  induction h with
  | nil => exact refl []
  | cons hab _ ih => simpa using (hfg _ _ hab).append ih

theorem verdict (h : m.SameOrExempt L L') :
    m.verdict L' = .exempt ∨ m.verdict L' = m.verdict L := by
  rcases h with rfl | h
  · exact .inr rfl
  · exact .inl (by simp [MarkerSet.verdict, h])

theorem insertIdx {a : Annotation} (ha : m.isExemption a = true) (L : List Annotation)
    (pos : Nat) : m.SameOrExempt L (L.insertIdx pos a) := by
  by_cases hpos : pos ≤ L.length
  · exact .inr (any_eq_true.2 ⟨a, (mem_insertIdx hpos).2 (.inl rfl), ha⟩)
  · exact .inl (insertIdx_of_length_lt (by omega))

end SameOrExempt

end MarkerSet

/-- `c'` is the class `c` with its annotations the same or holding the exemption. -/
inductive ClassDecl.Exempted (m : MarkerSet) : ClassDecl → ClassDecl → Prop
  | mk (c : ClassDecl) (annotations : List Annotation) :
      m.SameOrExempt c.annotations annotations → ClassDecl.Exempted m c { c with annotations }

/-- `d'` is the method `d` with its annotations the same or holding the exemption. -/
inductive MethodDecl.Exempted (m : MarkerSet) : MethodDecl → MethodDecl → Prop
  | mk (d : MethodDecl) (annotations : List Annotation) :
      m.SameOrExempt d.annotations annotations → MethodDecl.Exempted m d { d with annotations }

/-- `u'` is the unit `u` with each annotation list the same or holding the exemption. -/
inductive SourceUnit.Exempted (m : MarkerSet) : SourceUnit → SourceUnit → Prop
  | mk (u : SourceUnit) (fileAnnotations : List Annotation) (classes : Array ClassDecl)
      (methods : Array MethodDecl) :
      m.SameOrExempt u.fileAnnotations fileAnnotations →
      Forall₂ (ClassDecl.Exempted m) u.classes.toList classes.toList →
      Forall₂ (MethodDecl.Exempted m) u.methods.toList methods.toList →
      SourceUnit.Exempted m u { u with fileAnnotations, classes, methods }

/-- `p'` is the project `p` with each annotation list the same or holding the exemption. -/
def Project.Exempted (m : MarkerSet) (p p' : Project) : Prop :=
  Forall₂ (SourceUnit.Exempted m) p.units.toList p'.units.toList

/-- `t'` is the target `t` with its declarations' annotations the same or holding the
exemption. -/
inductive Target.Exempted (m : MarkerSet) : Target → Target → Prop
  | mk (t : Target) (decl : MethodDecl) (owner : Option ClassDecl) :
      MethodDecl.Exempted m t.decl decl → Option.Rel (ClassDecl.Exempted m) t.owner owner →
      Target.Exempted m t { t with decl, owner }

variable {m : MarkerSet}

namespace ClassDecl.Exempted

variable {c c' : ClassDecl}

theorem refl (c : ClassDecl) : ClassDecl.Exempted m c c := .mk c c.annotations (.refl _)

theorem annotations (h : ClassDecl.Exempted m c c') :
    m.SameOrExempt c.annotations c'.annotations := by
  cases h
  assumption

theorem name (h : ClassDecl.Exempted m c c') : c'.name = c.name := by cases h; rfl

theorem qualifiedName (h : ClassDecl.Exempted m c c') : c'.qualifiedName = c.qualifiedName := by
  cases h; rfl

theorem parent (h : ClassDecl.Exempted m c c') : c'.parent = c.parent := by cases h; rfl

end ClassDecl.Exempted

namespace MethodDecl.Exempted

variable {d d' : MethodDecl}

theorem refl (d : MethodDecl) : MethodDecl.Exempted m d d := .mk d d.annotations (.refl _)

theorem annotations (h : MethodDecl.Exempted m d d') :
    m.SameOrExempt d.annotations d'.annotations := by
  cases h
  assumption

theorem rest (h : MethodDecl.Exempted m d d') : d' = { d with annotations := d'.annotations } := by
  cases h; rfl

end MethodDecl.Exempted

namespace Target.Exempted

variable {t t' : Target}

theorem decl_name (h : Target.Exempted m t t') : t'.decl.name = t.decl.name := by
  cases h with
  | mk decl owner hd _ => rw [hd.rest]

theorem ownerName (h : Target.Exempted m t t') :
    t'.owner.map ClassDecl.qualifiedName = t.owner.map ClassDecl.qualifiedName := by
  cases h with
  | mk decl owner _ ho =>
    show owner.map _ = t.owner.map _
    generalize t.owner = o at ho
    cases ho with
    | none => rfl
    | some hcc => exact congrArg some hcc.qualifiedName

theorem marker (h : Target.Exempted m t t') : t'.marker = t.marker := by cases h; rfl

end Target.Exempted

namespace SourceUnit.Exempted

variable {u u' : SourceUnit}

theorem refl (u : SourceUnit) : SourceUnit.Exempted m u u :=
  .mk u u.fileAnnotations u.classes u.methods (.refl _) (forall₂_same.2 fun c _ => .refl c)
    (forall₂_same.2 fun d _ => .refl d)

theorem fileAnnotations (h : SourceUnit.Exempted m u u') :
    m.SameOrExempt u.fileAnnotations u'.fileAnnotations := by
  cases h
  assumption

theorem tree (h : SourceUnit.Exempted m u u') : u'.tree = u.tree := by cases h; rfl

theorem calls (h : SourceUnit.Exempted m u u') : u'.calls = u.calls := by cases h; rfl

theorem package (h : SourceUnit.Exempted m u u') : u'.package = u.package := by cases h; rfl

theorem isPackageInfo (h : SourceUnit.Exempted m u u') : u'.isPackageInfo = u.isPackageInfo := by
  cases h; rfl

theorem enclosingMethod (h : SourceUnit.Exempted m u u') (node : Nat) :
    u'.enclosingMethod node = u.enclosingMethod node := by
  cases h; rfl

theorem enclosingClasses (h : SourceUnit.Exempted m u u') (node : Nat) :
    u'.enclosingClasses node = u.enclosingClasses node := by
  cases h; rfl

theorem classes (h : SourceUnit.Exempted m u u') :
    Forall₂ (ClassDecl.Exempted m) u.classes.toList u'.classes.toList := by
  cases h
  assumption

theorem methods (h : SourceUnit.Exempted m u u') :
    Forall₂ (MethodDecl.Exempted m) u.methods.toList u'.methods.toList := by
  cases h
  assumption

theorem classAt (h : SourceUnit.Exempted m u u') (i : Nat) :
    (u.classes[i]? = none ∧ u'.classes[i]? = none) ∨
      ∃ c c', u.classes[i]? = some c ∧ u'.classes[i]? = some c' ∧ ClassDecl.Exempted m c c' := by
  simpa using getElem?_rel_of_forall₂ h.classes i

theorem methodAt (h : SourceUnit.Exempted m u u') (i : Nat) :
    (u.methods[i]? = none ∧ u'.methods[i]? = none) ∨
      ∃ d d', u.methods[i]? = some d ∧ u'.methods[i]? = some d' ∧ MethodDecl.Exempted m d d' := by
  simpa using getElem?_rel_of_forall₂ h.methods i

theorem classChain_go (h : SourceUnit.Exempted m u u') (fuel : Nat) : ∀ c : Nat,
    Forall₂ (ClassDecl.Exempted m) (SourceUnit.classChain.go u c fuel)
      (SourceUnit.classChain.go u' c fuel) := by
  induction fuel with
  | zero => intro c; exact .nil
  | succ fuel ih =>
    intro c
    simp only [SourceUnit.classChain.go]
    rcases h.classAt c with ⟨hn, hn'⟩ | ⟨d, d', hd, hd', hdd⟩
    · rw [hn, hn']
      exact .nil
    · rw [hd, hd']
      dsimp only
      rw [hdd.parent]
      refine .cons hdd ?_
      -- the parent links are kept, so both chains climb through the same classes
      cases d.parent with
      | none => exact .nil
      | some q => exact ih q

theorem classChain (h : SourceUnit.Exempted m u u') (c : Nat) :
    Forall₂ (ClassDecl.Exempted m) (u.classChain c) (u'.classChain c) := by
  have hsize : u'.classes.size = u.classes.size := by simpa using h.classes.length_eq.symm
  unfold SourceUnit.classChain
  rw [hsize]
  exact h.classChain_go _ c

end SourceUnit.Exempted

namespace Project.Exempted

variable {p p' : Project}

theorem unitAt (h : p.Exempted m p') (i : Nat) :
    (p.units[i]? = none ∧ p'.units[i]? = none) ∨
      ∃ u u', p.units[i]? = some u ∧ p'.units[i]? = some u' ∧ SourceUnit.Exempted m u u' := by
  simpa using getElem?_rel_of_forall₂ h i

theorem method (h : p.Exempted m p') (r : MethodRef) :
    MethodDecl.Exempted m (p.method r) (p'.method r) := by
  unfold Project.method
  rcases h.unitAt r.unit with ⟨hn, hn'⟩ | ⟨u, u', hu, hu', huu⟩
  · rw [hn, hn']
    exact .refl _
  · rw [hu, hu', Option.bind_some, Option.bind_some]
    rcases huu.methodAt r.method with ⟨hn, hn'⟩ | ⟨d, d', hd, hd', hdd⟩
    · rw [hn, hn']
      exact .refl _
    · rw [hd, hd']
      exact hdd

theorem method_isConstructor (h : p.Exempted m p') (r : MethodRef) :
    (p'.method r).isConstructor = (p.method r).isConstructor := by
  rw [(h.method r).rest]

theorem method_acceptsArity (h : p.Exempted m p') (r : MethodRef) (n : Nat) :
    (p'.method r).acceptsArity n = (p.method r).acceptsArity n := by
  rw [(h.method r).rest]
  rfl

theorem method_owner (h : p.Exempted m p') (r : MethodRef) :
    (p'.method r).owner = (p.method r).owner := by
  rw [(h.method r).rest]

theorem method_extensionOf (h : p.Exempted m p') (r : MethodRef) :
    (p'.method r).extensionOf = (p.method r).extensionOf := by
  rw [(h.method r).rest]

theorem ownerChain (h : p.Exempted m p') (r : MethodRef) :
    Forall₂ (ClassDecl.Exempted m) (p.ownerChain r) (p'.ownerChain r) := by
  unfold Project.ownerChain
  rcases h.unitAt r.unit with ⟨hn, hn'⟩ | ⟨u, u', hu, hu', huu⟩
  · rw [hn, hn']
    exact .nil
  · rw [hu, hu']
    dsimp only
    rcases huu.methodAt r.method with ⟨hn, hn'⟩ | ⟨d, d', hd, hd', hdd⟩
    · rw [hn, hn']
      exact .nil
    · rw [hd, hd', Option.bind_some, Option.bind_some, (MethodDecl.Exempted.rest hdd)]
      cases d.owner with
      | none => exact .nil
      | some o => exact huu.classChain o

theorem ownerChain_head?_map {γ : Type} (h : p.Exempted m p') (r : MethodRef)
    (f : ClassDecl → γ) (hf : ∀ c c', ClassDecl.Exempted m c c' → f c' = f c) :
    (p'.ownerChain r).head?.map f = (p.ownerChain r).head?.map f := by
  rcases getElem?_rel_of_forall₂ (h.ownerChain r) 0 with ⟨hn, hn'⟩ | ⟨c, c', hc, hc', hcc⟩
  · simp [head?_eq_getElem?, hn, hn']
  · simp [head?_eq_getElem?, hc, hc', hf _ _ hcc]

theorem methodsNamed (h : p.Exempted m p') (name : String) :
    p'.methodsNamed name = p.methodsNamed name := by
  rw [Project.methodsNamed_eq, Project.methodsNamed_eq]
  refine (flatMap_eq_of_forall₂ ?_ (forall₂_zipIdx h 0)).symm
  rintro ⟨u, i⟩ ⟨u', j⟩ ⟨huu, rfl : i = j⟩
  refine map_filter_eq_of_forall₂ ?_ (forall₂_zipIdx huu.methods 0)
  rintro ⟨d, k⟩ ⟨d', l⟩ ⟨hdd, rfl : k = l⟩
  rw [hdd.rest]
  exact ⟨rfl, rfl⟩

theorem declaresClass (h : p.Exempted m p') (name : String) :
    p'.declaresClass name = p.declaresClass name := by
  rw [Project.declaresClass_eq_any, Project.declaresClass_eq_any, ← Array.any_toList,
    ← Array.any_toList]
  refine (any_eq_of_forall₂ (fun u u' huu => ?_) h).symm
  rw [← Array.any_toList, ← Array.any_toList]
  exact any_eq_of_forall₂ (fun c c' hcc => by rw [hcc.name]) huu.classes

theorem receiverType (h : p.Exempted m p') (call : CallSite) (name : String) :
    p'.receiverType call name = p.receiverType call name := by
  simp only [Project.receiverType, h.declaresClass]

theorem declaredOn (h : p.Exempted m p') (r : MethodRef) (t : String) :
    p'.declaredOn r t = p.declaredOn r t := by
  have hany := any_eq_of_forall₂ (f := (·.name == t)) (g := (·.name == t))
    (fun c c' hcc => by rw [hcc.name]) (h.ownerChain r)
  unfold Project.declaredOn
  rw [h.method_owner, h.method_extensionOf, hany]

theorem enclosingClasses (h : p.Exempted m p') (i node : Nat) :
    (p'.units[i]?).map (·.enclosingClasses node) = (p.units[i]?).map (·.enclosingClasses node) := by
  rcases h.unitAt i with ⟨hn, hn'⟩ | ⟨u, u', hu, hu', huu⟩
  · rw [hn, hn']
  · rw [hu, hu', Option.map_some, Option.map_some, huu.enclosingClasses]

/-- Nothing that picks the candidates of a call reads annotations. -/
theorem candidates (h : p.Exempted m p') (unitIndex : Nat) (call : CallSite) :
    p'.candidates unitIndex call = p.candidates unitIndex call := by
  have hname (r : MethodRef) (name : String) :=
    h.ownerChain_head?_map r (·.name == name) fun c c' hcc => by rw [hcc.name]
  simp only [Project.candidates, h.methodsNamed, h.method_isConstructor, h.method_acceptsArity,
    h.method_owner, h.enclosingClasses, h.receiverType, h.declaredOn, hname]

theorem packageAnnotations (h : p.Exempted m p') (package : Option String) :
    m.SameOrExempt (p.packageAnnotations package) (p'.packageAnnotations package) := by
  rw [Project.packageAnnotations_scan, Project.packageAnnotations_scan]
  refine MarkerSet.SameOrExempt.flatMap (fun u u' huu => ?_) h
  rw [huu.isPackageInfo, huu.package]
  split
  · exact huu.fileAnnotations
  · exact .refl []

theorem packageScope (h : p.Exempted m p') {u u' : SourceUnit} (huu : SourceUnit.Exempted m u u') :
    m.SameOrExempt (p.packageScope u) (p'.packageScope u') := by
  unfold Project.packageScope
  rw [huu.package]
  exact (h.packageAnnotations _).append huu.fileAnnotations

theorem appliedMarker_classes (h : p.Exempted m p') (r : MethodRef) {a : Annotation}
    {L L' : List ClassDecl} (hL : Forall₂ (ClassDecl.Exempted m) L L')
    (ha : Project.appliedMarker.classes p' m r L' = some a) :
    Project.appliedMarker.classes p m r L = some a := by
  induction hL with
  | nil =>
    have hscope : m.SameOrExempt (((p.units[r.unit]?).map p.packageScope).getD [])
        (((p'.units[r.unit]?).map p'.packageScope).getD []) := by
      rcases h.unitAt r.unit with ⟨hn, hn'⟩ | ⟨u, u', hu, hu', huu⟩
      · rw [hn, hn']
        exact .refl []
      · rw [hu, hu']
        exact h.packageScope huu
    simp only [Project.appliedMarker.classes] at ha ⊢
    rcases hscope.verdict with he | he <;> rw [he] at ha
    · simp at ha
    · exact ha
  | @cons c c' _ _ hcc _ ih =>
    simp only [Project.appliedMarker.classes] at ha ⊢
    rcases hcc.annotations.verdict with he | he <;> rw [he] at ha
    · simp at ha
    · revert ha
      cases m.verdict c.annotations with
      | exempt | marked _ => exact id
      | silent => exact ih

/-- The marker in effect for a method is kept or lost, never replaced. -/
theorem appliedMarker_of_exempted (h : p.Exempted m p') {r : MethodRef} {a : Annotation}
    (ha : p'.appliedMarker m r = some a) : p.appliedMarker m r = some a := by
  unfold Project.appliedMarker at ha ⊢
  rcases (h.method r).annotations.verdict with he | he <;> rw [he] at ha
  · simp at ha
  · revert ha
    cases m.verdict (p.method r).annotations with
    | exempt | marked _ => exact id
    | silent => exact appliedMarker_classes h r (h.ownerChain r)

/-- A call resolves to the target it resolved to before, up to its declarations' annotations. -/
theorem resolve (h : p.Exempted m p') {unitIndex : Nat} {call : CallSite} {t' : Target}
    (ht : p'.resolve m unitIndex call = some t') :
    ∃ t, p.resolve m unitIndex call = some t ∧ Target.Exempted m t t' := by
  unfold Project.resolve at ht ⊢
  rw [h.candidates] at ht
  cases hc : p.candidates unitIndex call with
  | nil => simp [hc] at ht
  | cons first rest =>
    simp only [hc] at ht ⊢
    cases hm : p'.appliedMarker m first with
    | none => simp [hm] at ht
    | some marker =>
      simp only [hm] at ht
      simp only [h.appliedMarker_of_exempted hm]
      by_cases hr : (rest.any fun r => (p'.appliedMarker m r).isNone) = true
      · simp [hr] at ht
      · -- every other candidate still has a marker, so it had the same one before
        have hr' : ¬ (rest.any fun r => (p.appliedMarker m r).isNone) = true := by
          simp only [any_eq_true, Option.isNone_iff_eq_none, not_exists, not_and] at hr ⊢
          intro r hr₀ hnone
          obtain ⟨b, hb⟩ := Option.ne_none_iff_exists'.1 (hr r hr₀)
          rw [h.appliedMarker_of_exempted hb] at hnone
          cases hnone
        have hname (r : MethodRef) := h.ownerChain_head?_map r ClassDecl.qualifiedName
          fun c c' hcc => hcc.qualifiedName
        rw [if_neg hr] at ht
        rw [if_neg hr']
        simp only [hname, Option.some.injEq] at ht
        subst ht
        refine ⟨_, rfl, .mk _ _ _ (h.method first) ?_⟩
        split
        · rcases getElem?_rel_of_forall₂ (h.ownerChain first) 0 with
            ⟨hn, hn'⟩ | ⟨c, c', hc, hc', hcc⟩
          · simp only [head?_eq_getElem?, hn, hn']
            exact .none
          · simp only [head?_eq_getElem?, hc, hc']
            exact .some hcc
        · exact .none

theorem scopesAt (h : p.Exempted m p') (unitIndex : Nat) (call : CallSite) :
    m.SameOrExempt (p.scopesAt unitIndex call).all (p'.scopesAt unitIndex call).all := by
  unfold Project.scopesAt
  rcases h.unitAt unitIndex with ⟨hn, hn'⟩ | ⟨u, u', hu, hu', huu⟩
  · rw [hn, hn']
    exact .refl _
  · rw [hu, hu']
    dsimp only [Scopes.all]
    refine (MarkerSet.SameOrExempt.append ?_ ?_).append (h.packageScope huu)
    · rw [huu.enclosingMethod]
      cases u.enclosingMethod call.node with
      | none => exact .refl []
      | some i =>
        rcases huu.methodAt i with ⟨hn, hn'⟩ | ⟨d, d', hd, hd', hdd⟩
        · simp only [Option.bind_some, hn, hn']
          exact .refl []
        · simp only [Option.bind_some, hd, hd', Option.map_some, Option.getD_some]
          exact hdd.annotations
    · rw [huu.enclosingClasses]
      refine MarkerSet.SameOrExempt.flatMap (R := Eq) (fun c c' (hc : c = c') => ?_)
        (forall₂_same.2 fun _ _ => rfl)
      subst hc
      rcases huu.classAt c with ⟨hn, hn'⟩ | ⟨d, d', hd, hd', hdd⟩
      · rw [hn, hn']
        exact .refl []
      · rw [hd, hd']
        exact hdd.annotations

end Project.Exempted

theorem Policy.report?_of_sameOrExempt (pol : Policy) {s s' : Scopes}
    (hs : pol.markers.SameOrExempt s.all s'.all) {name : String} {owner : Option String}
    {marker : Annotation} {discarded : Bool} {r : ResultReport}
    (hr : pol.report? name owner marker s' discarded = some r) :
    pol.report? name owner marker s discarded = some r := by
  unfold Policy.report? at hr ⊢
  by_cases hs' : s'.all.any pol.markers.isExemption = true
  · simp [hs'] at hr
  · rw [hs.eq_of_any_eq_false (by simpa using hs')] at hr
    exact hr

namespace Analysis

/-- A call reported after the exemption was added was reported the same way before. -/
theorem checkCall_of_exempted {a : Analysis} {p p' : Project} {u u' : SourceUnit}
    (h : p.Exempted a.markers p') (hu : SourceUnit.Exempted a.markers u u') {unitIndex : Nat}
    {call : CallSite} {f : Finding} (hf : a.checkCall p' unitIndex u' call = some f) :
    a.checkCall p unitIndex u call = some f := by
  unfold checkCall at hf ⊢
  obtain ⟨t', ht', hf⟩ := Option.bind_eq_some_iff.1 hf
  obtain ⟨t, ht, htt⟩ := h.resolve ht'
  obtain ⟨r, hr, rfl⟩ := Option.map_eq_some_iff.1 hf
  rw [htt.decl_name, htt.ownerName, htt.marker, hu.tree] at hr
  rw [ht, Option.bind_some]
  dsimp only
  rw [a.policy.report?_of_sameOrExempt (h.scopesAt unitIndex call) hr]
  rfl

/-- With each annotation list the same or holding the exemption, the findings on discarded
results are a sublist of those before. -/
theorem ignoredReturns_sublist_of_exempted {a : Analysis} {p p' : Project}
    (h : p.Exempted a.markers p') : a.ignoredReturns p' <+ a.ignoredReturns p := by
  unfold ignoredReturns
  refine Finding.sort_sublist (flatMap_sublist_of_forall₂ ?_ (forall₂_zipIdx h 0))
  rintro ⟨u, i⟩ ⟨u', j⟩ ⟨hu, rfl : i = j⟩
  dsimp only at hu ⊢
  rw [hu.calls]
  exact filterMap_sublist_of_some (fun _ _ hf => checkCall_of_exempted h hu hf) _

end Analysis

theorem SourceUnit.exempted_annotate {a : Annotation} (ha : m.isExemption a = true)
    (u : SourceUnit) (list : AnnotationList) (pos : Nat) :
    SourceUnit.Exempted m u (u.annotate list pos a) := by
  have hclasses := forall₂_same.2 fun c (_ : c ∈ u.classes.toList) =>
    ClassDecl.Exempted.refl (m := m) c
  have hmethods := forall₂_same.2 fun d (_ : d ∈ u.methods.toList) =>
    MethodDecl.Exempted.refl (m := m) d
  cases list with
  | method i =>
    refine .mk u _ _ _ (.refl _) hclasses ?_
    rw [Array.toList_modify]
    exact forall₂_modify MethodDecl.Exempted.refl (fun d => .mk d _ (.insertIdx ha _ pos)) _ i
  | type i =>
    refine .mk u _ _ _ (.refl _) ?_ hmethods
    rw [Array.toList_modify]
    exact forall₂_modify ClassDecl.Exempted.refl (fun c => .mk c _ (.insertIdx ha _ pos)) _ i
  | file => exact .mk u _ _ _ (.insertIdx ha _ pos) hclasses hmethods

theorem Project.exempted_annotate {a : Annotation} (ha : m.isExemption a = true)
    (p : Project) (unit : Nat) (list : AnnotationList) (pos : Nat) :
    p.Exempted m (p.annotate unit list pos a) := by
  unfold Project.Exempted Project.annotate
  rw [Array.toList_modify]
  exact forall₂_modify SourceUnit.Exempted.refl
    (fun u => SourceUnit.exempted_annotate ha u list pos) _ unit

/-- Adding an exemption to a method, a class or a file never adds or changes a finding on a
discarded result: the findings after are a sublist of those before. -/
theorem ignoredReturns_insertExemption (an : Analysis) (p : Project) (unit : Nat)
    (list : AnnotationList) (pos : Nat) {a : Annotation} (ha : an.markers.isExemption a = true) :
    an.ignoredReturns (p.annotate unit list pos a) <+ an.ignoredReturns p :=
  Analysis.ignoredReturns_sublist_of_exempted (Project.exempted_annotate ha p unit list pos)

/-- The exemption by its simple name. -/
def canIgnoreReturnValue : Annotation :=
  { name := "CanIgnoreReturnValue", qualifiedName := defaultExemption }

theorem ignoredReturns_insertExemption_standard :
    MarkerSet.standard.isExemption canIgnoreReturnValue = true ∧
      ({ markers := .standard, explanations := .standard } : Analysis).ignoredReturns
          ((⟨#[default]⟩ : Project).annotate 0 .file 0 canIgnoreReturnValue) <+
        ({ markers := .standard, explanations := .standard } : Analysis).ignoredReturns
          ⟨#[default]⟩ :=
  ⟨by decide, ignoredReturns_insertExemption _ _ 0 .file 0 (by decide)⟩

end ResultLint
