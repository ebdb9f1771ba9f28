import ResultLint.Project
import ResultLint.Proofs.Dictionary.Lookup

/-!
# The lookup tables of a project

Calls are resolved through three tables that one pass over the units fills
(`Index.ofUnits`): the methods of each simple name, the simple names of the declared classes,
and the annotations that the package descriptions lend to their package. Each step of the pass
appends one unit's part to each table, so a table ends as the parts of the units in unit order
(`Index.ofUnits_append`). Read through the lookups, the methods of a name are exactly the
declarations of that name, listed by unit and then by place in the unit, so each once
(`mem_methodsNamed`, `methodsNamed_before`); a name is a declared class when some unit declares a
class of that simple name (`declaresClass_iff`); and a package's annotations are the file
annotations of its descriptions in unit order, where a file without a package belongs to the
package with the empty name, and a description without annotations adds nothing
(`packageAnnotations_eq`). `lookup_tables_follow_units` gathers the three.
-/

namespace ResultLint

namespace MethodRef

/-- The order of the methods table: by unit, then by place among the unit's methods. -/
def Before (r s : MethodRef) : Prop :=
  r.unit < s.unit ∨ (r.unit = s.unit ∧ r.method < s.method)

theorem Before.irrefl (r : MethodRef) : ¬ r.Before r := by
  simp [Before]

end MethodRef

namespace Index

/-- A table that each step extends by the unit's own part ends as the parts of the units, in
unit order. -/
theorem foldl_addUnit_append {β : Type} (table : Index → List β)
    (part : SourceUnit → Nat → List β)
    (hstep : ∀ ix u ui, table (ix.addUnit u ui) = table ix ++ part u ui)
    (l : List (SourceUnit × Nat)) (ix : Index) :
    table (l.foldl (fun ix e => ix.addUnit e.1 e.2) ix) =
      table ix ++ l.flatMap fun e => part e.1 e.2 := by
  induction l generalizing ix with
  | nil => simp
  | cons e l ih => rw [List.foldl_cons, ih, hstep, List.flatMap_cons, List.append_assoc]

theorem ofUnits_append {β : Type} (table : Index → List β) (part : SourceUnit → Nat → List β)
    (hstep : ∀ ix u ui, table (ix.addUnit u ui) = table ix ++ part u ui)
    (hempty : table {} = []) (units : Array SourceUnit) :
    table (ofUnits units) = units.toList.zipIdx.flatMap fun e => part e.1 e.2 := by
  rw [ofUnits, foldl_addUnit_append table part hstep, hempty, List.nil_append]

theorem ofUnits_eq_flatMap {β : Type} (table : Index → List β) (part : SourceUnit → List β)
    (hstep : ∀ ix u ui, table (ix.addUnit u ui) = table ix ++ part u)
    (hempty : table {} = []) (units : Array SourceUnit) :
    table (ofUnits units) = units.toList.flatMap part := by
  rw [ofUnits_append table (fun u _ => part u) hstep hempty, ← List.flatMap_map Prod.fst part,
    List.zipIdx_map_fst]

theorem getD_addUnit_methodsByName (ix : Index) (u : SourceUnit) (ui : Nat) (name : String) :
    ((ix.addUnit u ui).methodsByName.get? name).getD [] =
      (ix.methodsByName.get? name).getD [] ++
        (u.methods.toList.zipIdx.filter (·.1.name == name)).map fun e => ⟨ui, e.2⟩ :=
  Dictionary.getD_foldl_extend (fun e : MethodDecl × Nat => e.1.name)
    (fun e : MethodDecl × Nat => (⟨ui, e.2⟩ : MethodRef)) name _ _

theorem getD_addUnit_packageAnnotations (ix : Index) (u : SourceUnit) (ui : Nat)
    (key : String) :
    ((ix.addUnit u ui).packageAnnotations.get? key).getD [] =
      (ix.packageAnnotations.get? key).getD [] ++
        if u.isPackageInfo && u.package.getD "" == key then u.fileAnnotations else [] := by
  by_cases hinfo : u.isPackageInfo = true
  · by_cases hnone : u.fileAnnotations = []
    · simp [addUnit, hnone]
    · have hguard : (u.isPackageInfo && !u.fileAnnotations.isEmpty) = true := by
        simpa [hinfo] using hnone
      have hextend : (ix.addUnit u ui).packageAnnotations =
          ix.packageAnnotations.extend (u.package.getD "") u.fileAnnotations := if_pos hguard
      rw [hextend, Dictionary.getD_extend]
      simp [hinfo]
  · simp [addUnit, hinfo]

end Index

namespace Project

variable (p : Project)

theorem pairwise_zipIdx_snd {α : Type} (l : List α) : l.zipIdx.Pairwise (·.2 < ·.2) :=
  List.pairwise_map.mp (by rw [List.zipIdx_map_snd]; exact List.pairwise_lt_range')

theorem methodsNamed_eq (name : String) :
    p.methodsNamed name = p.units.toList.zipIdx.flatMap fun e =>
      (e.1.methods.toList.zipIdx.filter (·.1.name == name)).map fun m => ⟨e.2, m.2⟩ :=
  Index.ofUnits_append (fun ix => (ix.methodsByName.get? name).getD []) _
    (fun ix u ui => Index.getD_addUnit_methodsByName ix u ui name) rfl p.units

theorem classNames_index :
    p.index.classNames = p.units.toList.flatMap fun u => u.classes.toList.map (·.name) :=
  Index.ofUnits_eq_flatMap Index.classNames _ (fun _ _ _ => rfl) rfl p.units

theorem packageAnnotations_scan (package : Option String) :
    p.packageAnnotations package = p.units.toList.flatMap fun u =>
      if u.isPackageInfo && u.package.getD "" == package.getD "" then u.fileAnnotations
      else [] :=
  Index.ofUnits_eq_flatMap (fun ix => (ix.packageAnnotations.get? (package.getD "")).getD []) _
    (fun ix u ui => Index.getD_addUnit_packageAnnotations ix u ui _) rfl p.units

theorem mem_methodsNamed {name : String} {r : MethodRef} :
    r ∈ p.methodsNamed name ↔
      ∃ u d, p.units[r.unit]? = some u ∧ u.methods[r.method]? = some d ∧ d.name = name := by
  simp only [methodsNamed_eq, List.mem_flatMap, List.mem_map, List.mem_filter, Prod.exists,
    List.mem_zipIdx_iff_getElem?, Array.getElem?_toList, beq_iff_eq]
  constructor
  · rintro ⟨u, ui, hu, d, mi, ⟨hd, hn⟩, rfl⟩
    exact ⟨u, d, hu, hd, hn⟩
  · rintro ⟨u, d, hu, hd, hn⟩
    exact ⟨u, r.unit, hu, d, r.method, ⟨hd, hn⟩, rfl⟩

theorem name_of_mem_methodsNamed {name : String} {r : MethodRef}
    (h : r ∈ p.methodsNamed name) : (p.method r).name = name := by
  obtain ⟨u, d, hu, hd, hn⟩ := (p.mem_methodsNamed).mp h
  simp [method, hu, hd, hn]

/-- The methods of a name come by unit, then by place in the unit. -/
theorem methodsNamed_before (name : String) :
    (p.methodsNamed name).Pairwise MethodRef.Before := by
  rw [methodsNamed_eq, List.pairwise_flatMap]
  constructor
  · intro e _
    refine List.Pairwise.map _ ?_ ((pairwise_zipIdx_snd _).filter _)
    intro m m' hlt
    exact .inr ⟨rfl, hlt⟩
  · refine (pairwise_zipIdx_snd p.units.toList).imp ?_
    intro e e' hlt r hr s hs
    obtain ⟨-, -, rfl⟩ := List.mem_map.mp hr
    obtain ⟨-, -, rfl⟩ := List.mem_map.mp hs
    exact .inl hlt

theorem methodsNamed_nodup (name : String) : (p.methodsNamed name).Nodup := by
  apply (p.methodsNamed_before name).imp
  rintro r s h rfl
  exact MethodRef.Before.irrefl r h

theorem declaresClass_iff {name : String} :
    p.declaresClass name = true ↔ ∃ u ∈ p.units, ∃ c ∈ u.classes, c.name = name := by
  simp only [declaresClass, classNames_index, List.contains_iff_mem, List.mem_flatMap,
    List.mem_map, Array.mem_toList_iff]

theorem declaresClass_eq_any (name : String) :
    p.declaresClass name = p.units.any fun u => u.classes.any (·.name == name) := by
  rw [Bool.eq_iff_iff, declaresClass_iff]
  simp only [Array.any_eq_true', beq_iff_eq]

/-- A package's annotations are the file annotations of its descriptions, in unit order. -/
theorem packageAnnotations_eq (package : Option String) :
    p.packageAnnotations package =
      (p.units.toList.filter fun u =>
        Path.fileName? u.path == some "package-info.java" &&
          u.package.getD "" == package.getD "").flatMap SourceUnit.fileAnnotations := by
  rw [packageAnnotations_scan]
  unfold SourceUnit.isPackageInfo isPackageInfo
  induction p.units.toList with
  | nil => rfl
  | cons u us ih =>
    rw [List.flatMap_cons, ih]
    by_cases hu : (Path.fileName? u.path == some "package-info.java" &&
        u.package.getD "" == package.getD "") = true
    · simp only [hu, if_true, List.filter_cons, List.flatMap_cons]
    · simp only [hu, Bool.false_eq_true, if_false, List.filter_cons, List.nil_append]

/-- The three lookup tables, as one pass over the units fills them: the methods of a name are
all its declarations, by unit and then by place, each once; a name is a declared class when some
unit declares a class of that simple name; and a package's annotations are the file annotations
of the units named `package-info.java` in that package, in unit order, a missing package and the
empty one being the same. -/
theorem lookup_tables_follow_units (name : String) (package : Option String) :
    (∀ r, r ∈ p.methodsNamed name ↔
      ∃ u d, p.units[r.unit]? = some u ∧ u.methods[r.method]? = some d ∧ d.name = name) ∧
    (p.methodsNamed name).Pairwise MethodRef.Before ∧ (p.methodsNamed name).Nodup ∧
    (p.declaresClass name = true ↔ ∃ u ∈ p.units, ∃ c ∈ u.classes, c.name = name) ∧
    p.packageAnnotations package =
      (p.units.toList.filter fun u =>
        Path.fileName? u.path == some "package-info.java" &&
          u.package.getD "" == package.getD "").flatMap SourceUnit.fileAnnotations ∧
    p.packageAnnotations none = p.packageAnnotations (some "") :=
  ⟨fun _ => p.mem_methodsNamed, p.methodsNamed_before name, p.methodsNamed_nodup name,
    p.declaresClass_iff, p.packageAnnotations_eq package, rfl⟩

end Project

end ResultLint
