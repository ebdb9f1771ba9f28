import ResultLint.Path
import ResultLint.Proofs.Config.Patterns

/-!
# Exclusion and the project root

A walk hands each file it finds to the exclude patterns as the root joined to the file's path
inside the project, and each pattern is matched against that whole text. Two pattern shapes
read the root only through its components:

* a suffix pattern `*x`, with no slash in `x`, never reaches across the slash before the file's
  path, so it sees that path alone (`Path.suffix_join_iff`);
* a directory pattern `**/d/**` asks for a directory named `d`, and the directories of a joined
  path are the root's components followed by the directories of the path inside the project
  (`Path.mem_directories_join_iff`).

So, for a configuration of such patterns, a file is excluded exactly when the path inside the
project is, or a directory pattern names a component of the root
(`Config.shouldExclude_join_iff`). The default patterns are all directory patterns: a project
placed under a directory named `build` has every file excluded (`build_root_excludes_sources`).
-/

namespace ResultLint

namespace Path

theorem join_cases {r p : String} (hp : p.toList.head? ≠ some '/') :
    (r.toList = [] ∧ join r p = p) ∨
      ∃ r0, (r.toList = r0 ∨ r.toList = r0 ++ ['/']) ∧ (join r p).toList = r0 ++ '/' :: p.toList := by
  unfold join
  rw [if_neg hp]
  by_cases hempty : r.isEmpty
  · rw [if_pos hempty]
    exact .inl ⟨String.toList_eq_nil_iff.mpr (String.isEmpty_iff.mp hempty), rfl⟩
  rw [if_neg hempty]
  by_cases hlast : r.toList.getLast? = some '/'
  · rw [if_pos hlast]
    obtain ⟨r0, hr⟩ := List.getLast?_eq_some_iff.mp hlast
    refine .inr ⟨r0, .inr hr, ?_⟩
    rw [String.toList_append, hr, List.append_assoc, List.singleton_append]
  · rw [if_neg hlast]
    exact .inr ⟨r.toList, .inl rfl, by simp⟩

theorem suffix_append_slash_iff {x : List Char} (hx : '/' ∉ x) (r0 p : List Char) :
    x <:+ r0 ++ '/' :: p ↔ x <:+ p := by
  have hpre : p <:+ r0 ++ '/' :: p := by simpa using List.suffix_append (r0 ++ ['/']) p
  refine ⟨fun h => ?_, fun h => h.trans hpre⟩
  by_cases hle : x.length ≤ p.length
  · exact List.suffix_of_suffix_length_le h hpre hle
  obtain ⟨y, rfl⟩ := List.suffix_of_suffix_length_le hpre h (by omega)
  obtain ⟨t, ht⟩ := h
  have hty : t ++ y = r0 ++ ['/'] :=
    List.append_cancel_right (show (t ++ y) ++ p = (r0 ++ ['/']) ++ p by simpa using ht)
  have hy : y ≠ [] := by
    rintro rfl
    simp at hle
  obtain ⟨z, hz⟩ := Option.ne_none_iff_exists'.mp (mt List.getLast?_eq_none_iff.mp hy)
  have hz' : z = '/' := by
    have := congrArg List.getLast? hty
    rw [List.getLast?_append, hz, List.getLast?_append] at this
    simpa using this
  exact absurd (List.mem_append_left p (hz' ▸ List.mem_of_getLast? hz)) hx

/-- A suffix without a slash ends a joined path exactly when it ends the path inside the
root. -/
theorem suffix_join_iff {x : List Char} (hx : '/' ∉ x) (r : String) {p : String}
    (hp : p.toList.head? ≠ some '/') : x <:+ (join r p).toList ↔ x <:+ p.toList := by
  rcases join_cases (r := r) hp with ⟨-, h⟩ | ⟨r0, -, h⟩
  · rw [h]
  · rw [h, suffix_append_slash_iff hx]

theorem directories_append_slash (r0 p : List Char) :
    ((r0 ++ '/' :: p).splitOn '/').dropLast = r0.splitOn '/' ++ (p.splitOn '/').dropLast := by
  rw [List.splitOn_append_cons_self, List.dropLast_append_of_ne_nil (List.splitOn_ne_nil _ _)]

/-- A non-empty name is a directory of a joined path exactly when it is a component of the root
or a directory of the path inside it. -/
theorem mem_directories_join_iff {d : List Char} (hd : d ≠ []) (r : String) {p : String}
    (hp : p.toList.head? ≠ some '/') :
    d ∈ ((join r p).toList.splitOn '/').dropLast ↔
      d ∈ r.toList.splitOn '/' ∨ d ∈ (p.toList.splitOn '/').dropLast := by
  rcases join_cases (r := r) hp with ⟨hr, h⟩ | ⟨r0, hr | hr, h⟩
  · simp [h, hr, hd]
  · rw [h, directories_append_slash, List.mem_append, hr]
  · rw [h, directories_append_slash, List.mem_append, hr,
      show r0 ++ ['/'] = r0 ++ '/' :: [] from rfl, List.splitOn_append_cons_self]
    simp [hd]

end Path

namespace Glob

/-- The pattern shapes whose verdict on a joined path reads the root only through its
components: a suffix `*x` and a directory pattern `**/d/**`. -/
inductive ComponentPattern : String → Prop
  | suffix {x : String} (hslash : '/' ∉ x.toList) : ComponentPattern ("*" ++ x)
  | directory {d : String} (hne : d.toList ≠ []) (hslash : '/' ∉ d.toList)
      (hstar : '*' ∉ d.toList) : ComponentPattern ("**/" ++ d ++ "/**")

theorem matchesPath_suffix {x : String} (hslash : '/' ∉ x.toList) (t : String) :
    matchesPath ("*" ++ x) t = x.toList.isSuffixOf t.toList := by
  have hp : ("*" ++ x).toList = '*' :: x.toList := by simp
  have hnot : ('*' :: x.toList).contains '/' = false := by simpa using hslash
  simp only [matchesPath, hp, hnot, List.head?_cons, List.tail_cons, Bool.not_false, and_self,
    ↓reduceIte]

theorem matchesPath_directory_iff {d : String} (hslash : '/' ∉ d.toList) (hstar : '*' ∉ d.toList)
    (t : String) :
    matchesPath ("**/" ++ d ++ "/**") t = true ↔ d.toList ∈ (t.toList.splitOn '/').dropLast := by
  rw [matchesPath_directory hstar, mem_dropLast_splitOn_iff hslash, Bool.or_eq_true,
    containsText_eq_true_iff, List.isPrefixOf_iff_prefix, or_comm]

theorem directory_text_injective {d e : String}
    (h : "**/" ++ d ++ "/**" = "**/" ++ e ++ "/**") : d = e := by
  have hl := congrArg String.toList h
  simp only [String.toList_append, List.append_assoc] at hl
  exact String.toList_inj.mp (List.append_cancel_right (List.append_cancel_left hl))

theorem suffix_ne_directory {x d : String} (hslash : '/' ∉ x.toList) :
    "*" ++ x ≠ "**/" ++ d ++ "/**" := by
  intro h
  have hl := congrArg String.toList h
  simp only [String.toList_append] at hl
  have hx : x.toList = '*' :: '/' :: (d.toList ++ "/**".toList) := by simpa using hl
  exact hslash (by simp [hx])

variable {pat : String}

/-- A component pattern matches a joined path exactly when it matches the path inside the
root, or it is a directory pattern naming a component of the root. -/
theorem ComponentPattern.matchesPath_join_iff (h : ComponentPattern pat) (r : String) {p : String}
    (hp : p.toList.head? ≠ some '/') :
    matchesPath pat (Path.join r p) = true ↔
      matchesPath pat p = true ∨ ∃ d, pat = "**/" ++ d ++ "/**" ∧ d.toList ∈ r.toList.splitOn '/' := by
  cases h with
  | suffix hslash =>
    rw [matchesPath_suffix hslash, matchesPath_suffix hslash, List.isSuffixOf_iff_suffix,
      List.isSuffixOf_iff_suffix, Path.suffix_join_iff hslash r hp]
    refine ⟨.inl, ?_⟩
    rintro (h | ⟨d, hd, -⟩)
    · exact h
    · exact absurd hd (suffix_ne_directory hslash)
  | directory hne hslash hstar =>
    rw [matchesPath_directory_iff hslash hstar, matchesPath_directory_iff hslash hstar,
      Path.mem_directories_join_iff hne r hp]
    constructor
    · rintro (h | h)
      · exact .inr ⟨_, rfl, h⟩
      · exact .inl h
    · rintro (h | ⟨e, he, h⟩)
      · exact .inr h
      · exact .inl (directory_text_injective he ▸ h)

end Glob

namespace Config

variable {c : Config}

/-- For a configuration of component patterns, a file under a root is excluded exactly when
its path inside the root is, or a directory pattern names a component of the root. -/
theorem shouldExclude_join_iff (hc : ∀ pat ∈ c.exclude, Glob.ComponentPattern pat) (r : String)
    {p : String} (hp : p.toList.head? ≠ some '/') :
    c.shouldExclude (Path.join r p) = true ↔
      c.shouldExclude p = true ∨
        ∃ d, "**/" ++ d ++ "/**" ∈ c.exclude ∧ d.toList ∈ r.toList.splitOn '/' := by
  simp only [shouldExclude, List.any_eq_true]
  constructor
  · rintro ⟨pat, hmem, hm⟩
    rcases ((hc pat hmem).matchesPath_join_iff r hp).mp hm with h | ⟨d, rfl, hd⟩
    · exact .inl ⟨pat, hmem, h⟩
    · exact .inr ⟨d, hmem, hd⟩
  · rintro (⟨pat, hmem, hm⟩ | ⟨d, hmem, hd⟩)
    · exact ⟨pat, hmem, ((hc pat hmem).matchesPath_join_iff r hp).mpr (.inl hm)⟩
    · exact ⟨_, hmem, ((hc _ hmem).matchesPath_join_iff r hp).mpr (.inr ⟨d, rfl, hd⟩)⟩

/-- Under a root that no directory pattern names a component of, exclusion is that of the path
inside the root. -/
theorem shouldExclude_join_of_not_mem (hc : ∀ pat ∈ c.exclude, Glob.ComponentPattern pat)
    {r p : String} (hp : p.toList.head? ≠ some '/')
    (hr : ∀ d, "**/" ++ d ++ "/**" ∈ c.exclude → d.toList ∉ r.toList.splitOn '/') :
    c.shouldExclude (Path.join r p) = c.shouldExclude p := by
  apply Bool.eq_iff_iff.mpr
  rw [shouldExclude_join_iff hc r hp]
  refine ⟨fun h => h.resolve_right ?_, .inl⟩
  rintro ⟨d, hd, hdr⟩
  exact hr d hd hdr

end Config

/-- The directory names of the default exclude patterns. -/
def defaultExcludedDirectories : List String := ["build", "generated", ".gradle", ".idea"]

theorem defaultExcludes_eq :
    defaultExcludes = defaultExcludedDirectories.map fun d => "**/" ++ d ++ "/**" := by
  decide

theorem defaultExcludedDirectories_plain :
    ∀ d ∈ defaultExcludedDirectories, d.toList ≠ [] ∧ '/' ∉ d.toList ∧ '*' ∉ d.toList := by
  decide

theorem defaultExcludes_componentPatterns : ∀ pat ∈ defaultExcludes, Glob.ComponentPattern pat := by
  rw [defaultExcludes_eq]
  intro pat hpat
  obtain ⟨d, hd, rfl⟩ := List.mem_map.mp hpat
  obtain ⟨hne, hslash, hstar⟩ := defaultExcludedDirectories_plain d hd
  exact .directory hne hslash hstar

theorem directory_mem_defaultExcludes_iff {d : String} :
    "**/" ++ d ++ "/**" ∈ defaultExcludes ↔ d ∈ defaultExcludedDirectories := by
  rw [defaultExcludes_eq, List.mem_map]
  constructor
  · rintro ⟨e, he, hed⟩
    exact Glob.directory_text_injective hed ▸ he
  · exact fun hd => ⟨d, hd, rfl⟩

/-- Exclusion is decided on the whole joined path, root included. For a configuration of
suffix and directory patterns, a file under a root is excluded exactly when its path inside
the root is or a directory pattern names a component of the root; so two roots, neither with a
component that a directory pattern names, give every file the same verdict. -/
theorem exclusion_reads_root_directories (c : Config)
    (hc : ∀ pat ∈ c.exclude, Glob.ComponentPattern pat) (r r' p : String)
    (hp : p.toList.head? ≠ some '/') :
    (c.shouldExclude (Path.join r p) = true ↔
        c.shouldExclude p = true ∨
          ∃ d, "**/" ++ d ++ "/**" ∈ c.exclude ∧ d.toList ∈ r.toList.splitOn '/') ∧
      ((∀ d, "**/" ++ d ++ "/**" ∈ c.exclude → d.toList ∉ r.toList.splitOn '/') →
        (∀ d, "**/" ++ d ++ "/**" ∈ c.exclude → d.toList ∉ r'.toList.splitOn '/') →
        c.shouldExclude (Path.join r p) = c.shouldExclude (Path.join r' p)) := by
  refine ⟨Config.shouldExclude_join_iff hc r hp, fun hr hr' => ?_⟩
  rw [Config.shouldExclude_join_of_not_mem hc hp hr, Config.shouldExclude_join_of_not_mem hc hp hr']

/-- With the default patterns, two roots with no directory named as a default give a file the
same verdict. -/
theorem default_exclusion_same_under_plain_roots :
    (∀ pat ∈ ({} : Config).exclude, Glob.ComponentPattern pat) ∧
      "build/A.kt".toList.head? ≠ some '/' ∧
      ({} : Config).shouldExclude (Path.join "/home/ci/app" "build/A.kt") =
        ({} : Config).shouldExclude (Path.join "/tmp/x" "build/A.kt") := by
  have hplain (r : String) (hr : ∀ e ∈ defaultExcludedDirectories, e.toList ∉ r.toList.splitOn '/') :
      ∀ d, "**/" ++ d ++ "/**" ∈ ({} : Config).exclude → d.toList ∉ r.toList.splitOn '/' :=
    fun d hd => hr d (directory_mem_defaultExcludes_iff.mp hd)
  exact ⟨defaultExcludes_componentPatterns, by decide,
    (exclusion_reads_root_directories {} defaultExcludes_componentPatterns "/home/ci/app" "/tmp/x"
      "build/A.kt" (by decide)).2 (hplain _ (by decide)) (hplain _ (by decide))⟩

/-- A project under `/tmp/build` has its file `A.kt` excluded by the default patterns, and the
same project under `/tmp/x` does not. -/
theorem build_root_excludes_sources :
    ({} : Config).shouldExclude (Path.join "/tmp/build" "A.kt") = true ∧
      ({} : Config).shouldExclude (Path.join "/tmp/x" "A.kt") = false := by
  have hjoin : ∀ r : String, ({} : Config).shouldExclude (Path.join r "A.kt") = true ↔
      ∃ d, "**/" ++ d ++ "/**" ∈ defaultExcludes ∧ d.toList ∈ r.toList.splitOn '/' := by
    intro r
    rw [Config.shouldExclude_join_iff defaultExcludes_componentPatterns r (by decide)]
    have hfile : ({} : Config).shouldExclude "A.kt" = false := by
      simp only [Config.shouldExclude, List.any_eq_false]
      intro pat hpat
      rw [defaultExcludes_eq] at hpat
      obtain ⟨d, hd, rfl⟩ := List.mem_map.mp hpat
      obtain ⟨-, hslash, hstar⟩ := defaultExcludedDirectories_plain d hd
      rw [Glob.matchesPath_directory_iff hslash hstar,
        show ("A.kt".toList.splitOn '/').dropLast = [] by decide]
      exact List.not_mem_nil
    simp [hfile]
  refine ⟨(hjoin _).mpr ⟨"build", by decide, by decide⟩, Bool.eq_false_iff.mpr fun h => ?_⟩
  obtain ⟨d, hd, hdr⟩ := (hjoin _).mp h
  have hnone : ∀ e ∈ defaultExcludedDirectories, e.toList ∉ "/tmp/x".toList.splitOn '/' := by
    decide
  exact hnone d (directory_mem_defaultExcludes_iff.mp hd) hdr

end ResultLint
