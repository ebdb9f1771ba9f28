import ResultLint.Config.Basic

/-!
# Exclude patterns

An exclude pattern is matched against a path's text with a few fixed shapes:

* `*x` without a slash: the path ends in `x`;
* `x*` without a slash: the path starts with `x`;
* `**/d/**`: some directory of the path is exactly `d`;
* `p/**`, `**/s` and `p/**/s`: the path starts with, or has a component run equal to, `p`,
  and ends with, or has a component run starting with, `s`;
* anything else: the path is the pattern.
-/

namespace ResultLint
namespace Glob

/-- Drops every copy of a prefix from the front of a text. -/
def dropPrefixes (p : List Char) (cs : List Char) : List Char :=
  if h : p ≠ [] ∧ p.isPrefixOf cs then dropPrefixes p (cs.drop p.length)
  else cs
termination_by cs.length
decreasing_by
  have hne : p.length ≠ 0 := by simpa using h.1
  have hle : p.length ≤ cs.length := (List.isPrefixOf_iff_prefix.mp h.2).length_le
  simp only [List.length_drop]
  omega

/-- Drops every copy of a suffix from the end of a text. -/
def dropSuffixes (s : List Char) (cs : List Char) : List Char :=
  (dropPrefixes s.reverse cs.reverse).reverse

/-- Whether `sub` occurs in a text. -/
def containsText : List Char → List Char → Bool
  | [], sub => sub.isEmpty
  | c :: rest, sub => sub.isPrefixOf (c :: rest) || containsText rest sub

/-- Splits a text at every occurrence of a separator, scanning left to right. -/
def splitOnText (sep : List Char) (cs : List Char) : List (List Char) :=
  go cs []
where
  go (cs : List Char) (current : List Char) : List (List Char) :=
    match cs with
    | [] => [current.reverse]
    | c :: rest =>
      if h : sep ≠ [] ∧ sep.isPrefixOf (c :: rest) then
        current.reverse :: go ((c :: rest).drop sep.length) []
      else go rest (c :: current)
  termination_by cs.length
  decreasing_by
    all_goals simp_wf
    have hne : sep.length ≠ 0 := by simpa using h.1
    omega

/-- Whether a pattern matches a path's text. -/
def matchesPath (pattern text : String) : Bool :=
  let p := pattern.toList
  let t := text.toList
  let hasSlash := p.contains '/'
  let starts (x : List Char) := x.isPrefixOf t
  let ends (x : List Char) := x.isSuffixOf t
  let has (x : List Char) := containsText t x
  if p.head? = some '*' ∧ !hasSlash then ends p.tail
  else if p.getLast? = some '*' ∧ !hasSlash then starts p.dropLast
  else if containsText p ['*', '*'] then
    if ['*', '*', '/'].isPrefixOf p ∧ ['/', '*', '*'].isSuffixOf p then
      let dir := dropSuffixes ['/', '*', '*'] (dropPrefixes ['*', '*', '/'] p)
      has ('/' :: dir ++ ['/']) || starts (dir ++ ['/'])
    else
      match splitOnText ['*', '*'] p with
      | [before, after] =>
        let pre := dropSuffixes ['/'] before
        let suf := dropPrefixes ['/'] after
        if pre.isEmpty ∧ suf.isEmpty then true
        else if pre.isEmpty then ends suf || has ('/' :: suf)
        else if suf.isEmpty then starts pre || has (pre ++ ['/'])
        else (starts pre || has ('/' :: pre ++ ['/'])) && (ends suf || has ('/' :: suf))
      | _ => t == p
  else t == p

end Glob

namespace Config

/-- Whether a configuration excludes a path, by any of its patterns. -/
def shouldExclude (c : Config) (path : String) : Bool :=
  c.exclude.any fun pattern => Glob.matchesPath pattern path

end Config

end ResultLint
