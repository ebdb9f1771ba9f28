import ResultLint.Proofs.Annotation.Written

/-!
# Bracketed groups of annotations

A file annotation may stand for several: `@file:[A B(x = "1") C]`. The reader splits the group
at blanks outside parentheses and strings, and reads each member alone. It tells strings by
counting quotes, and a quote written inside a string after its backslash counts as well, so the
members around a string that holds a quote are not split apart
(`escaped_quote_joins_members`). Members whose strings hold no quote are split apart, and each
reads as it reads alone (`group_members_read_alone`).

The splitter's state is the parenthesis depth, whether it is inside a string, and the member
read so far, reversed; each kind of character moves it by one equation (`splitGroup_quote`,
`splitGroup_open`, `splitGroup_close`, `splitGroup_blank`, `splitGroup_extend`).
-/

namespace ResultLint
namespace Annotation

/-! ## One character at a time -/

section Step

variable {d : Nat} {s : Bool} {cur : Option (List Char)} {rest : List Char}

/-- A character that opens, closes and splits nothing joins the current member. -/
theorem splitGroup_extend {c : Char} (hq : c ≠ '"') (ho : ¬(c = '(' ∧ (!s) = true))
    (hc : ¬(c = ')' ∧ (!s) = true)) (hb : ¬(Text.isBlank c = true ∧ d = 0 ∧ (!s) = true)) :
    splitGroup (c :: rest) d s cur = splitGroup rest d s (some (c :: cur.getD [])) := by
  rw [splitGroup.eq_2, if_neg hq, if_neg ho, if_neg hc, if_neg hb]

/-- A quote enters or leaves a string. -/
theorem splitGroup_quote :
    splitGroup ('"' :: rest) d s cur = splitGroup rest d (!s) (some ('"' :: cur.getD [])) := by
  rw [splitGroup.eq_2, if_pos rfl]

theorem splitGroup_open :
    splitGroup ('(' :: rest) d false cur =
      splitGroup rest (d + 1) false (some ('(' :: cur.getD [])) := by
  rw [splitGroup.eq_2, if_neg (by decide), if_pos ⟨rfl, rfl⟩]

theorem splitGroup_close :
    splitGroup (')' :: rest) d false cur =
      splitGroup rest (d - 1) false (some (')' :: cur.getD [])) := by
  rw [splitGroup.eq_2, if_neg (by decide), if_neg (by decide), if_pos ⟨rfl, rfl⟩]

/-- A blank outside parentheses and strings ends the current member. -/
theorem splitGroup_blank {c : Char} (hb : Text.isBlank c = true) :
    splitGroup (c :: rest) 0 false cur =
      (cur.map List.reverse).toList ++ splitGroup rest 0 false none := by
  have hq : c ≠ '"' := by
    rintro rfl
    cases hb
  have ho : ¬(c = '(' ∧ (!false) = true) := by
    rintro ⟨rfl, -⟩
    cases hb
  have hc : ¬(c = ')' ∧ (!false) = true) := by
    rintro ⟨rfl, -⟩
    cases hb
  rw [splitGroup.eq_2, if_neg hq, if_neg ho, if_neg hc, if_pos ⟨hb, rfl, rfl⟩]

end Step

/-! ## Runs of characters -/

section Run

variable {d : Nat} {rest : List Char}

theorem splitGroup_word :
    ∀ {cs acc : List Char}, (∀ c ∈ cs, c ≠ '"' ∧ c ≠ '(' ∧ c ≠ ')' ∧ Text.isBlank c = false) →
      splitGroup (cs ++ rest) d false (some acc) = splitGroup rest d false (some (cs.reverse ++ acc))
  | [], _, _ => rfl
  | c :: cs, acc, h => by
    obtain ⟨hq, ho, hc, hb⟩ := h c List.mem_cons_self
    rw [List.cons_append, splitGroup_extend hq (by simp [ho]) (by simp [hc]) (by simp [hb]),
      Option.getD_some, splitGroup_word fun x hx => h x (List.mem_cons_of_mem c hx)]
    simp

theorem splitGroup_in_string :
    ∀ {e acc : List Char}, '"' ∉ e →
      splitGroup (e ++ rest) d true (some acc) = splitGroup rest d true (some (e.reverse ++ acc))
  | [], _, _ => rfl
  | c :: e, acc, h => by
    have hq : c ≠ '"' := fun hc => h (hc ▸ List.mem_cons_self)
    rw [List.cons_append, splitGroup_extend hq (by simp) (by simp) (by simp), Option.getD_some,
      splitGroup_in_string fun he => h (List.mem_cons_of_mem c he)]
    simp

/-- What stands between parentheses and reads as a whole: characters other than quotes and
parentheses, and strings with no quote inside. -/
inductive Enclosed : List Char → Prop where
  | nil : Enclosed []
  | char {c : Char} {cs : List Char} :
      c ≠ '"' → c ≠ '(' → c ≠ ')' → Enclosed cs → Enclosed (c :: cs)
  | string {e cs : List Char} : '"' ∉ e → Enclosed cs → Enclosed ('"' :: (e ++ '"' :: cs))

theorem splitGroup_enclosed {cs : List Char} (h : Enclosed cs) :
    ∀ {acc : List Char}, splitGroup (cs ++ rest) (d + 1) false (some acc) =
      splitGroup rest (d + 1) false (some (cs.reverse ++ acc)) := by
  induction h with
  | nil => intro acc; rfl
  | char hq ho hc _ ih =>
    intro acc
    rw [List.cons_append, splitGroup_extend hq (by simp [ho]) (by simp [hc]) (by simp),
      Option.getD_some, ih]
    simp
  | @string e cs he _ ih =>
    intro acc
    rw [List.cons_append, splitGroup_quote, Option.getD_some, Bool.not_false, List.append_assoc,
      splitGroup_in_string he, List.cons_append, splitGroup_quote, Option.getD_some,
      Bool.not_true, ih]
    simp

end Run

namespace Enclosed

theorem append {a b : List Char} (ha : Enclosed a) (hb : Enclosed b) : Enclosed (a ++ b) := by
  induction ha with
  | nil => exact hb
  | char hq ho hc _ ih => exact char hq ho hc ih
  | string he _ ih =>
    rw [List.cons_append, List.append_assoc, List.cons_append]
    exact string he ih

theorem chars {cs rest : List Char} (h : ∀ c ∈ cs, c ≠ '"' ∧ c ≠ '(' ∧ c ≠ ')')
    (hrest : Enclosed rest) : Enclosed (cs ++ rest) := by
  induction cs with
  | nil => exact hrest
  | cons c cs ih =>
    obtain ⟨hq, ho, hc⟩ := h c List.mem_cons_self
    exact char hq ho hc (ih fun x hx => h x (List.mem_cons_of_mem c hx))

end Enclosed

theorem quote_not_mem_escape {v : List Char} (h : '"' ∉ v) : '"' ∉ escape v := by
  intro hmem
  obtain ⟨c, hc, hin⟩ := List.mem_flatMap.mp hmem
  have hcq : c ≠ '"' := fun hq => h (hq ▸ hc)
  by_cases hs : c = '\\' ∨ c = '"'
  · rw [escapeChar, if_pos hs] at hin
    simp only [List.mem_cons, List.not_mem_nil, or_false] at hin
    rcases hin with hin | hin
    · cases hin
    · exact hcq hin.symm
  · rw [escapeChar, if_neg hs, List.mem_singleton] at hin
    exact hcq hin.symm

theorem word_plain {c : Char} (h : Text.isWordChar c = true) : c ≠ '"' ∧ c ≠ '(' ∧ c ≠ ')' := by
  refine ⟨?_, ?_, ?_⟩ <;> rintro rfl <;> revert h <;> decide

theorem enclosed_writePair {kv : String × String} (hk : IsKey kv.1) (hv : '"' ∉ kv.2.toList)
    {rest : List Char} (hrest : Enclosed rest) : Enclosed (writePair kv ++ rest) := by
  rw [writePair, List.append_assoc]
  refine Enclosed.chars (fun c hc => word_plain (hk.2 c hc)) ?_
  rw [List.cons_append, List.cons_append, List.cons_append, List.cons_append, List.append_assoc]
  exact .char (by decide) (by decide) (by decide) <| .char (by decide) (by decide) (by decide) <|
    .char (by decide) (by decide) (by decide) <| .string (quote_not_mem_escape hv) hrest

/-- The values an annotation is written with. -/
def Arguments.values : Arguments → List String
  | .bare => []
  | .named pairs => pairs.map Prod.snd
  | .positional value => [value]

theorem enclosed_inner {a : Arguments} (hk : ∀ k ∈ a.keys, IsKey k)
    (hv : ∀ v ∈ a.values, '"' ∉ v.toList) {s : List Char} (h : a.inner = some s) :
    Enclosed s := by
  cases a with
  | bare => cases h
  | named kvs =>
    cases h
    induction kvs with
    | nil => exact .nil
    | cons kv kvs ih =>
      have hkv : IsKey kv.1 := hk kv.1 List.mem_cons_self
      have hvv : '"' ∉ kv.2.toList := hv kv.2 List.mem_cons_self
      have ih' := ih (fun k hk' => hk k (List.mem_cons_of_mem _ hk'))
        (fun v hv' => hv v (List.mem_cons_of_mem _ hv'))
      cases kvs with
      | nil => simpa using enclosed_writePair hkv hvv .nil
      | cons kv' kvs =>
        rw [List.map_cons, List.intercalate_cons_of_ne_nil (by simp), List.append_assoc]
        exact enclosed_writePair hkv hvv <|
          .char (by decide) (by decide) (by decide) <| .char (by decide) (by decide) (by decide) ih'
  | positional v =>
    cases h
    simpa using Enclosed.string (quote_not_mem_escape (hv v List.mem_cons_self)) .nil

/-! ## Members -/

namespace Written

/-- The members of a group, written one after another with a blank between them. -/
def members (ws : List Written) : List Char := List.intercalate [' '] (ws.map body)

theorem splitGroup_body {w : Written} (hw : w.Readable) (hv : ∀ v ∈ w.arguments.values, '"' ∉ v.toList)
    (rest : List Char) :
    splitGroup (w.body ++ rest) 0 false none = splitGroup rest 0 false (some w.body.reverse) := by
  obtain ⟨c, name, hname⟩ := List.exists_cons_of_ne_nil (name_toList_ne_nil hw)
  have hplain : ∀ x ∈ w.name.toList, x ≠ '"' ∧ x ≠ '(' ∧ x ≠ ')' ∧ Text.isBlank x = false := by
    intro x hx
    have hb := isBlank_eq_false_of_name (hw.name_chars x hx)
    refine ⟨?_, ?_, ?_, hb⟩ <;> rintro rfl <;>
      rcases hw.name_chars _ hx with h | h <;> revert h <;> decide
  rw [hname] at hplain
  obtain ⟨hq, ho, hc, hb⟩ := hplain c List.mem_cons_self
  have hsplit : w.body ++ rest = c :: (name ++ (w.arguments.text ++ rest)) := by
    simp [body, hname]
  have hrev : w.body.reverse = w.arguments.text.reverse ++ (name.reverse ++ [c]) := by
    simp [body, hname]
  rw [hsplit, hrev, splitGroup_extend hq (by simp [ho]) (by simp [hc]) (by simp [hb]),
    Option.getD_none, splitGroup_word fun x hx => hplain x (List.mem_cons_of_mem c hx)]
  cases hinner : w.arguments.inner with
  | none => simp [Arguments.text_of_inner_none hinner]
  | some s =>
    have henc := enclosed_inner hw.keys hv hinner
    rw [Arguments.text_of_inner_some hinner, List.cons_append, splitGroup_open, Option.getD_some, List.append_assoc,
      splitGroup_enclosed henc, List.singleton_append, splitGroup_close, Option.getD_some]
    simp

/-- Members written with blanks between them are split back into the members. -/
theorem splitGroup_members :
    ∀ {ws : List Written}, ws ≠ [] → (∀ w ∈ ws, w.Readable) →
      (∀ w ∈ ws, ∀ v ∈ w.arguments.values, '"' ∉ v.toList) →
      splitGroup (members ws) 0 false none = ws.map body
  | [], hne, _, _ => absurd rfl hne
  | [w], _, hr, hv => by
    have h := splitGroup_body (hr w List.mem_cons_self) (hv w List.mem_cons_self) []
    rw [List.append_nil] at h
    simp [members, h, splitGroup.eq_1]
  | w :: w' :: ws, _, hr, hv => by
    have hrest := @splitGroup_members (w' :: ws) (List.cons_ne_nil _ _)
      (fun x hx => hr x (List.mem_cons_of_mem w hx)) (fun x hx => hv x (List.mem_cons_of_mem w hx))
    have hsplit : members (w :: w' :: ws) = w.body ++ ' ' :: members (w' :: ws) := by
      rw [members, members, List.map_cons, List.intercalate_cons_of_ne_nil (by simp),
        List.append_assoc, List.singleton_append]
    rw [hsplit, splitGroup_body (hr w List.mem_cons_self) (hv w List.mem_cons_self),
      splitGroup_blank (by decide), hrest]
    simp

end Written

/-- The source text of a group of annotations, with an optional use-site target. -/
def groupText (target : Option String) (ws : List Written) : String :=
  String.ofList ('@' :: (targetText target ++ '[' :: (Written.members ws ++ [']'])))

theorem ofText_eq_group {text : String} {body members : List Char}
    (htext : Text.dropBlanksEnd (Text.dropBlanks text.toList) = '@' :: body)
    (hbody : dropUseSiteTarget body = '[' :: (members ++ [']'])) (imports : List String)
    (package : Option String) :
    ofText text imports package =
      (splitGroup members 0 false none).filterMap (ofMember? · imports package) := by
  have htrim : Text.dropBlanksEnd (members ++ [']']) = members ++ [']'] :=
    dropBlanksEnd_concat members (by decide)
  rw [ofText.eq_1, htext]
  simp only [hbody, htrim, List.getLast?_concat, if_true, List.dropLast_concat]

theorem ofText_groupText {target : Option String} (ws : List Written)
    (htarget : ∀ t ∈ target, ∀ c ∈ t.toList, isNameChar c = true) (imports : List String)
    (package : Option String) :
    ofText (groupText target ws) imports package =
      (splitGroup (Written.members ws) 0 false none).filterMap (ofMember? · imports package) := by
  have htext : Text.dropBlanksEnd (Text.dropBlanks (groupText target ws).toList) =
      '@' :: (targetText target ++ '[' :: (Written.members ws ++ [']'])) := by
    rw [groupText, String.toList_ofList, Text.dropBlanks, List.dropWhile_cons_of_neg (by decide),
      show '@' :: (targetText target ++ '[' :: (Written.members ws ++ [']'])) =
        ('@' :: (targetText target ++ '[' :: Written.members ws)) ++ [']'] by simp,
      dropBlanksEnd_concat _ (by decide)]
  have hdrop : dropUseSiteTarget (targetText target ++ '[' :: (Written.members ws ++ [']'])) =
      '[' :: (Written.members ws ++ [']']) := by
    cases target with
    | none =>
      apply dropUseSiteTarget_of_stop
      rw [targetText, Option.map_none, Option.getD_none, List.nil_append,
        List.dropWhile_cons_of_neg (by decide)]
      intro c hc
      rw [List.head?_cons, Option.mem_some_iff] at hc
      rw [← hc]
      decide
    | some t =>
      rw [targetText, Option.map_some, Option.getD_some, List.append_assoc,
        List.singleton_append, dropUseSiteTarget_target (htarget t rfl), Text.dropBlanks,
        List.dropWhile_cons_of_neg (by decide)]
  exact ofText_eq_group htext hdrop imports package

/-- A group of annotations, with or without a use-site target, whose strings hold no quote,
reads as its members, in order, each the annotation it is when written alone. -/
theorem group_members_read_alone (target : Option String) (ws : List Written) (hne : ws ≠ [])
    (htarget : ∀ t ∈ target, ∀ c ∈ t.toList, isNameChar c = true) (hr : ∀ w ∈ ws, w.Readable)
    (hv : ∀ w ∈ ws, ∀ v ∈ w.arguments.values, '"' ∉ v.toList) (imports : List String)
    (package : Option String) :
    ofText (groupText target ws) imports package = ws.map (·.resolved imports package) ∧
      ∀ w ∈ ws, ofText (w.text none) imports package = [w.resolved imports package] := by
  refine ⟨?_, fun w hw => ofText_text none w (by simp) (hr w hw) imports package⟩
  rw [ofText_groupText ws htarget, Written.splitGroup_members hne hr hv, List.filterMap_map]
  refine (List.filterMap_congr fun w hw => ?_).trans (congrFun List.filterMap_eq_map ws)
  exact Written.ofMember?_body (hr w hw) imports package

/-- The group `@file:[A B(x = "a b") c.D]` of the reader's own tests, split at its two outer
blanks only. -/
theorem group_members_read_alone_file :
    [(⟨"A", .bare⟩ : Written), ⟨"B", .named [("x", "a b")]⟩, ⟨"c.D", .bare⟩] ≠ [] ∧
      (∀ t ∈ some "file", ∀ c ∈ t.toList, isNameChar c = true) ∧
      (∀ w ∈ [(⟨"A", .bare⟩ : Written), ⟨"B", .named [("x", "a b")]⟩, ⟨"c.D", .bare⟩],
        w.Readable) ∧
      (∀ w ∈ [(⟨"A", .bare⟩ : Written), ⟨"B", .named [("x", "a b")]⟩, ⟨"c.D", .bare⟩],
        ∀ v ∈ w.arguments.values, '"' ∉ v.toList) ∧
      (ofText (groupText (some "file")
          [⟨"A", .bare⟩, ⟨"B", .named [("x", "a b")]⟩, ⟨"c.D", .bare⟩]) [] none =
        [(⟨"A", .bare⟩ : Written), ⟨"B", .named [("x", "a b")]⟩, ⟨"c.D", .bare⟩].map
          (·.resolved [] none) ∧
      ∀ w ∈ [(⟨"A", .bare⟩ : Written), ⟨"B", .named [("x", "a b")]⟩, ⟨"c.D", .bare⟩],
        ofText (w.text none) [] none = [w.resolved [] none]) := by
  have hr : ∀ w ∈ [(⟨"A", .bare⟩ : Written), ⟨"B", .named [("x", "a b")]⟩, ⟨"c.D", .bare⟩],
      w.Readable := by
    simp only [List.mem_cons, List.not_mem_nil, or_false, forall_eq_or_imp, forall_eq]
    -- `simp` first splits each test over the characters of a literal into one test per character
    refine ⟨⟨by decide, by simp; decide, fun k hk => by cases hk⟩,
      ⟨by decide, by simp; decide, fun k hk => ?_⟩,
      ⟨by decide, by simp; decide, fun k hk => by cases hk⟩⟩
    simp only [Arguments.keys, List.map_cons, List.map_nil, List.mem_singleton] at hk
    subst hk
    exact ⟨by decide, by simp; decide⟩
  have hv : ∀ w ∈ [(⟨"A", .bare⟩ : Written), ⟨"B", .named [("x", "a b")]⟩, ⟨"c.D", .bare⟩],
      ∀ v ∈ w.arguments.values, '"' ∉ v.toList := by
    intro w hw v hvw
    simp only [List.mem_cons, List.not_mem_nil, or_false] at hw
    rcases hw with rfl | rfl | rfl
    · cases hvw
    · rw [List.mem_singleton.mp hvw]
      decide
    · cases hvw
  have htarget : ∀ t ∈ some "file", ∀ c ∈ t.toList, isNameChar c = true := by simp; decide
  exact ⟨List.cons_ne_nil _ _, htarget, hr, hv,
    group_members_read_alone (some "file") _ (List.cons_ne_nil _ _) htarget hr hv [] none⟩

/-- A string that holds a quote keeps the splitter inside a string past its closing quote and
outside one after it: `@file:[A("\"") B]` reads as the one annotation `A`, and `B` is lost. -/
theorem escaped_quote_joins_members :
    ofText (groupText (some "file") [⟨"A", .positional "\""⟩, ⟨"B", .bare⟩]) [] none =
      [⟨"A", "A", ⟨[("value", "\"")]⟩⟩] := by
  rw [ofText_groupText _ (by simp; decide)]
  have hsplit : splitGroup (Written.members [⟨"A", .positional "\""⟩, ⟨"B", .bare⟩]) 0 false none =
      [['A', '(', '"', '\\', '"', '"', ')', ' ', 'B']] := by
    decide
  have hargs : attributesOf ['"', '\\', '"', '"'] = ⟨[("value", "\"")]⟩ :=
    attributesOf_string "\""
  have hmember : ofMember? ['A', '(', '"', '\\', '"', '"', ')', ' ', 'B'] [] none =
      some ⟨"A", "A", ⟨[("value", "\"")]⟩⟩ := by
    rw [show ['A', '(', '"', '\\', '"', '"', ')', ' ', 'B'] =
        ['A'] ++ '(' :: (['"', '\\', '"', '"'] ++ ')' :: [' ', 'B']) from rfl,
      ofMember?_paren (by simp; decide) (by decide) _ (show ')' ∉ [' ', 'B'] by decide), hargs]
    rfl
  rw [hsplit, List.filterMap_cons, hmember, List.filterMap_nil]

end Annotation
end ResultLint
