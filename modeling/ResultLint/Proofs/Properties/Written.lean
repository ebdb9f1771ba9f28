import ResultLint.Proofs.Properties.Reading

/-!
# Writing properties

A list of entries, written as a properties text, reads back as those entries. Each entry is
written as its key, `=` and its value, every character that the reader would take for
something else escaped (`escapeChar`): the backslash, the line breaks, tab and form feed by
their letter escapes, and the separators, the comment marks and every other blank behind a
backslash. An entry may be folded over several lines (`Folded`): it is cut between its escape
units, every line but the last ends in a backslash, and every following line may start with
spaces and tabs. Blank and comment lines (`Filler`) may stand anywhere between the entries.

Reading such a text gives back the entries (`written_entries_read_back`): each key has the
last value written for it, and there are as many entries as distinct keys. The proof follows
the reader's stages: the text is cut into the lines it was written with, each folded entry
joins into the logical line of its entry and the other lines are skipped
(`logicalLines_written`), and a written entry splits at its own `=` into its escaped key and
value, whose escapes resolve to the entry again (`decodeLine_entryLine`).
-/

namespace ResultLint
namespace Properties

/-! ## Escape units -/

/-- How a character of a key or a value is written. -/
def escapeChar (c : Char) : List Char :=
  if c = '\\' then ['\\', '\\']
  else if c = '\n' then ['\\', 'n']
  else if c = '\r' then ['\\', 'r']
  else if c = '\t' then ['\\', 't']
  else if c = '\x0c' then ['\\', 'f']
  else if c = '=' ∨ c = ':' ∨ c = '#' ∨ c = '!' ∨ Text.isBlank c = true then ['\\', c]
  else [c]

theorem escapeChar_cases (c : Char) :
    (escapeChar c = [c] ∧ c ≠ '\\' ∧ c ≠ '=' ∧ c ≠ ':' ∧ c ≠ '#' ∧ c ≠ '!' ∧
        Text.isBlank c = false) ∨
      ∃ x, escapeChar c = ['\\', x] ∧ x ≠ '\n' ∧ x ≠ '\r' ∧
        ∀ rest, unescape ('\\' :: x :: rest) = (c :: ·) <$> unescape rest := by
  unfold escapeChar
  by_cases hbs : c = '\\'
  · subst hbs
    exact .inr ⟨'\\', rfl, by decide, by decide, unescape_escaped (by decide)⟩
  rw [if_neg hbs]
  by_cases hn : c = '\n'
  · subst hn
    exact .inr ⟨'n', rfl, by decide, by decide, fun rest => unescape.eq_3 rest⟩
  rw [if_neg hn]
  by_cases hr : c = '\r'
  · subst hr
    exact .inr ⟨'r', rfl, by decide, by decide, fun rest => unescape.eq_4 rest⟩
  rw [if_neg hr]
  by_cases ht : c = '\t'
  · subst ht
    exact .inr ⟨'t', rfl, by decide, by decide, fun rest => unescape.eq_2 rest⟩
  rw [if_neg ht]
  by_cases hf : c = '\x0c'
  · subst hf
    exact .inr ⟨'f', rfl, by decide, by decide, fun rest => unescape.eq_5 rest⟩
  rw [if_neg hf]
  by_cases hs : c = '=' ∨ c = ':' ∨ c = '#' ∨ c = '!' ∨ Text.isBlank c = true
  · rw [if_pos hs]
    have hletter : c ∉ ['t', 'n', 'r', 'f', 'u'] := by
      simp only [List.mem_cons, List.not_mem_nil, or_false]
      rcases hs with rfl | rfl | rfl | rfl | hb
      all_goals (try decide)
      rintro (rfl | rfl | rfl | rfl | rfl) <;> revert hb <;> decide
    exact .inr ⟨c, rfl, hn, hr, unescape_escaped hletter⟩
  · rw [if_neg hs]
    simp only [not_or, Bool.not_eq_true] at hs
    exact .inl ⟨rfl, hbs, hs.1, hs.2.1, hs.2.2.1, hs.2.2.2.1, hs.2.2.2.2⟩

/-- What the reader needs of a written unit: it starts with a character that is neither blank
nor a comment mark, holds no newline, does not end in a carriage return, and keeps the parity
of a run of backslashes written after it. -/
structure EscapeUnit (u : List Char) : Prop where
  head : ∃ c rest, u = c :: rest ∧ Text.isBlank c = false ∧ c ≠ '#' ∧ c ≠ '!'
  no_newline : '\n' ∉ u
  no_return : u.getLast? ≠ some '\r'
  parity : u = ['\\', '\\'] ∨ trailingBackslashes u = 0

theorem escapeUnit_escapeChar (c : Char) : EscapeUnit (escapeChar c) := by
  rcases escapeChar_cases c with ⟨h, hbs, -, -, hhash, hbang, hblank⟩ | ⟨x, h, hn, hr, -⟩
  · have hn : c ≠ '\n' := by
      rintro rfl
      revert hblank
      decide
    have hr : c ≠ '\r' := by
      rintro rfl
      revert hblank
      decide
    rw [h]
    exact ⟨⟨c, [], rfl, hblank, hhash, hbang⟩, by simpa using hn.symm, by simpa using hr,
      .inr (by simp [hbs])⟩
  · rw [h]
    refine ⟨⟨'\\', [x], rfl, by decide, by decide, by decide⟩, by simp [hn.symm],
      by simpa using hr, ?_⟩
    by_cases hx : x = '\\'
    · exact .inl (by rw [hx])
    · exact .inr (trailingBackslashes_append_of_ne hx ['\\'])

theorem escapeUnit_separator : EscapeUnit ['='] :=
  ⟨⟨'=', [], rfl, by decide, by decide, by decide⟩, by decide, by decide, .inr (by simp)⟩

/-- The escape units an entry is written with: those of its key, the separator `=`, and those
of its value. -/
def units (kv : String × String) : List (List Char) :=
  kv.1.toList.map escapeChar ++ ['='] :: kv.2.toList.map escapeChar

/-- The logical line an entry is written as. -/
def entryLine (kv : String × String) : List Char :=
  kv.1.toList.flatMap escapeChar ++ '=' :: kv.2.toList.flatMap escapeChar

theorem flatten_units (kv : String × String) : (units kv).flatten = entryLine kv := by
  simp [units, entryLine, List.flatMap_def]

theorem escapeUnit_of_mem_units {kv : String × String} {u : List Char} (h : u ∈ units kv) :
    EscapeUnit u := by
  simp only [units, List.mem_append, List.mem_map, List.mem_cons] at h
  rcases h with ⟨c, -, rfl⟩ | rfl | ⟨c, -, rfl⟩
  · exact escapeUnit_escapeChar c
  · exact escapeUnit_separator
  · exact escapeUnit_escapeChar c

section Units

variable {us : List (List Char)}

theorem dropBlanks_flatten_append (hus : ∀ u ∈ us, EscapeUnit u) {t : List Char}
    (ht : Text.dropBlanks t = t) : Text.dropBlanks (us.flatten ++ t) = us.flatten ++ t := by
  cases us with
  | nil => simpa using ht
  | cons u us =>
    obtain ⟨c, rest, rfl, hc, -, -⟩ := (hus u List.mem_cons_self).head
    simp [Text.dropBlanks, hc]

theorem trailingBackslashes_flatten (hus : ∀ u ∈ us, EscapeUnit u) :
    trailingBackslashes us.flatten % 2 = 0 := by
  induction us with
  | nil => rfl
  | cons u us ih =>
    have hrest := ih fun v hv => hus v (List.mem_cons_of_mem u hv)
    rw [List.flatten_cons, trailingBackslashes_append]
    rcases (hus u List.mem_cons_self).parity with rfl | hu
    · have h2 : trailingBackslashes ['\\', '\\'] = 2 := rfl
      rw [h2]
      split <;> omega
    · rw [hu]
      split <;> omega

theorem skipped_flatten_append (hus : ∀ u ∈ us, EscapeUnit u) {t : List Char}
    (ht : t = [] ∨ t = ['\\']) (hne : us ≠ [] ∨ t = ['\\']) :
    skipped (us.flatten ++ t) = false := by
  have htrim : Text.dropBlanks t = t := by rcases ht with rfl | rfl <;> decide
  cases us with
  | nil =>
    rw [hne.resolve_left (by simp)]
    decide
  | cons u us =>
    obtain ⟨c, rest, rfl, hc, hhash, hbang⟩ := (hus u List.mem_cons_self).head
    simp only [skipped, dropBlanks_flatten_append hus htrim]
    simp [hhash, hbang]

theorem not_mem_flatten (hus : ∀ u ∈ us, EscapeUnit u) : '\n' ∉ us.flatten := by
  simp only [List.mem_flatten, not_exists, not_and]
  exact fun u hu => (hus u hu).no_newline

theorem getLast?_flatten_ne (hus : ∀ u ∈ us, EscapeUnit u) : us.flatten.getLast? ≠ some '\r' := by
  induction us with
  | nil => simp
  | cons u us ih =>
    rw [List.flatten_cons, List.getLast?_append]
    cases h : us.flatten.getLast? with
    | none => simpa using (hus u List.mem_cons_self).no_return
    | some x => simpa [h] using ih fun v hv => hus v (List.mem_cons_of_mem u hv)

end Units

/-! ## Folded entries -/

/-- Spaces and tabs, which may start a continued line. -/
def IsIndent (ind : List Char) : Prop := ∀ c ∈ ind, c = ' ' ∨ c = '\t'

theorem dropBlanks_indent_append {ind : List Char} (h : IsIndent ind) (rest : List Char) :
    Text.dropBlanks (ind ++ rest) = Text.dropBlanks rest := by
  induction ind with
  | nil => rfl
  | cons c ind ih =>
    have hc : Text.isBlank c = true := by rcases h c List.mem_cons_self with rfl | rfl <;> decide
    show (c :: (ind ++ rest)).dropWhile Text.isBlank = _
    rw [List.dropWhile_cons_of_pos hc]
    exact ih fun d hd => h d (List.mem_cons_of_mem c hd)

/-- A line the reader's physical lines give back as it is: it holds no newline and does not
end in a carriage return. -/
def Clean (line : List Char) : Prop := '\n' ∉ line ∧ line.getLast? ≠ some '\r'

theorem dropReturn_of_clean {line : List Char} (h : Clean line) : dropReturn line = line := by
  simp [dropReturn, h.2]

theorem map_dropReturn_of_clean {lines : List (List Char)} (h : ∀ l ∈ lines, Clean l) :
    lines.map dropReturn = lines := by
  induction lines with
  | nil => rfl
  | cons l lines ih =>
    rw [List.map_cons, dropReturn_of_clean (h l List.mem_cons_self),
      ih fun l' hl' => h l' (List.mem_cons_of_mem l hl')]

theorem clean_indent_append {ind : List Char} (hind : IsIndent ind) {us : List (List Char)}
    (hus : ∀ u ∈ us, EscapeUnit u) : Clean (ind ++ us.flatten) := by
  have hsp : ∀ c ∈ ind, c ≠ '\n' ∧ c ≠ '\r' := fun c hc => by
    rcases hind c hc with rfl | rfl <;> decide
  refine ⟨?_, ?_⟩
  · simp only [List.mem_append, not_or]
    exact ⟨fun h => (hsp _ h).1 rfl, not_mem_flatten hus⟩
  · rw [List.getLast?_append]
    cases h : us.flatten.getLast? with
    | none =>
      cases hl : ind.getLast? with
      | none => simp
      | some c => simpa using (hsp c (List.mem_of_getLast? hl)).2
    | some x => simpa [h] using getLast?_flatten_ne hus

/-- An entry written over one or more physical lines: its escape units cut into those of its
first line and those of each following line, which starts with spaces and tabs. -/
structure Folded where
  entry : String × String
  first : List (List Char)
  more : List (List Char × List (List Char))
  cut : first ++ (more.map Prod.snd).flatten = units entry
  indented : ∀ m ∈ more, IsIndent m.1

/-- The physical lines of a folded entry from one of its lines on: every line but the last
ends in a backslash, and each following line is an indent and units. -/
def foldedLines (line : List Char) : List (List Char × List (List Char)) → List (List Char)
  | [] => [line]
  | m :: more => (line ++ ['\\']) :: foldedLines (m.1 ++ m.2.flatten) more

theorem length_foldedLines (line : List Char) (more : List (List Char × List (List Char))) :
    (foldedLines line more).length = more.length + 1 := by
  induction more generalizing line with
  | nil => rfl
  | cons m more ih => simp [foldedLines, ih]

theorem clean_foldedLines (more : List (List Char × List (List Char)))
    (hmore : ∀ m ∈ more, IsIndent m.1 ∧ ∀ u ∈ m.2, EscapeUnit u) :
    ∀ {line : List Char}, Clean line → ∀ l ∈ foldedLines line more, Clean l := by
  induction more with
  | nil =>
    intro line hline l hl
    rw [foldedLines, List.mem_singleton] at hl
    exact hl ▸ hline
  | cons m more ih =>
    intro line hline l hl
    rw [foldedLines, List.mem_cons] at hl
    rcases hl with rfl | hl
    · exact ⟨by simpa using hline.1, by simp⟩
    · obtain ⟨hind, hus⟩ := hmore m List.mem_cons_self
      exact ih (fun m' hm' => hmore m' (List.mem_cons_of_mem m hm'))
        (clean_indent_append hind hus) l hl

theorem logicalLines_foldedLines (more : List (List Char × List (List Char)))
    (hmore : ∀ m ∈ more, IsIndent m.1 ∧ ∀ u ∈ m.2, EscapeUnit u) :
    ∀ {ind : List Char} {us : List (List Char)}, IsIndent ind → (∀ u ∈ us, EscapeUnit u) →
      ∀ (rest : List (List Char)) (number first : Nat) (text : List Char),
      logicalLines (foldedLines (ind ++ us.flatten) more ++ rest) number (some (first, text)) =
        (first, text ++ us.flatten ++ (more.map Prod.snd).flatten.flatten) ::
          logicalLines rest (number + more.length + 1) none := by
  induction more with
  | nil =>
    intro ind us hind hus rest number first text
    have hline : Text.dropBlanks (ind ++ us.flatten) = us.flatten := by
      rw [dropBlanks_indent_append hind]
      simpa using dropBlanks_flatten_append hus (t := []) rfl
    have hend : continues us.flatten = false := by
      simp [continues_eq, trailingBackslashes_flatten hus]
    rw [foldedLines, List.singleton_append, logicalLines_pending, hline, hend]
    simp
  | cons m more ih =>
    intro ind us hind hus rest number first text
    have hline : Text.dropBlanks (ind ++ us.flatten ++ ['\\']) = us.flatten ++ ['\\'] := by
      rw [List.append_assoc, dropBlanks_indent_append hind,
        dropBlanks_flatten_append hus (by decide)]
    have hgo : continues (us.flatten ++ ['\\']) = true := by
      have heven := trailingBackslashes_flatten hus
      simp only [continues_eq, trailingBackslashes_append_backslash, decide_eq_true_eq]
      omega
    obtain ⟨hind', hus'⟩ := hmore m List.mem_cons_self
    rw [foldedLines, List.cons_append, logicalLines_pending, hline, hgo, if_pos rfl,
      List.dropLast_concat, ih (fun m' hm' => hmore m' (List.mem_cons_of_mem m hm')) hind' hus']
    simp only [List.map_cons, List.flatten_cons, List.flatten_append, List.append_assoc,
      List.length_cons]
    rw [show number + 1 + more.length + 1 = number + (more.length + 1) + 1 by omega]

theorem logicalLines_foldedLines_start {us : List (List Char)} (hus : ∀ u ∈ us, EscapeUnit u)
    (more : List (List Char × List (List Char)))
    (hmore : ∀ m ∈ more, IsIndent m.1 ∧ ∀ u ∈ m.2, EscapeUnit u) (hne : us ≠ [] ∨ more ≠ [])
    (rest : List (List Char)) (number : Nat) :
    logicalLines (foldedLines us.flatten more ++ rest) number none =
      (number, us.flatten ++ (more.map Prod.snd).flatten.flatten) ::
        logicalLines rest (number + more.length + 1) none := by
  have hstart : ∃ raw tail, foldedLines us.flatten more ++ rest = raw :: tail ∧
      skipped raw = false := by
    cases more with
    | nil =>
      refine ⟨_, _, rfl, ?_⟩
      simpa using skipped_flatten_append hus (.inl rfl) (.inl (hne.resolve_right (by simp)))
    | cons m more => exact ⟨_, _, rfl, skipped_flatten_append hus (.inr rfl) (.inr rfl)⟩
  obtain ⟨raw, tail, heq, hraw⟩ := hstart
  rw [heq, logicalLines_start hraw, ← heq]
  simpa using logicalLines_foldedLines more hmore (show IsIndent [] from fun _ h => nomatch h) hus rest
    number number []

namespace Folded

/-- The physical lines of a folded entry. -/
def lines (f : Folded) : List (List Char) := foldedLines f.first.flatten f.more

theorem escapeUnit_first (f : Folded) : ∀ u ∈ f.first, EscapeUnit u :=
  fun _ hu => escapeUnit_of_mem_units (f.cut ▸ List.mem_append_left _ hu)

theorem more_wellFormed (f : Folded) : ∀ m ∈ f.more, IsIndent m.1 ∧ ∀ u ∈ m.2, EscapeUnit u := by
  intro m hm
  refine ⟨f.indented m hm, fun u hu => ?_⟩
  have hunit : u ∈ units f.entry := by
    rw [← f.cut]
    exact List.mem_append_right _ (List.mem_flatten.mpr ⟨m.2, List.mem_map_of_mem hm, hu⟩)
  exact escapeUnit_of_mem_units hunit

theorem clean_lines (f : Folded) : ∀ l ∈ f.lines, Clean l :=
  clean_foldedLines f.more f.more_wellFormed
    (by simpa using clean_indent_append (show IsIndent [] from fun _ h => nomatch h) f.escapeUnit_first)

/-- A folded entry reads as the logical line of its entry, numbered by its first line. -/
theorem logicalLines_lines (f : Folded) (rest : List (List Char)) (number : Nat) :
    logicalLines (f.lines ++ rest) number none =
      (number, entryLine f.entry) :: logicalLines rest (number + f.lines.length) none := by
  have hne : f.first ≠ [] ∨ f.more ≠ [] := by
    by_contra h
    simp only [ne_eq, not_or, not_not] at h
    have hcut := f.cut
    simp [h.1, h.2, units] at hcut
  rw [lines, logicalLines_foldedLines_start f.escapeUnit_first f.more f.more_wellFormed hne,
    length_foldedLines, ← List.flatten_append, f.cut, flatten_units, Nat.add_assoc]

end Folded

/-! ## Written texts -/

/-- A line of a written text that holds no entry: blank, or a comment. -/
structure Filler where
  text : List Char
  no_newline : '\n' ∉ text
  blank_or_comment : skipped text = true

/-- A piece of a written text: a line that holds no entry, or an entry over one or more
lines. -/
inductive Block where
  | filler (f : Filler)
  | entry (f : Folded)

namespace Block

/-- The physical lines of a block. -/
def lines : Block → List (List Char)
  | filler f => [f.text]
  | entry f => f.lines

/-- The entry a block writes, if any. -/
def written? : Block → Option (String × String)
  | filler _ => none
  | entry f => some f.entry

theorem lines_ne_nil : ∀ b : Block, b.lines ≠ []
  | filler _ => List.cons_ne_nil _ _
  | entry f => by simp [lines, Folded.lines, ← List.length_pos_iff, length_foldedLines]

theorem not_mem_lines : ∀ b : Block, ∀ l ∈ b.lines, '\n' ∉ l
  | filler f, l, hl => by
    rw [lines, List.mem_singleton] at hl
    exact hl ▸ f.no_newline
  | entry f, l, hl => (f.clean_lines l hl).1

end Block

/-- The entries a list of blocks writes, in order. -/
def writtenEntries (bs : List Block) : List (String × String) := bs.filterMap Block.written?

/-- The text of a list of blocks: their lines joined by newlines. -/
def written (bs : List Block) : String :=
  String.ofList (['\n'].intercalate (bs.flatMap Block.lines))

theorem intercalate_append {sep : List Char} {A : List (List Char)} (B : List (List Char))
    (hA : A ≠ []) (hB : B ≠ []) :
    sep.intercalate (A ++ B) = sep.intercalate A ++ sep ++ sep.intercalate B := by
  induction A with
  | nil => exact absurd rfl hA
  | cons a A ih =>
    cases A with
    | nil =>
      rw [List.singleton_append, List.intercalate_cons_of_ne_nil hB, List.intercalate_singleton]
    | cons a' A =>
      rw [List.cons_append,
        List.intercalate_cons_of_ne_nil (List.append_ne_nil_of_left_ne_nil (List.cons_ne_nil a' A) B),
        ih (List.cons_ne_nil _ _), List.intercalate_cons_of_ne_nil (List.cons_ne_nil a' A)]
      simp

theorem splitLines_intercalate_append (rest : List Char) :
    ∀ {L : List (List Char)}, (∀ l ∈ L, '\n' ∉ l) → L ≠ [] →
      splitLines (['\n'].intercalate L ++ '\n' :: rest) [] = L.map dropReturn ++ splitLines rest []
  | [], _, hne => absurd rfl hne
  | [l], hL, _ => by
    rw [List.intercalate_singleton, splitLines_line (hL l List.mem_cons_self)]
    rfl
  | l :: l' :: L, hL, _ => by
    rw [List.intercalate_cons_cons, List.append_assoc, List.append_assoc, List.singleton_append,
      splitLines_line (hL l List.mem_cons_self),
      splitLines_intercalate_append rest (fun x hx => hL x (List.mem_cons_of_mem l hx))
        (List.cons_ne_nil _ _)]
    rfl

theorem splitLines_intercalate :
    ∀ {L : List (List Char)}, (∀ l ∈ L, '\n' ∉ l) → ∀ (hne : L ≠ []),
      splitLines (['\n'].intercalate L) [] = L.dropLast.map dropReturn ++ splitLines (L.getLast hne) []
  | [], _, hne => absurd rfl hne
  | [l], _, _ => by simp
  | l :: l' :: L, hL, _ => by
    rw [List.intercalate_cons_cons, List.append_assoc, List.singleton_append,
      splitLines_line (hL l List.mem_cons_self),
      splitLines_intercalate (fun x hx => hL x (List.mem_cons_of_mem l hx)) (List.cons_ne_nil _ _)]
    simp

theorem logicalLines_block_append (b : Block) (rest : List Char) (number : Nat) :
    logicalLines (splitLines (['\n'].intercalate b.lines ++ '\n' :: rest) []) number none =
      (b.written?.map fun kv => (number, entryLine kv)).toList ++
        logicalLines (splitLines rest []) (number + b.lines.length) none := by
  rw [splitLines_intercalate_append rest b.not_mem_lines b.lines_ne_nil]
  cases b with
  | filler f =>
    simp only [Block.lines, List.map_cons, List.map_nil, List.cons_append, List.nil_append]
    rw [logicalLines_skipped (skipped_dropReturn f.blank_or_comment)]
    rfl
  | entry f =>
    rw [Block.lines, map_dropReturn_of_clean f.clean_lines, f.logicalLines_lines]
    rfl

theorem logicalLines_block_last (b : Block) (number : Nat) :
    logicalLines (splitLines (['\n'].intercalate b.lines) []) number none =
      (b.written?.map fun kv => (number, entryLine kv)).toList := by
  rw [splitLines_intercalate b.not_mem_lines b.lines_ne_nil]
  cases b with
  | filler f =>
    simp only [Block.lines, List.dropLast_singleton, List.map_nil, List.nil_append,
      List.getLast_singleton, splitLines_last f.no_newline]
    split
    · rfl
    · rw [logicalLines_skipped f.blank_or_comment]
      rfl
  | entry f =>
    have hne := Block.lines_ne_nil (.entry f)
    have hclean := f.clean_lines
    simp only [Block.lines] at hne ⊢
    rw [map_dropReturn_of_clean fun l hl => hclean l (List.dropLast_subset _ hl),
      splitLines_last (hclean _ (List.getLast_mem hne)).1]
    -- an empty last line is dropped, which is as if it were read: it only ends the entry
    have hread : logicalLines (f.lines.dropLast ++ [f.lines.getLast hne]) number none =
        [(number, entryLine f.entry)] := by
      rw [List.dropLast_append_getLast, ← List.append_nil f.lines, f.logicalLines_lines]
      rfl
    split
    · next hempty =>
      rw [List.append_nil, ← logicalLines_append_empty, ← hempty, hread]
      rfl
    · rw [hread]
      rfl

/-- The logical lines of a written text are the lines of its entries, in order. -/
theorem logicalLines_written (bs : List Block) (number : Nat) :
    (logicalLines (splitLines (['\n'].intercalate (bs.flatMap Block.lines)) []) number none).map
        Prod.snd = (writtenEntries bs).map entryLine := by
  induction bs generalizing number with
  | nil => rfl
  | cons b bs ih =>
    cases bs with
    | nil =>
      rw [List.flatMap_cons, List.flatMap_nil, List.append_nil, logicalLines_block_last]
      cases h : b.written? <;> simp [writtenEntries, h]
    | cons b' bs' =>
      have hrest : (b' :: bs').flatMap Block.lines ≠ [] := by
        simp [List.flatMap_cons, b'.lines_ne_nil]
      rw [List.flatMap_cons, intercalate_append _ b.lines_ne_nil hrest, List.append_assoc,
        List.singleton_append, logicalLines_block_append, List.map_append, ih]
      cases h : b.written? <;> simp [writtenEntries, h]

/-! ## Reading back -/

theorem splitEntry_flatMap_escapeChar (cs : List Char) (rest key : List Char) :
    splitEntry (cs.flatMap escapeChar ++ rest) false key =
      splitEntry rest false ((cs.flatMap escapeChar).reverse ++ key) := by
  induction cs generalizing key with
  | nil => rfl
  | cons c cs ih =>
    rw [List.flatMap_cons, List.append_assoc]
    rcases escapeChar_cases c with ⟨h, hbs, heq, hcolon, -, -, hblank⟩ | ⟨x, h, -, -, -⟩
    · rw [h, List.singleton_append, splitEntry_plain hbs heq hcolon hblank, ih]
      simp
    · rw [h, List.cons_append, List.cons_append, List.nil_append, splitEntry_escaped, ih]
      simp

theorem unescape_flatMap_escapeChar (cs : List Char) :
    unescape (cs.flatMap escapeChar) = some cs := by
  induction cs with
  | nil => rfl
  | cons c cs ih =>
    rw [List.flatMap_cons]
    rcases escapeChar_cases c with ⟨h, hbs, -⟩ | ⟨x, h, -, -, hx⟩
    · rw [h, List.singleton_append, unescape_plain hbs, ih]
      rfl
    · rw [h, List.cons_append, List.cons_append, List.nil_append, hx, ih]
      rfl

/-- The logical line of an entry splits at its own `=` and decodes to the entry. -/
theorem decodeLine_entryLine (kv : String × String) : decodeLine (entryLine kv) = some kv := by
  have hvalue : Text.dropBlanks (kv.2.toList.flatMap escapeChar) = kv.2.toList.flatMap escapeChar := by
    have hus : ∀ u ∈ kv.2.toList.map escapeChar, EscapeUnit u := fun u hu => by
      obtain ⟨c, -, rfl⟩ := List.mem_map.mp hu
      exact escapeUnit_escapeChar c
    simpa [List.flatMap_def] using dropBlanks_flatten_append hus (t := []) rfl
  have hsplit : splitEntry (entryLine kv) false [] =
      (kv.1.toList.flatMap escapeChar, kv.2.toList.flatMap escapeChar) := by
    rw [entryLine, splitEntry_flatMap_escapeChar, splitEntry_separator, hvalue]
    simp
  simp [decodeLine, hsplit, unescape_flatMap_escapeChar]

/-- A written text reads back as its entries: each key has the last value written for it, and
there are as many entries as distinct keys. -/
theorem written_entries_read_back (bs : List Block) :
    ∃ p, parse (written bs) = .ok p ∧
      (∀ k, p.get? k = (writtenEntries bs).reverse.lookup k) ∧
      p.size = ((writtenEntries bs).map Prod.fst).dedup.length := by
  have hlines : (logical (written bs)).map Prod.snd = (writtenEntries bs).map entryLine := by
    simpa [logical, written] using logicalLines_written bs 1
  -- every logical line is the line of an entry, which decodes to that entry
  have hpairs : (logical (written bs)).filterMap (decodeLine ·.2) = writtenEntries bs := by
    rw [show (fun ln : Nat × List Char => decodeLine ln.2) = decodeLine ∘ Prod.snd from rfl,
      ← List.filterMap_map, hlines, List.filterMap_map]
    simp [decodeLine_entryLine]
  have hdecodes : ∀ ln ∈ logical (written bs), (decodeLine ln.2).isSome := by
    intro ln hln
    have hmem : ln.2 ∈ (writtenEntries bs).map entryLine := hlines ▸ List.mem_map_of_mem hln
    obtain ⟨kv, -, hkv⟩ := List.mem_map.mp hmem
    simp [← hkv, decodeLine_entryLine]
  refine ⟨_, parse_eq_ok hdecodes, fun k => ?_, ?_⟩
  · simp only [Properties.get?, hpairs, Dictionary.get?_ofList]
  · simp only [Properties.size, hpairs, Dictionary.size_ofList]

-- an entry with a blank in its key and a separator in its value, folded after its `=` and
-- indented by a tab, below a comment line
example :
    written [.filler ⟨"# c".toList, by decide, by decide⟩,
        .entry ⟨("a b", "c=d"), [['a'], ['\\', ' '], ['b'], ['=']],
          [(['\t'], [['c'], ['\\', '='], ['d']])], by decide, by simp [IsIndent]⟩] =
      "# c\na\\ b=\\\n\tc\\=d" ∧
    parse "# c\na\\ b=\\\n\tc\\=d" = .ok ⟨Dictionary.ofList [("a b", "c=d")]⟩ := by
  decide

end Properties
end ResultLint
