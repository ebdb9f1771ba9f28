import ResultLint.Properties
import ResultLint.Proofs.Dictionary.Lookup

/-!
# Reading a properties text

`parse` cuts a text into physical lines, joins them into logical lines and reads these one
after the other: each gives a key and a value once their escapes are resolved (`decodeLine`),
and the first line whose escapes cannot be resolved stops the reading with its line number.
So the reading fails exactly at the first such line (`parse_eq_error_iff`), and otherwise gives
the dictionary of all the lines' entries, later ones winning (`parse_eq_ok`).

Whether a backslash escapes the next character, and whether a line continues, both depend on
the parity of a run of backslashes; `trailingBackslashes` counts that run.
-/

namespace ResultLint
namespace Properties

/-! ## Runs of backslashes -/

/-- The number of backslashes a text ends with. -/
def trailingBackslashes (cs : List Char) : Nat := (cs.reverse.takeWhile (· = '\\')).length

theorem continues_eq (line : List Char) :
    continues line = decide (trailingBackslashes line % 2 = 1) := rfl

@[simp]
theorem trailingBackslashes_nil : trailingBackslashes [] = 0 := rfl

@[simp]
theorem trailingBackslashes_singleton (c : Char) :
    trailingBackslashes [c] = if c = '\\' then 1 else 0 := by
  by_cases hc : c = '\\' <;> simp [trailingBackslashes, hc]

theorem trailingBackslashes_append (u p : List Char) :
    trailingBackslashes (u ++ p) =
      if trailingBackslashes p = p.length then trailingBackslashes u + p.length
      else trailingBackslashes p := by
  simp only [trailingBackslashes, List.reverse_append, List.takeWhile_append, List.length_reverse]
  split <;> simp [*, Nat.add_comm]

theorem trailingBackslashes_append_of_eq_zero {u : List Char} (hu : trailingBackslashes u = 0)
    (p : List Char) : trailingBackslashes (u ++ p) = trailingBackslashes p := by
  rw [trailingBackslashes_append, hu]
  split <;> omega

theorem trailingBackslashes_backslashes_append (p : List Char) :
    trailingBackslashes ('\\' :: '\\' :: p) % 2 = trailingBackslashes p % 2 := by
  have h := trailingBackslashes_append ['\\', '\\'] p
  have hu : trailingBackslashes ['\\', '\\'] = 2 := rfl
  rw [List.cons_append, List.cons_append, List.nil_append, hu] at h
  rw [h]
  split <;> omega

theorem trailingBackslashes_append_backslash (cs : List Char) :
    trailingBackslashes (cs ++ ['\\']) = trailingBackslashes cs + 1 := by
  simp [trailingBackslashes_append]

theorem trailingBackslashes_append_of_ne {c : Char} (hc : c ≠ '\\') (cs : List Char) :
    trailingBackslashes (cs ++ [c]) = 0 := by
  simp [trailingBackslashes_append, hc]

/-! ## Physical lines -/

/-- A line ended by a newline loses one carriage return before it. -/
def dropReturn (line : List Char) : List Char :=
  if line.getLast? = some '\r' then line.dropLast else line

theorem splitLines_append_of_not_mem {xs : List Char} (h : '\n' ∉ xs) (rest current : List Char) :
    splitLines (xs ++ rest) current = splitLines rest (xs.reverse ++ current) := by
  induction xs generalizing current with
  | nil => rfl
  | cons c xs ih =>
    have hc : c ≠ '\n' := fun hc => h (hc ▸ List.mem_cons_self)
    rw [List.cons_append, splitLines.eq_2, if_neg hc,
      ih (fun hx => h (List.mem_cons_of_mem c hx))]
    simp

theorem splitLines_line {line : List Char} (h : '\n' ∉ line) (rest : List Char) :
    splitLines (line ++ '\n' :: rest) [] = dropReturn line :: splitLines rest [] := by
  rw [splitLines_append_of_not_mem h, splitLines.eq_2, if_pos rfl]
  simp [dropReturn]

theorem splitLines_last {line : List Char} (h : '\n' ∉ line) :
    splitLines line [] = if line = [] then [] else [line] := by
  simpa [splitLines] using splitLines_append_of_not_mem h [] []

/-! ## Logical lines -/

/-- The logical lines of a text, each with the number of the physical line it starts on. -/
def logical (text : String) : List (Nat × List Char) :=
  logicalLines (splitLines text.toList []) 1 none

/-- Whether a physical line is skipped where no entry is pending: blank, or a comment. -/
def skipped (raw : List Char) : Bool :=
  (Text.dropBlanks raw).isEmpty || (Text.dropBlanks raw).head? = some '#' ||
    (Text.dropBlanks raw).head? = some '!'

theorem logicalLines_skipped {raw : List Char} (h : skipped raw = true)
    (rest : List (List Char)) (number : Nat) :
    logicalLines (raw :: rest) number none = logicalLines rest (number + 1) none := by
  simp only [skipped] at h
  simp [logicalLines, h]

theorem logicalLines_start {raw : List Char} (h : skipped raw = false)
    (rest : List (List Char)) (number : Nat) :
    logicalLines (raw :: rest) number none = logicalLines (raw :: rest) number (some (number, [])) := by
  simp only [skipped] at h
  simp [logicalLines, h]

theorem logicalLines_pending (raw : List Char) (rest : List (List Char)) (number first : Nat)
    (text : List Char) :
    logicalLines (raw :: rest) number (some (first, text)) =
      if continues (Text.dropBlanks raw) then
        logicalLines rest (number + 1) (some (first, text ++ (Text.dropBlanks raw).dropLast))
      else (first, text ++ Text.dropBlanks raw) :: logicalLines rest (number + 1) none := by
  rw [logicalLines.eq_2]

theorem logicalLines_append_empty :
    ∀ (lines : List (List Char)) (number : Nat) (pending : Option (Nat × List Char)),
      logicalLines (lines ++ [[]]) number pending = logicalLines lines number pending
  | [], number, none => rfl
  | [], number, some (first, text) => by simp [logicalLines, continues, Text.dropBlanks]
  | raw :: lines, number, pending => by
    simp only [List.cons_append, logicalLines, logicalLines_append_empty lines]

theorem skipped_dropReturn {raw : List Char} (h : skipped raw = true) :
    skipped (dropReturn raw) = true := by
  unfold dropReturn
  split
  · next hr =>
    obtain ⟨line, rfl⟩ := List.getLast?_eq_some_iff.mp hr
    rw [List.dropLast_concat]
    -- the carriage return is blank: it is dropped with the others or stays behind the text
    rcases hd : Text.dropBlanks line with _ | ⟨c, cs⟩
    · simp [skipped, hd]
    · have happ : Text.dropBlanks (line ++ ['\r']) = c :: (cs ++ ['\r']) := by
        rw [Text.dropBlanks, List.dropWhile_append, ← Text.dropBlanks, hd]
        simp
      simpa [skipped, hd, happ] using h
  · exact h

/-! ## Entries -/

theorem unescape_escaped {x : Char} (hx : x ∉ ['t', 'n', 'r', 'f', 'u']) (rest : List Char) :
    unescape ('\\' :: x :: rest) = (x :: ·) <$> unescape rest := by
  simp only [List.mem_cons, List.not_mem_nil, or_false, not_or] at hx
  obtain ⟨ht, hn, hr, hf, hu⟩ := hx
  exact unescape.eq_8 x rest ht hn hr hf (fun _ _ _ _ _ h _ => hu h) hu

theorem unescape_plain {c : Char} (hc : c ≠ '\\') (rest : List Char) :
    unescape (c :: rest) = (c :: ·) <$> unescape rest :=
  unescape.eq_10 c rest (fun _ h => absurd h hc) (fun _ h => absurd h hc) (fun _ h => absurd h hc)
    (fun _ h => absurd h hc) (fun _ _ _ _ _ h => absurd h hc) (fun _ h => absurd h hc)
    (fun _ _ h => absurd h hc) (fun h => absurd h hc)

theorem splitEntry_escaped (x : Char) (rest key : List Char) :
    splitEntry ('\\' :: x :: rest) false key = splitEntry rest false (x :: '\\' :: key) := by
  rw [splitEntry.eq_3, if_pos rfl, splitEntry.eq_2]

theorem splitEntry_plain {c : Char} (hbs : c ≠ '\\') (heq : c ≠ '=') (hcolon : c ≠ ':')
    (hblank : Text.isBlank c = false) (rest key : List Char) :
    splitEntry (c :: rest) false key = splitEntry rest false (c :: key) := by
  rw [splitEntry.eq_3, if_neg hbs, if_neg (by simp [heq, hcolon]), if_neg (by simp [hblank])]

theorem splitEntry_separator (rest key : List Char) :
    splitEntry ('=' :: rest) false key = (key.reverse, Text.dropBlanks rest) := by
  rw [splitEntry.eq_3, if_neg (by decide), if_pos (.inl rfl)]

/-- The key and the value of a logical line with their escapes resolved; none when one of
them has a malformed escape. -/
def decodeLine (line : List Char) : Option (String × String) :=
  (unescape (splitEntry line false []).1).bind fun k =>
    (unescape (splitEntry line false []).2).map fun v => (String.ofList k, String.ofList v)

/-- A logical line decodes exactly when both its key and its value do. -/
theorem decodeLine_eq_none_iff (line : List Char) :
    decodeLine line = none ↔
      unescape (splitEntry line false []).1 = none ∨ unescape (splitEntry line false []).2 = none := by
  unfold decodeLine
  cases unescape (splitEntry line false []).1 <;> cases unescape (splitEntry line false []).2 <;>
    simp

/-- One step of the reading: the entry of a logical line added to those read so far. -/
def readLine (props : Properties) (ln : Nat × List Char) : Except PropertiesError Properties :=
  (decodeLine ln.2).elim (.error (.invalidEscape ln.1))
    fun kv => .ok ⟨props.entries.insert kv.1 kv.2⟩

theorem parse_eq_foldlM (text : String) : parse text = (logical text).foldlM readLine {} := by
  unfold parse logical
  congr 1
  funext props ln
  obtain ⟨number, line⟩ := ln
  simp only [readLine, decodeLine]
  generalize splitEntry line false [] = kv
  obtain ⟨key, value⟩ := kv
  cases unescape key <;> cases unescape value <;> rfl

/-- The reading fails exactly at the first line that does not decode, with its number. -/
theorem foldlM_readLine_eq_error_iff (e : PropertiesError) :
    ∀ (lines : List (Nat × List Char)) (props : Properties),
      lines.foldlM readLine props = .error e ↔
        ∃ ln, lines.find? (fun l => (decodeLine l.2).isNone) = some ln ∧ e = .invalidEscape ln.1
  | [], props => by simp [pure, Except.pure]
  | ln :: lines, props => by
    rw [List.foldlM_cons]
    cases h : decodeLine ln.2 with
    | none =>
      have hstep : readLine props ln = .error (.invalidEscape ln.1) := by simp [readLine, h]
      rw [hstep, List.find?_cons, h]
      simp [bind, Except.bind, eq_comm]
    | some kv =>
      have hstep : readLine props ln = .ok ⟨props.entries.insert kv.1 kv.2⟩ := by
        simp [readLine, h]
      rw [hstep, List.find?_cons, h]
      exact foldlM_readLine_eq_error_iff e lines _

/-- When every line decodes, the reading gives the entries of all of them, later ones winning. -/
theorem foldlM_readLine_eq_ok :
    ∀ (lines : List (Nat × List Char)) (props : Properties),
      (∀ ln ∈ lines, (decodeLine ln.2).isSome) →
        lines.foldlM readLine props =
          .ok ⟨(lines.filterMap (decodeLine ·.2)).foldl (fun d kv => d.insert kv.1 kv.2) props.entries⟩
  | [], props, _ => rfl
  | ln :: lines, props, h => by
    obtain ⟨kv, hkv⟩ := Option.isSome_iff_exists.mp (h ln List.mem_cons_self)
    have hstep : readLine props ln = .ok ⟨props.entries.insert kv.1 kv.2⟩ := by
      simp [readLine, hkv]
    rw [List.foldlM_cons, hstep, List.filterMap_cons_some (f := fun l : Nat × List Char => decodeLine l.2) hkv,
      List.foldl_cons]
    exact foldlM_readLine_eq_ok lines _ fun l hl => h l (List.mem_cons_of_mem ln hl)

/-- A text fails to read exactly at the first logical line that does not decode. -/
theorem parse_eq_error_iff (text : String) (e : PropertiesError) :
    parse text = .error e ↔
      ∃ ln, (logical text).find? (fun l => (decodeLine l.2).isNone) = some ln ∧
        e = .invalidEscape ln.1 := by
  rw [parse_eq_foldlM, foldlM_readLine_eq_error_iff]

/-- A text whose logical lines all decode reads as the dictionary of their entries. -/
theorem parse_eq_ok {text : String} (h : ∀ ln ∈ logical text, (decodeLine ln.2).isSome) :
    parse text = .ok ⟨Dictionary.ofList ((logical text).filterMap (decodeLine ·.2))⟩ := by
  rw [parse_eq_foldlM, foldlM_readLine_eq_ok _ _ h]
  rfl

end Properties
end ResultLint
