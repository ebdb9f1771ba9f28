import ResultLint.Annotation.Text
import ResultLint.Proofs.Marker.Exemption
import ResultLint.Proofs.Dictionary.OfList

/-!
# Writing annotations and reading them back

An annotation is written `@`, an optional use-site target and a colon, its name, and then
nothing, `key = "value"` pairs in parentheses separated by a comma and a space, or one string in
parentheses. Inside a string a backslash goes before each backslash and each double quote
(`escape`). Reading such a text gives back the one annotation written: its name, the name
resolved against the imports and the package, and the attributes the arguments stand for
(`ofText_text`). So a dictionary of attributes is read back from its entries written in any
order (`annotation_text_round_trip`).

The reader finds pairs by a scan that tries every position, so the proof shows that no pair
starts inside a written string: every quote in it follows a backslash, and a pair's opening
quote follows `=` or a blank (`pairs_escape_quote`).
-/

namespace ResultLint

namespace Text

/-- The code points of the blank characters, listed. -/
def blankCodePoints : List Nat :=
  List.range' 0x9 5 ++ [0x20, 0x85, 0xA0, 0x1680] ++ List.range' 0x2000 11 ++
    [0x2028, 0x2029, 0x202F, 0x205F, 0x3000]

theorem toNat_mem_blankCodePoints {c : Char} (h : isBlank c = true) :
    c.toNat ∈ blankCodePoints := by
  simp only [isBlank, Bool.or_eq_true, Bool.and_eq_true, decide_eq_true_eq, beq_iff_eq] at h
  simp only [blankCodePoints, List.mem_append, List.mem_range'_1, List.mem_cons,
    List.not_mem_nil, or_false]
  omega

theorem inRanges_eq_any (table : Array (Nat × Nat)) (c : Char) :
    inRanges table c = table.toList.any fun r => r.1 ≤ c.toNat && c.toNat ≤ r.2 := by
  simp only [inRanges, Array.any_toList]

theorem isBlank_eq_false_of_isAlphanumeric {c : Char} (h : isAlphanumeric c = true) :
    isBlank c = false := by
  cases hb : isBlank c
  · rfl
  · have hcodes : ∀ n ∈ blankCodePoints, isAlphanumeric (Char.ofNat n) = false := by
      simp only [isAlphanumeric, inRanges_eq_any]
      decide +kernel
    have hc := hcodes c.toNat (toNat_mem_blankCodePoints hb)
    rw [Char.ofNat_toNat, h] at hc
    cases hc

end Text

namespace Annotation

/-- A character of a name or of a use-site target. -/
def isNameChar (c : Char) : Bool := Text.isAlphanumeric c || c == '_'

theorem isBlank_eq_false_of_name {c : Char} (h : isNameChar c = true ∨ c = '.') :
    Text.isBlank c = false := by
  rcases h with h | rfl
  · simp only [isNameChar, Bool.or_eq_true, beq_iff_eq] at h
    rcases h with h | rfl
    · exact Text.isBlank_eq_false_of_isAlphanumeric h
    · decide
  · decide

/-! ## Strings -/

/-- A character as written inside a string. -/
def escapeChar (c : Char) : List Char := if c = '\\' ∨ c = '"' then ['\\', c] else [c]

/-- The body of a string as written: a backslash before each backslash and each double
quote. -/
def escape (cs : List Char) : List Char := cs.flatMap escapeChar

@[simp]
theorem escape_nil : escape [] = [] := rfl

theorem escape_cons (c : Char) (cs : List Char) : escape (c :: cs) = escapeChar c ++ escape cs :=
  List.flatMap_cons

theorem escape_cons_append_of_special {c : Char} (hc : c = '\\' ∨ c = '"') (cs rest : List Char) :
    escape (c :: cs) ++ rest = '\\' :: c :: (escape cs ++ rest) := by
  rw [escape_cons, escapeChar, if_pos hc]
  rfl

theorem escape_cons_append_of_plain {c : Char} (hc : ¬(c = '\\' ∨ c = '"')) (cs rest : List Char) :
    escape (c :: cs) ++ rest = c :: (escape cs ++ rest) := by
  rw [escape_cons, escapeChar, if_neg hc]
  rfl

theorem quotedBody_escape (rest : List Char) :
    ∀ v : List Char, quotedBody (escape v ++ '"' :: rest) = (escape v, '"' :: rest)
  | [] => quotedBody.eq_2 rest
  | c :: v => by
    rw [escape_cons]
    by_cases hc : c = '\\' ∨ c = '"'
    · have hnl : c ≠ '\n' := by rcases hc with rfl | rfl <;> decide
      simp only [escapeChar, if_pos hc, List.cons_append, List.nil_append]
      rw [quotedBody.eq_3, if_neg hnl, quotedBody_escape rest v]
    · simp only [escapeChar, if_neg hc, List.cons_append, List.nil_append]
      rw [quotedBody.eq_4 _ _ (fun h => hc (.inr h)) (fun _ _ h _ => hc (.inl h)),
        if_neg (fun h => hc (.inl h)), quotedBody_escape rest v]

/-- Resolving the escapes of a written body gives the string back. -/
theorem unescape_escape : ∀ v : List Char, unescape (escape v) = v
  | [] => rfl
  | c :: v => by
    rw [escape_cons]
    by_cases hc : c = '\\' ∨ c = '"'
    · have hn : c ≠ 'n' ∧ c ≠ 't' := by rcases hc with rfl | rfl <;> decide
      simp only [escapeChar, if_pos hc, List.cons_append, List.nil_append, unescape.eq_2,
        if_neg hn.1, if_neg hn.2, unescape_escape v]
    · simp only [escapeChar, if_neg hc, List.cons_append, List.nil_append]
      rw [unescape.eq_3 _ _ (fun _ _ h _ => hc (.inl h)), unescape_escape v]

/-- A written string reads back as the string, and the text after it is left. -/
theorem literal?_escape (v rest : List Char) :
    literal? ('"' :: (escape v ++ '"' :: rest)) = some (v, rest) := by
  simp only [literal?.eq_1, quotedBody_escape, unescape_escape]

/-! ## Named pairs -/

/-- A key a pair can be read with: a nonempty run of word characters. -/
def IsKey (k : String) : Prop := k ≠ "" ∧ ∀ c ∈ k.toList, Text.isWordChar c = true

/-- A written `key = "value"` pair. -/
def writePair (kv : String × String) : List Char :=
  kv.1.toList ++ ' ' :: '=' :: ' ' :: '"' :: (escape kv.2.toList ++ ['"'])

@[simp]
theorem pairs_nil : pairs [] = [] := by
  rw [pairs.eq_1, dif_pos rfl]

theorem pairAt?_of_not_word {c : Char} (hc : Text.isWordChar c = false) (cs : List Char) :
    pairAt? (c :: cs) = none := by
  simp [pairAt?, List.takeWhile_cons_of_neg, hc]

theorem pairs_of_pairAt?_none {cs : List Char} (hne : cs ≠ []) (h : pairAt? cs = none) :
    pairs cs = pairs cs.tail := by
  rw [pairs.eq_1, dif_neg hne, h]

theorem pairs_of_not_word {c : Char} (hc : Text.isWordChar c = false) (cs : List Char) :
    pairs (c :: cs) = pairs cs :=
  pairs_of_pairAt?_none (List.cons_ne_nil c cs) (pairAt?_of_not_word hc cs)

theorem pairAt?_eq_some {cs : List Char} {r : String × String × Nat} (h : pairAt? cs = some r) :
    ∃ rest value after, cs.takeWhile Text.isWordChar ≠ [] ∧
      Text.dropBlanks (cs.drop (cs.takeWhile Text.isWordChar).length) = '=' :: rest ∧
      literal? (Text.dropBlanks rest) = some (value, after) := by
  unfold pairAt? at h
  dsimp only at h
  split at h
  · cases h
  · next hkey =>
    split at h
    · next rest hafter =>
      split at h
      · next value after hlit =>
        exact ⟨rest, value, after, by simpa using hkey, hafter, hlit⟩
      · cases h
    · cases h

theorem pairAt?_writePair {kv : String × String} (hk : IsKey kv.1) (rest : List Char) :
    pairAt? (writePair kv ++ rest) = some (kv.1, kv.2, (writePair kv).length) := by
  obtain ⟨k, v⟩ := kv
  obtain ⟨hne, hword⟩ := hk
  dsimp only at hne hword
  have htext : writePair (k, v) ++ rest =
      k.toList ++ ' ' :: '=' :: ' ' :: '"' :: (escape v.toList ++ '"' :: rest) := by
    simp [writePair]
  have hkey : (writePair (k, v) ++ rest).takeWhile Text.isWordChar = k.toList := by
    rw [htext, List.takeWhile_append_of_pos hword, List.takeWhile_cons_of_neg (by decide),
      List.append_nil]
  have hempty : k.toList.isEmpty = false := by
    simpa [List.isEmpty_eq_false_iff, String.toList_eq_nil_iff] using hne
  have hafter : Text.dropBlanks ((writePair (k, v) ++ rest).drop k.toList.length) =
      '=' :: ' ' :: '"' :: (escape v.toList ++ '"' :: rest) := by
    rw [htext, List.drop_left, Text.dropBlanks, List.dropWhile_cons_of_pos (p := Text.isBlank)
      (by decide), List.dropWhile_cons_of_neg (p := Text.isBlank) (by decide)]
  have hvalue : Text.dropBlanks (' ' :: '"' :: (escape v.toList ++ '"' :: rest)) =
      '"' :: (escape v.toList ++ '"' :: rest) := by
    rw [Text.dropBlanks, List.dropWhile_cons_of_pos (p := Text.isBlank) (by decide),
      List.dropWhile_cons_of_neg (p := Text.isBlank) (by decide)]
  have hlen : (writePair (k, v) ++ rest).length - rest.length = (writePair (k, v)).length := by
    simp
  simp only [pairAt?, hkey, hempty, hafter, hvalue, literal?_escape, String.ofList_toList,
    hlen, Bool.false_eq_true, if_false]

theorem pairs_writePair {kv : String × String} (hk : IsKey kv.1) (rest : List Char) :
    pairs (writePair kv ++ rest) = kv :: pairs rest := by
  have hne : writePair kv ++ rest ≠ [] := by simp [writePair]
  have hone : max (writePair kv).length 1 = (writePair kv).length :=
    Nat.max_eq_left (by simp only [writePair, List.length_append, List.length_cons]; omega)
  rw [pairs.eq_1, dif_neg hne, pairAt?_writePair hk]
  simp only [hone, List.drop_left]

/-- Pairs written one after another, separated by a comma and a space, read back in order. -/
theorem pairs_writePairs :
    ∀ {kvs : List (String × String)}, (∀ kv ∈ kvs, IsKey kv.1) →
      pairs (List.intercalate [',', ' '] (kvs.map writePair)) = kvs
  | [], _ => pairs_nil
  | [kv], h => by simpa using pairs_writePair (h kv List.mem_cons_self) []
  | kv :: kv' :: kvs, h => by
    have hrest := @pairs_writePairs (kv' :: kvs) fun x hx => h x (List.mem_cons_of_mem _ hx)
    rw [List.map_cons, List.map_cons, List.intercalate_cons_cons, List.append_assoc,
      pairs_writePair (h kv List.mem_cons_self), List.cons_append, List.cons_append,
      List.nil_append, pairs_of_not_word (by decide), pairs_of_not_word (by decide),
      ← List.map_cons, hrest]

/-! ## No pair inside a written string -/

section Scan

variable {p : Char → Bool} (hb : p '\\' = false) (hq : p '"' = false)
include hb hq

theorem not_special_of_class {c : Char} (hc : p c = true) : ¬(c = '\\' ∨ c = '"') := by
  rintro (rfl | rfl) <;> simp_all

theorem takeWhile_escape_quote : ∀ w : List Char, (escape w ++ ['"']).takeWhile p = w.takeWhile p
  | [] => by simp [hq]
  | c :: w => by
    by_cases hc : p c = true
    · rw [escape_cons_append_of_plain (not_special_of_class hb hq hc),
        List.takeWhile_cons_of_pos hc, List.takeWhile_cons_of_pos hc,
        takeWhile_escape_quote w]
    · rw [List.takeWhile_cons_of_neg hc]
      by_cases hs : c = '\\' ∨ c = '"'
      · rw [escape_cons_append_of_special hs, List.takeWhile_cons_of_neg (by simp [hb])]
      · rw [escape_cons_append_of_plain hs, List.takeWhile_cons_of_neg hc]

theorem dropWhile_escape_quote :
    ∀ w : List Char, (escape w ++ ['"']).dropWhile p = escape (w.dropWhile p) ++ ['"']
  | [] => by simp [hq]
  | c :: w => by
    by_cases hc : p c = true
    · rw [escape_cons_append_of_plain (not_special_of_class hb hq hc),
        List.dropWhile_cons_of_pos hc, List.dropWhile_cons_of_pos hc,
        dropWhile_escape_quote w]
    · rw [List.dropWhile_cons_of_neg hc]
      by_cases hs : c = '\\' ∨ c = '"'
      · rw [escape_cons_append_of_special hs, List.dropWhile_cons_of_neg (by simp [hb])]
      · rw [escape_cons_append_of_plain hs, List.dropWhile_cons_of_neg hc]

end Scan

theorem drop_length_takeWhile (p : Char → Bool) (l : List Char) :
    l.drop (l.takeWhile p).length = l.dropWhile p := by
  calc l.drop (l.takeWhile p).length
      = (l.takeWhile p ++ l.dropWhile p).drop (l.takeWhile p).length := by
        rw [List.takeWhile_append_dropWhile]
    _ = l.dropWhile p := List.drop_left

theorem eq_of_escape_quote_eq_cons {u rest : List Char} {c : Char} (hb : c ≠ '\\')
    (hq : c ≠ '"') (h : escape u ++ ['"'] = c :: rest) :
    ∃ u', u = c :: u' ∧ rest = escape u' ++ ['"'] := by
  cases u with
  | nil => exact absurd (List.cons.inj h).1.symm hq
  | cons d u =>
    by_cases hs : d = '\\' ∨ d = '"'
    · rw [escape_cons_append_of_special hs] at h
      exact absurd (List.cons.inj h).1.symm hb
    · rw [escape_cons_append_of_plain hs] at h
      obtain ⟨rfl, rfl⟩ := List.cons.inj h
      exact ⟨u, rfl, rfl⟩

theorem literal?_escape_quote : ∀ u : List Char, literal? (escape u ++ ['"']) = none
  | [] => by simp [literal?.eq_1, quotedBody.eq_1]
  | c :: u => by
    by_cases hs : c = '\\' ∨ c = '"'
    · rw [escape_cons_append_of_special hs]
      exact literal?.eq_2 _ (by simp)
    · rw [escape_cons_append_of_plain hs]
      exact literal?.eq_2 _ (by simpa using fun h => hs (.inr h))

theorem pairAt?_escape_quote (w : List Char) : pairAt? (escape w ++ ['"']) = none := by
  cases hpair : pairAt? (escape w ++ ['"']) with
  | none => rfl
  | some r =>
    obtain ⟨rest, value, after, -, hafter, hlit⟩ := pairAt?_eq_some hpair
    -- after the key and the blanks comes the rest of the string, which must start with `=`
    rw [drop_length_takeWhile, dropWhile_escape_quote (by decide) (by decide), Text.dropBlanks,
      dropWhile_escape_quote (by decide) (by decide)] at hafter
    obtain ⟨u', -, rfl⟩ := eq_of_escape_quote_eq_cons (by decide) (by decide) hafter
    rw [Text.dropBlanks, dropWhile_escape_quote (by decide) (by decide),
      literal?_escape_quote] at hlit
    cases hlit

/-- The scan finds no pair in a written string closed by its quote. -/
theorem pairs_escape_quote : ∀ w : List Char, pairs (escape w ++ ['"']) = []
  | [] => by rw [escape_nil, List.nil_append, pairs_of_not_word (by decide), pairs_nil]
  | c :: w => by
    rw [pairs_of_pairAt?_none (by simp) (pairAt?_escape_quote (c :: w))]
    by_cases hs : c = '\\' ∨ c = '"'
    · -- the scan passes the backslash, then the escaped character, which is no word character
      have hword : Text.isWordChar c = false := by rcases hs with rfl | rfl <;> decide
      rw [escape_cons_append_of_special hs, List.tail_cons, pairs_of_not_word hword,
        pairs_escape_quote w]
    · rw [escape_cons_append_of_plain hs, List.tail_cons, pairs_escape_quote w]

/-! ## Attributes -/

theorem attributesOf_of_pairs_ne_nil {args : List Char} (h : pairs args ≠ []) :
    attributesOf args = Dictionary.ofList (pairs args) := by
  rw [attributesOf.eq_1, if_neg (by simpa [Dictionary.ofList_isEmpty] using h)]

theorem attributesOf_of_pairs_nil {args : List Char} (h : pairs args = []) :
    attributesOf args = ((positional? args).map fun v => Dictionary.ofList [("value", v)]).getD {} := by
  rw [attributesOf.eq_1, if_pos (by simp [h, Dictionary.ofList_isEmpty])]
  cases positional? args <;> rfl

theorem attributesOf_writePairs {kvs : List (String × String)} (hk : ∀ kv ∈ kvs, IsKey kv.1) :
    attributesOf (List.intercalate [',', ' '] (kvs.map writePair)) = Dictionary.ofList kvs := by
  cases kvs with
  | nil =>
    rw [attributesOf_of_pairs_nil (pairs_writePairs hk)]
    rfl
  | cons kv kvs =>
    rw [attributesOf_of_pairs_ne_nil (by rw [pairs_writePairs hk]; exact List.cons_ne_nil _ _),
      pairs_writePairs hk]

theorem attributesOf_string (v : String) :
    attributesOf ('"' :: (escape v.toList ++ ['"'])) = ⟨[("value", v)]⟩ := by
  have hpairs : pairs ('"' :: (escape v.toList ++ ['"'])) = [] := by
    rw [pairs_of_not_word (by decide), pairs_escape_quote]
  have hpos : positional? ('"' :: (escape v.toList ++ ['"'])) = some v := by
    rw [positional?.eq_1, Text.dropBlanks, List.dropWhile_cons_of_neg (p := Text.isBlank)
      (by decide), literal?_escape]
    simp
  rw [attributesOf_of_pairs_nil hpairs, hpos]
  rfl

/-! ## Written annotations -/

/-- The arguments an annotation is written with. -/
inductive Arguments where
  /-- No parentheses. -/
  | bare
  /-- `key = "value"` pairs, separated by a comma and a space. -/
  | named (pairs : List (String × String))
  /-- One string. -/
  | positional (value : String)

namespace Arguments

/-- What stands between the parentheses, when there are any. -/
def inner : Arguments → Option (List Char)
  | bare => none
  | named pairs => some (List.intercalate [',', ' '] (pairs.map writePair))
  | positional value => some ('"' :: (escape value.toList ++ ['"']))

/-- The text of the arguments after the name. -/
def text (a : Arguments) : List Char := (a.inner.map fun s => '(' :: (s ++ [')'])).getD []

/-- The attributes the arguments stand for; of two pairs with one key, the later wins. -/
def attributes : Arguments → Dictionary String
  | bare => {}
  | named pairs => Dictionary.ofList pairs
  | positional value => ⟨[("value", value)]⟩

/-- The keys of the pairs. -/
def keys : Arguments → List String
  | named pairs => pairs.map Prod.fst
  | _ => []

theorem inner_eq_none {a : Arguments} (h : a.inner = none) : a = bare := by
  cases a with
  | bare => rfl
  | named | positional => cases h

theorem text_of_inner_none {a : Arguments} (h : a.inner = none) : a.text = [] := by
  simp [text, h]

theorem text_of_inner_some {a : Arguments} {s : List Char} (h : a.inner = some s) :
    a.text = '(' :: (s ++ [')']) := by
  simp [text, h]

/-- Reading what stands between the parentheses gives the attributes. -/
theorem attributesOf_inner {a : Arguments} (hk : ∀ k ∈ a.keys, IsKey k) {s : List Char}
    (h : a.inner = some s) : attributesOf s = a.attributes := by
  cases a with
  | bare => cases h
  | named kvs =>
    cases h
    exact attributesOf_writePairs fun kv hkv => hk kv.1 (List.mem_map_of_mem hkv)
  | positional v =>
    cases h
    exact attributesOf_string v

end Arguments

/-- The use-site target as written before a name: the target and a colon. -/
def targetText (target : Option String) : List Char :=
  (target.map fun t => t.toList ++ [':']).getD []

/-- An annotation as written in source, without its `@`. -/
structure Written where
  name : String
  arguments : Arguments

namespace Written

/-- The text of the annotation without its `@`, as it stands in a bracketed group. -/
def body (w : Written) : List Char := w.name.toList ++ w.arguments.text

/-- The source text of the annotation, with an optional use-site target. -/
def text (target : Option String) (w : Written) : String :=
  String.ofList ('@' :: (targetText target ++ w.body))

/-- The annotation the text stands for. -/
def resolved (w : Written) (imports : List String) (package : Option String) : Annotation :=
  { name := w.name
    qualifiedName := TypeName.resolve w.name imports package
    attributes := w.arguments.attributes }

/-- A written annotation the reader takes back: a nonempty name of name characters and dots,
and keys that are nonempty runs of word characters. -/
structure Readable (w : Written) : Prop where
  name_ne : w.name ≠ ""
  name_chars : ∀ c ∈ w.name.toList, isNameChar c = true ∨ c = '.'
  keys : ∀ k ∈ w.arguments.keys, IsKey k

end Written

/-! ## Reading one annotation -/

theorem dropWhile_isNameChar (l : List Char) :
    l.dropWhile (fun c => Text.isAlphanumeric c || c == '_') = l.dropWhile isNameChar := rfl

theorem lastIndexOf?_append_cons {c : Char} (l : List Char) {tail : List Char} (h : c ∉ tail) :
    lastIndexOf? c (l ++ c :: tail) = some l.length := by
  have hnone : tail.reverse.findIdx? (· == c) = none :=
    List.findIdx?_eq_none_iff.mpr fun d hd => by
      simp only [beq_eq_false_iff_ne, ne_eq]
      rintro rfl
      exact h (List.mem_reverse.mp hd)
  have hidx : (l ++ c :: tail).reverse.idxOf? c = some tail.length := by
    simp [List.idxOf?, List.findIdx?_append, hnone, List.findIdx?_cons]
  simp only [lastIndexOf?, hidx, Option.map_some, List.length_append, List.length_cons]
  congr 1
  omega

section Member

variable {name : List Char} (hname : ∀ c ∈ name, isNameChar c = true ∨ c = '.')
include hname

theorem not_mem_name {d : Char} (hd : isNameChar d = false) (hdot : d ≠ '.') : d ∉ name := by
  intro hmem
  rcases hname d hmem with h | h
  · rw [hd] at h
    cases h
  · exact hdot h

theorem name_cut : (name.takeWhile (· != '<')).filter (fun c => !Text.isBlank c) = name := by
  have hlt : '<' ∉ name := not_mem_name hname (by decide) (by decide)
  rw [takeWhile_eq_self fun c hc => by
      simp only [bne_iff_ne, ne_eq]
      rintro rfl
      exact hlt hc,
    List.filter_eq_self.mpr fun c hc => by simp [isBlank_eq_false_of_name (hname c hc)]]

theorem ofMember?_bare (hne : name ≠ []) (imports : List String) (package : Option String) :
    ofMember? name imports package = some
      { name := String.ofList name
        qualifiedName := TypeName.resolve (String.ofList name) imports package
        attributes := {} } := by
  have hopen : name.idxOf? '(' = none :=
    List.idxOf?_eq_none_iff.mpr (not_mem_name hname (by decide) (by decide))
  have hempty : name.isEmpty = false := List.isEmpty_eq_false_iff.mpr hne
  simp only [ofMember?, hopen, name_cut hname, hempty, Bool.false_eq_true, if_false,
    Option.map_none, Option.getD_none]

theorem ofMember?_paren (hne : name ≠ []) (inner : List Char) {tail : List Char}
    (htail : ')' ∉ tail) (imports : List String) (package : Option String) :
    ofMember? (name ++ '(' :: (inner ++ ')' :: tail)) imports package = some
      { name := String.ofList name
        qualifiedName := TypeName.resolve (String.ofList name) imports package
        attributes := attributesOf inner } := by
  have hopen : (name ++ '(' :: (inner ++ ')' :: tail)).idxOf? '(' = some name.length := by
    have hnone : name.findIdx? (· == '(') = none :=
      List.findIdx?_eq_none_iff.mpr fun c hc => by
        simpa using fun h => not_mem_name hname (by decide) (by decide) (h ▸ hc)
    simp [List.idxOf?, List.findIdx?_append, hnone, List.findIdx?_cons]
  have hclose : lastIndexOf? ')' (name ++ '(' :: (inner ++ ')' :: tail)) =
      some (name ++ '(' :: inner).length := by
    rw [show name ++ '(' :: (inner ++ ')' :: tail) = (name ++ '(' :: inner) ++ ')' :: tail by simp,
      lastIndexOf?_append_cons _ htail]
  have hlen : max (name ++ '(' :: inner).length (name.length + 1) - (name.length + 1) =
      inner.length := by
    simp only [List.length_append, List.length_cons]
    omega
  have hdrop : (name ++ '(' :: (inner ++ ')' :: tail)).drop (name.length + 1) =
      inner ++ ')' :: tail := by
    rw [show name ++ '(' :: (inner ++ ')' :: tail) = (name ++ ['(']) ++ (inner ++ ')' :: tail) by
        simp,
      show name.length + 1 = (name ++ ['(']).length by simp, List.drop_left]
  have hname' : (name ++ '(' :: (inner ++ ')' :: tail)).take name.length = name :=
    List.take_left' rfl
  have hargs : (inner ++ ')' :: tail).take inner.length = inner := List.take_left' rfl
  have hempty : name.isEmpty = false := List.isEmpty_eq_false_iff.mpr hne
  simp only [ofMember?, hopen, hclose, Option.getD_some, hlen, hdrop, hargs, hname',
    name_cut hname, hempty, Bool.false_eq_true, if_false, Option.map_some]

theorem head_dropWhile_name (x : List Char) :
    ∀ c ∈ ((name ++ x).dropWhile isNameChar).head?,
      c = '.' ∨ c ∈ (x.dropWhile isNameChar).head? := by
  induction name with
  | nil => exact fun c hc => .inr hc
  | cons d name ih =>
    have hrest : ∀ c ∈ name, isNameChar c = true ∨ c = '.' :=
      fun c hc => hname c (List.mem_cons_of_mem d hc)
    by_cases hd : isNameChar d = true
    · rw [List.cons_append, List.dropWhile_cons_of_pos hd]
      exact ih hrest
    · rw [List.cons_append, List.dropWhile_cons_of_neg hd]
      have hdot : d = '.' := (hname d List.mem_cons_self).resolve_left hd
      intro c hc
      exact .inl ((Option.mem_some_iff.mp hc).symm.trans hdot)

end Member

theorem dropUseSiteTarget_target {t rest : List Char} (ht : ∀ c ∈ t, isNameChar c = true) :
    dropUseSiteTarget (t ++ ':' :: rest) = Text.dropBlanks rest := by
  unfold dropUseSiteTarget
  rw [dropWhile_isNameChar, List.dropWhile_append_of_pos ht,
    List.dropWhile_cons_of_neg (by decide), Text.dropBlanks,
    List.dropWhile_cons_of_neg (p := Text.isBlank) (by decide)]
  rfl

theorem dropUseSiteTarget_of_stop {body : List Char}
    (h : ∀ c ∈ (body.dropWhile isNameChar).head?, c ≠ ':' ∧ Text.isBlank c = false) :
    dropUseSiteTarget body = body := by
  unfold dropUseSiteTarget
  rw [dropWhile_isNameChar]
  cases hd : body.dropWhile isNameChar with
  | nil => simp [Text.dropBlanks]
  | cons c rest =>
    rw [hd] at h
    obtain ⟨hcolon, hblank⟩ := h c rfl
    rw [Text.dropBlanks, List.dropWhile_cons_of_neg (by simp [hblank])]
    split
    · next hc => exact absurd (List.cons.inj hc).1 hcolon
    · rfl

theorem dropBlanksEnd_of_getLast {l : List Char} (h : ∀ c ∈ l.getLast?, Text.isBlank c = false) :
    Text.dropBlanksEnd l = l := by
  unfold Text.dropBlanksEnd
  cases hr : l.reverse with
  | nil => simp [List.reverse_eq_nil_iff.mp hr]
  | cons c rest =>
    have hc : Text.isBlank c = false := h c (by rw [← List.head?_reverse, hr]; rfl)
    rw [List.dropWhile_cons_of_neg (by simp [hc]), ← hr, List.reverse_reverse]

theorem dropBlanksEnd_concat (l : List Char) {x : Char} (hx : Text.isBlank x = false) :
    Text.dropBlanksEnd (l ++ [x]) = l ++ [x] :=
  dropBlanksEnd_of_getLast fun c hc => by
    rw [List.getLast?_concat, Option.mem_some_iff] at hc
    exact hc ▸ hx

theorem ofText_eq_member {text : String} {body rest : List Char} {c : Char}
    (htext : Text.dropBlanksEnd (Text.dropBlanks text.toList) = '@' :: body)
    (hbody : dropUseSiteTarget body = c :: rest) (hc : c ≠ '[') (imports : List String)
    (package : Option String) :
    ofText text imports package = (ofMember? (c :: rest) imports package).toList := by
  rw [ofText.eq_1, htext]
  simp only [hbody]
  split
  · next hgroup => exact absurd (List.cons.inj hgroup).1 hc
  · rfl

namespace Written

variable {w : Written}

theorem name_toList_ne_nil (hw : w.Readable) : w.name.toList ≠ [] := by
  simpa [String.toList_eq_nil_iff] using hw.name_ne

/-- A written annotation without its `@` reads as the annotation it stands for. -/
theorem ofMember?_body (hw : w.Readable) (imports : List String) (package : Option String) :
    ofMember? w.body imports package = some (w.resolved imports package) := by
  have hne := name_toList_ne_nil hw
  cases hinner : w.arguments.inner with
  | none =>
    rw [body, Arguments.text_of_inner_none hinner, List.append_nil,
      ofMember?_bare hw.name_chars hne, String.ofList_toList, resolved,
      Arguments.inner_eq_none hinner]
    rfl
  | some s =>
    rw [body, Arguments.text_of_inner_some hinner, ofMember?_paren hw.name_chars hne s List.not_mem_nil, String.ofList_toList,
      Arguments.attributesOf_inner hw.keys hinner]
    rfl

theorem getLast_body (hw : w.Readable) : ∀ c ∈ w.body.getLast?, Text.isBlank c = false := by
  intro c hc
  cases hinner : w.arguments.inner with
  | none =>
    rw [body, Arguments.text_of_inner_none hinner, List.append_nil] at hc
    exact isBlank_eq_false_of_name (hw.name_chars c (List.mem_of_getLast? hc))
  | some s =>
    rw [body, Arguments.text_of_inner_some hinner] at hc
    simp only [← List.cons_append, ← List.append_assoc, List.getLast?_concat,
      Option.mem_some_iff] at hc
    rw [← hc]
    decide

theorem body_eq_cons (hw : w.Readable) :
    ∃ c rest, w.body = c :: rest ∧ (isNameChar c = true ∨ c = '.') := by
  obtain ⟨c, name', hname⟩ := List.exists_cons_of_ne_nil (name_toList_ne_nil hw)
  exact ⟨c, name' ++ w.arguments.text, by rw [body, hname, List.cons_append],
    hw.name_chars c (by rw [hname]; exact List.mem_cons_self)⟩

theorem dropUseSiteTarget_body (hw : w.Readable) : dropUseSiteTarget w.body = w.body := by
  apply dropUseSiteTarget_of_stop
  intro c hc
  have hargs : ∀ d ∈ (w.arguments.text.dropWhile isNameChar).head?, d = '(' := by
    cases hinner : w.arguments.inner with
    | none => simp [Arguments.text_of_inner_none hinner]
    | some s =>
      rw [Arguments.text_of_inner_some hinner, List.dropWhile_cons_of_neg (by decide)]
      exact fun d hd => (Option.mem_some_iff.mp hd).symm
  rcases head_dropWhile_name hw.name_chars w.arguments.text c hc with rfl | h
  · decide
  · rw [hargs c h]
    decide

end Written

/-- The source text of a written annotation, with or without a use-site target, reads back as
exactly the annotation written. -/
theorem ofText_text (target : Option String) (w : Written)
    (htarget : ∀ t ∈ target, ∀ c ∈ t.toList, isNameChar c = true) (hw : w.Readable)
    (imports : List String) (package : Option String) :
    ofText (w.text target) imports package = [w.resolved imports package] := by
  obtain ⟨c, rest, hbody, hc⟩ := Written.body_eq_cons hw
  have hopen : c ≠ '[' := by
    rintro rfl
    rcases hc with h | h <;> revert h <;> decide
  have htext : Text.dropBlanksEnd (Text.dropBlanks (w.text target).toList) =
      '@' :: (targetText target ++ w.body) := by
    rw [Written.text, String.toList_ofList, Text.dropBlanks,
      List.dropWhile_cons_of_neg (by decide)]
    apply dropBlanksEnd_of_getLast
    obtain ⟨x, hx⟩ : ∃ x, w.body.getLast? = some x :=
      Option.isSome_iff_exists.mp (List.getLast?_isSome.mpr (by simp [hbody]))
    rw [← List.cons_append, List.getLast?_append, hx, Option.some_or]
    exact fun c hc => Written.getLast_body hw c (hx ▸ hc)
  have hdrop : dropUseSiteTarget (targetText target ++ w.body) = w.body := by
    cases target with
    | none => exact Written.dropUseSiteTarget_body hw
    | some t =>
      rw [targetText, Option.map_some, Option.getD_some, List.append_assoc, List.singleton_append,
        dropUseSiteTarget_target (htarget t rfl), Text.dropBlanks, hbody,
        List.dropWhile_cons_of_neg (by simp [isBlank_eq_false_of_name hc])]
  rw [ofText_eq_member htext (hdrop.trans hbody) hopen, ← hbody, Written.ofMember?_body hw]
  rfl

/-! ## The round trip -/

/-- A dictionary of attributes, written as pairs in any order after a name with an optional
use-site target, reads back as the annotation with that name, the name resolved against the
imports and the package, and those attributes; one string written alone reads back as the
attribute `value`. The name may be any nonempty run of name characters and dots. -/
theorem annotation_text_round_trip (target : Option String) (name : String)
    (A : Dictionary String) (kvs : List (String × String)) (imports : List String)
    (package : Option String) (htarget : ∀ t ∈ target, ∀ c ∈ t.toList, isNameChar c = true)
    (hname : name ≠ "") (hchars : ∀ c ∈ name.toList, isNameChar c = true ∨ c = '.')
    (hA : A.WellFormed) (hkeys : ∀ kv ∈ A.entries, IsKey kv.1) (hkvs : kvs.Perm A.entries) :
    ofText (Written.text target ⟨name, .named kvs⟩) imports package =
        [⟨name, TypeName.resolve name imports package, A⟩] ∧
      ∀ v : String, ofText (Written.text target ⟨name, .positional v⟩) imports package =
        [⟨name, TypeName.resolve name imports package, ⟨[("value", v)]⟩⟩] := by
  refine ⟨?_, fun v => ?_⟩
  · have hk : ∀ k ∈ (Arguments.named kvs).keys, IsKey k := by
      intro k hk
      obtain ⟨kv, hkv, rfl⟩ := List.mem_map.mp hk
      exact hkeys kv (hkvs.subset hkv)
    rw [ofText_text target _ htarget ⟨hname, hchars, hk⟩]
    simp [Written.resolved, Arguments.attributes, Dictionary.ofList_eq_of_perm hA hkvs]
  · rw [ofText_text target _ htarget ⟨hname, hchars, fun k hk => by cases hk⟩]
    rfl

/-- The round trip at a dotted name with the target `get`, two attributes whose values hold a
quote and a backslash written in reverse key order, and one string with both. -/
theorem annotation_text_round_trip_get :
    (∀ t ∈ some "get", ∀ c ∈ t.toList, isNameChar c = true) ∧ "a.b.N" ≠ "" ∧
      (∀ c ∈ "a.b.N".toList, isNameChar c = true ∨ c = '.') ∧
      Dictionary.WellFormed ⟨[("k", "x\"y"), ("m", "\\")]⟩ ∧
      (∀ kv ∈ [("k", "x\"y"), ("m", "\\")], IsKey kv.1) ∧
      ([("m", "\\"), ("k", "x\"y")] : List (String × String)).Perm
        [("k", "x\"y"), ("m", "\\")] ∧
      (ofText (Written.text (some "get") ⟨"a.b.N", .named [("m", "\\"), ("k", "x\"y")]⟩)
          ["p.N"] (some "q") =
        [⟨"a.b.N", TypeName.resolve "a.b.N" ["p.N"] (some "q"),
          ⟨[("k", "x\"y"), ("m", "\\")]⟩⟩] ∧
      ∀ v : String, ofText (Written.text (some "get") ⟨"a.b.N", .positional v⟩)
          ["p.N"] (some "q") =
        [⟨"a.b.N", TypeName.resolve "a.b.N" ["p.N"] (some "q"), ⟨[("value", v)]⟩⟩]) := by
  have hkeys : ∀ kv ∈ [("k", "x\"y"), ("m", "\\")], IsKey kv.1 := by simp [IsKey]; decide
  have hperm : ([("m", "\\"), ("k", "x\"y")] : List (String × String)).Perm
      [("k", "x\"y"), ("m", "\\")] := List.Perm.swap _ _ _
  have htarget : ∀ t ∈ some "get", ∀ c ∈ t.toList, isNameChar c = true := by simp; decide
  have hchars : ∀ c ∈ "a.b.N".toList, isNameChar c = true ∨ c = '.' := by simp; decide
  exact ⟨htarget, by decide, hchars, by decide, hkeys, hperm,
    annotation_text_round_trip (some "get") "a.b.N" ⟨[("k", "x\"y"), ("m", "\\")]⟩
      [("m", "\\"), ("k", "x\"y")] ["p.N"] (some "q") htarget (by decide) hchars
      (by decide) hkeys hperm⟩

end Annotation

end ResultLint
