import ResultLint.Proofs.Properties.Reading

/-!
# Malformed escapes

A backslash escapes the character after it unless it is escaped itself, that is unless an odd
number of backslashes stands right before it. `unescape` fails exactly when such a backslash
is followed by `u` and then by characters that write no code point (`unescape_eq_none_iff`):
fewer than four, or four that are neither the hexadecimal digits of a value outside the
surrogates nor a plus sign and three hexadecimal digits (`isSome_codePoint?_iff`).

So a text fails to read exactly when a logical line holds such an escape in its key or its
value, and the error names the line that the first of these logical lines starts on. Where no
escape is written with a plus sign, these are exactly the escapes whose four characters are not
the four hexadecimal digits of a Unicode scalar value (`parse_rejects_malformed_escapes`); an
escape with a plus sign and three digits is read as a code point.
-/

namespace ResultLint
namespace Properties

/-! ## Code points -/

theorem hexDigit?_lt {c : Char} {v : Nat} (h : hexDigit? c = some v) : v < 16 := by
  have h9 : '9'.toNat = 57 := rfl
  have h0 : '0'.toNat = 48 := rfl
  have hf : 'f'.toNat = 102 := rfl
  have ha : 'a'.toNat = 97 := rfl
  have hF : 'F'.toNat = 70 := rfl
  have hA : 'A'.toNat = 65 := rfl
  unfold hexDigit? at h
  split at h
  · next hc =>
    cases h
    have : c.toNat ≤ '9'.toNat := hc.2
    omega
  · split at h
    · next hc =>
      cases h
      have : c.toNat ≤ 'f'.toNat := hc.2
      omega
    · split at h
      · next hc =>
        cases h
        have : c.toNat ≤ 'F'.toNat := hc.2
        omega
      · cases h

/-- Four characters that write a Unicode scalar value: four hexadecimal digits whose value is
not a surrogate. -/
def WritesScalar (a b c d : Char) : Prop :=
  ∃ va vb vc vd, hexDigit? a = some va ∧ hexDigit? b = some vb ∧ hexDigit? c = some vc ∧
    hexDigit? d = some vd ∧
    ¬(0xD800 ≤ ((va * 16 + vb) * 16 + vc) * 16 + vd ∧ ((va * 16 + vb) * 16 + vc) * 16 + vd ≤ 0xDFFF)

/-- The four characters of a `\u` escape write a code point exactly when they write a scalar
value, or are a plus sign and three hexadecimal digits. -/
theorem isSome_codePoint?_iff (a b c d : Char) :
    (codePoint? a b c d).isSome ↔
      (a ≠ '+' ∧ WritesScalar a b c d) ∨
        (a = '+' ∧ (hexDigit? b).isSome ∧ (hexDigit? c).isSome ∧ (hexDigit? d).isSome) := by
  unfold codePoint? WritesScalar
  by_cases hplus : a = '+'
  · simp only [hplus, if_pos, List.foldlM_cons, List.foldlM_nil]
    cases hb : hexDigit? b <;> cases hc : hexDigit? c <;> cases hd : hexDigit? d <;> simp
    have := hexDigit?_lt hb
    have := hexDigit?_lt hc
    have := hexDigit?_lt hd
    omega
  · simp only [hplus, if_neg, not_false_eq_true, List.foldlM_cons, List.foldlM_nil]
    cases hexDigit? a <;> cases hexDigit? b <;> cases hexDigit? c <;> cases hexDigit? d <;>
      simp [hplus]

theorem hexDigit?_backslash : hexDigit? '\\' = none := by decide

theorem ne_backslash_of_isSome_codePoint? {a b c d : Char} (h : (codePoint? a b c d).isSome) :
    a ≠ '\\' ∧ b ≠ '\\' ∧ c ≠ '\\' ∧ d ≠ '\\' := by
  have hdigit : ∀ {x : Char} {v : Nat}, hexDigit? x = some v → x ≠ '\\' := by
    rintro x v hx rfl
    simp [hexDigit?_backslash] at hx
  rcases (isSome_codePoint?_iff a b c d).mp h with
    ⟨-, va, vb, vc, vd, ha, hb, hc, hd, -⟩ | ⟨rfl, hb, hc, hd⟩
  · exact ⟨hdigit ha, hdigit hb, hdigit hc, hdigit hd⟩
  · obtain ⟨vb, hb⟩ := Option.isSome_iff_exists.mp hb
    obtain ⟨vc, hc⟩ := Option.isSome_iff_exists.mp hc
    obtain ⟨vd, hd⟩ := Option.isSome_iff_exists.mp hd
    exact ⟨by decide, hdigit hb, hdigit hc, hdigit hd⟩

/-! ## Escapes the reader rejects -/

/-- The characters after `\u` start with four that write a code point the reader takes. -/
def Decodes (rest : List Char) : Prop :=
  ∃ a b c d t, rest = a :: b :: c :: d :: t ∧ (codePoint? a b c d).isSome

/-- A raw key or value holds a `\u` escape the reader rejects: a backslash after an even
number of backslashes, then `u`, then characters that write no code point. -/
def Rejected (raw : List Char) : Prop :=
  ∃ pre rest, raw = pre ++ '\\' :: 'u' :: rest ∧ trailingBackslashes pre % 2 = 0 ∧
    ¬Decodes rest

theorem rejected_append_iff {u r : List Char}
    (hpar : ∀ p, trailingBackslashes (u ++ p) % 2 = trailingBackslashes p % 2)
    (hin : ∀ pre rest, u ++ r = pre ++ '\\' :: 'u' :: rest → pre.length < u.length →
      trailingBackslashes pre % 2 = 0 → Decodes rest) :
    Rejected (u ++ r) ↔ Rejected r := by
  constructor
  · rintro ⟨pre, rest, heq, heven, hbad⟩
    by_cases hlt : pre.length < u.length
    · exact absurd (hin pre rest heq hlt heven) hbad
    rcases List.append_eq_append_iff.mp heq with ⟨mid, rfl, hr⟩ | ⟨mid, hu, -⟩
    · exact ⟨mid, rest, hr, by rwa [← hpar], hbad⟩
    · have hmid : mid = [] := by
        have := congrArg List.length hu
        simp only [List.length_append] at this
        exact List.eq_nil_of_length_eq_zero (by omega)
      subst hmid
      rw [List.append_nil] at hu
      subst hu
      exact ⟨[], rest, List.append_cancel_left heq, rfl, hbad⟩
  · rintro ⟨pre, rest, rfl, heven, hbad⟩
    exact ⟨u ++ pre, rest, by simp, by rwa [hpar], hbad⟩

theorem rejected_escaped_iff {x : Char} (hx : x ≠ 'u') (r : List Char) :
    Rejected ('\\' :: x :: r) ↔ Rejected r := by
  refine rejected_append_iff (u := ['\\', x]) (fun p => ?_) ?_
  · by_cases hbs : x = '\\'
    · subst hbs
      exact trailingBackslashes_backslashes_append p
    · rw [trailingBackslashes_append_of_eq_zero]
      simpa using trailingBackslashes_append_of_ne hbs ['\\']
  · intro pre rest heq hlen heven
    rcases pre with _ | ⟨p, _ | ⟨q, pre⟩⟩
    · simp at heq
      exact absurd heq.1 hx
    · simp only [List.cons_append, List.nil_append, List.cons.injEq] at heq
      rw [← heq.1] at heven
      simp at heven
    · simp only [List.length_cons, List.length_nil] at hlen
      omega

theorem rejected_plain_iff {c : Char} (hc : c ≠ '\\') (r : List Char) :
    Rejected (c :: r) ↔ Rejected r := by
  refine rejected_append_iff (u := [c]) (fun p => ?_) ?_
  · rw [trailingBackslashes_append_of_eq_zero]
    simp [hc]
  · intro pre rest heq hlen _
    rcases pre with _ | ⟨p, pre⟩
    · simp at heq
      exact absurd heq.1 hc
    · simp at hlen

theorem rejected_codePoint_iff {a b c d : Char} (h : (codePoint? a b c d).isSome)
    (r : List Char) :
    Rejected ('\\' :: 'u' :: a :: b :: c :: d :: r) ↔ Rejected r := by
  obtain ⟨ha, hb, hc, hd⟩ := ne_backslash_of_isSome_codePoint? h
  refine rejected_append_iff (u := ['\\', 'u', a, b, c, d]) (fun p => ?_) ?_
  · rw [trailingBackslashes_append_of_eq_zero]
    simpa using trailingBackslashes_append_of_ne hd ['\\', 'u', a, b, c]
  · intro pre rest heq hlen heven
    rcases pre with _ | ⟨p0, _ | ⟨p1, _ | ⟨p2, _ | ⟨p3, _ | ⟨p4, _ | ⟨p5, pre⟩⟩⟩⟩⟩⟩
    · simp only [List.cons_append, List.nil_append, List.cons.injEq] at heq
      exact ⟨a, b, c, d, r, by simp [heq], h⟩
    · simp only [List.cons_append, List.nil_append, List.cons.injEq] at heq
      rw [← heq.1] at heven
      simp at heven
    all_goals simp only [List.cons_append, List.nil_append, List.cons.injEq] at heq
    · exact absurd heq.2.2.1 ha
    · exact absurd heq.2.2.2.1 hb
    · exact absurd heq.2.2.2.2.1 hc
    · exact absurd heq.2.2.2.2.2.1 hd
    · simp only [List.length_cons, List.length_nil] at hlen
      omega

/-- Resolving the escapes of a raw key or value fails exactly when it holds a `\u` escape the
reader rejects. -/
theorem unescape_eq_none_iff (raw : List Char) : unescape raw = none ↔ Rejected raw := by
  fun_induction unescape raw with
  | case1 =>
    simp only [reduceCtorEq, false_iff]
    rintro ⟨pre, rest, h, -⟩
    simp at h
  | case2 rest ih | case3 rest ih | case4 rest ih | case5 rest ih =>
    simpa [ih] using (rejected_escaped_iff (by decide) rest).symm
  | case6 a b c d rest ch h ih =>
    simpa [ih] using (rejected_codePoint_iff (by simp [h]) rest).symm
  | case7 a b c d rest h =>
    refine iff_of_true rfl ⟨[], a :: b :: c :: d :: rest, rfl, rfl, ?_⟩
    rintro ⟨a', b', c', d', t, heq, hsome⟩
    simp only [List.cons.injEq] at heq
    obtain ⟨rfl, rfl, rfl, rfl, -⟩ := heq
    simp [h] at hsome
  | case8 tail h =>
    refine iff_of_true rfl ⟨[], tail, rfl, rfl, ?_⟩
    rintro ⟨a, b, c, d, t, heq, -⟩
    exact h a b c d t heq
  | case9 c rest _ _ _ _ _ hu ih => simpa [ih] using (rejected_escaped_iff hu rest).symm
  | case10 =>
    simp only [reduceCtorEq, false_iff]
    rintro ⟨pre, rest, h, -⟩
    have := congrArg List.length h
    simp at this
    omega
  | case11 c rest _ _ _ _ _ _ hcons hnil ih =>
    have hc : c ≠ '\\' := by
      rintro rfl
      cases rest with
      | nil => exact hnil rfl rfl
      | cons c' rest' => exact hcons c' rest' rfl rfl
    simpa [ih] using (rejected_plain_iff hc rest).symm

/-- A logical line fails to decode exactly when its key or its value holds an escape the
reader rejects. -/
theorem decodeLine_eq_none_iff_rejected (line : List Char) :
    decodeLine line = none ↔
      Rejected (splitEntry line false []).1 ∨ Rejected (splitEntry line false []).2 := by
  rw [decodeLine_eq_none_iff, unescape_eq_none_iff, unescape_eq_none_iff]

/-! ## Escapes of Unicode scalar values -/

/-- A raw key or value holds a `\u` escape whose next four characters are not the four
hexadecimal digits of a Unicode scalar value. -/
def Malformed (raw : List Char) : Prop :=
  ∃ pre rest, raw = pre ++ '\\' :: 'u' :: rest ∧ trailingBackslashes pre % 2 = 0 ∧
    ¬∃ a b c d t, rest = a :: b :: c :: d :: t ∧ WritesScalar a b c d

/-- A raw key or value holds a `\u` escape written with a plus sign. -/
def PlusEscape (raw : List Char) : Prop :=
  ∃ pre rest, raw = pre ++ '\\' :: 'u' :: '+' :: rest ∧ trailingBackslashes pre % 2 = 0

theorem decodes_iff_writesScalar {rest : List Char} (h : ∀ t, rest ≠ '+' :: t) :
    Decodes rest ↔ ∃ a b c d t, rest = a :: b :: c :: d :: t ∧ WritesScalar a b c d := by
  constructor
  · rintro ⟨a, b, c, d, t, rfl, hsome⟩
    rcases (isSome_codePoint?_iff a b c d).mp hsome with ⟨-, hw⟩ | ⟨rfl, -⟩
    · exact ⟨a, b, c, d, t, rfl, hw⟩
    · exact absurd rfl (h _)
  · rintro ⟨a, b, c, d, t, rfl, hw⟩
    have ha : a ≠ '+' := by
      rintro rfl
      exact h _ rfl
    exact ⟨a, b, c, d, t, rfl, (isSome_codePoint?_iff a b c d).mpr (.inl ⟨ha, hw⟩)⟩

/-- Where no escape is written with a plus sign, the reader rejects exactly the malformed
escapes. -/
theorem rejected_iff_malformed {raw : List Char} (h : ¬PlusEscape raw) :
    Rejected raw ↔ Malformed raw := by
  have hplus : ∀ pre rest, raw = pre ++ '\\' :: 'u' :: rest →
      trailingBackslashes pre % 2 = 0 → ∀ t, rest ≠ '+' :: t := by
    rintro pre rest hraw heven t rfl
    exact h ⟨pre, t, hraw, heven⟩
  constructor
  · rintro ⟨pre, rest, hraw, heven, hbad⟩
    exact ⟨pre, rest, hraw, heven, by rwa [← decodes_iff_writesScalar (hplus pre rest hraw heven)]⟩
  · rintro ⟨pre, rest, hraw, heven, hbad⟩
    exact ⟨pre, rest, hraw, heven, by rwa [decodes_iff_writesScalar (hplus pre rest hraw heven)]⟩

/-- A logical line holds a malformed `\u` escape in its key or in its value. -/
def MalformedLine (line : List Char) : Prop :=
  Malformed (splitEntry line false []).1 ∨ Malformed (splitEntry line false []).2

/-- A logical line holds a `\u` escape with a plus sign in its key or in its value. -/
def PlusEscapeLine (line : List Char) : Prop :=
  PlusEscape (splitEntry line false []).1 ∨ PlusEscape (splitEntry line false []).2

theorem not_plusEscape_of_not_mem {raw : List Char} (h : '+' ∉ raw) : ¬PlusEscape raw := by
  rintro ⟨pre, rest, rfl, -⟩
  simp at h

theorem decodeLine_eq_none_iff_malformed {line : List Char} (h : ¬PlusEscapeLine line) :
    decodeLine line = none ↔ MalformedLine line := by
  simp only [PlusEscapeLine, not_or] at h
  rw [decodeLine_eq_none_iff_rejected, rejected_iff_malformed h.1, rejected_iff_malformed h.2,
    MalformedLine]

/-- A text with no `\u` escape written with a plus sign fails to read exactly when a logical
line holds a malformed `\u` escape in its key or its value, and the error names the line the
first such logical line starts on; otherwise it reads, and every logical line gives an entry. -/
theorem parse_rejects_malformed_escapes (text : String)
    (hplus : ∀ ln ∈ logical text, ¬PlusEscapeLine ln.2) :
    (∀ n, parse text = .error (.invalidEscape n) ↔
      ∃ pre ln post, logical text = pre ++ ln :: post ∧ ln.1 = n ∧ MalformedLine ln.2 ∧
        ∀ l ∈ pre, ¬MalformedLine l.2) ∧
    ((∀ ln ∈ logical text, ¬MalformedLine ln.2) →
      ∃ p, parse text = .ok p ∧
        ∀ ln ∈ logical text, ∃ kv, decodeLine ln.2 = some kv ∧ (p.get? kv.1).isSome) := by
  have hline : ∀ ln ∈ logical text, (decodeLine ln.2).isNone ↔ MalformedLine ln.2 :=
    fun ln hln => by rw [Option.isNone_iff_eq_none, decodeLine_eq_none_iff_malformed (hplus ln hln)]
  refine ⟨fun n => ?_, fun hgood => ?_⟩
  · rw [parse_eq_error_iff]
    constructor
    · rintro ⟨ln, hfind, heq⟩
      obtain ⟨hbad, pre, post, hL, hpre⟩ := List.find?_eq_some_iff_append.mp hfind
      have hmem : ln ∈ logical text := by simp [hL]
      refine ⟨pre, ln, post, hL, (PropertiesError.invalidEscape.inj heq).symm,
        (hline ln hmem).mp hbad, fun l hl => ?_⟩
      have hlmem : l ∈ logical text := by simp [hL, hl]
      rw [← hline l hlmem]
      simpa [Option.isSome_iff_ne_none] using hpre l hl
    · rintro ⟨pre, ln, post, hL, rfl, hbad, hpre⟩
      have hmem : ln ∈ logical text := by simp [hL]
      refine ⟨ln, List.find?_eq_some_iff_append.mpr
        ⟨(hline ln hmem).mpr hbad, pre, post, hL, fun l hl => ?_⟩, rfl⟩
      have hlmem : l ∈ logical text := by simp [hL, hl]
      have hgood := (hline l hlmem).not.mpr (hpre l hl)
      simpa [Option.isSome_iff_ne_none] using hgood
  · -- every logical line decodes, so the text reads as the dictionary of their entries
    have hsome : ∀ ln ∈ logical text, (decodeLine ln.2).isSome := fun ln hln => by
      have hdecodes := (hline ln hln).not.mpr (hgood ln hln)
      simpa [Option.isSome_iff_ne_none] using hdecodes
    refine ⟨_, parse_eq_ok hsome, fun ln hln => ?_⟩
    obtain ⟨kv, hkv⟩ := Option.isSome_iff_exists.mp (hsome ln hln)
    have hkvmem : kv ∈ (logical text).filterMap (decodeLine ·.2) :=
      List.mem_filterMap.mpr ⟨ln, hln, hkv⟩
    refine ⟨kv, hkv, ?_⟩
    simp only [Properties.get?, Dictionary.get?_ofList, List.lookup_isSome_iff, List.mem_reverse]
    exact ⟨kv, hkvmem, beq_self_eq_true _⟩

/-- An escape on a continued line is reported at the line its entry starts on. -/
theorem continued_escape_reported_where_entry_starts :
    parse "a=1\nb=\\\n  \\uZZ12\n" = .error (.invalidEscape 2) := by
  have hlogical : logical "a=1\nb=\\\n  \\uZZ12\n" =
      [(1, "a=1".toList), (2, "b=\\uZZ12".toList)] := by decide
  have hplus : ∀ ln ∈ logical "a=1\nb=\\\n  \\uZZ12\n", ¬PlusEscapeLine ln.2 := by
    rw [hlogical]
    simp only [List.mem_cons, List.not_mem_nil, or_false]
    rintro ln (rfl | rfl) <;> exact fun h => h.elim
      (not_plusEscape_of_not_mem (by decide)) (not_plusEscape_of_not_mem (by decide))
  refine ((parse_rejects_malformed_escapes _ hplus).1 2).mpr
    ⟨[(1, "a=1".toList)], (2, "b=\\uZZ12".toList), [], hlogical, rfl, ?_, ?_⟩
  · exact (decodeLine_eq_none_iff_malformed (hplus _ (by simp [hlogical]))).mp (by decide)
  · simp only [List.mem_singleton]
    rintro l rfl
    exact (decodeLine_eq_none_iff_malformed (hplus _ (by simp [hlogical]))).not.mp (by decide)

/-- An escape with a plus sign and three hexadecimal digits is malformed, yet read as a code
point. -/
theorem plus_escape_read_as_code_point :
    MalformedLine "a=\\u+041".toList ∧
      parse "a=\\u+041\n" = .ok ⟨Dictionary.ofList [("a", "A")]⟩ := by
  have hsplit : splitEntry "a=\\u+041".toList false [] = ("a".toList, "\\u+041".toList) := by
    decide
  refine ⟨.inr ?_, by decide⟩
  rw [hsplit]
  refine ⟨[], ['+', '0', '4', '1'], by decide, rfl, ?_⟩
  rintro ⟨a, b, c, d, t, heq, va, -, -, -, ha, -⟩
  simp only [List.cons.injEq] at heq
  rw [← heq.1] at ha
  simp [hexDigit?] at ha

end Properties
end ResultLint
