import TextTemplate.Proofs.Quoting.Standard
import TextTemplate.Scan.Span

/-! # Spans of the standard dialect

What the standard dialect takes first from a text can be read off the front of the text.
An escape goes with the character behind it (`next_escape`).  A delimiter is its sign
with the blanks around it, as far as they belong to it (`Delimiter.Spelled`,
`next_delimiter`).  Inside placeholders, text between two equal quotation marks is one
span (`next_quoted`).  Any other character stands for itself (`next_plain`,
`next_literal`). -/
namespace TextTemplate

open Pattern

/-- The blanks. -/
abbrev blank : Unicode.CharSet := Unicode.Property.whiteSpace

/-- All characters are blanks. -/
def AllBlank (text : List Char) : Prop := ∀ c ∈ text, blank.contains c = true

/-- The text behind its first blanks. -/
abbrev dropBlanks (text : List Char) : List Char := text.dropWhile blank.contains

namespace Pattern

/-- What the blanks of a pattern lead to. -/
theorem outcomes_blanks {xs ys : List Char} (hxs : AllBlank xs) (hys : Avoids blank ys) {k : Cursor}
    (hk : k.rest = xs ++ ys) :
    ∃ l others, outcomes blanks none [k] = l :: others ∧ l.rest = ys ∧
      l.offset = k.offset + xs.length ∧ ∀ e ∈ others, ¬ Avoids blank e.rest :=
  outcomes_repeat_set rfl hxs hys hk

theorem avoids_cons {c : Char} {cs : List Char} :
    Avoids blank (c :: cs) ↔ blank.contains c = false := by
  simp [Avoids]

section signs
variable {sign : Char} (hsign : blank.contains sign = false)
include hsign

/-- A sign behind blanks is where all of the blanks have been taken. -/
theorem outcomes_sign {xs ys : List Char} (hxs : AllBlank xs) {k : Cursor}
    (hk : k.rest = xs ++ sign :: ys) :
    ∃ e, outcomes (.char sign) none (outcomes blanks none [k]) = [e] ∧ e.rest = ys ∧
      e.offset = k.offset + xs.length + 1 := by
  obtain ⟨l, others, hout, hrest, hoffset, hothers⟩ :=
    outcomes_blanks hxs (avoids_cons.mpr hsign) hk
  have hnone : others.filterMap (·.afterText [sign]) = [] := by
    refine List.filterMap_eq_nil_iff.mpr fun e he => afterText_char_eq_none fun hhead => ?_
    obtain ⟨cs, hcs⟩ := List.head?_eq_some_iff.mp hhead
    exact hothers e he (by rw [hcs]; exact avoids_cons.mpr hsign)
  refine ⟨l.advance sign ys, ?_, rfl, ?_⟩
  · rw [hout, outcomes_char, List.filterMap_cons_some (afterText_char hrest), hnone]
  · rw [Cursor.advance_offset, hoffset]

/-- Where the blanks are followed by something else, there is no sign. -/
theorem outcomes_sign_eq_nil {xs ys : List Char} (hxs : AllBlank xs) (hys : Avoids blank ys)
    (hne : ys.head? ≠ some sign) {k : Cursor} (hk : k.rest = xs ++ ys) :
    outcomes (.char sign) none (outcomes blanks none [k]) = [] := by
  obtain ⟨l, others, hout, hrest, -, hothers⟩ := outcomes_blanks hxs hys hk
  rw [hout, outcomes_char]
  refine List.filterMap_eq_nil_iff.mpr fun e he => afterText_char_eq_none fun hhead => ?_
  rcases List.mem_cons.mp he with rfl | he
  · exact hne (by rwa [← hrest])
  · obtain ⟨cs, hcs⟩ := List.head?_eq_some_iff.mp hhead
    exact hothers e he (by rw [hcs]; exact avoids_cons.mpr hsign)

end signs

end Pattern

theorem avoids_dropBlanks (text : List Char) : Avoids blank (dropBlanks text) := by
  intro c hc
  obtain ⟨cs, hcs⟩ := List.head?_eq_some_iff.mp hc
  have hne : dropBlanks text ≠ [] := by rw [hcs]; exact List.cons_ne_nil c cs
  simpa [hcs] using List.head_dropWhile_not blank.contains hne

theorem allBlank_takeWhile (text : List Char) : AllBlank (text.takeWhile blank.contains) :=
  List.all_eq_true.mp List.all_takeWhile

theorem dropBlanks_of_avoids {text : List Char} (h : Avoids blank text) :
    dropBlanks text = text := by
  cases text with
  | nil => rfl
  | cons c cs => rw [dropBlanks, List.dropWhile_cons_of_neg (by simp [avoids_cons.mp h])]

theorem dropBlanks_append {xs : List Char} (hxs : AllBlank xs) (ys : List Char) :
    dropBlanks (xs ++ ys) = dropBlanks ys :=
  List.dropWhile_append_of_pos hxs

namespace Matcher

/-- The width of a match of a pattern for the start of the text. -/
theorem width_atStart (source : String) (n : Node) (groups : Nat) (text : List Char) :
    (Matcher.ofPattern ⟨source, atStart n, groups⟩).width text =
      ((outcomes n none [.start text]).head?.map fun e =>
        Text.width (text.take e.offset)).getD 0 := by
  unfold width ofPattern
  simp only [find?_atStart]
  cases (outcomes n none [.start text]).head? <;> rfl

end Matcher

/-- The character that a delimiter is recognised by. -/
def Delimiter.sign : Delimiter → Char
  | .variableStart => '$'
  | .variableEnd => '}'
  | .pipeStart => '|'
  | .parameterStart => ':'

/-- The pattern of a delimiter of the standard dialect, without its anchor. -/
def Delimiter.node : Delimiter → Node
  | .variableStart => .seq (.literal ['$', '{']) blanks
  | .variableEnd => .seq blanks (.char '}')
  | .pipeStart => .seq blanks (.seq (.char '|') blanks)
  | .parameterStart => .seq blanks (.seq (.char ':') blanks)

/-- The text of a delimiter of the standard dialect in front of what it leaves: it takes
all the blanks behind it, unless it ends a placeholder, and all the blanks in front of
it, unless it starts one. -/
inductive Delimiter.Spelled : Delimiter → List Char → List Char → Prop where
  | variableStart {behind rest : List Char} : AllBlank behind → Avoids blank rest →
      Spelled .variableStart ('$' :: '{' :: behind) rest
  | variableEnd {before rest : List Char} : AllBlank before →
      Spelled .variableEnd (before ++ ['}']) rest
  | separator {δ : Delimiter} {before behind rest : List Char} :
      δ = .pipeStart ∨ δ = .parameterStart → AllBlank before → AllBlank behind →
      Avoids blank rest → Spelled δ (before ++ δ.sign :: behind) rest

namespace Dialect

theorem escape_width_cons (c : Char) (cs : List Char) :
    standard.escape.width (c :: cs) = if c = '\\' then 1 else 0 := by
  show (Matcher.ofPattern ⟨_, atStart (.char '\\'), 0⟩).width (c :: cs) = _
  rw [Matcher.width_atStart, outcomes_char]
  by_cases hc : c = '\\'
  · subst hc
    rfl
  · have hnone : (Cursor.start (c :: cs)).afterText ['\\'] = none :=
      afterText_char_eq_none (by simpa [Cursor.start] using hc)
    rw [if_neg hc, List.filterMap_cons_none hnone]
    rfl

theorem width_matcher (δ : Delimiter) (text : List Char) :
    (standard.matcher δ).width text =
      ((outcomes δ.node none [.start text]).head?.map fun e =>
        Text.width (text.take e.offset)).getD 0 := by
  cases δ <;> exact Matcher.width_atStart ..

/-- Where the pattern of a delimiter prefers to end, the delimiter ends. -/
theorem width_eq_of_head? {δ : Delimiter} {taken rest : List Char} {e : Cursor}
    (he : (outcomes δ.node none [.start (taken ++ rest)]).head? = some e)
    (hoffset : e.offset = taken.length) :
    (standard.matcher δ).width (taken ++ rest) = Text.width taken := by
  rw [width_matcher, he, Option.map_some, Option.getD_some, hoffset, List.take_left]

theorem width_eq_zero_of_nil {δ : Delimiter} {text : List Char}
    (h : outcomes δ.node none [.start text] = []) : (standard.matcher δ).width text = 0 := by
  rw [width_matcher, h]
  rfl

theorem blank_sign (δ : Delimiter) : blank.contains δ.sign = false := by cases δ <;> rfl

/-- No placeholder starts without a dollar sign and a brace. -/
theorem width_variableStart_eq_zero {text : List Char} (h : ¬ ['$', '{'] <+: text) :
    (standard.matcher .variableStart).width text = 0 := by
  have hstart : (Cursor.start text).afterText ['$', '{'] = none := afterText_eq_none h
  refine width_eq_zero_of_nil ?_
  rw [Delimiter.node, outcomes_seq]
  simp [outcomes, hstart]

/-- A delimiter is not found where its sign does not come next. -/
theorem width_eq_zero (δ : Delimiter) {xs ys : List Char} (hxs : AllBlank xs)
    (hys : Avoids blank ys) (hne : ys.head? ≠ some δ.sign) :
    (standard.matcher δ).width (xs ++ ys) = 0 := by
  have hnone : outcomes (.char δ.sign) none (outcomes blanks none [.start (xs ++ ys)]) = [] :=
    outcomes_sign_eq_nil (blank_sign δ) hxs hys hne rfl
  cases δ with
  | variableStart =>
    refine width_variableStart_eq_zero ?_
    rintro ⟨rest, hrest⟩
    cases xs with
    | nil => exact hne (by rw [← List.nil_append ys, ← hrest]; rfl)
    | cons x xs =>
      obtain rfl : '$' = x := (List.cons.inj hrest).1
      cases hxs '$' List.mem_cons_self
  | variableEnd =>
    rw [Delimiter.sign] at hnone
    exact width_eq_zero_of_nil (by rw [Delimiter.node, outcomes_seq, hnone])
  | pipeStart | parameterStart =>
    rw [Delimiter.sign] at hnone
    exact width_eq_zero_of_nil (by
      rw [Delimiter.node, outcomes_seq, outcomes_seq, hnone, outcomes_nil])

/-- Blanks, a sign and blanks are taken as a whole. -/
theorem head?_outcomes_separator {sign : Char} (hsign : blank.contains sign = false)
    {before behind rest : List Char} (hbefore : AllBlank before) (hbehind : AllBlank behind)
    (hrest : Avoids blank rest) :
    ∃ e, (outcomes (.seq blanks (.seq (.char sign) blanks)) none
      [.start (before ++ sign :: behind ++ rest)]).head? = some e ∧
      e.offset = (before ++ sign :: behind).length := by
  have hk : (Cursor.start (before ++ sign :: behind ++ rest)).rest =
      before ++ sign :: (behind ++ rest) := by
    simp [Cursor.start]
  obtain ⟨e, he, herest, heoffset⟩ := outcomes_sign hsign hbefore hk
  obtain ⟨l, others, hl, -, hloffset, -⟩ := outcomes_blanks hbehind hrest herest
  refine ⟨l, by rw [outcomes_seq, outcomes_seq, he, hl, List.head?_cons], ?_⟩
  rw [hloffset, heoffset]
  simp [Cursor.start]
  omega

/-- Blanks and a sign are taken as a whole. -/
theorem head?_outcomes_end {before rest : List Char} (hbefore : AllBlank before) :
    ∃ e, (outcomes Delimiter.variableEnd.node none [.start (before ++ ['}'] ++ rest)]).head? =
      some e ∧ e.offset = (before ++ ['}']).length := by
  have hk : (Cursor.start (before ++ ['}'] ++ rest)).rest = before ++ '}' :: rest := by
    simp [Cursor.start]
  obtain ⟨e, he, -, heoffset⟩ := outcomes_sign rfl hbefore hk
  refine ⟨e, by rw [Delimiter.node, outcomes_seq, he, List.head?_cons], ?_⟩
  rw [heoffset]
  simp [Cursor.start]

/-- The start of a placeholder and blanks are taken as a whole. -/
theorem head?_outcomes_start {behind rest : List Char} (hbehind : AllBlank behind)
    (hrest : Avoids blank rest) :
    ∃ e, (outcomes Delimiter.variableStart.node none
      [.start ('$' :: '{' :: behind ++ rest)]).head? = some e ∧
      e.offset = ('$' :: '{' :: behind).length := by
  have hopen : outcomes (.literal ['$', '{']) none [.start ('$' :: '{' :: behind ++ rest)] =
      [⟨some '{', 2, behind ++ rest, [], []⟩] := by
    simp [outcomes, Cursor.afterText, Cursor.start, Cursor.advance]
  obtain ⟨l, others, hl, -, hloffset, -⟩ :=
    outcomes_blanks hbehind hrest (k := ⟨some '{', 2, behind ++ rest, [], []⟩) rfl
  refine ⟨l, by rw [Delimiter.node, outcomes_seq, hopen, hl, List.head?_cons], ?_⟩
  rw [hloffset]
  simp
  omega

/-- **A delimiter is found with the blanks that belong to it.** -/
theorem width_of_spelled {δ : Delimiter} {taken rest : List Char} (h : δ.Spelled taken rest) :
    (standard.matcher δ).width (taken ++ rest) = Text.width taken := by
  cases h with
  | variableStart hbehind hrest =>
    obtain ⟨e, he, hoffset⟩ := head?_outcomes_start hbehind hrest
    exact width_eq_of_head? he hoffset
  | variableEnd hbefore =>
    obtain ⟨e, he, hoffset⟩ := head?_outcomes_end hbefore
    exact width_eq_of_head? he hoffset
  | separator hδ hbefore hbehind hrest =>
    rcases hδ with rfl | rfl
    · obtain ⟨e, he, hoffset⟩ := head?_outcomes_separator (blank_sign .pipeStart) hbefore hbehind
        hrest
      exact width_eq_of_head? he hoffset
    · obtain ⟨e, he, hoffset⟩ := head?_outcomes_separator (blank_sign .parameterStart) hbefore
        hbehind hrest
      exact width_eq_of_head? he hoffset

/-! ## The first span -/

theorem escape_width_eq_zero {text : List Char} (h : text.head? ≠ some '\\') (hne : text ≠ []) :
    standard.escape.width text = 0 := by
  obtain ⟨c, cs, rfl⟩ := List.exists_cons_of_ne_nil hne
  rw [escape_width_cons, if_neg (by simpa using h)]

/-- An escape is taken with the character behind it. -/
theorem next_escape (level : Level) (c : Char) (rest : List Char) :
    standard.next level '\\' (c :: rest) = .ok (.escaped ['\\'] (some c), rest) := by
  have hcut : cut 1 ('\\' :: c :: rest) = .ok (['\\'], c :: rest) :=
    cut_eq_ok_iff.mpr ⟨rfl, rfl⟩
  simp only [next, escape_width_cons, if_true, Nat.zero_lt_one, hcut]
  rfl

/-- A spelled delimiter is blanks and its sign, and more. -/
theorem exists_of_spelled {δ : Delimiter} {taken rest : List Char} (h : δ.Spelled taken rest) :
    ∃ before behind, AllBlank before ∧ taken = before ++ δ.sign :: behind := by
  cases h with
  | @variableStart behind => exact ⟨[], '{' :: behind, List.forall_mem_nil _, rfl⟩
  | @variableEnd before _ hbefore => exact ⟨before, [], hbefore, rfl⟩
  | @separator _ before behind _ _ hbefore => exact ⟨before, behind, hbefore, rfl⟩

section spelled
variable {δ : Delimiter} {taken rest : List Char} (h : δ.Spelled taken rest)
include h

theorem ne_nil_of_spelled : taken ≠ [] := by
  obtain ⟨before, behind, -, rfl⟩ := exists_of_spelled h
  simp

/-- No escape stands where a delimiter does. -/
theorem escape_width_of_spelled : standard.escape.width (taken ++ rest) = 0 := by
  obtain ⟨before, behind, hbefore, rfl⟩ := exists_of_spelled h
  refine escape_width_eq_zero ?_ (by simp)
  cases before with
  | nil => cases δ <;> simp [Delimiter.sign]
  | cons b bs =>
    have hb : blank.contains b = true := hbefore b List.mem_cons_self
    intro he
    obtain rfl := Option.some.inj he
    cases hb

/-- A delimiter of the level is found, and none of the others. -/
theorem delimiterAt_of_spelled {level : Level} (hlevel : δ ∈ level.delimiters) :
    standard.delimiterAt level (taken ++ rest) = some δ := by
  have hpos : 0 < Text.width taken := Text.width_pos (ne_nil_of_spelled h)
  refine delimiterAt_eq_some hlevel (by rwa [width_of_spelled h]) fun ε _ hε => ?_
  obtain ⟨before, behind, hbefore, htaken⟩ := exists_of_spelled h
  have hwhole : taken ++ rest = before ++ δ.sign :: (behind ++ rest) := by simp [htaken]
  have hsign : (δ.sign :: (behind ++ rest)).head? ≠ some ε.sign := by
    cases ε <;> cases δ <;> simp_all [Delimiter.sign]
  rw [hwhole]
  exact width_eq_zero ε hbefore (avoids_cons.mpr (blank_sign δ)) hsign

/-- **A delimiter of the level is taken with the blanks that belong to it.** -/
theorem next_delimiter {level : Level} (hlevel : δ ∈ level.delimiters) {c : Char} {cs : List Char}
    (htext : c :: cs = taken ++ rest) :
    standard.next level c cs = .ok (.delimiter δ taken, rest) := by
  refine next_eq_delimiter ?_ ?_ htext ?_
  · rw [htext, escape_width_of_spelled h]
  · rw [htext, delimiterAt_of_spelled h hlevel]
  · rw [htext, width_of_spelled h]

end spelled

/-- A character that means nothing to the standard dialect inside a placeholder. -/
structure Plain (c : Char) : Prop where
  blank : blank.contains c = false
  escape : c ≠ '\\'
  mark : ¬ IsMark c
  variableEnd : c ≠ '}'
  pipeStart : c ≠ '|'
  parameterStart : c ≠ ':'

instance (c : Char) : Decidable (Plain c) :=
  decidable_of_iff (blank.contains c = false ∧ c ≠ '\\' ∧ ¬ IsMark c ∧ c ≠ '}' ∧ c ≠ '|' ∧ c ≠ ':')
    ⟨fun ⟨h₁, h₂, h₃, h₄, h₅, h₆⟩ => ⟨h₁, h₂, h₃, h₄, h₅, h₆⟩,
      fun ⟨h₁, h₂, h₃, h₄, h₅, h₆⟩ => ⟨h₁, h₂, h₃, h₄, h₅, h₆⟩⟩

/-- A plain character is no sign. -/
theorem Plain.notMem_signs {c : Char} (h : Plain c) : c ∉ ['}', '|', ':'] := by
  simp [h.variableEnd, h.pipeStart, h.parameterStart]

/-- In literal text only escapes and starts of placeholders mean anything. -/
theorem next_literal_of_not_prefix {c : Char} {cs : List Char} (hescape : c ≠ '\\')
    (hstart : ¬ ['$', '{'] <+: c :: cs) : standard.next .literal c cs = .ok (.plain c, cs) := by
  refine next_eq_plain (by rw [escape_width_cons, if_neg hescape])
    (delimiterAt_eq_none fun δ hδ => ?_) rfl
  obtain rfl : δ = .variableStart := by simpa [Level.delimiters] using hδ
  exact width_variableStart_eq_zero hstart

/-- In literal text a character other than a backslash and a dollar sign stands for
itself. -/
theorem next_literal {c : Char} (hescape : c ≠ '\\') (hdollar : c ≠ '$') (cs : List Char) :
    standard.next .literal c cs = .ok (.plain c, cs) :=
  next_literal_of_not_prefix hescape fun h => hdollar (List.cons_prefix_cons.mp h).1.symm

/-- No delimiter of the level comes next, not even behind blanks. -/
def Unsigned (level : Level) (text : List Char) : Prop :=
  ∀ δ ∈ level.delimiters, (dropBlanks text).head? ≠ some δ.sign

theorem delimiterAt_of_unsigned {level : Level} {text : List Char} (h : Unsigned level text) :
    standard.delimiterAt level text = none := by
  refine delimiterAt_eq_none fun δ hδ => ?_
  have hzero := width_eq_zero δ (allBlank_takeWhile text) (avoids_dropBlanks text) (h δ hδ)
  rwa [List.takeWhile_append_dropWhile] at hzero

section placeholder
variable {level : Level} (hlevel : level ≠ .literal)
include hlevel

/-- A character that is neither a blank nor a sign is not the start of a delimiter. -/
theorem unsigned_of_head {c : Char} {cs : List Char} (hblank : blank.contains c = false)
    (hsigns : c ∉ ['}', '|', ':']) : Unsigned level (c :: cs) := by
  intro δ hδ he
  rw [dropBlanks_of_avoids (avoids_cons.mpr hblank)] at he
  obtain rfl : c = δ.sign := Option.some.inj he
  have hne := Level.ne_variableStart hlevel hδ
  cases δ <;> simp_all [Delimiter.sign]

theorem unsigned_of_mark {mark : Char} (h : IsMark mark) (cs : List Char) :
    Unsigned level (mark :: cs) := by
  refine unsigned_of_head hlevel ?_ ?_
  · rcases h with rfl | rfl <;> rfl
  · rcases h with rfl | rfl <;> decide

theorem quotedAt_standard (text : List Char) :
    standard.quotedAt level text = Quoting.standard.take? text := by
  have hquoting : standard.quoting level = some .standard := by
    cases level with
    | literal => exact absurd rfl hlevel
    | «variable» | pipe | parameter => rfl
  rw [quotedAt, hquoting, Option.bind_some]

/-- Where no delimiter comes next, a character other than a backslash and a quotation mark
stands for itself. -/
theorem next_of_unsigned {c : Char} {cs : List Char} (hescape : c ≠ '\\') (hmark : ¬ IsMark c)
    (h : Unsigned level (c :: cs)) : standard.next level c cs = .ok (.plain c, cs) := by
  have hhead : ∀ d ∈ (c :: cs).head?, ¬ IsMark d := by
    intro d hd
    obtain rfl := Option.some.inj hd
    exact hmark
  have hquoted : standard.quotedAt level (c :: cs) = none := by
    rw [quotedAt_standard hlevel, Quoting.take?_standard_eq_none hhead]
  exact next_eq_plain (by rw [escape_width_cons, if_neg hescape]) (delimiterAt_of_unsigned h)
    hquoted

/-- **A plain character stands for itself**, whatever comes behind it. -/
theorem next_plain {c : Char} (hc : Plain c) (cs : List Char) :
    standard.next level c cs = .ok (.plain c, cs) :=
  next_of_unsigned hlevel hc.escape hc.mark (unsigned_of_head hlevel hc.blank hc.notMem_signs)

/-- At a quotation mark everything hangs on the quoted span. -/
theorem next_of_mark {mark : Char} (h : IsMark mark) (cs : List Char) :
    standard.next level mark cs =
      match Quoting.standard.take? (mark :: cs) with
      | some (taken, content, rest) => .ok (.quoted taken content, rest)
      | none => .ok (.plain mark, cs) := by
  have hescape : standard.escape.width (mark :: cs) = 0 := by
    rw [escape_width_cons, if_neg (by rcases h with rfl | rfl <;> decide)]
  have hnone := delimiterAt_of_unsigned (unsigned_of_mark hlevel h cs)
  have hquoted := quotedAt_standard hlevel (mark :: cs)
  cases htake : Quoting.standard.take? (mark :: cs) with
  | none => exact next_eq_plain hescape hnone (by rw [hquoted, htake])
  | some found => exact next_eq_quoted hescape hnone (by rw [hquoted, htake])

/-- **Text between two equal quotation marks is one span**, whatever comes behind it. -/
theorem next_quoted {mark : Char} (h : IsMark mark) {inside rest : List Char}
    (hm : mark ∉ inside) (hb : '\\' ∉ inside) :
    standard.next level mark (inside ++ mark :: rest) =
      .ok (.quoted (mark :: (inside ++ [mark])) inside, rest) := by
  rw [next_of_mark hlevel h, Quoting.take?_standard_of_mark h hm hb]

end placeholder

end Dialect
end TextTemplate
