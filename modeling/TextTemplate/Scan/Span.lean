import TextTemplate.Dialect.Basic

/-! # Spans of a template

Reading a template cuts its text into spans: escaped characters, delimiters,
quoted text and plain characters.  Which spans are possible depends on how deep
inside a placeholder the text is (`Level`); a delimiter alone decides the level
after it.

`Dialect.next` finds the first span of a text and `Dialect.spans` all of them.
`textOf_spans` says that the spans tile the text. -/
namespace TextTemplate

/-- How deep inside a placeholder a place in the text is. -/
inductive Level where
  | literal
  | variable
  | pipe
  | parameter
deriving DecidableEq, Repr

/-- The level behind a delimiter. -/
def Delimiter.level : Delimiter → Level
  | .variableStart => .variable
  | .variableEnd => .literal
  | .pipeStart => .pipe
  | .parameterStart => .parameter

/-- The delimiters that are looked for at a level, in order. -/
def Level.delimiters : Level → List Delimiter
  | .literal => [.variableStart]
  | .variable => [.variableEnd, .pipeStart]
  | .pipe => [.variableEnd, .parameterStart, .pipeStart]
  | .parameter => [.variableEnd, .parameterStart, .pipeStart]

namespace Level

variable {level : Level}

/-- In every placeholder its end and pipes are looked for. -/
theorem mem_delimiters (h : level ≠ .literal) :
    .variableEnd ∈ level.delimiters ∧ .pipeStart ∈ level.delimiters := by
  cases level with
  | literal => exact absurd rfl h
  | «variable» | pipe | parameter => simp [delimiters]

/-- Inside a placeholder no placeholder is started. -/
theorem ne_variableStart (h : level ≠ .literal) {δ : Delimiter} (hδ : δ ∈ level.delimiters) :
    δ ≠ .variableStart := by
  rintro rfl
  cases level <;> simp_all [delimiters]

/-- Where one delimiter is looked for besides another, no placeholder is started. -/
theorem ne_variableStart_of_ne {δ ε : Delimiter} (hδ : δ ∈ level.delimiters)
    (hε : ε ∈ level.delimiters) (hne : ε ≠ δ) : ε ≠ .variableStart ∧ δ ≠ .variableStart := by
  by_cases h : level = .literal
  · subst h
    have hδ' : δ = .variableStart := by simpa [delimiters] using hδ
    have hε' : ε = .variableStart := by simpa [delimiters] using hε
    exact absurd (hε'.trans hδ'.symm) hne
  · exact ⟨ne_variableStart h hε, ne_variableStart h hδ⟩

end Level

/-- A piece of the text of a template. -/
inductive Span where
  /-- An escape and the character behind it, which the end of the text may cut off. -/
  | escaped (marker : List Char) (kept : Option Char)
  | delimiter (d : Delimiter) (text : List Char)
  /-- Quoted text and what it stands for. -/
  | quoted (text content : List Char)
  | plain (c : Char)
deriving DecidableEq, Repr

namespace Span

/-- The text that the span covers. -/
def text : Span → List Char
  | .escaped marker kept => marker ++ kept.toList
  | .delimiter _ text => text
  | .quoted text _ => text
  | .plain c => [c]

/-- What the span adds to the literal, name or parameter it lies in. -/
def content : Span → List Char
  | .escaped _ kept => kept.toList
  | .delimiter _ _ => []
  | .quoted _ content => content
  | .plain c => [c]

end Span

/-- The level behind a span. -/
def Level.after (level : Level) : Span → Level
  | .delimiter d _ => d.level
  | _ => level

/-- Why the text of a template cannot be cut into spans. -/
inductive ScanError where
  /-- A match ends inside a character, so the text behind it is no text. -/
  | insideCharacter
deriving DecidableEq, Repr

/-- A result is made of another result. -/
theorem map_eq_ok_iff {ε α β : Type} {x : Except ε α} {f : α → β} {b : β} :
    x.map f = .ok b ↔ ∃ a, x = .ok a ∧ f a = b := by
  cases x <;> simp [Except.map]

namespace Dialect

/-- The quoting that applies at a level; literal text is not quoted. -/
def quoting (d : Dialect) : Level → Option Quoting
  | .literal => none
  | .variable => some d.names
  | .pipe => some d.names
  | .parameter => some d.parameters

/-- The first delimiter of the level that matches. -/
def delimiterAt (d : Dialect) (level : Level) (text : List Char) : Option Delimiter :=
  level.delimiters.find? fun δ => 0 < (d.matcher δ).width text

/-- The quoted span at the front of the text, if the level allows one. -/
def quotedAt (d : Dialect) (level : Level) (text : List Char) :
    Option (List Char × List Char × List Char) :=
  (d.quoting level).bind (·.take? text)

/-- Takes a match of `n` bytes off the front of a text. -/
def cut (n : Nat) (text : List Char) : Except ScanError (List Char × List Char) :=
  match Text.cut? n text with
  | some (taken, rest) => .ok (taken, rest)
  | none => .error .insideCharacter

/-- The escaped character behind a marker. -/
def escapedSpan (marker : List Char) : List Char → Span × List Char
  | [] => (.escaped marker none, [])
  | c :: rest => (.escaped marker (some c), rest)

/-- The first span of the text `c :: cs` and the text behind it: an escape, or else
a delimiter of the level, or else quoted text, or else one character. -/
def next (d : Dialect) (level : Level) (c : Char) (cs : List Char) :
    Except ScanError (Span × List Char) :=
  let text := c :: cs
  if 0 < d.escape.width text then
    (cut (d.escape.width text) text).map fun (marker, rest) => escapedSpan marker rest
  else
    match d.delimiterAt level text with
    | some δ =>
      (cut ((d.matcher δ).width text) text).map fun (taken, rest) => (.delimiter δ taken, rest)
    | none =>
      match d.quotedAt level text with
      | some (taken, content, rest) => .ok (.quoted taken content, rest)
      | none => .ok (.plain c, cs)

theorem cut_eq_ok_iff {n : Nat} {text taken rest : List Char} :
    cut n text = .ok (taken, rest) ↔ text = taken ++ rest ∧ Text.width taken = n := by
  unfold cut
  rw [← Text.cut?_eq_some_iff]
  split <;> rename_i h <;> simp [h]

/-- A delimiter of the level that is found while the others are not is the one that
counts. -/
theorem delimiterAt_eq_some {d : Dialect} {level : Level} {text : List Char} {ε : Delimiter}
    (hmem : ε ∈ level.delimiters) (hfound : 0 < (d.matcher ε).width text)
    (hothers : ∀ δ ∈ level.delimiters, δ ≠ ε → (d.matcher δ).width text = 0) :
    d.delimiterAt level text = some ε := by
  unfold delimiterAt
  cases hδ : level.delimiters.find? fun δ => decide (0 < (d.matcher δ).width text) with
  | none =>
    have hnone := List.find?_eq_none.mp hδ ε hmem
    simp [hfound] at hnone
  | some δ =>
    have hpos : 0 < (d.matcher δ).width text := by simpa using List.find?_some hδ
    by_cases he : δ = ε
    · rw [he]
    · have hzero := hothers δ (List.mem_of_find?_eq_some hδ) he
      omega

theorem delimiterAt_eq_none {d : Dialect} {level : Level} {text : List Char}
    (h : ∀ δ ∈ level.delimiters, (d.matcher δ).width text = 0) :
    d.delimiterAt level text = none := by
  refine List.find?_eq_none.mpr fun δ hδ => ?_
  simp [h δ hδ]

section next
variable {d : Dialect} {level : Level} {c : Char} {cs taken rest : List Char}

/-- An escape that matches is taken, with the character behind it. -/
theorem next_eq_escaped (htext : c :: cs = taken ++ rest) (hne : taken ≠ [])
    (hescape : d.escape.width (c :: cs) = Text.width taken) :
    d.next level c cs = .ok (escapedSpan taken rest) := by
  have hpos : 0 < Text.width taken := Text.width_pos hne
  simp only [next, hescape, hpos, if_true, cut_eq_ok_iff.mpr ⟨htext, rfl⟩]
  rfl

variable (hescape : d.escape.width (c :: cs) = 0)
include hescape

/-- Without an escape the first delimiter that matches is taken. -/
theorem next_eq_delimiter {δ : Delimiter} (hδ : d.delimiterAt level (c :: cs) = some δ)
    (htext : c :: cs = taken ++ rest) (hwidth : (d.matcher δ).width (c :: cs) = Text.width taken) :
    d.next level c cs = .ok (.delimiter δ taken, rest) := by
  simp only [next, hescape, Nat.lt_irrefl, if_false, hδ, hwidth, cut_eq_ok_iff.mpr ⟨htext, rfl⟩]
  rfl

variable (hnone : d.delimiterAt level (c :: cs) = none)
include hnone

/-- Without a delimiter quoted text is taken. -/
theorem next_eq_quoted {content : List Char}
    (hquoted : d.quotedAt level (c :: cs) = some (taken, content, rest)) :
    d.next level c cs = .ok (.quoted taken content, rest) := by
  simp only [next, hescape, Nat.lt_irrefl, if_false, hnone, hquoted]

/-- Where nothing else is found, a character stands for itself. -/
theorem next_eq_plain (hquoted : d.quotedAt level (c :: cs) = none) :
    d.next level c cs = .ok (.plain c, cs) := by
  simp only [next, hescape, Nat.lt_irrefl, if_false, hnone, hquoted]

end next

/-- All that the first span of a text can be, in the order in which it is looked for. -/
theorem next_cases {d : Dialect} {level : Level} {c : Char} {cs rest : List Char} {s : Span}
    (h : d.next level c cs = .ok (s, rest)) :
    (∃ marker after, c :: cs = marker ++ after ∧ marker ≠ [] ∧
      d.escape.width (c :: cs) = Text.width marker ∧
      s = .escaped marker after.head? ∧ rest = after.tail) ∨
    (d.escape.width (c :: cs) = 0 ∧ ∃ δ taken, d.delimiterAt level (c :: cs) = some δ ∧
      c :: cs = taken ++ rest ∧ taken ≠ [] ∧ (d.matcher δ).width (c :: cs) = Text.width taken ∧
      s = .delimiter δ taken) ∨
    (d.escape.width (c :: cs) = 0 ∧ d.delimiterAt level (c :: cs) = none ∧
      ∃ taken content, d.quotedAt level (c :: cs) = some (taken, content, rest) ∧
        s = .quoted taken content) ∨
    (d.escape.width (c :: cs) = 0 ∧ d.delimiterAt level (c :: cs) = none ∧
      d.quotedAt level (c :: cs) = none ∧ s = .plain c ∧ rest = cs) := by
  unfold next at h
  simp only at h
  split at h
  · rename_i hpos
    obtain ⟨⟨marker, after⟩, hcut, hspan⟩ := map_eq_ok_iff.mp h
    obtain ⟨htext, hwidth⟩ := cut_eq_ok_iff.mp hcut
    have hne : marker ≠ [] := Text.ne_nil_of_width (by omega)
    refine .inl ⟨marker, after, htext, hne, hwidth.symm, ?_⟩
    cases after <;> cases hspan <;> exact ⟨rfl, rfl⟩
  · rename_i hpos
    have hescape : d.escape.width (c :: cs) = 0 := by omega
    split at h
    · rename_i δ hδ
      obtain ⟨⟨taken, after⟩, hcut, hspan⟩ := map_eq_ok_iff.mp h
      obtain ⟨htext, hwidth⟩ := cut_eq_ok_iff.mp hcut
      have hfound : 0 < (d.matcher δ).width (c :: cs) := by simpa using List.find?_some hδ
      have hne : taken ≠ [] := Text.ne_nil_of_width (by omega)
      cases hspan
      exact .inr (.inl ⟨hescape, δ, taken, hδ, htext, hne, hwidth.symm, rfl⟩)
    · rename_i hnone
      split at h
      · rename_i taken content after hquoted
        cases h
        exact .inr (.inr (.inl ⟨hescape, hnone, taken, content, hquoted, rfl⟩))
      · rename_i hquoted
        cases h
        exact .inr (.inr (.inr ⟨hescape, hnone, hquoted, rfl, rfl⟩))

/-- The first span is a non-empty piece of the front of the text. -/
theorem eq_append_of_next {d : Dialect} {level : Level} {c : Char} {cs rest : List Char}
    {s : Span} (h : d.next level c cs = .ok (s, rest)) :
    c :: cs = s.text ++ rest ∧ s.text ≠ [] := by
  rcases next_cases h with ⟨marker, after, htext, hne, -, rfl, rfl⟩ |
    ⟨-, δ, taken, -, htext, hne, -, rfl⟩ | ⟨-, -, taken, content, hquoted, rfl⟩ |
    ⟨-, -, -, rfl, rfl⟩
  · rw [htext]
    cases after <;> simp [Span.text, hne]
  · exact ⟨htext, hne⟩
  · obtain ⟨q, -, htake⟩ := Option.bind_eq_some_iff.mp hquoted
    exact Quoting.eq_append_of_take? htake
  · exact ⟨rfl, List.cons_ne_nil _ _⟩

/-- The text behind the first span is shorter. -/
theorem length_lt_of_next {d : Dialect} {level : Level} {c : Char} {cs rest : List Char}
    {s : Span} (h : d.next level c cs = .ok (s, rest)) : rest.length < (c :: cs).length := by
  obtain ⟨he, hne⟩ := eq_append_of_next h
  have hp := List.length_pos_iff.mpr hne
  have hl := congrArg List.length he
  rw [List.length_append] at hl
  omega

/-- The spans of a text that starts at a level. -/
def spans (d : Dialect) (level : Level) : List Char → Except ScanError (List Span)
  | [] => .ok []
  | c :: cs =>
    match h : d.next level c cs with
    | .error e => .error e
    | .ok (s, rest) =>
      have := length_lt_of_next h
      (d.spans (level.after s) rest).map (s :: ·)
termination_by text => text.length
decreasing_by assumption

@[simp] theorem spans_nil (d : Dialect) (level : Level) : d.spans level [] = .ok [] := by
  rw [spans]

theorem spans_cons (d : Dialect) (level : Level) (c : Char) (cs : List Char) :
    d.spans level (c :: cs) =
      match d.next level c cs with
      | .error e => .error e
      | .ok (s, rest) => (d.spans (level.after s) rest).map (s :: ·) := by
  rw [spans]
  split <;> rename_i h <;> simp [h]

/-- The spans of a text are its first span and the spans behind it. -/
theorem spans_cons_eq_ok_iff {d : Dialect} {level : Level} {c : Char} {cs : List Char}
    {found : List Span} :
    d.spans level (c :: cs) = .ok found ↔
      ∃ s rest more, d.next level c cs = .ok (s, rest) ∧
        d.spans (level.after s) rest = .ok more ∧ found = s :: more := by
  rw [spans_cons]
  cases d.next level c cs with
  | error e => simp
  | ok p =>
    obtain ⟨s, rest⟩ := p
    simp only [map_eq_ok_iff, Except.ok.injEq, Prod.mk.injEq]
    constructor
    · rintro ⟨more, hmore, rfl⟩
      exact ⟨s, rest, more, ⟨rfl, rfl⟩, hmore, rfl⟩
    · rintro ⟨_, _, more, ⟨rfl, rfl⟩, hmore, rfl⟩
      exact ⟨more, hmore, rfl⟩

end Dialect

/-- The text that spans cover. -/
def textOf (spans : List Span) : List Char := spans.flatMap Span.text

/-- The spans of a text tile it. -/
theorem textOf_spans {d : Dialect} {level : Level} {text : List Char} {spans : List Span}
    (h : d.spans level text = .ok spans) : textOf spans = text := by
  induction hn : text.length using Nat.strongRecOn generalizing text level spans with
  -- each step takes the first span off; what is left is shorter
  | ind n ih =>
    cases text with
    | nil =>
      simp only [Dialect.spans_nil, Except.ok.injEq] at h
      subst h
      rfl
    | cons c cs =>
      obtain ⟨s, rest, more, hnext, hmore, rfl⟩ := Dialect.spans_cons_eq_ok_iff.mp h
      have hlt := Dialect.length_lt_of_next hnext
      have hrest := ih rest.length (by omega) hmore rfl
      rw [textOf] at hrest ⊢
      rw [List.flatMap_cons, hrest, (Dialect.eq_append_of_next hnext).1]

end TextTemplate
