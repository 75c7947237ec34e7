import Mathlib.Data.List.Find
import TextTemplate.Proofs.Scan.Tiling

/-! # Answers that cannot be used

Matchers and ways of quoting may answer anything.  A match without text takes the scanner
nowhere, and a quoted span cannot be taken if it has no bytes, has more of them than are left,
or ends inside a character (`Quoted.FitsIn`).  In `Dialect.TakenAt` these answers count for
nothing, one rule for each kind of span, and these are the rules that the scanner goes by
(`Scanner.step_eq_ok_iff_takenAt`).

So a dialect can be made strict: its matchers and ways of quoting hold back what cannot be used
(`Dialect.strict`).  A scanner makes the same step in both from any state, and so both read
every text alike (`Scanner.steps_alike_strict`). -/
namespace TextTemplate

/-! ## Matches without text -/

/-- The matcher finds no text: there is no match, or one without text. -/
def Matcher.Passes (m : Matcher) (text : List Char) : Prop :=
  ∀ found, m.find text = some found → found.length = 0

theorem Matcher.passes_iff {m : Matcher} {text : List Char} :
    m.Passes text ↔ m.width text = 0 := by
  unfold Passes width
  cases m.find text <;> simp

theorem Matcher.width_of_find {m : Matcher} {text : List Char} {found : Found}
    (h : m.find text = some found) : m.width text = found.length := by
  rw [width, h]

/-- A matcher that counts text has found it. -/
theorem Matcher.exists_find_of_width {m : Matcher} {text : List Char} (h : 0 < m.width text) :
    ∃ found, m.find text = some found ∧ found.length = m.width text := by
  unfold width at h ⊢
  cases hfind : m.find text with
  | none => simp [hfind] at h
  | some found => exact ⟨found, rfl, rfl⟩

/-- The matcher that holds back matches without text. -/
def Matcher.strict (m : Matcher) : Matcher :=
  ⟨m.source, fun text => (m.find text).filter (0 < ·.length)⟩

theorem Matcher.strict_find_eq_none_iff {m : Matcher} {text : List Char} :
    m.strict.find text = none ↔ m.Passes text := by
  simp [strict, Passes]

@[simp] theorem Matcher.strict_width (m : Matcher) (text : List Char) :
    m.strict.width text = m.width text := by
  cases hstrict : m.strict.find text with
  | none =>
    rw [width, hstrict, passes_iff.mp (strict_find_eq_none_iff.mp hstrict)]
  | some found =>
    have hfind := (Option.filter_eq_some_iff.mp hstrict).1
    rw [width_of_find hstrict, width_of_find hfind]

/-! ## Spans that cannot be taken -/

/-- A quoted span that can be taken off the front of a text. -/
structure Quoted.FitsIn (span : Quoted) (text : List Char) : Prop where
  pos : 0 < span.consumed
  le_width : span.consumed ≤ Text.width text
  /-- The span ends where a character ends. -/
  boundary : ∃ taken, taken <+: text ∧ Text.width taken = span.consumed

theorem Quoted.fitsIn_iff {span : Quoted} {text : List Char} :
    span.FitsIn text ↔ 0 < span.consumed ∧ (Text.cut? span.consumed text).isSome = true := by
  constructor
  · rintro ⟨hpos, -, taken, ⟨rest, rfl⟩, hwidth⟩
    rw [← hwidth, Text.cut?_width_append, hwidth]
    exact ⟨hpos, rfl⟩
  · rintro ⟨hpos, hcut⟩
    obtain ⟨⟨taken, rest⟩, hcut⟩ := Option.isSome_iff_exists.mp hcut
    obtain ⟨rfl, hwidth⟩ := Text.cut?_eq_some_iff.mp hcut
    refine ⟨hpos, ?_, taken, List.prefix_append taken rest, hwidth⟩
    rw [Text.width_append]
    omega

/-- A span over a non-empty piece of the front of a text can be taken. -/
theorem Quoted.fitsIn_append {taken : List Char} (h : taken ≠ []) (content rest : List Char) :
    (Quoted.mk (Text.width taken) content).FitsIn (taken ++ rest) :=
  fitsIn_iff.mpr ⟨Text.width_pos h, by simp [Text.cut?_width_append]⟩

theorem Quoted.FitsIn.ne_nil {span : Quoted} {text taken content : List Char}
    (h : span.FitsIn text) (hspan : span = ⟨Text.width taken, content⟩) : taken ≠ [] := by
  have hpos := h.pos
  rw [hspan] at hpos
  exact Text.ne_nil_of_width hpos

instance (span : Quoted) (text : List Char) : Decidable (span.FitsIn text) :=
  decidable_of_iff _ Quoted.fitsIn_iff.symm

namespace Quoting

/-- The way of quoting finds no span that can be taken. -/
def Refuses (q : Quoting) (text : List Char) : Prop :=
  q.starts text = true → ¬ (q.extract text).FitsIn text

theorem take?_eq_none_iff {q : Quoting} {text : List Char} :
    q.take? text = none ↔ q.Refuses text := by
  unfold take? Refuses
  rw [Quoted.fitsIn_iff]
  cases q.starts text with
  | false => simp
  | true =>
    by_cases hzero : (q.extract text).consumed = 0
    · simp [hzero]
    · have hpos : 0 < (q.extract text).consumed := by omega
      simp [hzero, hpos]

/-- The way of quoting that holds back spans that cannot be taken. -/
def strict (q : Quoting) : Quoting :=
  .custom (fun text => q.starts text && decide ((q.extract text).FitsIn text)) q.extract

@[simp] theorem strict_starts (q : Quoting) (text : List Char) :
    q.strict.starts text = (q.starts text && decide ((q.extract text).FitsIn text)) := by
  rw [strict, starts]

@[simp] theorem strict_extract (q : Quoting) (text : List Char) :
    q.strict.extract text = q.extract text := by
  rw [strict, extract]

@[simp] theorem take?_strict (q : Quoting) (text : List Char) :
    q.strict.take? text = q.take? text := by
  cases h : q.take? text with
  | none =>
    rw [take?_eq_none_iff] at h ⊢
    unfold Refuses at h ⊢
    simpa using h
  | some span =>
    obtain ⟨taken, content, rest⟩ := span
    obtain ⟨hstarts, hextract, rfl, hne⟩ := take?_eq_some_iff.mp h
    have hfits : (q.extract (taken ++ rest)).FitsIn (taken ++ rest) := by
      rw [hextract]
      exact Quoted.fitsIn_append hne content rest
    exact take?_eq_some_iff.mpr ⟨by simp [hstarts, hfits], by simpa using hextract, rfl, hne⟩

end Quoting

namespace Dialect

/-! ## The rules -/

/-- The first span of a text at a level, and what it leaves, by the answers of the dialect: a
match of the escape and the character behind it; or else the first delimiter of the level that
is matched; or else a quoted span; or else one character.  A match without text is passed over
wherever it stands, and so is a quoted span that cannot be taken. -/
inductive TakenAt (d : Dialect) (level : Level) : List Char → Span → List Char → Prop
  | escaped {text marker after : List Char} {found : Found}
      (hfind : d.escape.find text = some found) (hpos : 0 < found.length)
      (htext : text = marker ++ after) (hwidth : Text.width marker = found.length) :
      TakenAt d level text (.escaped marker after.head?) after.tail
  | delimiter {text taken rest : List Char} {δ : Delimiter} {higher lower : List Delimiter}
      {found : Found} (hescape : d.escape.Passes text)
      (hlevel : level.delimiters = higher ++ δ :: lower)
      (hhigher : ∀ ε ∈ higher, (d.matcher ε).Passes text)
      (hfind : (d.matcher δ).find text = some found) (hpos : 0 < found.length)
      (htext : text = taken ++ rest) (hwidth : Text.width taken = found.length) :
      TakenAt d level text (.delimiter δ taken) rest
  | quoted {text taken content rest : List Char} {q : Quoting} (hescape : d.escape.Passes text)
      (hdelimiters : ∀ δ ∈ level.delimiters, (d.matcher δ).Passes text)
      (hlevel : d.quoting level = some q) (hstarts : q.starts text = true)
      (hfits : (q.extract text).FitsIn text)
      (hextract : q.extract text = ⟨Text.width taken, content⟩) (htext : text = taken ++ rest) :
      TakenAt d level text (.quoted taken content) rest
  | plain {c : Char} {cs : List Char} (hescape : d.escape.Passes (c :: cs))
      (hdelimiters : ∀ δ ∈ level.delimiters, (d.matcher δ).Passes (c :: cs))
      (hquoting : ∀ q, d.quoting level = some q → q.Refuses (c :: cs)) :
      TakenAt d level (c :: cs) (.plain c) cs

section

variable {d : Dialect} {level : Level} {text : List Char}

theorem delimiterAt_eq_none_iff :
    d.delimiterAt level text = none ↔ ∀ δ ∈ level.delimiters, (d.matcher δ).Passes text := by
  simp [delimiterAt, Matcher.passes_iff]

/-- The delimiter that counts is the first one of the level that is matched. -/
theorem delimiterAt_eq_some_iff {δ : Delimiter} :
    d.delimiterAt level text = some δ ↔
      0 < (d.matcher δ).width text ∧ ∃ higher lower, level.delimiters = higher ++ δ :: lower ∧
        ∀ ε ∈ higher, (d.matcher ε).Passes text := by
  simp [delimiterAt, List.find?_eq_some_iff_append, Matcher.passes_iff]

theorem quotedAt_eq_none_iff :
    d.quotedAt level text = none ↔ ∀ q, d.quoting level = some q → q.Refuses text := by
  simp [quotedAt, Option.bind_eq_none_iff, Quoting.take?_eq_none_iff]

end

variable {d : Dialect} {level : Level} {c : Char} {cs rest : List Char} {span : Span}

/-- What is taken has text. -/
theorem TakenAt.text_ne_nil {text : List Char} (h : d.TakenAt level text span rest) :
    text ≠ [] := by
  cases h with
  | escaped _ hpos htext hwidth =>
    rw [htext]
    exact List.append_ne_nil_of_left_ne_nil (Text.ne_nil_of_width (by omega)) _
  | delimiter _ _ _ _ hpos htext hwidth =>
    rw [htext]
    exact List.append_ne_nil_of_left_ne_nil (Text.ne_nil_of_width (by omega)) _
  | quoted _ _ _ _ hfits hextract htext =>
    rw [htext]
    exact List.append_ne_nil_of_left_ne_nil (hfits.ne_nil hextract) _
  | plain => exact List.cons_ne_nil _ _

theorem TakenAt.next_eq (h : d.TakenAt level (c :: cs) span rest) :
    d.next level c cs = .ok (span, rest) := by
  generalize htext' : c :: cs = text at h
  cases h with
  | @escaped _ marker after found hfind hpos htext hwidth =>
    subst htext'
    have hne : marker ≠ [] := Text.ne_nil_of_width (by omega)
    rw [next_eq_escaped htext hne (by rw [Matcher.width_of_find hfind, hwidth])]
    cases after <;> rfl
  | delimiter hescape hlevel hhigher hfind hpos htext hwidth =>
    subst htext'
    have hlength := Matcher.width_of_find hfind
    have hδ := delimiterAt_eq_some_iff.mpr ⟨by rwa [hlength], _, _, hlevel, hhigher⟩
    exact next_eq_delimiter (Matcher.passes_iff.mp hescape) hδ htext (by rw [hlength, hwidth])
  | @quoted _ taken content _ q hescape hdelimiters hlevel hstarts hfits hextract htext =>
    subst htext'
    refine next_eq_quoted (Matcher.passes_iff.mp hescape)
      (delimiterAt_eq_none_iff.mpr hdelimiters) ?_
    rw [quotedAt, hlevel, Option.bind_some, Quoting.take?_eq_some_iff]
    exact ⟨hstarts, hextract, htext, hfits.ne_nil hextract⟩
  | plain hescape hdelimiters hquoting =>
    cases htext'
    exact next_eq_plain (Matcher.passes_iff.mp hescape) (delimiterAt_eq_none_iff.mpr hdelimiters)
      (quotedAt_eq_none_iff.mpr hquoting)

theorem takenAt_of_next (h : d.next level c cs = .ok (span, rest)) :
    d.TakenAt level (c :: cs) span rest := by
  rcases next_cases h with ⟨marker, after, htext, hne, hwidth, rfl, rfl⟩ |
    ⟨hescape, δ, taken, hδ, htext, -, hwidth, rfl⟩ |
    ⟨hescape, hnone, taken, content, hquoted, rfl⟩ | ⟨hescape, hnone, hquoted, rfl, rfl⟩
  · have hpos : 0 < d.escape.width (c :: cs) := hwidth ▸ Text.width_pos hne
    obtain ⟨found, hfind, hlength⟩ := Matcher.exists_find_of_width hpos
    exact .escaped hfind (by omega) htext (by omega)
  · obtain ⟨hpos, higher, lower, hlevel, hhigher⟩ := delimiterAt_eq_some_iff.mp hδ
    obtain ⟨found, hfind, hlength⟩ := Matcher.exists_find_of_width hpos
    exact .delimiter (Matcher.passes_iff.mpr hescape) hlevel hhigher hfind (by omega) htext
      (by omega)
  · obtain ⟨q, hlevel, htake⟩ := Option.bind_eq_some_iff.mp hquoted
    obtain ⟨hstarts, hextract, htext, hne⟩ := Quoting.take?_eq_some_iff.mp htake
    refine .quoted (Matcher.passes_iff.mpr hescape) (delimiterAt_eq_none_iff.mp hnone) hlevel
      hstarts ?_ hextract htext
    rw [hextract, htext]
    exact Quoted.fitsIn_append hne content rest
  · exact .plain (Matcher.passes_iff.mpr hescape) (delimiterAt_eq_none_iff.mp hnone)
      (quotedAt_eq_none_iff.mp hquoted)

/-- **The first span of a text is the one that the rules give.** -/
theorem next_eq_ok_iff_takenAt :
    d.next level c cs = .ok (span, rest) ↔ d.TakenAt level (c :: cs) span rest :=
  ⟨takenAt_of_next, TakenAt.next_eq⟩

/-! ## Dialects that answer alike -/

/-- The dialects give the same answers, as far as answers can be used. -/
structure AnswersAlike (A B : Dialect) : Prop where
  escape : ∀ text, A.escape.width text = B.escape.width text
  matcher : ∀ δ text, (A.matcher δ).width text = (B.matcher δ).width text
  quoted : ∀ level text, A.quotedAt level text = B.quotedAt level text

variable {A B : Dialect}

/-- What is taken hangs on the answers that can be used. -/
theorem AnswersAlike.next_eq (h : AnswersAlike A B) (level : Level) (c : Char) (cs : List Char) :
    A.next level c cs = B.next level c cs := by
  have hdelimiter : A.delimiterAt level (c :: cs) = B.delimiterAt level (c :: cs) :=
    List.find?_congr fun δ _ => by rw [h.matcher]
  simp only [next, h.escape, hdelimiter, h.matcher, h.quoted]

/-- From any state a scanner makes the same step in both dialects: the same span, and the same
pieces and place behind it. -/
theorem AnswersAlike.step_eq (h : AnswersAlike A B) (f : Fallback) (s : Scanner) :
    s.step A f = s.step B f := by
  unfold Scanner.step
  cases s.rest with
  | nil => rfl
  | cons c cs => simp only [h.next_eq]

/-- The scanners go in lock step, so they come to the same tree. -/
theorem AnswersAlike.run_eq (h : AnswersAlike A B) (f : Fallback) (s : Scanner) :
    s.run A f = s.run B f := by
  fun_induction Scanner.run A f s with
  | case1 s hstep =>
    rw [h.step_eq] at hstep
    rw [Scanner.run_eq, hstep]
  | case2 s e hstep =>
    rw [h.step_eq] at hstep
    rw [Scanner.run_eq, hstep]
  | case3 s span t hstep _ ih =>
    rw [h.step_eq] at hstep
    rw [ih, s.run_eq, hstep]

/-- **Dialects that answer alike read alike.** -/
theorem AnswersAlike.parse_eq (h : AnswersAlike A B) (text : String) :
    A.parse text = B.parse text :=
  h.run_eq .blank (.start text.toList)

/-! ## Strict dialects -/

/-- The dialect that holds back all answers that cannot be used. -/
def strict (d : Dialect) : Dialect where
  escape := d.escape.strict
  variableStart := d.variableStart.strict
  variableEnd := d.variableEnd.strict
  pipeStart := d.pipeStart.strict
  parameterStart := d.parameterStart.strict
  names := d.names.strict
  parameters := d.parameters.strict

theorem strict_matcher (d : Dialect) (δ : Delimiter) :
    d.strict.matcher δ = (d.matcher δ).strict := by
  cases δ <;> rfl

theorem strict_quoting (d : Dialect) (level : Level) :
    d.strict.quoting level = (d.quoting level).map Quoting.strict := by
  cases level <;> rfl

theorem answersAlike_strict (d : Dialect) : AnswersAlike d.strict d where
  escape := d.escape.strict_width
  matcher δ text := by rw [strict_matcher, Matcher.strict_width]
  quoted level text := by
    rw [quotedAt, quotedAt, strict_quoting]
    cases d.quoting level with
    | none => rfl
    | some q => exact q.take?_strict text

end Dialect

namespace Scanner

/-- A scanner takes the span that the rules give. -/
theorem step_eq_ok_iff_takenAt {d : Dialect} {f : Fallback} {s t : Scanner} {span : Span} :
    s.step d f = some (.ok (span, t)) ↔
      ∃ rest, d.TakenAt s.level s.rest span rest ∧ t = s.take f span rest := by
  rw [step_eq_ok_iff]
  constructor
  · rintro ⟨c, cs, rest, hrest, hnext, rfl⟩
    rw [Dialect.next_eq_ok_iff_takenAt, ← hrest] at hnext
    exact ⟨rest, hnext, rfl⟩
  · rintro ⟨rest, htaken, rfl⟩
    obtain ⟨c, cs, hrest⟩ := List.exists_cons_of_ne_nil htaken.text_ne_nil
    rw [hrest, ← Dialect.next_eq_ok_iff_takenAt] at htaken
    exact ⟨c, cs, rest, hrest, htaken, rfl⟩

/-- **What cannot be used is as good as no match.**  A dialect whose matchers keep to the front
of the text, and the strict one, read every text, and make the same tree of it; a scanner makes
the same step in both from any state.  The step is the one that the rules give.  They pass over
a match without text, whatever else is matched there, and where a quoted span cannot be taken
they leave one character as it stands, so that only the content of spans that were taken is
ever added. -/
theorem steps_alike_strict {d : Dialect} (hd : d.Anchored) :
    (∀ text, ∃ t, d.parse text = .ok t ∧ d.strict.parse text = .ok t) ∧
    (∀ (f : Fallback) (s : Scanner), s.step d.strict f = s.step d f) ∧
    ∀ (f : Fallback) (s t : Scanner) (span : Span), s.step d f = some (.ok (span, t)) ↔
      ∃ rest, d.TakenAt s.level s.rest span rest ∧ t = s.take f span rest := by
  refine ⟨fun text => ?_, d.answersAlike_strict.step_eq, fun f s t span => step_eq_ok_iff_takenAt⟩
  obtain ⟨t, ht⟩ := hd.exists_parse text
  exact ⟨t, ht, by rw [d.answersAlike_strict.parse_eq, ht]⟩

end Scanner

/-- A dialect whose placeholders end at any blanks, none included, and whose names are quoted
two bytes at a time. -/
def Dialect.restless : Dialect :=
  { Dialect.standard with
    variableEnd := .ofPattern ⟨"^(?:\\s*)", Pattern.atStart Pattern.blanks, 0⟩
    names := .custom (fun _ => true) fun _ => ⟨2, ['!']⟩ }

/-- The end that is found without text hides neither the bar nor the letters; and where the two
bytes are a letter and half of another, or too many, the letter stands for itself. -/
theorem Scanner.steps_alike_strict_restless :
    Dialect.restless.Anchored ∧
      Dialect.restless.parse "$\x7baé|b" = .ok ⟨["", ""], [⟨"a!", [⟨"b", []⟩]⟩]⟩ ∧
      Dialect.restless.strict.parse "$\x7baé|b" = .ok ⟨["", ""], [⟨"a!", [⟨"b", []⟩]⟩]⟩ ∧
      Dialect.restless.TakenAt .variable "|b".toList (.delimiter .pipeStart ['|']) ['b'] ∧
      Dialect.restless.TakenAt .variable "aé|b".toList (.plain 'a') "é|b".toList := by
  have hanchored : Dialect.restless.Anchored := by
    refine ⟨Matcher.anchored_ofPattern rfl, fun δ => ?_⟩
    cases δ <;> exact Matcher.anchored_ofPattern rfl
  obtain ⟨hparse, -, hrules⟩ := Scanner.steps_alike_strict hanchored
  have ht : Dialect.restless.parse "$\x7baé|b" = .ok ⟨["", ""], [⟨"a!", [⟨"b", []⟩]⟩]⟩ :=
    Dialect.parse_eq_ok (by decide +kernel)
  obtain ⟨t, hparsed, hstrict⟩ := hparse "$\x7baé|b"
  cases ht.symm.trans hparsed
  have htaken : ∀ text span t,
      ({ Scanner.start text with level := .variable }).step .restless .blank =
        some (.ok (span, t)) → Dialect.restless.TakenAt .variable text span t.rest := by
    intro text span t hstep
    obtain ⟨rest, htaken, rfl⟩ := (hrules _ _ _ _).mp hstep
    rwa [Scanner.take_rest]
  have hbar := htaken "|b".toList _ _ rfl
  have hletter := htaken "aé|b".toList _ _ rfl
  exact ⟨hanchored, ht, hstrict, hbar, hletter⟩

end TextTemplate
