import TextTemplate.Dialect.Building
import TextTemplate.Proofs.Scan.Tiling

/-! # Dialects whose patterns keep to the scan position

The patterns of a dialect that was built are those of texts that were accepted
(`Dialect.accepted_of_build`).  Such a pattern is looked for at the scan position, but
it is found there only if it does not stray.  If no pattern of a dialect strays, every
text can be read to its end, and every match that is taken is the text that is passed
over (`match_at_cursor_iff`).

An accepted pattern can stray: see `exists_match_past_cursor`. -/
namespace TextTemplate

namespace Dialect

/-- The matchers of the escape and of the delimiters. -/
def matchers (d : Dialect) : List Matcher :=
  [d.escape, d.variableStart, d.variableEnd, d.pipeStart, d.parameterStart]

theorem matcher_mem (d : Dialect) (δ : Delimiter) : d.matcher δ ∈ d.matchers := by
  cases δ <;> simp [matcher, matchers]

theorem anchored_iff_matchers {d : Dialect} : d.Anchored ↔ ∀ m ∈ d.matchers, m.Anchored := by
  constructor
  · rintro ⟨hescape, hdelimiter⟩ m hm
    simp only [matchers, List.mem_cons, List.not_mem_nil, or_false] at hm
    rcases hm with rfl | rfl | rfl | rfl | rfl
    · exact hescape
    · exact hdelimiter .variableStart
    · exact hdelimiter .variableEnd
    · exact hdelimiter .pipeStart
    · exact hdelimiter .parameterStart
  · intro h
    exact ⟨h _ List.mem_cons_self, fun δ => h _ (d.matcher_mem δ)⟩

end Dialect

/-- The matcher is that of a pattern that a caller may write. -/
def Matcher.Accepted (m : Matcher) : Prop :=
  ∃ text p, Pattern.readAnchored text = .ok p ∧ m = .ofPattern p

theorem readOption_eq_ok_iff {option : PatternOption} {text : String} {p : Pattern} :
    readOption option text = .ok p ↔ Pattern.readAnchored text = .ok p := by
  unfold readOption
  cases Pattern.readAnchored text with
  | error e => constructor <;> (intro h; cases h)
  | ok q => constructor <;> (intro h; cases h; rfl)

namespace Dialect

theorem accepted_standard : ∀ m ∈ standard.matchers, m.Accepted := by
  intro m hm
  simp only [matchers, List.mem_cons, List.not_mem_nil, or_false] at hm
  rcases hm with rfl | rfl | rfl | rfl | rfl
  · exact ⟨_, _, Pattern.readAnchored_escape, rfl⟩
  · exact ⟨_, _, Pattern.readAnchored_variableStart, rfl⟩
  · exact ⟨_, _, Pattern.readAnchored_variableEnd, rfl⟩
  · exact ⟨_, _, Pattern.readAnchored_pipeStart, rfl⟩
  · exact ⟨_, _, Pattern.readAnchored_parameterStart, rfl⟩

/-- A step puts in the matcher of an accepted pattern or leaves the matchers alone. -/
theorem accepted_of_apply {d d' : Dialect} {step : DialectStep} (h : d.apply step = .ok d')
    (hd : ∀ m ∈ d.matchers, m.Accepted) : ∀ m ∈ d'.matchers, m.Accepted := by
  cases step with
  | escape text =>
    obtain ⟨p, hread, rfl⟩ := map_eq_ok_iff.mp h
    exact List.forall_mem_cons.mpr
      ⟨⟨text, p, readOption_eq_ok_iff.mp hread, rfl⟩, (List.forall_mem_cons.mp hd).2⟩
  | delimiter δ text =>
    obtain ⟨p, hread, rfl⟩ := map_eq_ok_iff.mp h
    have hp : (Matcher.ofPattern p).Accepted := ⟨text, p, readOption_eq_ok_iff.mp hread, rfl⟩
    cases δ <;> simp_all [matchers, withDelimiter]
  | quotedText text =>
    obtain ⟨q, -, rfl⟩ := map_eq_ok_iff.mp h
    exact hd
  | names q => cases h; exact hd
  | parameters q => cases h; exact hd

theorem accepted_of_applyAll {steps : List DialectStep} {d d' : Dialect}
    (h : d.applyAll steps = .ok d') (hd : ∀ m ∈ d.matchers, m.Accepted) :
    ∀ m ∈ d'.matchers, m.Accepted := by
  induction steps generalizing d with
  | nil => cases h; exact hd
  | cons step steps ih =>
    rw [applyAll, List.foldlM_cons] at h
    cases hstep : d.apply step with
    | error e => rw [hstep] at h; cases h
    | ok d₁ =>
      rw [hstep] at h
      exact ih h (accepted_of_apply hstep hd)

theorem build_escape {text : String} {p : Pattern} (h : Pattern.readAnchored text = .ok p) :
    build [.escape text] = .ok { standard with escape := .ofPattern p } := by
  simp [build, applyAll, apply, readOption_eq_ok_iff.mpr h, Except.map]

theorem build_delimiter {δ : Delimiter} {text : String} {p : Pattern}
    (h : Pattern.readAnchored text = .ok p) :
    build [.delimiter δ text] = .ok (standard.withDelimiter δ (.ofPattern p)) := by
  simp [build, applyAll, apply, readOption_eq_ok_iff.mpr h, Except.map]

/-- **The matchers of a dialect that was built are those of accepted patterns.** -/
theorem accepted_of_build {steps : List DialectStep} {d : Dialect} (h : build steps = .ok d) :
    ∀ m ∈ d.matchers, m.Accepted :=
  accepted_of_applyAll h accepted_standard

end Dialect

namespace Scanner

/-- The bytes that a run of a scanner has counted lie in front of the text that is left,
and cut the whole text between two characters. -/
theorem cut?_of_steps {d : Dialect} {text : List Char} {spans : List Span} {s : Scanner}
    (h : Steps d .blank (start text) spans s) :
    Text.cut? s.pos text = some (textOf spans, s.rest) := by
  obtain ⟨-, htext, hpos, -⟩ := steps_ofDraft (D := .start) h
  exact Text.cut?_eq_some_iff.mpr ⟨htext, by rw [hpos, Nat.zero_add]⟩

/-- **Where the matches of accepted patterns lie.**  A pattern of a dialect that was
built is matched at the front of the text at hand exactly if it does not stray, and a
pattern whose group is closed by its own parenthesis does not.  If no pattern of the
dialect strays, every text is read to its end: a scanner anywhere in it stands between
two characters, has passed over the spans that it took and nothing else, and takes as
its next span what lies in front of it. -/
theorem match_at_cursor_iff {steps : List DialectStep} {d : Dialect}
    (h : Dialect.build steps = .ok d) :
    (∀ m ∈ d.matchers, ∃ text p, Pattern.readAnchored text = .ok p ∧ m = .ofPattern p ∧
      (m.Anchored ↔ ¬ p.Strays) ∧ (Pattern.enclosed text = true → ¬ p.Strays)) ∧
    ((∀ m ∈ d.matchers, m.Anchored) → ∀ input : String,
      (∃ t, d.parse input = .ok t) ∧
      ∀ spans s, Steps d .blank (start input.toList) spans s →
        Text.cut? s.pos input.toList = some (textOf spans, s.rest) ∧
        (s.rest ≠ [] → ∃ span t, s.step d .blank = some (.ok (span, t)) ∧
          d.SpanAt s.level s.rest span t.rest)) := by
  refine ⟨fun m hm => ?_, fun hm input => ?_⟩
  · obtain ⟨text, p, hread, rfl⟩ := Dialect.accepted_of_build h m hm
    exact ⟨text, p, hread, rfl, Matcher.anchored_ofPattern_iff,
      fun he => Pattern.not_strays_of_anchored (Pattern.anchored_of_enclosed hread he)⟩
  · have hd : d.Anchored := Dialect.anchored_iff_matchers.mpr hm
    refine ⟨?_, fun spans s hrun => ⟨cut?_of_steps hrun, exists_step hd⟩⟩
    obtain ⟨spans, u, htiles, hu⟩ := exists_tiles hd (start input.toList)
    exact ⟨_, run_eq_ok_iff.mpr ⟨spans, u, htiles.steps, hu, rfl⟩⟩

/-- Pipes behind a semicolon: the parenthesis that is put behind the semicolon closes
the group, so every text can be read. -/
theorem match_at_cursor_semicolon :
    ∃ d p, Dialect.build [.delimiter .pipeStart ";"] = .ok d ∧ d.pipeStart = .ofPattern p ∧
      Pattern.enclosed ";" = true ∧ ¬ p.Strays ∧ ∀ input : String, (∃ t, d.parse input = .ok t) ∧
      ∀ spans s, Steps d .blank (start input.toList) spans s →
        Text.cut? s.pos input.toList = some (textOf spans, s.rest) ∧
        (s.rest ≠ [] → ∃ span t, s.step d .blank = some (.ok (span, t)) ∧
          d.SpanAt s.level s.rest span t.rest) := by
  have hread : Pattern.readAnchored ";" = .ok ⟨"^(?:;)", Pattern.atStart (.char ';'), 0⟩ :=
    Pattern.read_eq_ok (by decide +kernel)
  have hbuild := @Dialect.build_delimiter .pipeStart _ _ hread
  obtain ⟨-, hlaw⟩ := match_at_cursor_iff hbuild
  refine ⟨_, _, hbuild, rfl, by decide +kernel, Pattern.not_strays_of_anchored rfl, hlaw ?_⟩
  intro m hm
  simp only [Dialect.matchers, List.mem_cons, List.not_mem_nil, or_false] at hm
  rcases hm with rfl | rfl | rfl | rfl | rfl <;> exact Matcher.anchored_ofPattern rfl

end Scanner

/-- The pattern that `x)|(?:y` becomes: an `x` at the start of the text, or a `y`
anywhere. -/
def Pattern.closedEarly : Pattern :=
  ⟨"^(?:x)|(?:y)", .alt (atStart (.char 'x')) (.char 'y'), 0⟩

namespace Dialect

/-- **An accepted pattern can match behind the scan position.**  As the pattern of pipes
it is found two characters further on, and what lies at the scan position is passed over
in its place: a name is lost and two pipes too many are made.  As the pattern of the
escape it makes a scanner stop inside a character. -/
theorem exists_match_past_cursor :
    Pattern.readAnchored "x)|(?:y" = .ok Pattern.closedEarly ∧
    (∃ d, build [.delimiter .pipeStart "x)|(?:y"] = .ok d ∧
      d.pipeStart.find "aby\x7d".toList = some ⟨2, 1⟩ ∧
      d.parse "$\x7baby\x7d" =
        .ok ⟨["", ""], [⟨"", [⟨"", []⟩, ⟨"", []⟩, ⟨"", []⟩]⟩]⟩) ∧
    (∃ d, build [.escape "x)|(?:y"] = .ok d ∧ d.parse "éy" = .error .insideCharacter) := by
  have hread : Pattern.readAnchored "x)|(?:y" = .ok Pattern.closedEarly :=
    Pattern.read_eq_ok (by decide +kernel)
  refine ⟨hread, ⟨_, build_delimiter hread, by decide +kernel, ?_⟩, ⟨_, build_escape hread, ?_⟩⟩
  · have hspans : spans (standard.withDelimiter .pipeStart (.ofPattern Pattern.closedEarly))
        .literal "$\x7baby\x7d".toList = .ok [.delimiter .variableStart ['$', '{'],
          .delimiter .pipeStart ['a'], .delimiter .pipeStart ['b'], .delimiter .pipeStart ['y'],
          .delimiter .variableEnd ['}']] :=
      spans_eq_ok (by decide +kernel)
    rw [parse_eq_ofSpans, hspans]
    rfl
  · have hstop : (Dialect.parse { standard with escape := .ofPattern Pattern.closedEarly }
        "éy").isOk = false := by decide +kernel
    cases hp : Dialect.parse { standard with escape := .ofPattern Pattern.closedEarly } "éy" with
    | ok t => rw [hp] at hstop; cases hstop
    | error e => cases e; rfl

end Dialect
end TextTemplate
