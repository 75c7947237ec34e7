import TextTemplate.Proofs.Scan.Runs

/-! # Spans at the front of a text

`Dialect.Takes` says which spans a dialect takes from the front of a text and what they
leave.  Each span is taken with all of the text behind it in view, so what is taken from
a text and what is taken from its rest go together (`Takes.trans`) and the spans of the
rest complete those of the text (`Takes.spans_eq`).  Taking all of a text is finding its
spans (`takes_iff_spans`), and a scanner takes what its dialect takes
(`Scanner.steps_iff_takes`), so both say the same about the level at the end of a text
(`Dialect.endsAt_iff`). -/
namespace TextTemplate

namespace Level

/-- The level behind several spans. -/
def afterAll (level : Level) (spans : List Span) : Level := spans.foldl after level

@[simp] theorem afterAll_nil (level : Level) : level.afterAll [] = level := rfl

@[simp] theorem afterAll_cons (level : Level) (span : Span) (spans : List Span) :
    level.afterAll (span :: spans) = (level.after span).afterAll spans := rfl

end Level

/-- The level of a draft behind several spans. -/
theorem Draft.level_foldl_add {D : Draft} {spans : List Span} (h : Span.FitFrom D.level spans) :
    (spans.foldl Draft.add D).level = D.level.afterAll spans := by
  induction spans generalizing D with
  | nil => rfl
  | cons span spans ih =>
    obtain ⟨hspan, hspans⟩ := h
    rw [← level_add hspan] at hspans
    rw [List.foldl_cons, ih hspans, level_add hspan, Level.afterAll_cons]

namespace Dialect

/-- The spans that are taken from the front of a text, and the text that they leave. -/
inductive Takes (d : Dialect) : Level → List Char → List Span → List Char → Prop where
  | none (level : Level) (text : List Char) : Takes d level text [] text
  | next {level : Level} {c : Char} {cs more rest : List Char} {span : Span} {spans : List Span} :
      d.next level c cs = .ok (span, more) → Takes d (level.after span) more spans rest →
      Takes d level (c :: cs) (span :: spans) rest

variable {d : Dialect} {level : Level} {text more rest : List Char} {xs ys : List Span}

namespace Takes

/-- One span is taken. -/
theorem single {c : Char} {cs : List Char} {span : Span}
    (h : d.next level c cs = .ok (span, rest)) : d.Takes level (c :: cs) [span] rest :=
  .next h (.none _ rest)

theorem trans (h : d.Takes level text xs more) (h' : d.Takes (level.afterAll xs) more ys rest) :
    d.Takes level text (xs ++ ys) rest := by
  induction h with
  | none => exact h'
  | next hnext _ ih => exact .next hnext (ih h')

/-- The spans that are taken are a piece of the front of the text. -/
theorem eq_append (h : d.Takes level text xs rest) : text = textOf xs ++ rest := by
  induction h with
  | none => rfl
  | next hnext _ ih =>
    rw [(eq_append_of_next hnext).1, ih]
    simp [textOf]

/-- Each span that is taken fits the level behind those before it. -/
theorem fitFrom (h : d.Takes level text xs rest) : Span.FitFrom level xs := by
  induction h with
  | none => trivial
  | next hnext _ ih => exact ⟨fits_of_next hnext, ih⟩

/-- The spans of a text are those that are taken and those of the rest. -/
theorem spans_eq (h : d.Takes level text xs rest) :
    d.spans level text = (d.spans (level.afterAll xs) rest).map (xs ++ ·) := by
  induction h with
  | none level text => cases hs : d.spans level text <;> simp [hs, Except.map]
  | @next level c cs more rest span spans hnext _ ih =>
    rw [spans_cons, hnext]
    simp only [ih, Level.afterAll_cons]
    cases d.spans ((level.after span).afterAll spans) rest <;> rfl

end Takes

/-- The spans of a text are those that take all of it. -/
theorem takes_iff_spans : d.Takes level text xs [] ↔ d.spans level text = .ok xs := by
  constructor
  · intro h
    rw [h.spans_eq, spans_nil]
    simp [Except.map]
  · intro h
    induction xs generalizing level text with
    | nil =>
      obtain rfl : text = [] := (textOf_spans h).symm
      exact .none level []
    | cons span xs ih =>
      cases text with
      | nil => simp at h
      | cons c cs =>
        obtain ⟨_, _, _, hnext, hmore, hspans⟩ := spans_cons_eq_ok_iff.mp h
        cases hspans
        exact .next hnext (ih hmore)

/-- Where a first span is never missing, every text is taken as a whole. -/
theorem exists_takes (h : ∀ level c cs, ∃ span rest, d.next level c cs = .ok (span, rest))
    (level : Level) (text : List Char) : ∃ spans, d.Takes level text spans [] := by
  induction hn : text.length using Nat.strongRecOn generalizing level text with
  -- what a span leaves is shorter
  | ind n ih =>
    subst hn
    cases text with
    | nil => exact ⟨[], .none level []⟩
    | cons c cs =>
      obtain ⟨span, rest, hnext⟩ := h level c cs
      obtain ⟨spans, hmore⟩ := ih _ (length_lt_of_next hnext) (level.after span) rest rfl
      exact ⟨span :: spans, .next hnext hmore⟩

/-- A text that is taken as a whole is read as the tree of its spans. -/
theorem Takes.parse_eq {text : String} (h : d.Takes .literal text.toList xs []) :
    d.parse text = .ok (Template.ofSpans xs) := by
  rw [parse_eq_ofSpans, takes_iff_spans.mp h]
  rfl

end Dialect

/-- **A scanner takes what its dialect takes.** -/
theorem Scanner.steps_iff_takes {d : Dialect} {f : Fallback} {D : Draft} {pos : Nat}
    {text rest : List Char} {spans : List Span} :
    (∃ u, Steps d f (ofDraft D pos text) spans u ∧ u.rest = rest) ↔
      d.Takes D.level text spans rest := by
  constructor
  · rintro ⟨u, hrun, rfl⟩
    generalize hs : ofDraft D pos text = s at hrun
    induction hrun generalizing D pos text with
    | none s =>
      subst hs
      rw [ofDraft_rest]
      exact .none D.level text
    | step hstep _ ih =>
      subst hs
      obtain ⟨c, cs, more, rfl, hnext, rfl⟩ := step_ofDraft_iff.mp hstep
      have hmore := ih rfl
      rw [Draft.level_add (Dialect.fits_of_next hnext)] at hmore
      exact .next hnext hmore
  · intro h
    generalize hlevel : D.level = level at h
    induction h generalizing D pos with
    | none level text => exact ⟨_, .none _, ofDraft_rest ..⟩
    | @next level c cs more rest span spans hnext _ ih =>
      subst hlevel
      obtain ⟨u, hrun, hu⟩ := @ih (D.add span) (pos + Text.width span.text)
        (Draft.level_add (Dialect.fits_of_next hnext))
      exact ⟨u, .step (step_ofDraft_iff.mpr ⟨c, cs, more, rfl, hnext, rfl⟩) hrun, hu⟩

/-- A scanner that was started at a text takes spans of it and comes to the level behind
them. -/
theorem Scanner.takes_of_steps {d : Dialect} {f : Fallback} {text : List Char} {spans : List Span}
    {s : Scanner} (h : Steps d f (start text) spans s) :
    d.Takes .literal text spans s.rest ∧ s.level = Level.literal.afterAll spans := by
  have htakes := (@steps_iff_takes d f .start 0 _ _ _).mp ⟨s, h, rfl⟩
  obtain ⟨hs, -⟩ := @steps_ofDraft _ _ .start 0 _ _ _ h
  refine ⟨htakes, ?_⟩
  rw [hs, ofDraft_level]
  exact @Draft.level_foldl_add .start _ htakes.fitFrom

/-- A scanner that reads the text to its end comes out at the level. -/
def Dialect.EndsAt (d : Dialect) (text : String) (level : Level) : Prop :=
  ∃ spans s, Scanner.Steps d .blank (.start text.toList) spans s ∧ s.rest = [] ∧ s.level = level

theorem Dialect.endsAt_iff {d : Dialect} {text : String} {level : Level} :
    d.EndsAt text level ↔
      ∃ spans, d.Takes .literal text.toList spans [] ∧ Level.literal.afterAll spans = level := by
  constructor
  · rintro ⟨spans, s, hrun, hs, rfl⟩
    obtain ⟨htakes, hlevel⟩ := Scanner.takes_of_steps hrun
    exact ⟨spans, hs ▸ htakes, hlevel.symm⟩
  · rintro ⟨spans, htakes, rfl⟩
    obtain ⟨s, hrun, hs⟩ := (@Scanner.steps_iff_takes d .blank .start 0 _ _ _).mpr htakes
    exact ⟨spans, s, hrun, hs, (Scanner.takes_of_steps hrun).2⟩

end TextTemplate
