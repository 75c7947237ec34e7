import TextTemplate.Scan.Draft
import TextTemplate.Scan.Scanner

/-! # The runs of a scanner

A run is a list of spans, each taken by one step (`Scanner.Steps`).  Two views of it
are shown to agree with the scanner itself.  The spans alone are those that
`Dialect.spans` finds, because what a step takes hangs on the level and the text only
(`steps_iff_spans`).  And a scanner that was started at a text always looks like a
draft, in which a piece without the pieces around it cannot be written down
(`ofDraft`, `steps_ofDraft`).  So a template is the tree of its spans
(`Dialect.parse_eq_ofSpans`), and no operation ever uses its fallback. -/
namespace TextTemplate

/-- A delimiter is one of those that are looked for at the level; other spans may
stand anywhere. -/
def Span.Fits (level : Level) : Span → Prop
  | .delimiter δ _ => δ ∈ level.delimiters
  | _ => True

/-- The first span of a text fits the level it is read at. -/
theorem Dialect.fits_of_next {d : Dialect} {level : Level} {c : Char} {cs rest : List Char}
    {span : Span} (h : d.next level c cs = .ok (span, rest)) : span.Fits level := by
  rcases next_cases h with ⟨_, _, -, -, -, rfl, -⟩ | ⟨-, δ, _, hδ, -, -, -, rfl⟩ |
    ⟨-, -, _, _, -, rfl⟩ | ⟨-, -, -, rfl, -⟩
  · trivial
  · exact List.mem_of_find?_eq_some hδ
  · trivial
  · trivial

/-- Each of several spans fits the level behind those before it. -/
def Span.FitFrom : Level → List Span → Prop
  | _, [] => True
  | level, span :: spans => span.Fits level ∧ FitFrom (level.after span) spans

/-- The spans of a text fit from the level it is read at. -/
theorem Dialect.fitFrom_of_spans {d : Dialect} {level : Level} {text : List Char}
    {spans : List Span} (h : d.spans level text = .ok spans) : Span.FitFrom level spans := by
  induction spans generalizing level text with
  | nil => trivial
  | cons span spans ih =>
    cases text with
    | nil => rw [spans_nil] at h; cases h
    | cons c cs =>
      obtain ⟨_, _, _, hnext, hmore, hspans⟩ := spans_cons_eq_ok_iff.mp h
      cases hspans
      exact ⟨fits_of_next hnext, ih hmore⟩

/-! ## Drafts -/

namespace Draft

/-- One literal is finished for each finished variable, and one more for the variable
that is open. -/
def Balanced (D : Draft) : Prop :=
  D.literals.length = D.placeholders.length + if D.level = .literal then 0 else 1

theorem balanced_start : start.Balanced := rfl

theorem balanced_collapse {D : Draft} (h : D.Balanced) : D.collapse.Balanced := by
  obtain ⟨ls, vs, piece⟩ := D
  cases piece <;> simpa [Balanced, collapse, level, OpenPiece.level, OpenPiece.closePipe,
    OpenPiece.closeParameter] using h

/-- Adding a span keeps the balance: a variable takes its literal with it when it is
opened, and is finished when it is closed. -/
theorem balanced_add {D : Draft} {span : Span} (hf : span.Fits D.level) (h : D.Balanced) :
    (D.add span).Balanced := by
  obtain ⟨ls, vs, piece⟩ := D
  cases span with
  | delimiter δ text =>
    cases δ with
    | variableEnd => exact balanced_collapse h
    | variableStart =>
      cases piece <;> simp_all [Balanced, add, enter, level, OpenPiece.level, Span.Fits,
        Level.delimiters]
    | pipeStart | parameterStart =>
      cases piece <;> simp_all [Balanced, add, enter, level, OpenPiece.level, Span.Fits,
        Level.delimiters, OpenPiece.closePipe, OpenPiece.closeParameter]
  | escaped | quoted | plain =>
    cases piece <;> exact h

/-- The level after a span. -/
theorem level_add {D : Draft} {span : Span} (hf : span.Fits D.level) :
    (D.add span).level = D.level.after span := by
  obtain ⟨ls, vs, piece⟩ := D
  cases span with
  | delimiter δ text =>
    cases δ <;> cases piece <;> simp_all [add, enter, collapse, level, OpenPiece.level, Span.Fits,
      Level.delimiters, Level.after, Delimiter.level, OpenPiece.closePipe,
      OpenPiece.closeParameter]
  | escaped | quoted | plain =>
    cases piece <;> rfl

end Draft

namespace Scanner

/-- The scanner that holds a draft. -/
def ofDraft (D : Draft) (pos : Nat) (rest : List Char) : Scanner :=
  let finished : Template := ⟨D.literals, D.placeholders⟩
  match D.piece with
  | .literal t => ⟨pos, rest, .literal, finished, t, none, none, none⟩
  | .variable v => ⟨pos, rest, .variable, finished, "", some v, none, none⟩
  | .pipe v p => ⟨pos, rest, .pipe, finished, "", some v, some p, none⟩
  | .parameter v p t => ⟨pos, rest, .parameter, finished, "", some v, some p, some t⟩

section ofDraft
variable (f : Fallback) (D : Draft) (pos : Nat) (rest : List Char)

@[simp] theorem ofDraft_level : (ofDraft D pos rest).level = D.level := by
  obtain ⟨ls, vs, piece⟩ := D
  cases piece <;> rfl

@[simp] theorem ofDraft_rest : (ofDraft D pos rest).rest = rest := by
  obtain ⟨ls, vs, piece⟩ := D
  cases piece <;> rfl

@[simp] theorem ofDraft_pos : (ofDraft D pos rest).pos = pos := by
  obtain ⟨ls, vs, piece⟩ := D
  cases piece <;> rfl

theorem append_ofDraft (text : String) :
    (ofDraft D pos rest).append f text =
      ofDraft { D with piece := D.piece.append text } pos rest := by
  obtain ⟨ls, vs, piece⟩ := D
  cases piece <;> rfl

theorem finish_ofDraft : (ofDraft D pos rest).finish f = D.finish := by
  obtain ⟨ls, vs, piece⟩ := D
  cases piece <;> rfl

variable {D}

theorem enter_ofDraft {δ : Delimiter} (hδ : δ ∈ D.level.delimiters) :
    (ofDraft D pos rest).enter f δ = ofDraft (D.enter δ) pos rest := by
  obtain ⟨ls, vs, piece⟩ := D
  cases δ <;> cases piece <;>
    first
      | rfl
      | simp [Draft.level, OpenPiece.level, Level.delimiters] at hδ

/-- Taking a span is adding it to the draft, whatever the fallback. -/
theorem take_ofDraft {span : Span} (hf : span.Fits D.level) (rest' : List Char) :
    (ofDraft D pos rest).take f span rest' =
      ofDraft (D.add span) (pos + Text.width span.text) rest' := by
  have hmove : { ofDraft D pos rest with
      pos := (ofDraft D pos rest).pos + Text.width span.text, rest := rest' } =
      ofDraft D (pos + Text.width span.text) rest' := by
    obtain ⟨ls, vs, piece⟩ := D
    cases piece <;> rfl
  unfold take
  simp only [hmove]
  cases span with
  | delimiter δ text => exact enter_ofDraft f _ _ hf
  | escaped marker kept =>
    cases kept with
    | some c => exact append_ofDraft f _ _ _ _
    | none =>
      obtain ⟨ls, vs, piece⟩ := D
      cases piece <;>
        simp [Draft.add, OpenPiece.append, Span.content]
  | quoted | plain => exact append_ofDraft f _ _ _ _

end ofDraft

/-! ## Runs -/

/-- A run of a scanner: the spans that it takes one after the other. -/
inductive Steps (d : Dialect) (f : Fallback) : Scanner → List Span → Scanner → Prop where
  | none (s : Scanner) : Steps d f s [] s
  | step {s t u : Scanner} {span : Span} {spans : List Span} :
      s.step d f = some (.ok (span, t)) → Steps d f t spans u → Steps d f s (span :: spans) u

variable {d : Dialect} {f g : Fallback}

/-- A scanner that makes a tree runs to the end of its text first. -/
theorem run_eq_ok_iff {s : Scanner} {t : Template} :
    s.run d f = .ok t ↔ ∃ spans u, Steps d f s spans u ∧ u.rest = [] ∧ t = u.finish f := by
  constructor
  · intro h
    fun_induction run d f s with
    | case1 s hstep =>
      cases h
      refine ⟨[], s, .none s, ?_, rfl⟩
      unfold step at hstep
      split at hstep
      · assumption
      · cases hstep
    | case2 => cases h
    | case3 s span u hstep _ ih =>
      obtain ⟨spans, v, hrun, hv, ht⟩ := ih h
      exact ⟨span :: spans, v, .step hstep hrun, hv, ht⟩
  · rintro ⟨spans, u, hrun, hu, rfl⟩
    induction hrun with
    | none s => simp [run_eq, step, hu]
    | step hstep _ ih => rw [run_eq, hstep, ← ih hu]

theorem Steps.trans {s t u : Scanner} {xs ys : List Span} (h : Steps d f s xs t)
    (h' : Steps d f t ys u) : Steps d f s (xs ++ ys) u := by
  induction h with
  | none => exact h'
  | step hs _ ih => exact .step hs (ih h')

@[simp] theorem step_ofDraft_nil (D : Draft) (pos : Nat) :
    (ofDraft D pos []).step d f = none := by
  simp [step]

/-- A step of a scanner that holds a draft adds a span to the draft, whatever the
fallback. -/
theorem step_ofDraft_cons (D : Draft) (pos : Nat) (c : Char) (cs : List Char) :
    (ofDraft D pos (c :: cs)).step d f =
      some ((d.next D.level c cs).map fun p =>
        (p.1, ofDraft (D.add p.1) (pos + Text.width p.1.text) p.2)) := by
  simp only [step, ofDraft_rest, ofDraft_level, Option.some.injEq]
  cases hn : d.next D.level c cs with
  | error e => rfl
  | ok p => simp only [Except.map, take_ofDraft f _ _ (Dialect.fits_of_next hn)]

theorem step_ofDraft_iff {D : Draft} {pos : Nat} {text : List Char} {t : Scanner} {span : Span} :
    (ofDraft D pos text).step d f = some (.ok (span, t)) ↔
      ∃ c cs rest, text = c :: cs ∧ d.next D.level c cs = .ok (span, rest) ∧
        t = ofDraft (D.add span) (pos + Text.width span.text) rest := by
  rw [step_eq_ok_iff, ofDraft_rest, ofDraft_level]
  constructor
  · rintro ⟨c, cs, rest, hr, hn, rfl⟩
    exact ⟨c, cs, rest, hr, hn, take_ofDraft f _ _ (Dialect.fits_of_next hn) _⟩
  · rintro ⟨c, cs, rest, hr, hn, rfl⟩
    exact ⟨c, cs, rest, hr, hn, (take_ofDraft f _ _ (Dialect.fits_of_next hn) _).symm⟩

/-- **A scanner that holds a draft holds one after any run**: the draft with the spans
added.  The draft stays balanced, and text and byte count go together. -/
theorem steps_ofDraft {D : Draft} {pos : Nat} {text : List Char} {spans : List Span}
    {u : Scanner} (h : Steps d f (ofDraft D pos text) spans u) :
    u = ofDraft (spans.foldl Draft.add D) u.pos u.rest ∧ text = textOf spans ++ u.rest ∧
      u.pos = pos + Text.width (textOf spans) ∧
      (D.Balanced → (spans.foldl Draft.add D).Balanced) := by
  generalize hs : ofDraft D pos text = s at h
  induction h generalizing D pos text with
  | none s =>
    subst hs
    simp [textOf]
  | @step s t u span spans hstep _ ih =>
    subst hs
    obtain ⟨c, cs, rest, rfl, hn, rfl⟩ := step_ofDraft_iff.mp hstep
    obtain ⟨hu, hrest, hpos, hb⟩ := ih rfl
    refine ⟨hu, ?_, ?_, fun h => hb (Draft.balanced_add (Dialect.fits_of_next hn) h)⟩
    · rw [(Dialect.eq_append_of_next hn).1, hrest]
      simp [textOf]
    · rw [hpos]
      simp [textOf, Nat.add_assoc]

/-- A scanner that holds a draft makes the same steps with any fallback. -/
theorem step_ofDraft_congr (D : Draft) (pos : Nat) (text : List Char) :
    (ofDraft D pos text).step d f = (ofDraft D pos text).step d g := by
  cases text with
  | nil => simp
  | cons c cs => rw [step_ofDraft_cons, step_ofDraft_cons]

/-- The spans of a run are those that the dialect finds in the text. -/
theorem steps_iff_spans {D : Draft} {pos : Nat} {text : List Char} {spans : List Span} :
    (∃ u, Steps d f (ofDraft D pos text) spans u ∧ u.rest = []) ↔
      d.spans D.level text = .ok spans := by
  induction hn : text.length using Nat.strongRecOn generalizing text D pos spans with
  -- both sides take the first span off; what is left is shorter
  | ind n ih =>
    subst hn
    cases text with
    | nil =>
      simp only [Dialect.spans_nil, Except.ok.injEq]
      constructor
      · rintro ⟨u, h, -⟩
        cases h with
        | none => rfl
        | step hstep _ => simp [step] at hstep
      · rintro rfl
        exact ⟨_, .none _, ofDraft_rest ..⟩
    | cons c cs =>
      rw [Dialect.spans_cons_eq_ok_iff]
      constructor
      · rintro ⟨u, h, hu⟩
        cases h with
        | none => simp at hu
        | @step _ t _ span spans hstep hrun =>
          obtain ⟨_, _, rest, ⟨rfl, rfl⟩, hnext, rfl⟩ := step_ofDraft_iff.mp hstep
          have hlt := Dialect.length_lt_of_next hnext
          have hmore := (ih _ hlt rfl).mp ⟨u, hrun, hu⟩
          rw [Draft.level_add (Dialect.fits_of_next hnext)] at hmore
          exact ⟨span, rest, spans, hnext, hmore, rfl⟩
      · rintro ⟨span, rest, more, hnext, hmore, rfl⟩
        have hlt := Dialect.length_lt_of_next hnext
        rw [← Draft.level_add (Dialect.fits_of_next hnext)] at hmore
        obtain ⟨u, hrun, hu⟩ := (ih _ hlt rfl).mpr hmore
        exact ⟨u, .step (step_ofDraft_iff.mpr ⟨c, cs, rest, rfl, hnext, rfl⟩) hrun, hu⟩

/-- A scanner that holds a draft makes the tree of the spans that are left. -/
theorem run_ofDraft (d : Dialect) (f : Fallback) (D : Draft) (pos : Nat) (text : List Char) :
    (ofDraft D pos text).run d f =
      (d.spans D.level text).map fun spans => (spans.foldl Draft.add D).finish := by
  induction hn : text.length using Nat.strongRecOn generalizing text D pos with
  | ind n ih =>
    subst hn
    rw [run_eq]
    cases text with
    | nil => simp [finish_ofDraft, Except.map]
    | cons c cs =>
      rw [step_ofDraft_cons, Dialect.spans_cons]
      cases hnext : d.next D.level c cs with
      | error e => rfl
      | ok p =>
        obtain ⟨span, rest⟩ := p
        simp only [Except.map]
        rw [ih _ (Dialect.length_lt_of_next hnext) _ _ _ rfl,
          Draft.level_add (Dialect.fits_of_next hnext)]
        cases d.spans (D.level.after span) rest <;> rfl

end Scanner

/-- Spans that are found, in a form that can be decided by evaluation. -/
theorem Dialect.spans_eq_ok {d : Dialect} {level : Level} {text : List Char} {spans : List Span}
    (h : (d.spans level text).toOption = some spans) : d.spans level text = .ok spans := by
  cases hs : d.spans level text with
  | error e => rw [hs] at h; cases h
  | ok found => rw [hs] at h; cases h; rfl

/-- A tree that is read, in a form that can be decided by evaluation. -/
theorem Dialect.parse_eq_ok {d : Dialect} {text : String} {t : Template}
    (h : (d.parse text).toOption = some t) : d.parse text = .ok t := by
  cases hparse : d.parse text with
  | error e => rw [hparse] at h; cases h
  | ok u => rw [hparse] at h; cases h; rfl

/-- **A template is the tree of its spans.** -/
theorem Dialect.parse_eq_ofSpans (d : Dialect) (text : String) :
    d.parse text = (d.spans .literal text.toList).map Template.ofSpans :=
  Scanner.run_ofDraft d .blank .start 0 text.toList

end TextTemplate
