import TextTemplate.Dialect.Standard
import TextTemplate.Proofs.Scan.Runs

/-! # Levels and open pieces

A scanner keeps its level and its open pieces apart.  They are in step
(`Scanner.Consistent`) if a piece is open exactly where the level says so, no literal
text waits inside a placeholder, and one literal is finished for each variable that
was started.  The count of literals alone would not carry through: a delimiter changes
level, pieces and counts at once.

The scanners in step are those that hold a balanced draft (`consistent_iff`).  So
they stay in step (`Consistent.step`), never use a fallback (`Consistent.step_congr`),
and lose nothing when they collapse (`Consistent.collapse_eq`). -/
namespace TextTemplate

namespace Scanner

/-- The open pieces are those that the level asks for. -/
structure Consistent (s : Scanner) : Prop where
  literals_length : s.finished.literals.length =
    s.finished.placeholders.length + if s.level = .literal then 0 else 1
  variable_isSome : s.openVariable.isSome ↔ .variable ≤ s.level
  pipe_isSome : s.openPipe.isSome ↔ .pipe ≤ s.level
  parameter_isSome : s.openParameter.isSome ↔ s.level = .parameter
  literal_eq : s.level ≠ .literal → s.literal = ""

/-- The open variable together with the pipe and the parameter that are open in it. -/
def pending (s : Scanner) : Option Variable :=
  s.openVariable.map fun v =>
    let pipe := s.openPipe.map fun p =>
      { p with parameters := p.parameters ++ s.openParameter.toList }
    { v with pipes := v.pipes ++ pipe.toList }

/-- The scanner with everything that is open put into the tree. -/
def collapsed (s : Scanner) : Scanner :=
  { s with
    level := .literal
    finished := { s.finished with placeholders := s.finished.placeholders ++ s.pending.toList }
    openVariable := none, openPipe := none, openParameter := none }

variable {d : Dialect} {f g : Fallback} {s t : Scanner}

theorem consistent_ofDraft {D : Draft} (h : D.Balanced) (pos : Nat) (rest : List Char) :
    (ofDraft D pos rest).Consistent := by
  obtain ⟨ls, vs, piece⟩ := D
  cases piece <;>
    exact ⟨h, by simp [ofDraft, Level.le_iff, Level.depth],
      by simp [ofDraft, Level.le_iff, Level.depth], by simp [ofDraft], by simp [ofDraft]⟩

/-- **A scanner in step holds a draft**: the level says which pieces there are, and a
draft has just these. -/
theorem consistent_iff :
    s.Consistent ↔ ∃ D : Draft, D.Balanced ∧ s = ofDraft D s.pos s.rest := by
  constructor
  · intro h
    obtain ⟨hn, hv, hp, ht, hl⟩ := h
    obtain ⟨pos, rest, level, ⟨ls, vs⟩, literal, v?, p?, t?⟩ := s
    cases level with
    | literal =>
      cases v? <;> cases p? <;> cases t? <;> simp [Level.le_iff, Level.depth] at hv hp ht
      exact ⟨⟨ls, vs, .literal literal⟩, hn, rfl⟩
    | «variable» =>
      cases v? <;> cases p? <;> cases t? <;> simp [Level.le_iff, Level.depth] at hv hp ht
      obtain rfl := hl (by simp)
      exact ⟨⟨ls, vs, .variable _⟩, hn, rfl⟩
    | pipe =>
      cases v? <;> cases p? <;> cases t? <;> simp [Level.le_iff, Level.depth] at hv hp ht
      obtain rfl := hl (by simp)
      exact ⟨⟨ls, vs, .pipe _ _⟩, hn, rfl⟩
    | parameter =>
      cases v? <;> cases p? <;> cases t? <;> simp [Level.le_iff, Level.depth] at hv hp ht
      obtain rfl := hl (by simp)
      exact ⟨⟨ls, vs, .parameter _ _ _⟩, hn, rfl⟩
  · rintro ⟨D, hD, hs⟩
    rw [hs]
    exact consistent_ofDraft hD _ _

/-- A step keeps level and open pieces in step. -/
theorem Consistent.step {span : Span} (h : s.Consistent)
    (hs : s.step d f = some (.ok (span, t))) : t.Consistent := by
  obtain ⟨D, hD, he⟩ := consistent_iff.mp h
  rw [he] at hs
  obtain ⟨c, cs, rest, -, hn, rfl⟩ := step_ofDraft_iff.mp hs
  exact consistent_ofDraft (Draft.balanced_add (Dialect.fits_of_next hn) hD) _ _

theorem Consistent.steps {spans : List Span} (h : s.Consistent) (hs : Steps d f s spans t) :
    t.Consistent := by
  induction hs with
  | none => exact h
  | step hstep _ ih => exact ih (h.step hstep)

theorem consistent_start (text : List Char) : (start text).Consistent :=
  consistent_ofDraft Draft.balanced_start 0 text

/-- In step, no operation of a step looks for a piece that is not open. -/
theorem Consistent.step_congr (h : s.Consistent) : s.step d f = s.step d g := by
  obtain ⟨D, -, he⟩ := consistent_iff.mp h
  rw [he]
  exact step_ofDraft_congr D _ _

theorem Consistent.finish_congr (h : s.Consistent) : s.finish f = s.finish g := by
  obtain ⟨D, -, he⟩ := consistent_iff.mp h
  rw [he, finish_ofDraft, finish_ofDraft]

/-- In step, collapsing puts everything that is open into the tree. -/
theorem Consistent.collapse_eq (h : s.Consistent) : s.collapse f = s.collapsed := by
  obtain ⟨⟨ls, vs, piece⟩, -, he⟩ := consistent_iff.mp h
  rw [he]
  cases piece <;>
    simp [ofDraft, collapse, collapsed, pending, closeParameter, closePipe, closeVariable]

theorem Consistent.pending_isSome (h : s.Consistent) : s.pending.isSome ↔ s.level ≠ .literal := by
  have hv := h.variable_isSome
  rw [pending, Option.isSome_map, hv]
  cases s.level <;> simp [Level.le_iff, Level.depth]

theorem Consistent.finish_wellFormed (h : s.Consistent) : (s.finish f).WellFormed := by
  have hn := h.literals_length
  have hp := h.pending_isSome
  simp only [finish, h.collapse_eq, collapsed, Template.WellFormed, List.length_append,
    List.length_singleton]
  cases hpend : s.pending with
  | none => simp_all
  | some v => simp_all

end Scanner

/-- A template that was read is well formed. -/
theorem Dialect.wellFormed_of_parse {d : Dialect} {text : String} {t : Template}
    (h : d.parse text = .ok t) : t.WellFormed := by
  obtain ⟨spans, u, hs, -, rfl⟩ := Scanner.run_eq_ok_iff.mp h
  exact ((Scanner.consistent_start _).steps hs).finish_wellFormed

namespace Scanner

/-- **The levels of a scanner.**  Before every step of every run the level and the open
pieces are in step; neither that step nor the end of the text would use a fallback,
whatever it held; and collapsing puts what is open, which is there outside literal
text, into the tree.  So a template that is read has one literal more than variables. -/
theorem levels_in_step (d : Dialect) (f : Fallback) (text : String) :
    (∀ spans s, Steps d f (start text.toList) spans s →
      s.Consistent ∧ (∀ g, s.step d g = s.step d f) ∧ (∀ g, s.finish g = s.finish f) ∧
        (∀ g, s.collapse g = s.collapsed) ∧ (s.pending.isSome ↔ s.level ≠ .literal)) ∧
    ∀ t, d.parse text = .ok t → t.WellFormed := by
  refine ⟨fun spans s hrun => ?_, fun t => Dialect.wellFormed_of_parse⟩
  have h : s.Consistent := (consistent_start _).steps hrun
  exact ⟨h, fun g => h.step_congr, fun g => h.finish_congr, fun g => h.collapse_eq,
    h.pending_isSome⟩

/-- A text that ends inside a parameter. -/
theorem levels_in_step_parameter :
    ∃ spans s, Steps .standard .blank (start "$\x7ba|p:x".toList) spans s ∧
      s.level = .parameter ∧ s.Consistent ∧ s.collapse .blank = s.collapsed ∧
      s.pending = some ⟨"a", [⟨"p", ["x"]⟩]⟩ ∧
      Dialect.standard.parse "$\x7ba|p:x" = .ok ⟨["", ""], [⟨"a", [⟨"p", ["x"]⟩]⟩]⟩ ∧
      Template.WellFormed ⟨["", ""], [⟨"a", [⟨"p", ["x"]⟩]⟩]⟩ := by
  have hspans : Dialect.standard.spans .literal "$\x7ba|p:x".toList =
      .ok [.delimiter .variableStart ['$', '{'], .plain 'a', .delimiter .pipeStart ['|'],
        .plain 'p', .delimiter .parameterStart [':'], .plain 'x'] :=
    Dialect.spans_eq_ok (by decide +kernel)
  have hparse : Dialect.standard.parse "$\x7ba|p:x" = .ok ⟨["", ""], [⟨"a", [⟨"p", ["x"]⟩]⟩]⟩ := by
    rw [Dialect.parse_eq_ofSpans, hspans]
    rfl
  obtain ⟨s, hrun, -⟩ := (@steps_iff_spans _ .blank .start 0 _ _).mpr hspans
  obtain ⟨hall, hform⟩ := levels_in_step .standard .blank "$\x7ba|p:x"
  obtain ⟨hs, -, -, hcollapse, -⟩ := hall _ _ hrun
  obtain ⟨hdraft, -⟩ := steps_ofDraft hrun
  refine ⟨_, s, hrun, ?_, hs, hcollapse _, ?_, hparse, hform _ hparse⟩
  · rw [hdraft]; rfl
  · rw [hdraft]; rfl

end Scanner
end TextTemplate
