import TextTemplate.Proofs.Dialect.Anchoring

/-! # A scanner comes to the end of its text

Every step of a scanner counts at least one byte (`Consistent.lt_pos_of_step`): a match
without text counts for no match, and quoted text that is empty, too long, or cut off
inside a character is not taken.  So a run is never longer than the bytes it has counted
(`Consistent.add_length_le_pos`).

If the matchers of a dialect keep to the front of the text, no step fails either, and the
bytes counted end where a character ends.  Then every text is read to its end
(`reaches_end`).  Nothing is asked of the ways of quoting. -/
namespace TextTemplate.Scanner

variable {d : Dialect} {f : Fallback} {s t : Scanner}

/-- A step counts at least one byte. -/
theorem Consistent.lt_pos_of_step {span : Span} (h : s.Consistent)
    (hstep : s.step d f = some (.ok (span, t))) : s.pos < t.pos := by
  obtain ⟨D, -, hs⟩ := consistent_iff.mp h
  rw [hs] at hstep
  obtain ⟨c, cs, rest, -, hnext, rfl⟩ := step_ofDraft_iff.mp hstep
  obtain ⟨-, hne⟩ := Dialect.eq_append_of_next hnext
  have hpos : 0 < Text.width span.text := Text.width_pos hne
  rw [ofDraft_pos]
  omega

/-- A run counts at least one byte for each span. -/
theorem Consistent.add_length_le_pos {spans : List Span} (h : s.Consistent)
    (hrun : Steps d f s spans t) : s.pos + spans.length ≤ t.pos := by
  induction hrun with
  | none s => exact Nat.le_refl _
  | step hstep _ ih =>
    have hlt := h.lt_pos_of_step hstep
    have hmore := ih (h.step hstep)
    rw [List.length_cons]
    omega

section start
variable {text : List Char} {spans : List Span} (h : Steps d .blank (start text) spans s)
include h

/-- The bytes that a run has counted and those that are left make up the text. -/
theorem pos_add_width_rest : s.pos + Text.width s.rest = Text.width text := by
  obtain ⟨htext, hpos⟩ := Text.eq_append_of_cut? (cut?_of_steps h)
  rw [htext, Text.width_append, hpos]

/-- Nothing is left exactly where all bytes have been counted. -/
theorem rest_eq_nil_iff : s.rest = [] ↔ s.pos = Text.width text := by
  have hsum := pos_add_width_rest h
  constructor
  · intro hnil
    rw [← hsum, hnil, Text.width_nil, Nat.add_zero]
  · intro hend
    refine Classical.byContradiction fun hne => ?_
    have hpos := Text.width_pos hne
    omega

/-- A run from the start has counted at least as many bytes as it has spans. -/
theorem length_le_pos : spans.length ≤ s.pos := by
  have hadd := (consistent_start text).add_length_le_pos h
  rwa [show (start text).pos = 0 from rfl, Nat.zero_add] at hadd

/-- Before the end of the text a scanner of an anchored dialect has a next step. -/
theorem exists_step_of_lt (hd : d.Anchored) (hlt : s.pos < Text.width text) :
    ∃ span t, s.step d .blank = some (.ok (span, t)) ∧ s.pos < t.pos ∧
      t.pos ≤ Text.width text := by
  have hrest : s.rest ≠ [] := by
    rw [Ne, rest_eq_nil_iff h]
    omega
  obtain ⟨span, t, hstep, -⟩ := exists_step hd hrest
  have hs : s.Consistent := (consistent_start text).steps h
  have hsum := pos_add_width_rest (h.trans (.step hstep (.none t)))
  exact ⟨span, t, hstep, hs.lt_pos_of_step hstep, by omega⟩

end start

/-- **Every text is read to its end**, whatever the ways of quoting answer.  A scanner of
an anchored dialect always stands between two characters of its text and has made at most
as many steps as it has counted bytes.  Before the end of the text its next step takes a
span and counts more bytes, though none beyond the end; at the end there is no step.  So
the end comes after at most as many steps as the text has bytes. -/
theorem reaches_end (hd : d.Anchored) (text : String) :
    (∀ spans s, Steps d .blank (start text.toList) spans s →
      s.pos ≤ text.utf8ByteSize ∧ Text.cut? s.pos text.toList = some (textOf spans, s.rest) ∧
      spans.length ≤ s.pos ∧
      (s.pos < text.utf8ByteSize → ∃ span t, s.step d .blank = some (.ok (span, t)) ∧
        s.pos < t.pos ∧ t.pos ≤ text.utf8ByteSize) ∧
      (s.pos = text.utf8ByteSize → s.step d .blank = none)) ∧
    ∃ spans u, Steps d .blank (start text.toList) spans u ∧ u.pos = text.utf8ByteSize ∧
      spans.length ≤ text.utf8ByteSize ∧ d.parse text = .ok (u.finish .blank) := by
  rw [← Text.width_toList]
  refine ⟨fun spans s hrun => ⟨?_, cut?_of_steps hrun, length_le_pos hrun,
    exists_step_of_lt hrun hd, ?_⟩, ?_⟩
  · have hsum := pos_add_width_rest hrun
    omega
  · intro hend
    rw [step, (rest_eq_nil_iff hrun).mpr hend]
  · obtain ⟨spans, u, htiles, hu⟩ := exists_tiles hd (start text.toList)
    have hrun := htiles.steps
    have hend := (rest_eq_nil_iff hrun).mp hu
    exact ⟨spans, u, hrun, hend, hend ▸ length_le_pos hrun,
      run_eq_ok_iff.mpr ⟨spans, u, hrun, hu, rfl⟩⟩

/-- An escape and an end that match without text, and quoting of names that always asks
for two bytes, which may end inside a character. -/
theorem reaches_end_idle_patterns :
    ∃ d, Dialect.build [.escape "x?", .delimiter .variableEnd "\\s*",
        .names (.custom (fun _ => true) fun _ => ⟨2, ['!']⟩)] = .ok d ∧ d.Anchored ∧
      "ab $\x7bcé\x7d ef".utf8ByteSize = 12 ∧
      (∃ spans u, Steps d .blank (start "ab $\x7bcé\x7d ef".toList) spans u ∧ u.pos = 12 ∧
        spans.length ≤ 12) ∧
      d.parse "ab $\x7bcé\x7d ef" = .ok ⟨["ab ", ""], [⟨"c!!!", []⟩]⟩ := by
  have hescape : Pattern.readAnchored "x?" =
      .ok ⟨"^(?:x?)", Pattern.atStart (.repeat (.char 'x') 0 (some 1) true), 0⟩ :=
    Pattern.read_eq_ok (by decide +kernel)
  have hblanks : Pattern.readAnchored "\\s*" =
      .ok ⟨"^(?:\\s*)", Pattern.atStart Pattern.blanks, 0⟩ :=
    Pattern.read_eq_ok (by decide +kernel)
  obtain ⟨d, hbuild, hd, hparse⟩ : ∃ d, Dialect.build [.escape "x?",
      .delimiter .variableEnd "\\s*", .names (.custom (fun _ => true) fun _ => ⟨2, ['!']⟩)] = .ok d ∧
      d.Anchored ∧ d.parse "ab $\x7bcé\x7d ef" = .ok ⟨["ab ", ""], [⟨"c!!!", []⟩]⟩ := by
    refine ⟨{ Dialect.standard with
      escape := .ofPattern ⟨"^(?:x?)", Pattern.atStart (.repeat (.char 'x') 0 (some 1) true), 0⟩
      variableEnd := .ofPattern ⟨"^(?:\\s*)", Pattern.atStart Pattern.blanks, 0⟩
      names := .custom (fun _ => true) fun _ => ⟨2, ['!']⟩ }, ?_, ?_, ?_⟩
    · simp only [Dialect.build, Dialect.applyAll, Dialect.apply, Delimiter.option,
        List.foldlM_cons, List.foldlM_nil, readOption_eq_ok_iff.mpr hescape,
        readOption_eq_ok_iff.mpr hblanks]
      rfl
    · refine ⟨Matcher.anchored_ofPattern rfl, fun δ => ?_⟩
      cases δ <;> exact Matcher.anchored_ofPattern rfl
    · rw [Dialect.parse_eq_ofSpans, @Dialect.spans_eq_ok _ .literal _
        [.plain 'a', .plain 'b', .plain ' ', .delimiter .variableStart ['$', '{'], .plain 'c',
          .quoted ['é'] ['!'], .quoted ['}', ' '] ['!'], .quoted ['e', 'f'] ['!']]
        (by decide +kernel)]
      rfl
  obtain ⟨-, spans, u, hrun, hend, hcount, -⟩ := reaches_end hd "ab $\x7bcé\x7d ef"
  exact ⟨d, hbuild, hd, rfl, ⟨spans, u, hrun, hend, hcount⟩, hparse⟩

end TextTemplate.Scanner
