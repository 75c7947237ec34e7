import TextTemplate.Proofs.Dialect.Anchoring

/-! # What steps make of a dialect

A step replaces one field of a dialect, or both kinds of quoting at once, by what it has read
(`DialectStep.written?`).  Steps fail at the first pattern that cannot be read
(`Dialect.applyAll_of_firstUnreadable`).  If there is none, each field holds what the last
step has written there, and what it held before if no step writes there
(`Dialect.exists_applyAll`). -/
namespace TextTemplate

/-! ## Fields -/

/-- The fields of a dialect. -/
inductive DialectField where
  | escape
  | delimiter (δ : Delimiter)
  | names
  | parameters
deriving DecidableEq, Repr

/-- What a field of a dialect holds: a matcher, or a way of quoting. -/
abbrev FieldContent := Matcher ⊕ Quoting

namespace Dialect

/-- What a field holds. -/
def content (d : Dialect) : DialectField → FieldContent
  | .escape => .inl d.escape
  | .delimiter δ => .inl (d.matcher δ)
  | .names => .inr d.names
  | .parameters => .inr d.parameters

/-- A dialect is what its fields hold. -/
theorem eq_of_content {d d' : Dialect} (h : ∀ field, d.content field = d'.content field) :
    d = d' := by
  have hescape := Sum.inl.inj (h .escape)
  have hmatcher : ∀ δ, d.matcher δ = d'.matcher δ := fun δ => Sum.inl.inj (h (.delimiter δ))
  have hnames := Sum.inr.inj (h .names)
  have hparameters := Sum.inr.inj (h .parameters)
  have hstart := hmatcher .variableStart
  have hend := hmatcher .variableEnd
  have hpipe := hmatcher .pipeStart
  have hparameter := hmatcher .parameterStart
  cases d
  cases d'
  simp_all [matcher]

end Dialect

/-! ## Patterns that cannot be read -/

/-- The text can be read as a pattern of a dialect. -/
def Pattern.Readable (text : String) : Prop := ∃ p, readAnchored text = .ok p

instance (text : String) : Decidable (Pattern.Readable text) :=
  match h : Pattern.readAnchored text with
  | .ok p => .isTrue ⟨p, h⟩
  | .error _ => .isFalse fun ⟨_, hp⟩ => nomatch h.symm.trans hp

/-- The error of the first pattern that cannot be read, among patterns with the options that
they are for. -/
inductive FirstUnreadable : List (PatternOption × String) → Error → Prop
  | here {option : PatternOption} {text : String} {cause : Pattern.PatternError}
      {patterns : List (PatternOption × String)} (h : Pattern.readAnchored text = .error cause) :
      FirstUnreadable ((option, text) :: patterns) (.invalidPattern option cause)
  | later {p : PatternOption × String} {patterns : List (PatternOption × String)} {e : Error}
      (hp : Pattern.Readable p.2) (h : FirstUnreadable patterns e) :
      FirstUnreadable (p :: patterns) e

theorem exists_firstUnreadable_or (patterns : List (PatternOption × String)) :
    (∃ e, FirstUnreadable patterns e) ∨ ∀ p ∈ patterns, Pattern.Readable p.2 := by
  induction patterns with
  | nil => exact .inr fun p hp => absurd hp List.not_mem_nil
  | cons p patterns ih =>
    cases hread : Pattern.readAnchored p.2 with
    | error cause => exact .inl ⟨_, .here hread⟩
    | ok pattern =>
      have hp : Pattern.Readable p.2 := ⟨pattern, hread⟩
      rcases ih with ⟨e, he⟩ | hall
      · exact .inl ⟨e, .later hp he⟩
      · exact .inr (List.forall_mem_cons.mpr ⟨hp, hall⟩)

theorem readOption_eq_error {option : PatternOption} {text : String}
    {cause : Pattern.PatternError} (h : Pattern.readAnchored text = .error cause) :
    readOption option text = .error (.invalidPattern option cause) := by
  rw [readOption, h]
  rfl

/-! ## Steps -/

namespace DialectStep

/-- The pattern that a step reads, with its option. -/
def pattern? : DialectStep → Option (PatternOption × String)
  | .escape text => some (.escape, text)
  | .delimiter δ text => some (δ.option, text)
  | .quotedText text => some (.quotedString, text)
  | .names _ | .parameters _ => none

/-- The matcher of a pattern. -/
def matcher? (text : String) : Option FieldContent :=
  (Pattern.readAnchored text).toOption.map fun p => .inl (.ofPattern p)

/-- The quoting by a pattern. -/
def quoting? (text : String) : Option FieldContent :=
  (Pattern.readAnchored text).toOption.map fun p => .inr (.pattern p)

/-- What a step writes into a field, if it writes there. -/
def written? : DialectStep → DialectField → Option FieldContent
  | .escape text, .escape => matcher? text
  | .delimiter δ text, .delimiter ε => if δ = ε then matcher? text else none
  | .quotedText text, .names | .quotedText text, .parameters => quoting? text
  | .names q, .names => some (.inr q)
  | .parameters q, .parameters => some (.inr q)
  | _, _ => none

end DialectStep

/-- The patterns that steps read, in order. -/
def patternsOf (steps : List DialectStep) : List (PatternOption × String) :=
  steps.filterMap DialectStep.pattern?

/-- What the last of the steps that write into a field has written there. -/
def lastWritten? (steps : List DialectStep) (field : DialectField) : Option FieldContent :=
  (steps.filterMap (·.written? field)).getLast?

theorem lastWritten?_cons (step : DialectStep) (steps : List DialectStep) (field : DialectField) :
    lastWritten? (step :: steps) field = (lastWritten? steps field).or (step.written? field) := by
  unfold lastWritten?
  cases hw : step.written? field with
  | none => simp only [List.filterMap_cons, hw, Option.or_none]
  | some content =>
    simp only [List.filterMap_cons, hw, List.getLast?_cons]
    cases (steps.filterMap (·.written? field)).getLast? <;> rfl

namespace Dialect

/-- **What one step does.**  If its pattern can be read, a step changes the fields that it
writes into and no others. -/
theorem exists_apply (d : Dialect) {step : DialectStep}
    (h : ∀ p, step.pattern? = some p → Pattern.Readable p.2) :
    ∃ d', d.apply step = .ok d' ∧
      ∀ field, d'.content field = (step.written? field).getD (d.content field) := by
  cases step with
  | escape text =>
    obtain ⟨p, hp⟩ := h _ rfl
    refine ⟨{ d with escape := .ofPattern p }, ?_, fun field => ?_⟩
    · rw [apply, readOption_eq_ok_iff.mpr hp]
      rfl
    · cases field with
      | escape => simp [content, DialectStep.written?, DialectStep.matcher?, hp, Except.toOption]
      | delimiter δ => cases δ <;> rfl
      | names => rfl
      | parameters => rfl
  | delimiter δ text =>
    obtain ⟨p, hp⟩ := h _ rfl
    refine ⟨d.withDelimiter δ (.ofPattern p), ?_, fun field => ?_⟩
    · rw [apply, readOption_eq_ok_iff.mpr hp]
      rfl
    · cases field with
      | delimiter ε =>
        by_cases hδ : δ = ε
        · subst hδ
          cases δ <;>
            simp [content, withDelimiter, matcher, DialectStep.written?, DialectStep.matcher?, hp,
              Except.toOption]
        · cases δ <;> cases ε <;>
            simp_all [content, withDelimiter, matcher, DialectStep.written?]
      | escape => cases δ <;> rfl
      | names => cases δ <;> rfl
      | parameters => cases δ <;> rfl
  | quotedText text =>
    obtain ⟨p, hp⟩ := h _ rfl
    refine ⟨{ d with names := .pattern p, parameters := .pattern p }, ?_, fun field => ?_⟩
    · rw [apply, Quoting.ofText, readOption_eq_ok_iff.mpr hp]
      rfl
    · cases field with
      | escape => rfl
      | delimiter δ => cases δ <;> rfl
      | names => simp [content, DialectStep.written?, DialectStep.quoting?, hp, Except.toOption]
      | parameters =>
        simp [content, DialectStep.written?, DialectStep.quoting?, hp, Except.toOption]
  | names q => exact ⟨_, rfl, fun field => by cases field <;> rfl⟩
  | parameters q => exact ⟨_, rfl, fun field => by cases field <;> rfl⟩

/-- A step whose pattern cannot be read fails and names the option. -/
theorem apply_eq_error (d : Dialect) {step : DialectStep} {option : PatternOption} {text : String}
    {cause : Pattern.PatternError} (hstep : step.pattern? = some (option, text))
    (h : Pattern.readAnchored text = .error cause) :
    d.apply step = .error (.invalidPattern option cause) := by
  cases step with
  | escape t =>
    cases hstep
    rw [apply, readOption_eq_error h]
    rfl
  | delimiter δ t =>
    cases hstep
    rw [apply, readOption_eq_error h]
    rfl
  | quotedText t =>
    cases hstep
    rw [apply, Quoting.ofText, readOption_eq_error h]
    rfl
  | names q => cases hstep
  | parameters q => cases hstep

theorem applyAll_cons_ok {d d' : Dialect} {step : DialectStep} (h : d.apply step = .ok d')
    (steps : List DialectStep) : d.applyAll (step :: steps) = d'.applyAll steps := by
  rw [applyAll, List.foldlM_cons, h]
  rfl

theorem applyAll_cons_error {d : Dialect} {step : DialectStep} {e : Error}
    (h : d.apply step = .error e) (steps : List DialectStep) :
    d.applyAll (step :: steps) = .error e := by
  rw [applyAll, List.foldlM_cons, h]
  rfl

/-- **Steps fail at the first pattern that cannot be read.** -/
theorem applyAll_of_firstUnreadable {steps : List DialectStep} {e : Error}
    (h : FirstUnreadable (patternsOf steps) e) (d : Dialect) : d.applyAll steps = .error e := by
  induction steps generalizing d with
  | nil => cases h
  | cons step steps ih =>
    cases hpattern : step.pattern? with
    | none =>
      rw [patternsOf, List.filterMap_cons_none hpattern] at h
      obtain ⟨d', hd', -⟩ := exists_apply d fun p hp => nomatch hpattern.symm.trans hp
      rw [applyAll_cons_ok hd']
      exact ih h d'
    | some p =>
      rw [patternsOf, List.filterMap_cons_some hpattern] at h
      cases h with
      | here hread => exact applyAll_cons_error (d.apply_eq_error hpattern hread) steps
      | later hp h =>
        have hstep : ∀ q, step.pattern? = some q → Pattern.Readable q.2 := by
          intro q hq
          cases hpattern.symm.trans hq
          exact hp
        obtain ⟨d', hd', -⟩ := d.exists_apply hstep
        rw [applyAll_cons_ok hd']
        exact ih h d'

/-- **Where all patterns can be read, the last step that writes into a field decides it.** -/
theorem exists_applyAll {steps : List DialectStep}
    (h : ∀ p ∈ patternsOf steps, Pattern.Readable p.2) (d : Dialect) :
    ∃ d', d.applyAll steps = .ok d' ∧
      ∀ field, d'.content field = (lastWritten? steps field).getD (d.content field) := by
  induction steps generalizing d with
  | nil => exact ⟨d, rfl, fun field => rfl⟩
  | cons step steps ih =>
    have hstep : ∀ p, step.pattern? = some p → Pattern.Readable p.2 :=
      fun p hp => h p (List.mem_filterMap.mpr ⟨step, List.mem_cons_self, hp⟩)
    have hsteps : ∀ p ∈ patternsOf steps, Pattern.Readable p.2 := by
      intro p hp
      obtain ⟨s, hs, hsp⟩ := List.mem_filterMap.mp hp
      exact h p (List.mem_filterMap.mpr ⟨s, List.mem_cons_of_mem step hs, hsp⟩)
    obtain ⟨d₁, hd₁, hfirst⟩ := d.exists_apply hstep
    obtain ⟨d', hd', hmore⟩ := ih hsteps d₁
    refine ⟨d', by rw [applyAll_cons_ok hd₁, hd'], fun field => ?_⟩
    rw [hmore, hfirst, lastWritten?_cons]
    cases lastWritten? steps field <;> rfl

end Dialect
end TextTemplate
