import TextTemplate.Proofs.Dialect.Building
import TextTemplate.Settings.DialectSettings

/-! # Settings and steps make the same dialects

Settings stand for steps: one for each pattern that is set, and one for the quoting of
parameters if that is not the quoting of names (`DialectSettings.patternSteps`,
`DialectSettings.quotingSteps`).  The order of the steps does not matter, as long as the
quoting of parameters comes behind the pattern that sets both kinds of quoting
(`DialectSettings.lastWritten?_of_perm`).  Together with what steps make of a dialect this is
`Dialect.build_eq_toDialect`. -/
namespace TextTemplate

/-! ## Lists of steps -/

theorem lastWritten?_append (steps more : List DialectStep) (field : DialectField) :
    lastWritten? (steps ++ more) field =
      (lastWritten? more field).or (lastWritten? steps field) := by
  rw [lastWritten?, List.filterMap_append, List.getLast?_append]
  rfl

theorem FirstUnreadable.of_append {patterns more : List (PatternOption × String)} {e : Error}
    (h : FirstUnreadable (patterns ++ more) e) :
    FirstUnreadable patterns e ∨
      (∀ p ∈ patterns, Pattern.Readable p.2) ∧ FirstUnreadable more e := by
  induction patterns with
  | nil => exact .inr ⟨fun p hp => absurd hp List.not_mem_nil, h⟩
  | cons p patterns ih =>
    cases h with
    | here hread => exact .inl (.here hread)
    | later hp h =>
      rcases ih h with hfirst | ⟨hall, hmore⟩
      · exact .inl (.later hp hfirst)
      · exact .inr ⟨List.forall_mem_cons.mpr ⟨hp, hall⟩, hmore⟩

/-- The quoting of parameters is set behind the pattern for both kinds of quoting, if both are
set. -/
def QuotedTextFirst (steps : List DialectStep) : Prop :=
  steps.Pairwise fun a b => ∀ q text, a = .parameters q → b ≠ .quotedText text

namespace DialectSettings

/-- The patterns that are set, with their options, in the order of the options. -/
def patterns (s : DialectSettings) : List (PatternOption × String) :=
  [(.escape, s.escape), (.variableStart, s.variableStart), (.variableEnd, s.variableEnd),
    (.pipeStart, s.pipeStart), (.parameterStart, s.parameterStart),
    (.quotedString, s.quotedString)].filterMap fun (option, text) => text.map (option, ·)

/-- A step for each pattern that is set. -/
def patternSteps (s : DialectSettings) : List DialectStep :=
  s.steps ++ s.quotedString.toList.map .quotedText

/-- The step for the quoting of parameters where it is not that of names. -/
def quotingSteps (s : DialectSettings) (names : Quoting) : List DialectStep :=
  match s.parameterQuoting with
  | none | some .quotes => []
  | some .braces => [.parameters .standardBraces]
  | some .bracesOrQuotes => [.parameters (.chain [.standardBraces, names])]

/-- What the pattern that is set for a field makes of it. -/
def set? (s : DialectSettings) : DialectField → Option FieldContent
  | .escape => s.escape.bind DialectStep.matcher?
  | .delimiter .variableStart => s.variableStart.bind DialectStep.matcher?
  | .delimiter .variableEnd => s.variableEnd.bind DialectStep.matcher?
  | .delimiter .pipeStart => s.pipeStart.bind DialectStep.matcher?
  | .delimiter .parameterStart => s.parameterStart.bind DialectStep.matcher?
  | .names | .parameters => s.quotedString.bind DialectStep.quoting?

/-! ## The patterns -/

theorem patternsOf_patternSteps (s : DialectSettings) : patternsOf s.patternSteps = s.patterns := by
  obtain ⟨escape, variableStart, variableEnd, pipeStart, parameterStart, quotedString, quoting⟩ := s
  cases escape <;> cases variableStart <;> cases variableEnd <;> cases pipeStart <;>
    cases parameterStart <;> cases quotedString <;> rfl

theorem filterMap_toList_map {α : Type} (text : Option String) (step : String → DialectStep)
    (f : DialectStep → Option α) :
    (text.toList.map step).filterMap f = (text.bind fun t => f (step t)).toList := by
  cases text with
  | none => rfl
  | some t => cases h : f (step t) <;> simp [h]

/-- At most one of the steps for patterns writes into a field. -/
theorem filterMap_written?_patternSteps (s : DialectSettings) (field : DialectField) :
    s.patternSteps.filterMap (·.written? field) = (s.set? field).toList := by
  simp only [patternSteps, steps, List.filterMap_append, filterMap_toList_map]
  cases field with
  | escape => simp [set?, DialectStep.written?]
  | delimiter δ => cases δ <;> simp [set?, DialectStep.written?]
  | names => simp [set?, DialectStep.written?]
  | parameters => simp [set?, DialectStep.written?]

theorem lastWritten?_patternSteps (s : DialectSettings) (field : DialectField) :
    lastWritten? s.patternSteps field = s.set? field := by
  rw [lastWritten?, filterMap_written?_patternSteps]
  cases s.set? field <;> rfl

theorem quotingSteps_eq (s : DialectSettings) (names : Quoting) :
    s.quotingSteps names = [] ∨ ∃ q, s.quotingSteps names = [.parameters q] := by
  unfold quotingSteps
  split
  · exact .inl rfl
  · exact .inl rfl
  · exact .inr ⟨_, rfl⟩
  · exact .inr ⟨_, rfl⟩

theorem filterMap_written?_quotingSteps {s : DialectSettings} {field : DialectField}
    (h : field ≠ .parameters) (names : Quoting) :
    (s.quotingSteps names).filterMap (·.written? field) = [] := by
  rcases s.quotingSteps_eq names with hq | ⟨q, hq⟩
  · rw [hq]
    rfl
  · rw [hq]
    cases field <;> first | rfl | contradiction

theorem perm_patternsOf {s : DialectSettings} {names : Quoting} {order : List DialectStep}
    (h : order.Perm (s.patternSteps ++ s.quotingSteps names)) :
    (patternsOf order).Perm s.patterns := by
  have hnone : patternsOf (s.quotingSteps names) = [] := by
    rcases s.quotingSteps_eq names with hq | ⟨q, hq⟩ <;> rw [hq] <;> rfl
  have hperm := h.filterMap DialectStep.pattern?
  rw [List.filterMap_append] at hperm
  rw [← patternsOf_patternSteps, ← List.append_nil (patternsOf s.patternSteps), ← hnone]
  exact hperm

/-! ## The dialect of settings -/

variable {s : DialectSettings}

/-- The quoting of names can be read if its pattern can. -/
theorem exists_nameQuoting (h : ∀ text, s.quotedString = some text → Pattern.Readable text) :
    ∃ names, s.nameQuoting = .ok names ∧
      .inr names = (s.set? .names).getD (Dialect.standard.content .names) := by
  unfold nameQuoting
  cases hq : s.quotedString with
  | none => exact ⟨.standard, rfl, by simp [set?, hq]; rfl⟩
  | some text =>
    obtain ⟨p, hp⟩ := h text hq
    refine ⟨.pattern p, ?_, ?_⟩
    · simp only [Quoting.ofText]
      rw [readOption_eq_ok_iff.mpr hp]
      rfl
    · simp [set?, hq, DialectStep.quoting?, hp, Except.toOption]

/-- The patterns of delimiters are the patterns that are set, without that of quoted text. -/
theorem patterns_eq (s : DialectSettings) :
    s.patterns = patternsOf s.steps ++ s.quotedString.toList.map (.quotedString, ·) := by
  rw [← patternsOf_patternSteps, patternSteps, patternsOf, List.filterMap_append]
  cases s.quotedString <;> rfl

/-- **Settings whose patterns can be read make a dialect**, and its fields are those that the
steps of the settings write. -/
theorem exists_toDialect (h : ∀ p ∈ s.patterns, Pattern.Readable p.2) :
    ∃ d, s.toDialect = .ok d ∧ s.nameQuoting = .ok d.names ∧ ∀ field, d.content field =
      (lastWritten? (s.patternSteps ++ s.quotingSteps d.names) field).getD
        (Dialect.standard.content field) := by
  rw [patterns_eq] at h
  obtain ⟨hdelimiters, hquoted⟩ := List.forall_mem_append.mp h
  obtain ⟨d, hd, hcontent⟩ := Dialect.exists_applyAll hdelimiters .standard
  obtain ⟨names, hnames, hset⟩ := exists_nameQuoting (s := s) fun text ht =>
    hquoted (.quotedString, text) (by simp [ht])
  refine ⟨{ d with
    names := names, parameters := (s.parameterQuoting.getD .quotes).toQuoting names },
    ?_, hnames, fun field => ?_⟩
  · simp only [toDialect, Dialect.build, hd, hnames]
    rfl
  · rw [lastWritten?_append, lastWritten?_patternSteps]
    by_cases hparameters : field = .parameters
    · subst hparameters
      simp only [quotingSteps]
      cases s.parameterQuoting with
      | none => exact hset
      | some quoting =>
        cases quoting with
        | quotes => exact hset
        | braces => rfl
        | bracesOrQuotes => rfl
    · have hnone : lastWritten? (s.quotingSteps names) field = none := by
        rw [lastWritten?, filterMap_written?_quotingSteps hparameters]
        rfl
      rw [hnone, Option.none_or]
      by_cases hnames : field = .names
      · subst hnames
        exact hset
      · have hquotedText : lastWritten? (s.quotedString.toList.map .quotedText) field = none := by
          cases field <;> cases s.quotedString <;> first | rfl | contradiction
        have hsteps : lastWritten? s.steps field = s.set? field := by
          rw [← lastWritten?_patternSteps, patternSteps, lastWritten?_append, hquotedText,
            Option.none_or]
        rw [← hsteps, ← hcontent]
        cases field with
        | escape => rfl
        | delimiter δ => cases δ <;> rfl
        | names => contradiction
        | parameters => contradiction

/-- Settings fail at the first pattern that cannot be read. -/
theorem toDialect_of_firstUnreadable {e : Error} (h : FirstUnreadable s.patterns e) :
    s.toDialect = .error e := by
  rw [patterns_eq] at h
  rcases h.of_append with hdelimiters | ⟨hdelimiters, hquoted⟩
  · simp only [toDialect, Dialect.build, Dialect.applyAll_of_firstUnreadable hdelimiters]
    rfl
  · obtain ⟨d, hd, -⟩ := Dialect.exists_applyAll hdelimiters .standard
    cases hq : s.quotedString with
    | none =>
      rw [hq] at hquoted
      cases hquoted
    | some text =>
      rw [hq] at hquoted
      cases hquoted with
      | here hread =>
        simp only [toDialect, Dialect.build, hd, nameQuoting, hq, Quoting.ofText,
          readOption_eq_error hread]
        rfl
      | later hp hnone => cases hnone

/-- **Settings fail exactly at the first pattern that cannot be read.** -/
theorem toDialect_eq_error_iff {e : Error} :
    s.toDialect = .error e ↔ FirstUnreadable s.patterns e := by
  constructor
  · intro h
    rcases exists_firstUnreadable_or s.patterns with ⟨e', he'⟩ | hall
    · cases h.symm.trans (toDialect_of_firstUnreadable he')
      exact he'
    · obtain ⟨d, hd, -⟩ := exists_toDialect hall
      cases h.symm.trans hd
  · exact toDialect_of_firstUnreadable

/-! ## The order of steps -/

/-- **The order of the steps does not matter**, as long as the quoting of parameters comes
behind the pattern for both kinds of quoting. -/
theorem lastWritten?_of_perm {names : Quoting} {order : List DialectStep}
    (hperm : order.Perm (s.patternSteps ++ s.quotingSteps names)) (hfirst : QuotedTextFirst order)
    (field : DialectField) :
    lastWritten? order field = lastWritten? (s.patternSteps ++ s.quotingSteps names) field := by
  have hwritten := hperm.filterMap (·.written? field)
  rw [List.filterMap_append, filterMap_written?_patternSteps] at hwritten
  by_cases hq : (s.quotingSteps names).filterMap (·.written? field) = []
  · -- at most one step writes into the field, so there is nothing to reorder
    rw [hq, List.append_nil] at hwritten
    have heq : order.filterMap (·.written? field) = (s.set? field).toList := by
      cases hset : s.set? field with
      | none => rw [hset] at hwritten; exact hwritten.eq_nil
      | some content => rw [hset] at hwritten; exact hwritten.eq_singleton
    simp only [lastWritten?, List.filterMap_append, filterMap_written?_patternSteps, hq, heq,
      List.append_nil]
  · -- the field is the quoting of parameters, which is set behind all others that write there
    have hparameters : field = .parameters :=
      Decidable.byContradiction fun hne => hq (filterMap_written?_quotingSteps hne names)
    subst hparameters
    rcases s.quotingSteps_eq names with hnil | ⟨q, hone⟩
    · exact absurd (by rw [hnil]; rfl) hq
    · rw [hone] at hperm ⊢
      have hmem : .parameters q ∈ order := hperm.mem_iff.mpr (by simp)
      obtain ⟨before, after, rfl⟩ := List.append_of_mem hmem
      have hrest : (before ++ after).Perm s.patternSteps := by
        have h := List.perm_middle.symm.trans (hperm.trans List.perm_append_comm)
        exact h.cons_inv
      have hafter : after.filterMap (·.written? .parameters) = [] := by
        rw [List.filterMap_eq_nil_iff]
        intro step hstep
        have hmore := (List.pairwise_append.mp hfirst).2.1
        have hbehind := (List.pairwise_cons.mp hmore).1 step hstep q
        have hpattern : step ∈ s.patternSteps :=
          hrest.mem_iff.mp (List.mem_append_right before hstep)
        cases step with
        | escape text => rfl
        | delimiter δ text => rfl
        | quotedText text => exact absurd rfl (hbehind text rfl)
        | names q' => rfl
        | parameters q' => simp [patternSteps, steps] at hpattern
      have hq : DialectStep.written? (.parameters q) .parameters = some (.inr q) := rfl
      simp only [lastWritten?, List.filterMap_append, List.filterMap_cons, hafter, hq,
        List.filterMap_nil, List.getLast?_append, List.getLast?_singleton, Option.some_or]

end DialectSettings

namespace Dialect

open DialectSettings

/-- **Steps and settings make the same dialects.**  Steps fail at the first pattern that cannot
be read and name its option; if there is none, every field holds what the last step that writes
there has written, or else what it holds in the standard dialect.  Settings fail at the first
of their patterns that cannot be read, and at nothing else; if there is none, the steps for
what is set make a dialect that reads every text in the same way, whatever their order, with
the quoting of parameters behind the pattern for both kinds of quoting. -/
theorem build_eq_toDialect :
    (∀ steps : List DialectStep,
      (∃ e, FirstUnreadable (patternsOf steps) e ∧ build steps = .error e) ∨
      (∀ p ∈ patternsOf steps, Pattern.Readable p.2) ∧ ∃ d, build steps = .ok d ∧
        ∀ field, d.content field = (lastWritten? steps field).getD (standard.content field)) ∧
    (∀ s : DialectSettings,
      (∃ e, FirstUnreadable s.patterns e ∧ s.toDialect = .error e) ∨
      (∀ p ∈ s.patterns, Pattern.Readable p.2) ∧ ∃ d, s.toDialect = .ok d ∧
        s.nameQuoting = .ok d.names ∧
        ∀ order, order.Perm (s.patternSteps ++ s.quotingSteps d.names) → QuotedTextFirst order →
          ∃ d', build order = .ok d' ∧ ∀ input, d'.parse input = d.parse input) := by
  refine ⟨fun steps => ?_, fun s => ?_⟩
  · rcases exists_firstUnreadable_or (patternsOf steps) with ⟨e, he⟩ | hall
    · exact .inl ⟨e, he, applyAll_of_firstUnreadable he standard⟩
    · exact .inr ⟨hall, exists_applyAll hall standard⟩
  · rcases exists_firstUnreadable_or s.patterns with ⟨e, he⟩ | hall
    · exact .inl ⟨e, he, toDialect_of_firstUnreadable he⟩
    · obtain ⟨d, hd, hnames, hcontent⟩ := exists_toDialect hall
      refine .inr ⟨hall, d, hd, hnames, fun order hperm hfirst => ?_⟩
      have hreadable : ∀ p ∈ patternsOf order, Pattern.Readable p.2 := by
        intro p hp
        exact hall p ((perm_patternsOf hperm).mem_iff.mp hp)
      obtain ⟨d', hd', hcontent'⟩ := exists_applyAll hreadable standard
      have heq : d' = d := eq_of_content fun field => by
        rw [hcontent', hcontent, lastWritten?_of_perm hperm hfirst]
      exact ⟨d', hd', fun input => by rw [heq]⟩

/-- A pattern for quoted text, braces in front of it in parameters, and a closing delimiter:
the quoting of parameters may be set before the delimiter. -/
theorem build_eq_toDialect_reordered :
    ∃ d, toDialect ⟨none, none, some ">", none, none, some "<(([^>]*))>", some .bracesOrQuotes⟩ =
        .ok d ∧
      ∃ d', build [.quotedText "<(([^>]*))>", .parameters (.chain [.standardBraces, d.names]),
        .delimiter .variableEnd ">"] = .ok d' ∧ ∀ input, d'.parse input = d.parse input := by
  have hall : ∀ p ∈ patterns ⟨none, none, some ">", none, none, some "<(([^>]*))>",
      some .bracesOrQuotes⟩, Pattern.Readable p.2 := by decide +kernel
  obtain ⟨-, hsettings⟩ := build_eq_toDialect
  rcases hsettings ⟨none, none, some ">", none, none, some "<(([^>]*))>", some .bracesOrQuotes⟩
    with ⟨e, -, he⟩ | ⟨-, d, hd, -, horder⟩
  · obtain ⟨d, hd, -⟩ := exists_toDialect hall
    cases he.symm.trans hd
  · refine ⟨d, hd, horder _ ?_ ?_⟩
    · exact @List.perm_append_comm _ [_, _] [_]
    · simp [QuotedTextFirst]

end Dialect
end TextTemplate
