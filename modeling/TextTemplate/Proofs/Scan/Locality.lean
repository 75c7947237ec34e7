import Mathlib.Data.List.Find
import TextTemplate.Proofs.Scan.Prefixes
import TextTemplate.Proofs.Scan.Tiling

/-! # What a template does not reach

A dialect asks each of its matchers and ways of quoting at some levels only
(`Dialect.next_congr`).  So two dialects that agree outside a level take the same spans as
long as that level is not entered (`Dialect.Takes.congr`).  A level is entered by its
delimiter, and every delimiter that starts a piece leaves that piece in the tree, even where
it is empty or the text ends behind it (`Template.size_ofSpans`).  A tree without such a
piece is therefore the same whatever the dialect says about the level
(`Dialect.parse_eq_of_unreached`). -/
namespace TextTemplate

/-! ## Entering a level -/

/-- A delimiter leads one level deeper at most: where it does not start the level itself, a
level it leads into was entered before. -/
theorem Level.le_of_le_level {level : Level} {δ ε : Delimiter} (hδ : δ ≠ .variableEnd)
    (hε : ε ∈ level.delimiters) (hne : ε ≠ δ) (hle : δ.level ≤ ε.level) : δ.level ≤ level := by
  cases δ <;> cases ε <;> cases level <;>
    simp_all [Delimiter.level, delimiters, le_iff, depth]

/-- A level is entered by its delimiter only. -/
theorem Level.not_le_after {level : Level} {δ : Delimiter} {span : Span} (hδ : δ ≠ .variableEnd)
    (hfit : span.Fits level) (hcount : δ.count [span] = 0) (hlevel : ¬ δ.level ≤ level) :
    ¬ δ.level ≤ level.after span := by
  cases span with
  | delimiter ε sign =>
    have hne : ε ≠ δ := by
      rintro rfl
      simp [Delimiter.count] at hcount
    exact fun hle => hlevel (le_of_le_level hδ hfit hne hle)
  | escaped | quoted | plain => exact hlevel

namespace Dialect

variable {A B : Dialect} {level : Level}

/-! ## What is asked at a level -/

/-- **What is taken at a level hangs on the escape, the delimiters and the quoting of that
level.** -/
theorem next_congr (hescape : A.escape = B.escape)
    (hmatcher : ∀ δ ∈ level.delimiters, A.matcher δ = B.matcher δ)
    (hquoting : A.quoting level = B.quoting level) (c : Char) (cs : List Char) :
    A.next level c cs = B.next level c cs := by
  have hdelimiter : A.delimiterAt level (c :: cs) = B.delimiterAt level (c :: cs) :=
    List.find?_congr fun δ hδ => by rw [hmatcher δ hδ]
  have hquoted : A.quotedAt level (c :: cs) = B.quotedAt level (c :: cs) := by
    rw [quotedAt, quotedAt, hquoting]
  simp only [next, hescape, hdelimiter, hquoted]
  cases hδ : B.delimiterAt level (c :: cs) with
  | none => rfl
  | some δ => simp only [hmatcher δ (List.mem_of_find?_eq_some hδ)]

/-- The dialects take the same wherever the level, and what lies inside it, is not entered. -/
def AgreeOutside (level : Level) (A B : Dialect) : Prop :=
  ∀ outer, ¬ level ≤ outer → ∀ c cs, A.next outer c cs = B.next outer c cs

/-- The quoting of parameters is asked for in parameters only. -/
theorem agreeOutside_parameter (d : Dialect) (q : Quoting) :
    AgreeOutside .parameter d { d with parameters := q } := by
  intro outer hout
  refine next_congr rfl (fun δ _ => by cases δ <;> rfl) ?_
  cases outer with
  | parameter => exact absurd (Nat.le_refl _) hout
  | literal | «variable» | pipe => rfl

/-- The start of a parameter is asked for in pipes and parameters only. -/
theorem agreeOutside_pipe (d : Dialect) (m : Matcher) (q : Quoting) :
    AgreeOutside .pipe d { d with parameterStart := m, parameters := q } := by
  intro outer hout
  have hcases : outer = .literal ∨ outer = .variable := by
    cases outer <;> simp_all [Level.le_iff, Level.depth]
  refine next_congr rfl (fun δ hδ => ?_) (by rcases hcases with rfl | rfl <;> rfl)
  have hne : δ ≠ .parameterStart := by
    rcases hcases with rfl | rfl <;> rintro rfl <;> simp [Level.delimiters] at hδ
  cases δ <;> first | rfl | exact absurd rfl hne

/-- In literal text only the escape and the start of a placeholder are asked for. -/
theorem agreeOutside_variable (hescape : A.escape = B.escape)
    (hstart : A.variableStart = B.variableStart) : AgreeOutside .variable A B := by
  intro outer hout
  obtain rfl : outer = .literal := by
    cases outer <;> simp_all [Level.le_iff, Level.depth]
  refine next_congr hescape (fun δ hδ => ?_) rfl
  obtain rfl : δ = .variableStart := by simpa [Level.delimiters] using hδ
  exact hstart

/-! ## Runs outside a level -/

/-- **Dialects that agree outside a level take the same spans until it is entered.** -/
theorem Takes.congr {δ : Delimiter} (hδ : δ ≠ .variableEnd) (hagree : AgreeOutside δ.level A B)
    {text rest : List Char} {spans : List Span} (h : A.Takes level text spans rest)
    (hlevel : ¬ δ.level ≤ level) (hcount : δ.count spans = 0) : B.Takes level text spans rest := by
  induction h with
  | none level text => exact .none level text
  | next hnext _ ih =>
    rw [Delimiter.count_cons] at hcount
    -- without the delimiter of the level in it, the run stays outside after this span
    have hafter := Level.not_le_after hδ (fits_of_next hnext) (by omega) hlevel
    refine .next ?_ (ih hafter (by omega))
    rw [← hagree _ hlevel, hnext]

/-- A tree without pieces of the kind that a delimiter starts is the tree in every dialect
that agrees outside its level. -/
theorem Takes.parse_congr {δ : Delimiter} (hδ : δ ≠ .variableEnd)
    (hagree : AgreeOutside δ.level A B) {text : String} {spans : List Span}
    (h : A.Takes .literal text.toList spans []) (hsize : (Template.ofSpans spans).size δ = 0) :
    B.parse text = .ok (Template.ofSpans spans) := by
  rw [Template.size_ofSpans h.fitFrom hδ] at hsize
  have hliteral : ¬ δ.level ≤ .literal := by
    cases δ <;> first | exact absurd rfl hδ | exact of_decide_eq_true rfl
  exact (h.congr hδ hagree hliteral hsize).parse_eq

/-- **A part of a dialect that a template does not reach has no part in the template.**  Every
text has a tree.  Without parameters in it the quoting of parameters may be any other; without
pipes, the start of parameters as well; and without variables, everything but the escape and
the start of placeholders.  The tree is the same. -/
theorem parse_eq_of_unreached {d : Dialect} (hd : d.Anchored) (text : String) :
    ∃ t, d.parse text = .ok t ∧
      (t.parameters = [] → ∀ q, parse { d with parameters := q } text = .ok t) ∧
      (t.pipes = [] → ∀ m q, parse { d with parameterStart := m, parameters := q } text = .ok t) ∧
      (t.placeholders = [] → ∀ d' : Dialect, d'.escape = d.escape →
        d'.variableStart = d.variableStart → d'.parse text = .ok t) := by
  obtain ⟨spans, s, htiles, hrest⟩ := Scanner.exists_tiles hd (.start text.toList)
  obtain ⟨htakes, -⟩ := Scanner.takes_of_steps htiles.steps
  rw [hrest] at htakes
  refine ⟨_, htakes.parse_eq, fun hnone q => ?_, fun hnone m q => ?_,
    fun hnone d' hescape hstart => ?_⟩
  · exact @Takes.parse_congr _ _ .parameterStart nofun (agreeOutside_parameter d q) _ _ htakes
      (List.length_eq_zero_iff.mpr hnone)
  · exact @Takes.parse_congr _ _ .pipeStart nofun (agreeOutside_pipe d m q) _ _ htakes
      (List.length_eq_zero_iff.mpr hnone)
  · exact @Takes.parse_congr _ _ .variableStart nofun
      (agreeOutside_variable hescape.symm hstart.symm) _ _ htakes
      (List.length_eq_zero_iff.mpr hnone)

/-- A pipe without parameters, a name with a colon in it, and signs in literal text. -/
theorem parse_eq_of_unreached_signs :
    standard.Anchored ∧
      (∀ q, parse { standard with parameters := q } "a$\x7bv|p\x7d:" =
        .ok ⟨["a", ":"], [⟨"v", [⟨"p", []⟩]⟩]⟩) ∧
      (∀ m q, parse { standard with parameterStart := m, parameters := q } "$\x7bv:'w'" =
        .ok ⟨["", ""], [⟨"v:w", []⟩]⟩) ∧
      ∀ d' : Dialect, d'.escape = standard.escape → d'.variableStart = standard.variableStart →
        d'.parse "a|\\$\x7bb:\x7d" = .ok ⟨["a|$\x7bb:\x7d"], []⟩ := by
  refine ⟨anchored_standard, ?_, ?_, ?_⟩
  · have ht : standard.parse "a$\x7bv|p\x7d:" = .ok ⟨["a", ":"], [⟨"v", [⟨"p", []⟩]⟩]⟩ :=
      parse_eq_ok (by decide +kernel)
    obtain ⟨t, hparse, hparameters, -, -⟩ := parse_eq_of_unreached anchored_standard _
    cases ht.symm.trans hparse
    exact hparameters rfl
  · have ht : standard.parse "$\x7bv:'w'" = .ok ⟨["", ""], [⟨"v:w", []⟩]⟩ :=
      parse_eq_ok (by decide +kernel)
    obtain ⟨t, hparse, -, hpipes, -⟩ := parse_eq_of_unreached anchored_standard _
    cases ht.symm.trans hparse
    exact hpipes rfl
  · have ht : standard.parse "a|\\$\x7bb:\x7d" = .ok ⟨["a|$\x7bb:\x7d"], []⟩ :=
      parse_eq_ok (by decide +kernel)
    obtain ⟨t, hparse, -, -, hplaceholders⟩ := parse_eq_of_unreached anchored_standard _
    cases ht.symm.trans hparse
    exact hplaceholders rfl

end Dialect
end TextTemplate
