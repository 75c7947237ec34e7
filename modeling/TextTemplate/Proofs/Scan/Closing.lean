import TextTemplate.Proofs.Dialect.StandardSpans
import TextTemplate.Proofs.Scan.Tiling

/-! # The end of a text closes its placeholder

A text may end inside a placeholder.  What is open is closed then, and the tree is the one
that a closing delimiter at the end would have given (`Template.ofSpans_concat_end`).  In the
standard dialect a brace put behind the text is such a delimiter, if the spans of the text
leave it alone: blanks at the end would go with the brace, a backslash would escape it, and
quoted text without a closing mark would take it in (`Dialect.parse_append_brace`). -/
namespace TextTemplate

open Pattern

/-- A closing delimiter at the end closes nothing that the end would not close. -/
theorem Template.ofSpans_concat_end (spans : List Span) (sign : List Char) :
    ofSpans (spans ++ [.delimiter .variableEnd sign]) = ofSpans spans := by
  have hclose : ∀ D : Draft, (D.add (.delimiter .variableEnd sign)).finish = D.finish :=
    Draft.finish_collapse
  rw [ofSpans, List.foldl_append, List.foldl_cons, List.foldl_nil, hclose, ← ofSpans]

namespace Dialect

/-- A brace inside a placeholder is its end. -/
theorem takes_brace {level : Level} (hlevel : level ≠ .literal) :
    standard.Takes level ['}'] [.delimiter .variableEnd ['}']] [] := by
  have hbrace : Delimiter.variableEnd.Spelled ['}'] [] := .variableEnd (List.forall_mem_nil _)
  exact .single (next_delimiter hbrace (Level.mem_delimiters hlevel).1 rfl)

/-- **The end of a text closes a placeholder as a brace does.**  If a scanner ends inside a
placeholder, and the text ends neither in a blank nor in a backslash nor with quoted text that
is not closed, then a brace behind the text is taken as the end of the placeholder, the spans
before it are the same, and so is the tree. -/
theorem parse_append_brace {text : String} {spans : List Span} {s : Scanner}
    (hrun : Scanner.Steps standard .blank (.start text.toList) spans s) (hrest : s.rest = [])
    (hopen : s.level ≠ .literal) (hblank : ∀ c ∈ text.toList.getLast?, blank.contains c = false)
    (hescape : text.toList.getLast? ≠ some '\\')
    (hquote : ∀ span ∈ spans.getLast?, ¬ span.Unclosed) :
    standard.spans .literal (text ++ "\x7d").toList =
        .ok (spans ++ [.delimiter .variableEnd ['}']]) ∧
      ∃ t, standard.parse text = .ok t ∧ standard.parse (text ++ "\x7d") = .ok t := by
  obtain ⟨htakes, hlevel⟩ := Scanner.takes_of_steps hrun
  rw [hrest] at htakes
  rw [hlevel] at hopen
  have hjoins : ∀ span ∈ spans.getLast?, span.Joins ['}'] (Level.literal.afterAll spans) :=
    fun span hspan => .placeholder hopen (avoids_cons.mpr rfl) (hquote span hspan)
  have hfront : standard.Takes .literal (text.toList ++ ['}']) spans ['}'] :=
    htakes.append_of_joins hescape (fun _ => hblank) hjoins
  have hwhole : standard.Takes .literal (text ++ "\x7d").toList
      (spans ++ [.delimiter .variableEnd ['}']]) [] := by
    rw [String.toList_append]
    exact hfront.trans (takes_brace hopen)
  refine ⟨takes_iff_spans.mp hwhole, _, htakes.parse_eq, ?_⟩
  rw [hwhole.parse_eq, Template.ofSpans_concat_end]

/-- A text that ends in a parameter, with a quotation mark that closes quoted text. -/
theorem parse_append_brace_parameter :
    ∃ spans s, Scanner.Steps standard .blank (.start "x$\x7b a | p:'b|\x7d'".toList) spans s ∧
      s.rest = [] ∧ s.level = .parameter ∧
      spans.getLast? = some (.quoted "'b|\x7d'".toList "b|\x7d".toList) ∧
      standard.parse "x$\x7b a | p:'b|\x7d'" =
        .ok ⟨["x", ""], [⟨"a", [⟨"p", ["b|\x7d"]⟩]⟩]⟩ ∧
      standard.parse ("x$\x7b a | p:'b|\x7d'" ++ "\x7d") =
        .ok ⟨["x", ""], [⟨"a", [⟨"p", ["b|\x7d"]⟩]⟩]⟩ := by
  have hspans : standard.spans .literal "x$\x7b a | p:'b|\x7d'".toList = .ok
      [.plain 'x', .delimiter .variableStart ['$', '{', ' '], .plain 'a',
        .delimiter .pipeStart [' ', '|', ' '], .plain 'p', .delimiter .parameterStart [':'],
        .quoted ['\'', 'b', '|', '}', '\''] ['b', '|', '}']] :=
    spans_eq_ok (by decide +kernel)
  obtain ⟨s, hrun, hrest⟩ := (@Scanner.steps_iff_spans _ .blank .start 0 _ _).mpr hspans
  have hlevel : s.level = .parameter := (Scanner.takes_of_steps hrun).2
  have hlast : "x$\x7b a | p:'b|\x7d'".toList.getLast? = some '\'' := by decide +kernel
  have hblank : ∀ c ∈ "x$\x7b a | p:'b|\x7d'".toList.getLast?, blank.contains c = false := by
    rw [hlast]
    rintro c ⟨⟩
    rfl
  have hquote : ¬ Span.Unclosed (.quoted ['\'', 'b', '|', '}', '\''] ['b', '|', '}']) :=
    @Span.not_unclosed_of_units '\'' ['b', '|', '}'] _
      (units_of_notMem (by decide +kernel) (by decide +kernel))
  obtain ⟨-, t, hparse, hclosed⟩ := parse_append_brace hrun hrest (by rw [hlevel]; exact nofun)
    hblank (by rw [hlast]; exact nofun) (by rintro span ⟨⟩; exact hquote)
  have ht : standard.parse "x$\x7b a | p:'b|\x7d'" =
      .ok ⟨["x", ""], [⟨"a", [⟨"p", ["b|\x7d"]⟩]⟩]⟩ := by
    rw [parse_eq_ofSpans, hspans]
    rfl
  cases ht.symm.trans hparse
  exact ⟨_, s, hrun, hrest, hlevel, by decide +kernel, hparse, hclosed⟩

end Dialect
end TextTemplate
