import TextTemplate.Proofs.Dialect.StandardSpans
import TextTemplate.Proofs.Scan.Levels
import TextTemplate.Proofs.Scan.Prefixes
import TextTemplate.Render.Evaluate

/-! # Texts written one after the other

If a text ends as literal text, and not right behind a backslash or a dollar sign, the
standard dialect takes the same spans from it whatever text is put behind it
(`Dialect.Takes.append`).  The draft behind those spans is in a literal, so the tree of
the whole is the two trees joined at that literal (`Template.ofSpans_append`), and it is
rendered as the two are (`Template.renderWith_append`). -/
namespace TextTemplate

/-! ## Trees -/

/-- What a draft becomes when literal text `l`, with finished literals `ls` and variables
`vs` before it, is put in front of it. -/
inductive Draft.Behind (ls : List String) (l : String) (vs : List Variable) :
    Draft → Draft → Prop where
  | first (t : String) : Behind ls l vs ⟨[], [], .literal t⟩ ⟨ls, vs, .literal (l ++ t)⟩
  | later (m : String) (ms : List String) (ws : List Variable) (piece : OpenPiece) :
      Behind ls l vs ⟨m :: ms, ws, piece⟩ ⟨ls ++ (l ++ m) :: ms, vs ++ ws, piece⟩

namespace Draft.Behind

variable {ls : List String} {l : String} {vs : List Variable} {D E : Draft}

theorem collapse (h : Behind ls l vs D E) : Behind ls l vs D.collapse E.collapse := by
  cases h with
  | first t => exact .first t
  | later m ms ws piece =>
    cases hpiece : piece.closePipe with
    | «variable» v =>
      have hD : Draft.collapse ⟨m :: ms, ws, piece⟩ = ⟨m :: ms, ws ++ [v], .literal ""⟩ := by
        simp [Draft.collapse, hpiece]
      have hE : Draft.collapse ⟨ls ++ (l ++ m) :: ms, vs ++ ws, piece⟩ =
          ⟨ls ++ (l ++ m) :: ms, vs ++ (ws ++ [v]), .literal ""⟩ := by
        simp [Draft.collapse, hpiece]
      rw [hD, hE]
      exact .later m ms (ws ++ [v]) _
    | literal | pipe | parameter =>
      simp only [Draft.collapse, hpiece]
      exact .later m ms ws _

theorem append (h : Behind ls l vs D E) (text : String) :
    Behind ls l vs { D with piece := D.piece.append text }
      { E with piece := E.piece.append text } := by
  cases h with
  | first t =>
    have hfirst := @first ls l vs (t ++ text)
    rwa [← String.append_assoc] at hfirst
  | later m ms ws piece => exact .later m ms ws _

/-- What is in front does not matter to a span. -/
theorem add (h : Behind ls l vs D E) {span : Span} (hf : span.Fits D.level) :
    Behind ls l vs (D.add span) (E.add span) := by
  cases span with
  | delimiter δ text =>
    cases δ with
    | variableEnd => exact h.collapse
    | variableStart =>
      cases h with
      | first t =>
        have hlater := @later ls l vs t [] [] (.variable ⟨"", []⟩)
        rwa [List.append_nil] at hlater
      | later m ms ws piece =>
        cases piece with
        | literal t =>
          have hlater := @later ls l vs m (ms ++ [t]) ws (.variable ⟨"", []⟩)
          simpa [Draft.add, Draft.enter] using hlater
        | «variable» | pipe | parameter => exact .later m ms ws _
    | pipeStart | parameterStart =>
      cases h with
      | first t => simp [Span.Fits, Draft.level, OpenPiece.level, Level.delimiters] at hf
      | later m ms ws piece => cases piece <;> exact .later m ms ws _
  | escaped | quoted | plain => exact h.append _

theorem foldl_add {spans : List Span} (h : Behind ls l vs D E)
    (hfit : Span.FitFrom D.level spans) :
    Behind ls l vs (spans.foldl Draft.add D) (spans.foldl Draft.add E) := by
  induction spans generalizing D E with
  | nil => exact h
  | cons span spans ih =>
    obtain ⟨hspan, hspans⟩ := hfit
    rw [← level_add hspan] at hspans
    exact ih (h.add hspan) hspans

/-- The first literal of a tree goes on with the text in front of it. -/
theorem finish (h : Behind ls l vs D E) :
    ∃ m ms ws, D.finish = ⟨m :: ms, ws⟩ ∧ E.finish = ⟨ls ++ (l ++ m) :: ms, vs ++ ws⟩ := by
  have hcollapse := h.collapse
  unfold Draft.finish
  generalize D.collapse = D' at hcollapse
  generalize E.collapse = E' at hcollapse
  cases hcollapse with
  | first t => exact ⟨t, [], [], rfl, by simp⟩
  | later m ms ws piece =>
    cases piece with
    | literal t => exact ⟨m, ms ++ [t], ws, rfl, by simp⟩
    | «variable» | pipe | parameter => exact ⟨m, ms, ws, rfl, rfl⟩

end Draft.Behind

/-- **Spans that end as literal text make the front of a tree**, and the spans behind them
go on with its last literal. -/
theorem Template.ofSpans_append {xs ys : List Span} (hxs : Span.FitFrom .literal xs)
    (hend : Level.literal.afterAll xs = .literal) (hys : Span.FitFrom .literal ys) :
    ∃ ls l vs m ms ws, ofSpans xs = ⟨ls ++ [l], vs⟩ ∧ ofSpans ys = ⟨m :: ms, ws⟩ ∧
      ofSpans (xs ++ ys) = ⟨ls ++ (l ++ m) :: ms, vs ++ ws⟩ := by
  have hlevel : (xs.foldl Draft.add .start).level = .literal := by
    rw [@Draft.level_foldl_add .start _ hxs]
    exact hend
  cases hD : xs.foldl Draft.add .start with
  | mk ls vs piece => ?_
  rw [hD] at hlevel
  cases piece with
  | literal l =>
    have hbehind : Draft.Behind ls l vs .start ⟨ls, vs, .literal l⟩ := by
      have hfirst := @Draft.Behind.first ls l vs ""
      rwa [String.append_empty] at hfirst
    obtain ⟨m, ms, ws, hleft, hright⟩ := (hbehind.foldl_add hys).finish
    refine ⟨ls, l, vs, m, ms, ws, ?_, hleft, ?_⟩
    · rw [ofSpans, hD]
      rfl
    · rw [ofSpans, List.foldl_append, hD, hright]
  | «variable» | pipe | parameter => cases hlevel

/-! ## Rendered text -/

namespace Template

variable (registry : Registry) (lookup : String → Value)

/-- A literal and a variable are rendered before the rest. -/
theorem renderWith_cons {ls : List String} (h : ls ≠ []) (l : String) (v : Variable)
    (vs : List Variable) :
    (Template.mk (l :: ls) (v :: vs)).renderWith registry lookup =
      l ++ (v.render registry lookup ++ (Template.mk ls vs).renderWith registry lookup) := by
  obtain ⟨k, ls, rfl⟩ := List.exists_cons_of_ne_nil h
  simp [renderWith, parts, interleave, Part.render]

/-- Text in front of the first literal is rendered as it is. -/
theorem renderWith_append_literal (l m : String) (ms : List String) (ws : List Variable) :
    (Template.mk ((l ++ m) :: ms) ws).renderWith registry lookup =
      l ++ (Template.mk (m :: ms) ws).renderWith registry lookup := by
  simp [renderWith, parts, Part.render, String.append_assoc]

/-- **Trees that are joined at a literal are rendered one after the other.** -/
theorem renderWith_append {ls : List String} {vs : List Variable} (h : ls.length = vs.length)
    (l m : String) (ms : List String) (ws : List Variable) :
    (Template.mk (ls ++ (l ++ m) :: ms) (vs ++ ws)).renderWith registry lookup =
      (Template.mk (ls ++ [l]) vs).renderWith registry lookup ++
        (Template.mk (m :: ms) ws).renderWith registry lookup := by
  induction ls generalizing vs with
  | nil =>
    obtain rfl : vs = [] := List.length_eq_zero_iff.mp h.symm
    have hl : (Template.mk [l] []).renderWith registry lookup = l := by
      simp [renderWith, parts, interleave, Part.render]
    rw [List.nil_append, List.nil_append, List.nil_append, renderWith_append_literal, hl]
  | cons k ls ih =>
    cases vs with
    | nil => cases h
    | cons v vs =>
      have hlen : ls.length = vs.length := Nat.succ.inj h
      rw [List.cons_append, List.cons_append, List.cons_append,
        renderWith_cons registry lookup (by simp), renderWith_cons registry lookup (by simp),
        ih hlen, String.append_assoc, String.append_assoc]

end Template

/-! ## Templates -/

/-- **Two texts are read and rendered one after the other**, if the first ends as literal
text and not right behind a backslash or a dollar sign.  The trees are joined where the
last literal of the first goes on with the first literal of the second. -/
theorem Dialect.parse_append_render_append (a b : String) (hend : standard.EndsAt a .literal)
    (hdollar : a.toList.getLast? ≠ some '$') (hescape : a.toList.getLast? ≠ some '\\') :
    ∃ ls l vs m ms ws,
      standard.parse a = .ok ⟨ls ++ [l], vs⟩ ∧ standard.parse b = .ok ⟨m :: ms, ws⟩ ∧
      standard.parse (a ++ b) = .ok ⟨ls ++ (l ++ m) :: ms, vs ++ ws⟩ ∧
      ∀ vars registry, ∃ x y, standard.render a vars registry = .ok x ∧
        standard.render b vars registry = .ok y ∧
        standard.render (a ++ b) vars registry = .ok (x ++ y) := by
  obtain ⟨xs, hxs, hlevel⟩ := endsAt_iff.mp hend
  obtain ⟨ys, hys⟩ := exists_takes exists_standard_next .literal b.toList
  have hfront : standard.Takes .literal (a ++ b).toList xs b.toList := by
    rw [String.toList_append]
    exact hxs.append hlevel hescape hdollar b.toList
  have hwhole : standard.Takes .literal (a ++ b).toList (xs ++ ys) [] :=
    hfront.trans (by rwa [hlevel])
  obtain ⟨ls, l, vs, m, ms, ws, ha, hb, hab⟩ :=
    Template.ofSpans_append hxs.fitFrom hlevel hys.fitFrom
  have hparseA : standard.parse a = .ok ⟨ls ++ [l], vs⟩ := by rw [hxs.parse_eq, ha]
  have hparseB : standard.parse b = .ok ⟨m :: ms, ws⟩ := by rw [hys.parse_eq, hb]
  have hparse : standard.parse (a ++ b) = .ok ⟨ls ++ (l ++ m) :: ms, vs ++ ws⟩ := by
    rw [hwhole.parse_eq, hab]
  have hlen : ls.length = vs.length := by
    have hwell := wellFormed_of_parse hparseA
    simpa [Template.WellFormed] using hwell
  refine ⟨ls, l, vs, m, ms, ws, hparseA, hparseB, hparse, fun vars registry => ?_⟩
  refine ⟨_, _, by rw [Dialect.render, hparseA]; rfl, by rw [Dialect.render, hparseB]; rfl, ?_⟩
  have hrender := Template.renderWith_append registry vars.resolve hlen l m ms ws
  rw [Dialect.render, hparse]
  exact congrArg Except.ok hrender

/-- Blanks around signs, a quoted parameter and an escape in the first text, and a
placeholder that is never closed in the second. -/
theorem Dialect.parse_append_render_append_open :
    standard.EndsAt "x$\x7b v | p : 'q\x7d' \x7d\\$." .literal ∧
      ∃ ls l vs m ms ws,
        standard.parse "x$\x7b v | p : 'q\x7d' \x7d\\$." = .ok ⟨ls ++ [l], vs⟩ ∧
        standard.parse " \x7d$\x7bw " = .ok ⟨m :: ms, ws⟩ ∧
        standard.parse ("x$\x7b v | p : 'q\x7d' \x7d\\$." ++ " \x7d$\x7bw ") =
          .ok ⟨ls ++ (l ++ m) :: ms, vs ++ ws⟩ ∧
        ∀ vars registry, ∃ x y,
          standard.render "x$\x7b v | p : 'q\x7d' \x7d\\$." vars registry = .ok x ∧
          standard.render " \x7d$\x7bw " vars registry = .ok y ∧
          standard.render ("x$\x7b v | p : 'q\x7d' \x7d\\$." ++ " \x7d$\x7bw ") vars registry =
            .ok (x ++ y) := by
  have hspans : standard.spans .literal "x$\x7b v | p : 'q\x7d' \x7d\\$.".toList = .ok
      [.plain 'x', .delimiter .variableStart ['$', '{', ' '], .plain 'v',
        .delimiter .pipeStart [' ', '|', ' '], .plain 'p',
        .delimiter .parameterStart [' ', ':', ' '], .quoted ['\'', 'q', '}', '\''] ['q', '}'],
        .delimiter .variableEnd [' ', '}'], .escaped ['\\'] (some '$'), .plain '.'] :=
    spans_eq_ok (by decide +kernel)
  have hend : standard.EndsAt "x$\x7b v | p : 'q\x7d' \x7d\\$." .literal :=
    endsAt_iff.mpr ⟨_, takes_iff_spans.mpr hspans, rfl⟩
  exact ⟨hend, parse_append_render_append _ " \x7d$\x7bw " hend (by decide) (by decide)⟩

end TextTemplate
