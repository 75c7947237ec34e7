import Mathlib.Data.List.ModifyLast
import TextTemplate.Proofs.Pattern.Anchoring
import TextTemplate.Proofs.Scan.Levels

/-! # Spans tile the text and carry it over

In a dialect whose delimiters are matched at the front of the text only, a scanner
always comes to the end of its text.  Each step takes a span that is what it is called
(`Dialect.SpanAt`), so the spans tile the text.  Nothing of what they contribute is
lost or moved: the texts of the tree, in reading order, are the contents of the spans
(`content_finish_foldl`), and each piece of the tree stands in the piece that was
started last (`outline_finish_foldl`). -/
namespace TextTemplate

/-! ## What a span is -/

/-- Text is matched at the front or not at all. -/
theorem Matcher.Anchored.exists_append {m : Matcher} (h : m.Anchored) {text : List Char}
    (hw : 0 < m.width text) :
    ∃ taken rest, text = taken ++ rest ∧ taken ≠ [] ∧ m.width text = Text.width taken ∧
      m.find text = some ⟨0, Text.width taken⟩ := by
  unfold width at hw ⊢
  cases hf : m.find text with
  | none => simp [hf] at hw
  | some found =>
    simp only [hf] at hw ⊢
    obtain ⟨hstart, taken, rest, hcut⟩ := h text found hf hw
    obtain ⟨rfl, hlen⟩ := Text.eq_append_of_cut? hcut
    refine ⟨taken, rest, rfl, ?_, hlen.symm, ?_⟩
    · rintro rfl
      simp at hlen
      omega
    · rw [hlen, ← hstart]

/-- What the first span of a text is at a level, and what it leaves: a match of the
escape with the character behind it, if there is one; or else a match of a delimiter
of the level, the first that takes text; or else quoted text, as far as its length
makes sense; or else one character. -/
inductive Dialect.SpanAt (d : Dialect) (level : Level) :
    List Char → Span → List Char → Prop where
  | escaped {marker after : List Char} :
      marker ≠ [] → d.escape.find (marker ++ after) = some ⟨0, Text.width marker⟩ →
      SpanAt d level (marker ++ after) (.escaped marker after.head?) after.tail
  | delimiter {δ : Delimiter} {taken rest : List Char} :
      d.escape.width (taken ++ rest) = 0 →
      δ ∈ level.delimiters → d.delimiterAt level (taken ++ rest) = some δ →
      taken ≠ [] → (d.matcher δ).find (taken ++ rest) = some ⟨0, Text.width taken⟩ →
      SpanAt d level (taken ++ rest) (.delimiter δ taken) rest
  | quoted {q : Quoting} {taken content rest : List Char} :
      d.escape.width (taken ++ rest) = 0 → d.delimiterAt level (taken ++ rest) = none →
      d.quoting level = some q → q.starts (taken ++ rest) →
      q.extract (taken ++ rest) = ⟨Text.width taken, content⟩ → taken ≠ [] →
      SpanAt d level (taken ++ rest) (.quoted taken content) rest
  | plain {c : Char} {rest : List Char} :
      d.escape.width (c :: rest) = 0 → d.delimiterAt level (c :: rest) = none →
      d.quotedAt level (c :: rest) = none →
      SpanAt d level (c :: rest) (.plain c) rest

/-- A span is a non-empty piece of the front of the text. -/
theorem Dialect.SpanAt.eq_append {d : Dialect} {level : Level} {text rest : List Char}
    {span : Span} (h : d.SpanAt level text span rest) :
    text = span.text ++ rest ∧ span.text ≠ [] := by
  cases h with
  | @escaped marker after hne =>
    cases after with
    | nil => simpa [Span.text] using hne
    | cons c after => simp [Span.text]
  | delimiter _ _ _ hne => exact ⟨rfl, hne⟩
  | quoted _ _ _ _ _ hne => exact ⟨rfl, hne⟩
  | plain => simp [Span.text]

/-- Every text has a first span. -/
theorem Dialect.Anchored.exists_spanAt {d : Dialect} (hd : d.Anchored) (level : Level) (c : Char)
    (cs : List Char) :
    ∃ span rest, d.next level c cs = .ok (span, rest) ∧ d.SpanAt level (c :: cs) span rest := by
  obtain ⟨hescape, hdelimiter⟩ := hd
  simp only [next]
  by_cases hw : 0 < d.escape.width (c :: cs)
  · obtain ⟨marker, after, htext, hne, hlen, hfind⟩ := hescape.exists_append hw
    rw [if_pos hw, hlen, cut_eq_ok_iff.mpr ⟨htext, rfl⟩]
    rw [htext] at hfind ⊢
    refine ⟨.escaped marker after.head?, after.tail, ?_, .escaped hne hfind⟩
    cases after <;> rfl
  · rw [if_neg hw]
    have hzero : d.escape.width (c :: cs) = 0 := by omega
    cases hδ : d.delimiterAt level (c :: cs) with
    | some δ =>
      have hpos : 0 < (d.matcher δ).width (c :: cs) := by simpa using List.find?_some hδ
      obtain ⟨taken, rest, htext, hne, hlen, hfind⟩ := (hdelimiter δ).exists_append hpos
      simp only [hlen, cut_eq_ok_iff.mpr ⟨htext, rfl⟩]
      rw [htext] at hfind hzero hδ ⊢
      exact ⟨_, _, rfl, .delimiter hzero (List.mem_of_find?_eq_some hδ) hδ hne hfind⟩
    | none =>
      cases hq : d.quotedAt level (c :: cs) with
      | none => exact ⟨_, _, rfl, .plain hzero hδ hq⟩
      | some found =>
        obtain ⟨taken, content, rest⟩ := found
        obtain ⟨q, hlevel, htake⟩ := Option.bind_eq_some_iff.mp hq
        obtain ⟨hs, he, htext, hne⟩ := Quoting.take?_eq_some_iff.mp htake
        rw [htext] at hs he hzero hδ ⊢
        exact ⟨_, _, rfl, .quoted hzero hδ hlevel hs he hne⟩

/-! ## What spans contribute -/

/-- The name of a variable, and the name and parameters of each of its pipes. -/
def Variable.texts (v : Variable) : List String :=
  v.name :: v.pipes.flatMap fun p => p.name :: p.parameters

/-- The texts in a part of a template. -/
def Part.texts : Part → List String
  | .literal text => [text]
  | .variable v => v.texts

namespace Template

/-- The texts in a template, in reading order, as one. -/
def content (t : Template) : List Char :=
  (t.parts.flatMap Part.texts).flatMap String.toList

theorem interleave_concat {ls : List String} {vs : List Variable} (h : ls.length = vs.length)
    (l : String) (v : Variable) :
    interleave (ls ++ [l]) (vs ++ [v]) = interleave ls vs ++ [.variable v, .literal l] := by
  induction ls generalizing vs with
  | nil =>
    obtain rfl : vs = [] := List.length_eq_zero_iff.mp h.symm
    rfl
  | cons k ls ih =>
    cases vs with
    | nil => simp at h
    | cons w vs =>
      rw [List.length_cons, List.length_cons, Nat.succ_inj] at h
      simp [interleave, ih h]

/-- A variable and a literal behind it come last in reading order. -/
theorem parts_concat {ls : List String} {vs : List Variable} (h : ls.length = vs.length + 1)
    (l : String) (v : Variable) :
    (Template.mk (ls ++ [l]) (vs ++ [v])).parts =
      (Template.mk ls vs).parts ++ [.variable v, .literal l] := by
  cases ls with
  | nil => simp at h
  | cons k ls =>
    have hlen : ls.length = vs.length := by simpa using h
    simp [parts, interleave_concat hlen]

/-- The last literal comes last in reading order. -/
theorem exists_parts_last {ls : List String} {vs : List Variable} (h : ls.length = vs.length) :
    ∃ front, ∀ l, (Template.mk (ls ++ [l]) vs).parts = front ++ [.literal l] := by
  rcases List.eq_nil_or_concat ls with rfl | ⟨ks, k, rfl⟩
  · obtain rfl : vs = [] := List.length_eq_zero_iff.mp h.symm
    exact ⟨[], fun l => rfl⟩
  · rcases List.eq_nil_or_concat vs with rfl | ⟨ws, w, rfl⟩
    · simp at h
    · have hlen : (ks ++ [k]).length = ws.length + 1 := by simpa using h
      exact ⟨_, fun l => by
        rw [List.concat_eq_append, List.concat_eq_append, parts_concat hlen,
          ← List.append_cons]⟩

end Template

/-- The name that text would be added to is the last text of its piece: no pipe stands
behind the name of a variable yet, and no parameter behind that of a pipe. -/
def OpenPiece.NameLast : OpenPiece → Prop
  | .literal _ => True
  | .variable v => v.pipes = []
  | .pipe _ p => p.parameters = []
  | .parameter _ _ _ => True

namespace Draft

/-- Names are complete once a pipe or a parameter has been started. -/
theorem nameLast_add {D : Draft} {span : Span} (hf : span.Fits D.level)
    (hl : D.piece.NameLast) : (D.add span).piece.NameLast := by
  obtain ⟨ls, vs, piece⟩ := D
  cases span with
  | delimiter δ text =>
    cases δ <;> cases piece <;> simp_all [level, OpenPiece.level, Span.Fits, Level.delimiters,
      OpenPiece.closePipe, OpenPiece.closeParameter, add, enter, collapse, OpenPiece.NameLast]
  | escaped | quoted | plain =>
    cases piece <;> exact hl

theorem finish_collapse (D : Draft) : D.collapse.finish = D.finish := by
  obtain ⟨ls, vs, piece⟩ := D
  cases piece <;> rfl

/-- Inside a placeholder there is a variable to close. -/
theorem exists_closePipe {D : Draft} (h : D.level ≠ .literal) :
    ∃ w, D.piece.closePipe = .variable w := by
  obtain ⟨ls, vs, piece⟩ := D
  cases piece with
  | literal => exact absurd rfl h
  | «variable» | pipe | parameter => exact ⟨_, rfl⟩

/-- The tree of a draft inside a placeholder ends with the open variable. -/
theorem finish_of_closePipe {D : Draft} {w : Variable} (hw : D.piece.closePipe = .variable w) :
    D.finish = ⟨D.literals ++ [""], D.placeholders ++ [w]⟩ := by
  simp [finish, collapse, hw]

/-- The content of a draft inside a placeholder ends with that of the open variable. -/
theorem content_finish_of_closePipe {D : Draft} {w : Variable} (hD : D.Balanced)
    (hw : D.piece.closePipe = .variable w) :
    D.finish.content =
      (Template.mk D.literals D.placeholders).content ++ w.texts.flatMap String.toList := by
  have hlen : D.literals.length = D.placeholders.length + 1 := by
    obtain ⟨ls, vs, piece⟩ := D
    cases piece with
    | literal t => cases hw
    | «variable» | pipe | parameter => exact hD
  simp [finish_of_closePipe hw, Template.content, Template.parts_concat hlen, Part.texts]

/-- Inside a placeholder a span other than a closing delimiter changes the open variable
alone, whose texts grow by what the span contributes. -/
theorem exists_closePipe_add {D : Draft} {span : Span} {w : Variable} (hf : span.Fits D.level)
    (hl : D.piece.NameLast) (hw : D.piece.closePipe = .variable w)
    (hend : ∀ text, span ≠ .delimiter .variableEnd text) :
    ∃ w', (D.add span).piece.closePipe = .variable w' ∧
      (D.add span).literals = D.literals ∧ (D.add span).placeholders = D.placeholders ∧
      w'.texts.flatMap String.toList = w.texts.flatMap String.toList ++ span.content := by
  obtain ⟨ls, vs, piece⟩ := D
  cases span with
  | delimiter δ text =>
    cases δ with
    | variableEnd => exact absurd rfl (hend text)
    | variableStart => cases piece <;> simp_all [level, OpenPiece.level, Span.Fits,
        Level.delimiters, OpenPiece.closePipe, OpenPiece.closeParameter]
    | pipeStart | parameterStart =>
      cases piece <;> simp_all [level, OpenPiece.level, Span.Fits, Level.delimiters,
        OpenPiece.closePipe, OpenPiece.closeParameter, add, enter, Variable.texts, Span.content]
      all_goals simp [← hw]
  | escaped | quoted | plain =>
    cases piece <;> simp_all [OpenPiece.closePipe, OpenPiece.closeParameter, add,
      OpenPiece.append, Variable.texts, Span.content, OpenPiece.NameLast]
    all_goals
      subst hw
      simp_all

/-- **Adding a span adds what it contributes** at the end of what is there. -/
theorem content_finish_add {D : Draft} {span : Span} (hf : span.Fits D.level) (hD : D.Balanced)
    (hl : D.piece.NameLast) :
    (D.add span).finish.content = D.finish.content ++ span.content := by
  have hadd : (D.add span).Balanced := balanced_add hf hD
  by_cases hlevel : D.level = .literal
  · obtain ⟨ls, vs, piece⟩ := D
    cases piece with
    | literal t =>
      obtain ⟨front, hfront⟩ := @Template.exists_parts_last ls vs hD
      cases span with
      | delimiter δ text =>
        obtain rfl : δ = .variableStart := by
          simpa [Span.Fits, level, OpenPiece.level, Level.delimiters] using hf
        rw [content_finish_of_closePipe hadd rfl]
        simp [add, enter, finish, collapse, OpenPiece.closePipe, OpenPiece.closeParameter,
          Variable.texts, Span.content]
      | escaped | quoted | plain =>
        simp [finish, collapse, OpenPiece.closePipe, OpenPiece.closeParameter, add,
          OpenPiece.append, Template.content, hfront, Part.texts]
    | «variable» | pipe | parameter => simp [level, OpenPiece.level] at hlevel
  · obtain ⟨w, hw⟩ := exists_closePipe hlevel
    by_cases hend : ∃ text, span = .delimiter .variableEnd text
    · obtain ⟨text, rfl⟩ := hend
      show D.collapse.finish.content = _
      rw [finish_collapse, Span.content, List.append_nil]
    · obtain ⟨w', hw', hls, hvs, htexts⟩ :=
        exists_closePipe_add hf hl hw (fun text he => hend ⟨text, he⟩)
      rw [content_finish_of_closePipe hadd hw', content_finish_of_closePipe hD hw, hls, hvs, htexts,
        List.append_assoc]

/-- The texts of the tree that a draft and spans make are those of the draft and what
the spans contribute. -/
theorem content_finish_foldl {D : Draft} {spans : List Span} (hf : Span.FitFrom D.level spans)
    (hD : D.Balanced) (hl : D.piece.NameLast) :
    (spans.foldl add D).finish.content = D.finish.content ++ spans.flatMap Span.content := by
  induction spans generalizing D with
  | nil => simp
  | cons span spans ih =>
    obtain ⟨hspan, hmore⟩ := hf
    rw [← level_add hspan] at hmore
    rw [List.foldl_cons, ih hmore (balanced_add hspan hD) (nameLast_add hspan hl),
      content_finish_add hspan hD hl, List.flatMap_cons, List.append_assoc]

end Draft

/-! ## Where the pieces stand -/

/-- How many parameters each pipe of each variable has. -/
def Template.outline (t : Template) : List (List Nat) :=
  t.placeholders.map fun v => v.pipes.map fun p => p.parameters.length

/-- The outline with the piece that a delimiter starts: a variable comes last, a pipe
comes last in the last variable, a parameter in the last pipe of the last variable. -/
def Span.extend (outline : List (List Nat)) : Span → List (List Nat)
  | .delimiter .variableStart _ => outline ++ [[]]
  | .delimiter .pipeStart _ => outline.modifyLast (· ++ [0])
  | .delimiter .parameterStart _ => outline.modifyLast fun v => v.modifyLast (· + 1)
  | _ => outline

/-- How many of the spans are the delimiter. -/
def Delimiter.count (δ : Delimiter) (spans : List Span) : Nat :=
  spans.countP fun span => match span with
    | .delimiter ε _ => ε == δ
    | _ => false

namespace Draft

/-- **A piece is started in the piece that was started last.** -/
theorem outline_finish_add {D : Draft} {span : Span} (hf : span.Fits D.level) :
    (D.add span).finish.outline = span.extend D.finish.outline := by
  obtain ⟨ls, vs, piece⟩ := D
  cases span with
  | delimiter δ text =>
    cases δ <;> cases piece <;> simp_all [level, OpenPiece.level, Span.Fits, Level.delimiters,
      OpenPiece.closePipe, OpenPiece.closeParameter, add, enter, finish, collapse,
      Template.outline, Span.extend, List.modifyLast_concat]
  | escaped | quoted | plain =>
    cases piece <;> simp [finish, collapse, add, OpenPiece.append, OpenPiece.closePipe,
      OpenPiece.closeParameter, Template.outline, Span.extend]

theorem outline_finish_foldl {D : Draft} {spans : List Span} (hf : Span.FitFrom D.level spans) :
    (spans.foldl add D).finish.outline = spans.foldl Span.extend D.finish.outline := by
  induction spans generalizing D with
  | nil => rfl
  | cons span spans ih =>
    obtain ⟨hspan, hmore⟩ := hf
    rw [← level_add hspan] at hmore
    rw [List.foldl_cons, List.foldl_cons, ih hmore, outline_finish_add hspan]

end Draft

/-! ## How many pieces there are -/

/-- The pipes in a template. -/
def Template.pipes (t : Template) : List Pipe := t.placeholders.flatMap Variable.pipes

/-- The parameters in a template. -/
def Template.parameters (t : Template) : List String := t.pipes.flatMap Pipe.parameters

/-- How many pieces of the kind that a delimiter starts a template has. -/
def Template.size (t : Template) : Delimiter → Nat
  | .variableStart => t.placeholders.length
  | .pipeStart => t.pipes.length
  | .parameterStart => t.parameters.length
  | .variableEnd => 0

theorem Delimiter.count_cons (δ : Delimiter) (span : Span) (spans : List Span) :
    δ.count (span :: spans) = δ.count [span] + δ.count spans := by
  simp [count, List.countP_cons, Nat.add_comm]

namespace Draft

/-- A span starts one piece of its kind, if it is a delimiter that starts any. -/
theorem size_finish_add {D : Draft} {span : Span} (hf : span.Fits D.level) {δ : Delimiter}
    (hδ : δ ≠ .variableEnd) : (D.add span).finish.size δ = D.finish.size δ + δ.count [span] := by
  obtain ⟨ls, vs, piece⟩ := D
  cases span with
  | delimiter ε text =>
    cases ε <;> cases piece <;> simp_all [level, OpenPiece.level, Span.Fits, Level.delimiters] <;>
    cases δ <;> simp_all [OpenPiece.closePipe, OpenPiece.closeParameter, add, enter, finish,
      collapse, Template.size, Template.pipes, Template.parameters, Delimiter.count] <;> omega
  | escaped | quoted | plain =>
    cases piece <;> cases δ <;> simp_all [finish, collapse, add, OpenPiece.append,
      OpenPiece.closePipe, OpenPiece.closeParameter, Template.size, Template.pipes,
      Template.parameters, Delimiter.count]

theorem size_finish_foldl {D : Draft} {spans : List Span} (hf : Span.FitFrom D.level spans)
    {δ : Delimiter} (hδ : δ ≠ .variableEnd) :
    (spans.foldl add D).finish.size δ = D.finish.size δ + δ.count spans := by
  induction spans generalizing D with
  | nil => rfl
  | cons span spans ih =>
    obtain ⟨hspan, hmore⟩ := hf
    rw [← level_add hspan] at hmore
    rw [List.foldl_cons, ih hmore, size_finish_add hspan hδ, Delimiter.count_cons δ span spans,
      Nat.add_assoc]

end Draft

/-- A tree has as many pieces of a kind as there are delimiters that start one. -/
theorem Template.size_ofSpans {spans : List Span} (hfit : Span.FitFrom .literal spans)
    {δ : Delimiter} (hδ : δ ≠ .variableEnd) : (ofSpans spans).size δ = δ.count spans := by
  have hstart : Draft.start.finish.size δ = 0 := by cases δ <;> rfl
  rw [ofSpans, @Draft.size_finish_foldl .start _ hfit _ hδ, hstart, Nat.zero_add]

/-! ## Tilings -/

namespace Scanner

/-- Spans that a scanner takes one after the other, where each is what it is called in
the text that is left to the scanner. -/
inductive Tiles (d : Dialect) : Scanner → List Span → Scanner → Prop where
  | none (s : Scanner) : Tiles d s [] s
  | span {s t u : Scanner} {span : Span} {spans : List Span} :
      s.step d .blank = some (.ok (span, t)) → d.SpanAt s.level s.rest span t.rest →
      Tiles d t spans u → Tiles d s (span :: spans) u

variable {d : Dialect}

theorem Tiles.steps {s u : Scanner} {spans : List Span} (h : Tiles d s spans u) :
    Steps d .blank s spans u := by
  induction h with
  | none s => exact .none s
  | span hstep _ _ ih => exact .step hstep ih

/-- No span of a tiling is empty. -/
theorem Tiles.text_ne_nil {s u : Scanner} {spans : List Span} (h : Tiles d s spans u) :
    ∀ span ∈ spans, span.text ≠ [] := by
  induction h with
  | none => exact List.forall_mem_nil _
  | span _ hat _ ih => exact List.forall_mem_cons.mpr ⟨hat.eq_append.2, ih⟩

/-- A scanner of an anchored dialect takes a span that is what it is called, as long as
there is text. -/
theorem exists_step (hd : d.Anchored) {s : Scanner} (hs : s.rest ≠ []) :
    ∃ span t, s.step d .blank = some (.ok (span, t)) ∧ d.SpanAt s.level s.rest span t.rest := by
  obtain ⟨c, cs, hrest⟩ := List.exists_cons_of_ne_nil hs
  obtain ⟨span, rest, hnext, hat⟩ := hd.exists_spanAt s.level c cs
  refine ⟨span, s.take .blank span rest, step_eq_ok_iff.mpr ⟨c, cs, rest, hrest, hnext, rfl⟩, ?_⟩
  rwa [hrest, take_rest]

/-- A scanner of an anchored dialect comes to the end of its text. -/
theorem exists_tiles (hd : d.Anchored) (s : Scanner) :
    ∃ spans u, Tiles d s spans u ∧ u.rest = [] := by
  induction hn : s.rest.length using Nat.strongRecOn generalizing s with
  | ind n ih =>
    subst hn
    by_cases hs : s.rest = []
    · exact ⟨[], s, .none s, hs⟩
    · obtain ⟨span, t, hstep, hat⟩ := exists_step hd hs
      obtain ⟨spans, u, htiles, hu⟩ := ih _ (length_lt_of_step hstep) t rfl
      exact ⟨span :: spans, u, .span hstep hat htiles, hu⟩

end Scanner

/-- In an anchored dialect every text has a tree. -/
theorem Dialect.Anchored.exists_parse {d : Dialect} (hd : d.Anchored) (text : String) :
    ∃ t, d.parse text = .ok t := by
  obtain ⟨spans, u, htiles, hu⟩ := Scanner.exists_tiles hd (.start text.toList)
  exact ⟨_, Scanner.run_eq_ok_iff.mpr ⟨spans, u, htiles.steps, hu, rfl⟩⟩

namespace Scanner

/-- **The spans of a text tile it and carry it over.**  In an anchored dialect a scanner
takes spans that are non-empty, lie one behind the other and come to the end of the
text.  What they contribute is what the texts of the template are, in reading order.
Each piece stands in the piece that was started last, and there are as many variables,
pipes and parameters as there are spans that start one. -/
theorem tiles_and_carries_over {d : Dialect} (hd : d.Anchored) (text : String) :
    ∃ spans u t, Tiles d (start text.toList) spans u ∧
      u.rest = [] ∧ textOf spans = text.toList ∧ u.pos = Text.width text.toList ∧
      (∀ span ∈ spans, span.text ≠ []) ∧
      d.parse text = .ok t ∧
      t.content = spans.flatMap Span.content ∧
      t.outline = spans.foldl Span.extend [] ∧
      t.placeholders.length = Delimiter.variableStart.count spans ∧
      t.pipes.length = Delimiter.pipeStart.count spans ∧
      t.parameters.length = Delimiter.parameterStart.count spans := by
  obtain ⟨spans, u, htiles, hu⟩ := exists_tiles hd (start text.toList)
  have hrun := htiles.steps
  obtain ⟨-, htext, hpos, -⟩ := steps_ofDraft (D := .start) hrun
  rw [hu, List.append_nil] at htext
  have hspans : d.spans .literal text.toList = .ok spans :=
    (steps_iff_spans (D := .start)).mp ⟨u, hrun, hu⟩
  have hfit := Dialect.fitFrom_of_spans hspans
  have hsize : ∀ δ ≠ .variableEnd, (Template.ofSpans spans).size δ = δ.count spans :=
    fun δ => Template.size_ofSpans hfit
  refine ⟨spans, u, Template.ofSpans spans, htiles, hu, htext.symm, ?_, htiles.text_ne_nil, ?_,
    ?_, ?_, ?_, ?_, ?_⟩
  · rw [hpos, ← htext, Nat.zero_add]
  · rw [Dialect.parse_eq_ofSpans, hspans]
    rfl
  · exact Draft.content_finish_foldl (D := .start) hfit Draft.balanced_start trivial
  · exact Draft.outline_finish_foldl (D := .start) hfit
  · exact hsize .variableStart nofun
  · exact hsize .pipeStart nofun
  · exact hsize .parameterStart nofun

/-- An escaped brace, a quoted bar, an empty parameter and an empty pipe, an opening
delimiter that is text inside a placeholder, and one at the end of the text. -/
theorem tiles_and_carries_over_unclosed :
    ∃ spans u,
      Tiles .standard (start "a$\x7b x\\\x7d|p:'q|':\"\"||$\x7b\x7d$\x7b".toList) spans u ∧
      u.rest = [] ∧ spans.flatMap Span.content = "ax\x7dpq|$\x7b".toList ∧
      Delimiter.variableStart.count spans = 2 ∧ Delimiter.pipeStart.count spans = 3 ∧
      Delimiter.parameterStart.count spans = 2 := by
  obtain ⟨spans, u, t, htiles, hu, -, -, -, hparse, hcontent, -, hvariables, hpipes, hparameters⟩ :=
    tiles_and_carries_over Dialect.anchored_standard
      "a$\x7b x\\\x7d|p:'q|':\"\"||$\x7b\x7d$\x7b"
  have ht : (Dialect.standard.parse "a$\x7b x\\\x7d|p:'q|':\"\"||$\x7b\x7d$\x7b").toOption =
      some ⟨["a", "", ""],
        [⟨"x\x7d", [⟨"p", ["q|", ""]⟩, ⟨"", []⟩, ⟨"$\x7b", []⟩]⟩, ⟨"", []⟩]⟩ := by
    decide +kernel
  rw [hparse] at ht
  obtain rfl := Option.some.inj ht
  exact ⟨spans, u, htiles, hu, hcontent.symm, hvariables.symm, hpipes.symm, hparameters.symm⟩

end Scanner
end TextTemplate
