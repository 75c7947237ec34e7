import TextTemplate.Proofs.Scan.Runs

/-! # The spans of a tree

Whatever the delimiters of a dialect look like, the spans of a template are laid out in
one way: spans of text for each literal, name and parameter, and delimiters between
them.  `Template.Laid` says which spans lay out a template.  They fit one behind the
other (`Template.Laid.fitFrom`) and make that template (`Template.Laid.ofSpans_eq`). -/
namespace TextTemplate

/-! ## Spans of text -/

/-- The span adds text to the piece it lies in. -/
def Span.IsText : Span → Prop
  | .delimiter _ _ => False
  | _ => True

/-- Spans of text that add up to a content. -/
def LaidText (content : List Char) (spans : List Span) : Prop :=
  (∀ span ∈ spans, span.IsText) ∧ spans.flatMap Span.content = content

/-- Spans of parameters, each behind a delimiter. -/
inductive LaidParameters : List String → List Span → Prop where
  | nil : LaidParameters [] []
  | cons {p : String} {ps : List String} {sign : List Char} {xs more : List Span} :
      LaidText p.toList xs → LaidParameters ps more →
      LaidParameters (p :: ps) (.delimiter .parameterStart sign :: (xs ++ more))

/-- Spans of pipes, each behind a delimiter. -/
inductive LaidPipes : List Pipe → List Span → Prop where
  | nil : LaidPipes [] []
  | cons {p : Pipe} {ps : List Pipe} {sign : List Char} {xs parameters more : List Span} :
      LaidText p.name.toList xs → LaidParameters p.parameters parameters → LaidPipes ps more →
      LaidPipes (p :: ps) (.delimiter .pipeStart sign :: (xs ++ (parameters ++ more)))

/-- Spans of a variable between two delimiters. -/
inductive Variable.Laid : Variable → List Span → Prop where
  | mk {v : Variable} {start stop : List Char} {xs pipes : List Span} :
      LaidText v.name.toList xs → LaidPipes v.pipes pipes →
      Laid v (.delimiter .variableStart start :: (xs ++ (pipes ++ [.delimiter .variableEnd stop])))

/-- Spans of a template. -/
inductive Template.Laid : Template → List Span → Prop where
  | last {l : String} {xs : List Span} : LaidText l.toList xs → Laid ⟨[l], []⟩ xs
  | cons {l : String} {v : Variable} {ls : List String} {vs : List Variable}
      {xs placeholder more : List Span} :
      LaidText l.toList xs → v.Laid placeholder → Laid ⟨ls, vs⟩ more →
      Laid ⟨l :: ls, v :: vs⟩ (xs ++ (placeholder ++ more))

/-- The spans of a variable are those of a template with nothing around it. -/
theorem Variable.Laid.template {v : Variable} {spans : List Span} (h : v.Laid spans) :
    Template.Laid ⟨["", ""], [v]⟩ spans := by
  have hnone : LaidText "".toList [] := ⟨List.forall_mem_nil _, rfl⟩
  have hlaid := Template.Laid.cons hnone h (.last hnone)
  rwa [List.nil_append, List.append_nil] at hlaid

namespace LaidText

theorem append {content content' : List Char} {xs ys : List Span} (h : LaidText content xs)
    (h' : LaidText content' ys) : LaidText (content ++ content') (xs ++ ys) := by
  refine ⟨fun span hspan => ?_, by rw [List.flatMap_append, h.2, h'.2]⟩
  rcases List.mem_append.mp hspan with hx | hy
  · exact h.1 span hx
  · exact h'.1 span hy

variable {content : List Char} {xs : List Span} (h : LaidText content xs)
include h

/-- Text changes no level, so what fits behind it fits in front of it. -/
theorem fitFrom_append {level : Level} {more : List Span} (hmore : Span.FitFrom level more) :
    Span.FitFrom level (xs ++ more) := by
  have hxs := h.1
  clear h
  induction xs with
  | nil => exact hmore
  | cons span xs ih =>
    rw [List.forall_mem_cons] at hxs
    cases span with
    | delimiter => exact hxs.1.elim
    | escaped | quoted | plain => exact ⟨trivial, ih hxs.2⟩

/-- Text is added to the piece that is open. -/
theorem foldl_add (D : Draft) :
    xs.foldl Draft.add D = { D with piece := D.piece.append (String.ofList content) } := by
  obtain ⟨hxs, rfl⟩ := h
  induction xs generalizing D with
  | nil =>
    obtain ⟨ls, vs, piece⟩ := D
    cases piece <;> simp [OpenPiece.append]
  | cons span xs ih =>
    rw [List.forall_mem_cons] at hxs
    have hspan : D.add span = { D with piece := D.piece.append (String.ofList span.content) } := by
      cases span with
      | delimiter => exact hxs.1.elim
      | escaped | quoted | plain => rfl
    rw [List.foldl_cons, ih (D.add span) hxs.2, hspan]
    obtain ⟨ls, vs, piece⟩ := D
    cases piece <;> simp [OpenPiece.append, String.append_assoc]

end LaidText

/-! ## Layouts fit -/

theorem LaidParameters.fitFrom_append {ps : List String} {spans : List Span}
    (h : LaidParameters ps spans) {level : Level} (hlevel : level = .pipe ∨ level = .parameter)
    {more : List Span} (hmore : ∀ level, level = .pipe ∨ level = .parameter →
      Span.FitFrom level more) : Span.FitFrom level (spans ++ more) := by
  induction h generalizing level with
  | nil => exact hmore level hlevel
  | cons hxs _ ih =>
    rw [List.cons_append, List.append_assoc]
    refine ⟨?_, hxs.fitFrom_append (ih (.inr rfl))⟩
    rcases hlevel with rfl | rfl <;> simp [Span.Fits, Level.delimiters]

theorem LaidPipes.fitFrom_append {ps : List Pipe} {spans : List Span} (h : LaidPipes ps spans)
    {level : Level} (hlevel : level ≠ .literal) {more : List Span}
    (hmore : ∀ level, level ≠ .literal → Span.FitFrom level more) :
    Span.FitFrom level (spans ++ more) := by
  induction h generalizing level with
  | nil => exact hmore level hlevel
  | cons hxs hparameters _ ih =>
    rw [List.cons_append, List.append_assoc, List.append_assoc]
    refine ⟨(Level.mem_delimiters hlevel).2, hxs.fitFrom_append
      (hparameters.fitFrom_append (.inl rfl) fun level hlevel => ih ?_)⟩
    rcases hlevel with rfl | rfl <;> exact nofun

theorem Variable.Laid.fitFrom_append {v : Variable} {spans more : List Span} (h : v.Laid spans)
    (hmore : Span.FitFrom .literal more) : Span.FitFrom .literal (spans ++ more) := by
  cases h with
  | mk hxs hpipes =>
    have hopen : Level.variable ≠ .literal := nofun
    rw [List.cons_append, List.append_assoc, List.append_assoc]
    refine ⟨List.mem_cons_self, hxs.fitFrom_append
      (hpipes.fitFrom_append hopen fun level hlevel => ?_)⟩
    exact ⟨(Level.mem_delimiters hlevel).1, hmore⟩

/-- **The spans of a template fit one behind the other.** -/
theorem Template.Laid.fitFrom {t : Template} {spans : List Span} (h : t.Laid spans) :
    Span.FitFrom .literal spans := by
  induction h with
  | @last l xs hxs =>
    have hfit := @LaidText.fitFrom_append _ _ hxs .literal [] trivial
    rwa [List.append_nil] at hfit
  | cons hxs hplaceholder _ ih => exact hxs.fitFrom_append (hplaceholder.fitFrom_append ih)

/-! ## Layouts make their trees -/

/-- Parameters come behind those of the open pipe. -/
theorem LaidParameters.foldl_add {ps : List String} {spans : List Span}
    (h : LaidParameters ps spans) {D : Draft} {v : Variable} {p : Pipe}
    (hD : D.piece.closeParameter = .pipe v p) :
    ∃ piece, spans.foldl Draft.add D = { D with piece := piece } ∧
      piece.closeParameter = .pipe v { p with parameters := p.parameters ++ ps } := by
  induction h generalizing D p with
  | nil => exact ⟨D.piece, rfl, by rw [hD, List.append_nil]⟩
  | @cons param ps sign xs more hxs _ ih =>
    have hopen : D.add (.delimiter .parameterStart sign) =
        { D with piece := .parameter v p "" } := by
      simp [Draft.add, Draft.enter, hD]
    have hparam : OpenPiece.append (String.ofList param.toList) (.parameter v p "") =
        .parameter v p param := by
      simp [OpenPiece.append]
    rw [List.foldl_cons, List.foldl_append, hopen, hxs.foldl_add, hparam]
    obtain ⟨piece, hfold, hclose⟩ := @ih { D with piece := .parameter v p param } _ rfl
    exact ⟨piece, hfold, by rw [hclose]; simp⟩

/-- Pipes come behind those of the open variable. -/
theorem LaidPipes.foldl_add {ps : List Pipe} {spans : List Span} (h : LaidPipes ps spans)
    {D : Draft} {v : Variable} (hD : D.piece.closePipe = .variable v) :
    ∃ piece, spans.foldl Draft.add D = { D with piece := piece } ∧
      piece.closePipe = .variable { v with pipes := v.pipes ++ ps } := by
  induction h generalizing D v with
  | nil => exact ⟨D.piece, rfl, by rw [hD, List.append_nil]⟩
  | @cons p ps sign xs parameters more hxs hparameters _ ih =>
    have hopen : D.add (.delimiter .pipeStart sign) = { D with piece := .pipe v ⟨"", []⟩ } := by
      simp [Draft.add, Draft.enter, hD]
    have hname : OpenPiece.append (String.ofList p.name.toList) (.pipe v ⟨"", []⟩) =
        .pipe v ⟨p.name, []⟩ := by
      simp [OpenPiece.append]
    rw [List.foldl_cons, List.foldl_append, List.foldl_append, hopen, hxs.foldl_add, hname]
    obtain ⟨piece, hfold, hclose⟩ :=
      @LaidParameters.foldl_add _ _ hparameters { D with piece := .pipe v ⟨p.name, []⟩ } _ _ rfl
    have hpipe : piece.closePipe = .variable { v with pipes := v.pipes ++ [p] } := by
      simp [OpenPiece.closePipe, hclose]
    rw [hfold]
    obtain ⟨piece', hfold', hclose'⟩ := @ih { D with piece := piece } _ hpipe
    exact ⟨piece', hfold', by rw [hclose']; simp⟩

/-- A variable comes behind those that are finished, and finishes the literal in front of
it. -/
theorem Variable.Laid.foldl_add {v : Variable} {spans : List Span} (h : v.Laid spans)
    (ls : List String) (vs : List Variable) (l : String) :
    spans.foldl Draft.add ⟨ls, vs, .literal l⟩ = ⟨ls ++ [l], vs ++ [v], .literal ""⟩ := by
  cases h with
  | @mk start stop xs pipes hxs hpipes =>
    have hopen : Draft.add ⟨ls, vs, .literal l⟩ (.delimiter .variableStart start) =
        ⟨ls ++ [l], vs, .variable ⟨"", []⟩⟩ := rfl
    have hname : OpenPiece.append (String.ofList v.name.toList) (.variable ⟨"", []⟩) =
        .variable ⟨v.name, []⟩ := by
      simp [OpenPiece.append]
    rw [List.foldl_cons, List.foldl_append, List.foldl_append, hopen, hxs.foldl_add, hname]
    obtain ⟨piece, hfold, hclose⟩ :=
      @LaidPipes.foldl_add _ _ hpipes ⟨ls ++ [l], vs, .variable ⟨v.name, []⟩⟩ _ rfl
    rw [hfold]
    simp [Draft.add, Draft.enter, Draft.collapse, hclose]

/-- **The spans of a template make that template.** -/
theorem Template.Laid.ofSpans_eq {t : Template} {spans : List Span} (h : t.Laid spans) :
    Template.ofSpans spans = t := by
  have hfold : ∀ ls vs, (spans.foldl Draft.add ⟨ls, vs, .literal ""⟩).finish =
      ⟨ls ++ t.literals, vs ++ t.placeholders⟩ := by
    induction h with
    | last hxs =>
      intro ls vs
      rw [hxs.foldl_add]
      simp [OpenPiece.append, Draft.finish, Draft.collapse, OpenPiece.closePipe,
        OpenPiece.closeParameter]
    | @cons l v ls' vs' xs placeholder more hxs hplaceholder _ ih =>
      intro ls vs
      have hliteral : OpenPiece.append (String.ofList l.toList) (.literal "") = .literal l := by
        simp [OpenPiece.append]
      rw [List.foldl_append, List.foldl_append, hxs.foldl_add, hliteral, hplaceholder.foldl_add,
        ih]
      simp
  exact hfold [] []

end TextTemplate
