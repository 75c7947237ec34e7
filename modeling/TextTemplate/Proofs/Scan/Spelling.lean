import TextTemplate.Proofs.Dialect.Standard
import TextTemplate.Proofs.Scan.Runs

/-! # Ways of writing a template

A template can be written in many ways.  A character of a literal stands as it is or
behind a backslash.  Names and parameters are written in pieces, which may be quoted
besides, and there may be blanks around delimiters.  `Template.Spelled` says which texts
are ways of writing a template in the standard dialect.

Reading any of them gives the template back (`parse_of_spelled`).  A delimiter takes the
blanks behind it, even those that were meant for the next delimiter, so where reading
stands between two pieces is known up to blanks only (`BlankEq`). -/
namespace TextTemplate

open Pattern Dialect

/-! ## Spellings -/

/-- Ways of writing literal text: each character as it is or escaped. -/
inductive SpelledLiteral : List Char → List Char → Prop where
  | nil : SpelledLiteral [] []
  | raw {c : Char} {content text : List Char} : c ≠ '\\' → c ≠ '$' →
      SpelledLiteral content text → SpelledLiteral (c :: content) (c :: text)
  | escaped (c : Char) {content text : List Char} :
      SpelledLiteral content text → SpelledLiteral (c :: content) ('\\' :: c :: text)

/-- Ways of writing a name or a parameter: plain characters, escaped characters, and text
between quotation marks. -/
inductive SpelledName : List Char → List Char → Prop where
  | nil : SpelledName [] []
  | raw {c : Char} {content text : List Char} : Plain c →
      SpelledName content text → SpelledName (c :: content) (c :: text)
  | escaped (c : Char) {content text : List Char} :
      SpelledName content text → SpelledName (c :: content) ('\\' :: c :: text)
  | quoted {mark : Char} {inside content text : List Char} :
      IsMark mark → mark ∉ inside → '\\' ∉ inside →
      SpelledName content text → SpelledName (inside ++ content) (mark :: (inside ++ mark :: text))

/-- Ways of writing the parameters of a pipe. -/
inductive SpelledParameters : List String → List Char → Prop where
  | nil : SpelledParameters [] []
  | cons {before behind text more : List Char} {p : String} {ps : List String} :
      AllBlank before → AllBlank behind → SpelledName p.toList text → SpelledParameters ps more →
      SpelledParameters (p :: ps) (before ++ ':' :: (behind ++ (text ++ more)))

/-- Ways of writing the pipes of a variable. -/
inductive SpelledPipes : List Pipe → List Char → Prop where
  | nil : SpelledPipes [] []
  | cons {before behind text parameters more : List Char} {p : Pipe} {ps : List Pipe} :
      AllBlank before → AllBlank behind → SpelledName p.name.toList text →
      SpelledParameters p.parameters parameters → SpelledPipes ps more →
      SpelledPipes (p :: ps) (before ++ '|' :: (behind ++ (text ++ (parameters ++ more))))

/-- Ways of writing a placeholder. -/
inductive Variable.Spelled : Variable → List Char → Prop where
  | mk {v : Variable} {behind text pipes before : List Char} :
      AllBlank behind → SpelledName v.name.toList text → SpelledPipes v.pipes pipes →
      AllBlank before →
      Spelled v ('$' :: '{' :: (behind ++ (text ++ (pipes ++ (before ++ ['}'])))))

/-- Ways of writing a template. -/
inductive Template.Spelled : Template → List Char → Prop where
  | last {l : String} {text : List Char} : SpelledLiteral l.toList text → Spelled ⟨[l], []⟩ text
  | cons {l : String} {v : Variable} {ls : List String} {vs : List Variable}
      {text placeholder more : List Char} :
      SpelledLiteral l.toList text → v.Spelled placeholder → Spelled ⟨ls, vs⟩ more →
      Spelled ⟨l :: ls, v :: vs⟩ (text ++ (placeholder ++ more))

/-! ## Reading drafts -/

/-- From a text the standard dialect reads on to a rest, and so makes one draft of
another. -/
def Reads (D : Draft) (text : List Char) (E : Draft) (rest : List Char) : Prop :=
  ∀ pos, ∃ spans pos', Scanner.Steps .standard .blank (.ofDraft D pos text) spans
    (.ofDraft E pos' rest)

namespace Reads

theorem refl (D : Draft) (text : List Char) : Reads D text D text :=
  fun pos => ⟨[], pos, .none _⟩

theorem trans {D E F : Draft} {text more rest : List Char} (h : Reads D text E more)
    (h' : Reads E more F rest) : Reads D text F rest := by
  intro pos
  obtain ⟨xs, pos', hx⟩ := h pos
  obtain ⟨ys, pos'', hy⟩ := h' pos'
  exact ⟨xs ++ ys, pos'', hx.trans hy⟩

theorem next {D : Draft} {c : Char} {cs rest : List Char} {span : Span}
    (h : standard.next D.level c cs = .ok (span, rest)) : Reads D (c :: cs) (D.add span) rest :=
  fun _ => ⟨[span], _, .step (Scanner.step_ofDraft_iff.mpr ⟨c, cs, rest, rfl, h, rfl⟩) (.none _)⟩

/-- A text that is read to its end makes the tree of the draft. -/
theorem parse_eq {text : String} {E : Draft} (h : Reads .start text.toList E []) :
    standard.parse text = .ok E.finish := by
  obtain ⟨spans, pos, hrun⟩ := h 0
  refine Scanner.run_eq_ok_iff.mpr ⟨spans, _, hrun, Scanner.ofDraft_rest .., ?_⟩
  exact (Scanner.finish_ofDraft ..).symm

end Reads

namespace OpenPiece

theorem append_empty (piece : OpenPiece) : piece.append "" = piece := by
  cases piece <;> simp [append]

theorem append_append (piece : OpenPiece) (xs ys : List Char) :
    (piece.append (String.ofList xs)).append (String.ofList ys) =
      piece.append (String.ofList (xs ++ ys)) := by
  cases piece <;> simp [append, String.append_assoc]

@[simp] theorem level_append (piece : OpenPiece) (text : String) :
    (piece.append text).level = piece.level := by
  cases piece <;> rfl

end OpenPiece

/-- The draft with text added to its open piece. -/
def Draft.append (D : Draft) (text : List Char) : Draft :=
  { D with piece := D.piece.append (String.ofList text) }

namespace Draft

theorem append_nil (D : Draft) : D.append [] = D := by
  simp [append, OpenPiece.append_empty]

theorem append_append (D : Draft) (xs ys : List Char) :
    (D.append xs).append ys = D.append (xs ++ ys) := by
  simp [append, OpenPiece.append_append]

@[simp] theorem level_append (D : Draft) (text : List Char) : (D.append text).level = D.level :=
  OpenPiece.level_append ..

end Draft

/-- Text that is read piece by piece is added piece by piece. -/
theorem Reads.append_trans {D : Draft} {xs ys text more rest : List Char}
    (h : Reads D text (D.append xs) more)
    (h' : Reads (D.append xs) more ((D.append xs).append ys) rest) :
    Reads D text (D.append (xs ++ ys)) rest := by
  rw [← Draft.append_append]
  exact h.trans h'

/-- Literal text is read as its content. -/
theorem SpelledLiteral.reads {content text : List Char} (h : SpelledLiteral content text)
    {D : Draft} (hlevel : D.level = .literal) (rest : List Char) :
    Reads D (text ++ rest) (D.append content) rest := by
  induction h generalizing D with
  | nil =>
    rw [Draft.append_nil]
    exact .refl D rest
  | @raw c content text hescape hdollar _ ih =>
    have hnext : standard.next D.level c (text ++ rest) = .ok (.plain c, text ++ rest) := by
      rw [hlevel]
      exact next_literal hescape hdollar _
    have hc : Reads D (c :: (text ++ rest)) (D.append [c]) (text ++ rest) := .next hnext
    exact hc.append_trans (ih (by rwa [Draft.level_append]))
  | @escaped c content text _ ih =>
    have hc : Reads D ('\\' :: c :: (text ++ rest)) (D.append [c]) (text ++ rest) :=
      .next (next_escape D.level c (text ++ rest))
    exact hc.append_trans (ih (by rwa [Draft.level_append]))

/-- A name is read as its content, whatever comes behind it. -/
theorem SpelledName.reads {content text : List Char} (h : SpelledName content text) {D : Draft}
    (hlevel : D.level ≠ .literal) (rest : List Char) :
    Reads D (text ++ rest) (D.append content) rest := by
  induction h generalizing D with
  | nil =>
    rw [Draft.append_nil]
    exact .refl D rest
  | @raw c content text hc _ ih =>
    have hread : Reads D (c :: (text ++ rest)) (D.append [c]) (text ++ rest) :=
      .next (next_plain hlevel hc (text ++ rest))
    exact hread.append_trans (ih (by rwa [Draft.level_append]))
  | @escaped c content text _ ih =>
    have hc : Reads D ('\\' :: c :: (text ++ rest)) (D.append [c]) (text ++ rest) :=
      .next (next_escape D.level c (text ++ rest))
    exact hc.append_trans (ih (by rwa [Draft.level_append]))
  | @quoted mark inside content text hmark hm hb _ ih =>
    have hread : Reads D (mark :: (inside ++ mark :: (text ++ rest))) (D.append inside)
        (text ++ rest) :=
      .next (next_quoted hlevel hmark hm hb)
    have htext : (mark :: (inside ++ mark :: text)) ++ rest =
        mark :: (inside ++ mark :: (text ++ rest)) := by simp
    rw [htext]
    exact hread.append_trans (ih (by rwa [Draft.level_append]))

/-! ## Blanks between pieces -/

/-- Two texts differ by blanks at the front only. -/
def BlankEq (xs ys : List Char) : Prop := dropBlanks xs = dropBlanks ys

theorem blankEq_dropBlanks (text : List Char) : BlankEq (dropBlanks text) text :=
  dropBlanks_of_avoids (avoids_dropBlanks text)

/-- A text that is a sign but for blanks is blanks and the sign. -/
theorem exists_of_blankEq {text more : List Char} {δ : Delimiter}
    (h : BlankEq text (δ.sign :: more)) :
    ∃ before, AllBlank before ∧ text = before ++ δ.sign :: more := by
  refine ⟨text.takeWhile blank.contains, allBlank_takeWhile text, ?_⟩
  rw [← dropBlanks_of_avoids (avoids_cons.mpr (blank_sign δ)), ← h,
    List.takeWhile_append_dropWhile]

namespace Reads

theorem delimiter {D : Draft} {δ : Delimiter} {taken rest : List Char} (h : δ.Spelled taken rest)
    (hlevel : δ ∈ D.level.delimiters) : Reads D (taken ++ rest) (D.enter δ) rest := by
  obtain ⟨before, behind, -, htaken⟩ := exists_of_spelled h
  obtain ⟨c, cs, htext⟩ := List.exists_cons_of_ne_nil (by simp [htaken] : taken ++ rest ≠ [])
  rw [htext]
  exact next (next_delimiter h hlevel htext.symm)

/-- A separator is read with the blanks around it. -/
theorem separator {D : Draft} {δ : Delimiter} (hδ : δ = .pipeStart ∨ δ = .parameterStart)
    (hlevel : δ ∈ D.level.delimiters) {text more : List Char} (h : BlankEq text (δ.sign :: more)) :
    Reads D text (D.enter δ) (dropBlanks more) := by
  obtain ⟨before, hbefore, rfl⟩ := exists_of_blankEq h
  have hspelled : δ.Spelled (before ++ δ.sign :: more.takeWhile blank.contains) (dropBlanks more) :=
    .separator hδ hbefore (allBlank_takeWhile more) (avoids_dropBlanks more)
  have hread := delimiter hspelled hlevel
  rwa [List.append_assoc, List.cons_append, List.takeWhile_append_dropWhile] at hread

/-- The start of a placeholder is read with the blanks behind it. -/
theorem variableStart (ls : List String) (vs : List Variable) (l : String) (more : List Char) :
    Reads ⟨ls, vs, .literal l⟩ ('$' :: '{' :: more) ⟨ls ++ [l], vs, .variable ⟨"", []⟩⟩
      (dropBlanks more) := by
  have hspelled : Delimiter.variableStart.Spelled ('$' :: '{' :: more.takeWhile blank.contains)
      (dropBlanks more) :=
    .variableStart (allBlank_takeWhile more) (avoids_dropBlanks more)
  have hread := @delimiter ⟨ls, vs, .literal l⟩ _ _ _ hspelled List.mem_cons_self
  rwa [List.cons_append, List.cons_append, List.takeWhile_append_dropWhile] at hread

/-- The end of a placeholder is read with the blanks in front of it. -/
theorem variableEnd {D : Draft} (hlevel : .variableEnd ∈ D.level.delimiters)
    {text more : List Char} (h : BlankEq text ('}' :: more)) : Reads D text D.collapse more := by
  obtain ⟨before, hbefore, rfl⟩ := @exists_of_blankEq _ _ .variableEnd h
  have hspelled : Delimiter.variableEnd.Spelled (before ++ ['}']) more := .variableEnd hbefore
  have hread := delimiter hspelled hlevel
  rwa [List.append_assoc] at hread

end Reads

/-! ## Pieces of a placeholder -/

/-- What a name is written as does not start with a blank. -/
theorem SpelledName.avoids {content text : List Char} (h : SpelledName content text) :
    Avoids blank text := by
  cases h with
  | nil => exact fun _ hc => by cases hc
  | raw hc => exact avoids_cons.mpr hc.blank
  | escaped => exact avoids_cons.mpr rfl
  | quoted hmark => exact avoids_cons.mpr (by rcases hmark with rfl | rfl <;> rfl)

/-- A name is read where blanks have been passed over.  If nothing is written for it, the
blanks that are passed over are those of what comes next. -/
theorem SpelledName.reads_dropBlanks {content text : List Char} (h : SpelledName content text)
    {D : Draft} (hlevel : D.level ≠ .literal) (rest : List Char) :
    ∃ rest', Reads D (dropBlanks (text ++ rest)) (D.append content) rest' ∧ BlankEq rest' rest := by
  by_cases htext : text = []
  · subst htext
    obtain rfl : content = [] := by cases h; rfl
    rw [Draft.append_nil, List.nil_append]
    exact ⟨dropBlanks rest, .refl D _, blankEq_dropBlanks rest⟩
  · have hfront : Avoids blank (text ++ rest) := by
      obtain ⟨c, cs, rfl⟩ := List.exists_cons_of_ne_nil htext
      exact avoids_cons.mpr (avoids_cons.mp h.avoids)
    rw [dropBlanks_of_avoids hfront]
    exact ⟨rest, h.reads hlevel rest, rfl⟩

/-- A separator is read with the name behind it. -/
theorem Reads.separator_name {D : Draft} {δ : Delimiter}
    (hδ : δ = .pipeStart ∨ δ = .parameterStart) (hlevel : δ ∈ D.level.delimiters)
    (henter : (D.enter δ).level ≠ .literal) {before behind content name text more : List Char}
    (hbefore : AllBlank before) (hbehind : AllBlank behind) (hname : SpelledName content name)
    (htext : BlankEq text (before ++ δ.sign :: (behind ++ (name ++ more)))) :
    ∃ rest, Reads D text ((D.enter δ).append content) rest ∧ BlankEq rest more := by
  have hsign : BlankEq text (δ.sign :: (behind ++ (name ++ more))) :=
    htext.trans (dropBlanks_append hbefore _)
  have hopen := Reads.separator hδ hlevel hsign
  rw [dropBlanks_append hbehind] at hopen
  obtain ⟨rest, hread, hrest⟩ := hname.reads_dropBlanks henter more
  exact ⟨rest, hopen.trans hread, hrest⟩

namespace Draft

/-- Where a pipe can be closed, parameters are looked for. -/
theorem parameterStart_mem {D : Draft} {v : Variable} {p : Pipe}
    (h : D.piece.closeParameter = .pipe v p) : .parameterStart ∈ D.level.delimiters := by
  obtain ⟨ls, vs, piece⟩ := D
  cases piece <;> simp_all [OpenPiece.closeParameter, level, OpenPiece.level, Level.delimiters]

/-- Where a variable can be closed, pipes and the end are looked for. -/
theorem pipeStart_mem {D : Draft} {v : Variable} (h : D.piece.closePipe = .variable v) :
    .pipeStart ∈ D.level.delimiters ∧ .variableEnd ∈ D.level.delimiters := by
  obtain ⟨ls, vs, piece⟩ := D
  cases piece <;> simp_all [OpenPiece.closePipe, OpenPiece.closeParameter, level, OpenPiece.level,
    Level.delimiters]

end Draft

/-- Parameters are read as they are written, and come behind those of the open pipe. -/
theorem SpelledParameters.reads {ps : List String} {text : List Char}
    (h : SpelledParameters ps text) {D : Draft} {v : Variable} {p : Pipe}
    (hD : D.piece.closeParameter = .pipe v p) {text' rest : List Char}
    (htext : BlankEq text' (text ++ rest)) :
    ∃ piece rest', Reads D text' { D with piece := piece } rest' ∧ BlankEq rest' rest ∧
      piece.closeParameter = .pipe v { p with parameters := p.parameters ++ ps } := by
  induction h generalizing D p text' with
  | nil => exact ⟨D.piece, text', .refl D text', htext, by rw [hD, List.append_nil]⟩
  | @cons before behind name more param ps hbefore hbehind hname _ ih =>
    have henter : D.enter .parameterStart = { D with piece := .parameter v p "" } := by
      simp [Draft.enter, hD]
    have hfront : BlankEq text' (before ++ Delimiter.parameterStart.sign ::
        (behind ++ (name ++ (more ++ rest)))) := by
      simpa [Delimiter.sign] using htext
    obtain ⟨rest₁, hread, hrest₁⟩ := Reads.separator_name (.inr rfl) (Draft.parameterStart_mem hD)
      (by simp [henter, Draft.level, OpenPiece.level]) hbefore hbehind hname hfront
    have hpiece : (D.enter .parameterStart).append param.toList =
        { D with piece := .parameter v p param } := by
      simp [henter, Draft.append, OpenPiece.append]
    rw [hpiece] at hread
    obtain ⟨piece, rest', hmore, hrest', hclose⟩ :=
      @ih { D with piece := .parameter v p param } _ rfl rest₁ hrest₁
    exact ⟨piece, rest', hread.trans hmore, hrest', by rw [hclose]; simp⟩

/-- Pipes are read as they are written, and come behind those of the open variable. -/
theorem SpelledPipes.reads {ps : List Pipe} {text : List Char} (h : SpelledPipes ps text)
    {D : Draft} {v : Variable} (hD : D.piece.closePipe = .variable v) {text' rest : List Char}
    (htext : BlankEq text' (text ++ rest)) :
    ∃ piece rest', Reads D text' { D with piece := piece } rest' ∧ BlankEq rest' rest ∧
      piece.closePipe = .variable { v with pipes := v.pipes ++ ps } := by
  induction h generalizing D v text' with
  | nil => exact ⟨D.piece, text', .refl D text', htext, by rw [hD, List.append_nil]⟩
  | @cons before behind name parameters more p ps hbefore hbehind hname hparameters _ ih =>
    have henter : D.enter .pipeStart = { D with piece := .pipe v ⟨"", []⟩ } := by
      simp [Draft.enter, hD]
    have hfront : BlankEq text' (before ++ Delimiter.pipeStart.sign ::
        (behind ++ (name ++ (parameters ++ (more ++ rest))))) := by
      simpa [Delimiter.sign] using htext
    obtain ⟨rest₁, hread, hrest₁⟩ := Reads.separator_name (.inl rfl) (Draft.pipeStart_mem hD).1
      (by simp [henter, Draft.level, OpenPiece.level]) hbefore hbehind hname hfront
    have hpiece : (D.enter .pipeStart).append p.name.toList =
        { D with piece := .pipe v ⟨p.name, []⟩ } := by
      simp [henter, Draft.append, OpenPiece.append]
    rw [hpiece] at hread
    obtain ⟨piece₁, rest₂, hparams, hrest₂, hclose₁⟩ :=
      @SpelledParameters.reads _ _ hparameters { D with piece := .pipe v ⟨p.name, []⟩ } _ _ rfl _ _
        hrest₁
    have hpipe : piece₁.closePipe = .variable { v with pipes := v.pipes ++ [p] } := by
      simp [OpenPiece.closePipe, hclose₁]
    obtain ⟨piece, rest', hmore, hrest', hclose⟩ :=
      @ih { D with piece := piece₁ } _ hpipe rest₂ hrest₂
    exact ⟨piece, rest', (hread.trans hparams).trans hmore, hrest', by rw [hclose]; simp⟩

/-- A placeholder is read as its variable, and finishes the literal in front of it. -/
theorem Variable.Spelled.reads {v : Variable} {text : List Char} (h : v.Spelled text)
    (ls : List String) (vs : List Variable) (l : String) (rest : List Char) :
    Reads ⟨ls, vs, .literal l⟩ (text ++ rest) ⟨ls ++ [l], vs ++ [v], .literal ""⟩ rest := by
  cases h with
  | @mk behind name pipes before hbehind hname hpipes hbefore =>
    have htext : '$' :: '{' :: (behind ++ (name ++ (pipes ++ (before ++ ['}'])))) ++ rest =
        '$' :: '{' :: (behind ++ (name ++ (pipes ++ (before ++ '}' :: rest)))) := by simp
    have hopen := Reads.variableStart ls vs l
      (behind ++ (name ++ (pipes ++ (before ++ '}' :: rest))))
    rw [dropBlanks_append hbehind] at hopen
    obtain ⟨rest₁, hread, hrest₁⟩ := @SpelledName.reads_dropBlanks _ _ hname
      ⟨ls ++ [l], vs, .variable ⟨"", []⟩⟩ nofun (pipes ++ (before ++ '}' :: rest))
    have hpiece : Draft.append ⟨ls ++ [l], vs, .variable ⟨"", []⟩⟩ v.name.toList =
        ⟨ls ++ [l], vs, .variable ⟨v.name, []⟩⟩ := by
      simp [Draft.append, OpenPiece.append]
    rw [hpiece] at hread
    obtain ⟨piece, rest₂, hpiped, hrest₂, hclose⟩ := @SpelledPipes.reads _ _ hpipes
      ⟨ls ++ [l], vs, .variable ⟨v.name, []⟩⟩ _ rfl _ _ hrest₁
    have hcloses : piece.closePipe = .variable v := hclose
    have hend : BlankEq rest₂ ('}' :: rest) := hrest₂.trans (dropBlanks_append hbefore _)
    have hfinal :=
      @Reads.variableEnd ⟨ls ++ [l], vs, piece⟩ (Draft.pipeStart_mem hcloses).2 _ _ hend
    have hcollapse : Draft.collapse ⟨ls ++ [l], vs, piece⟩ =
        ⟨ls ++ [l], vs ++ [v], .literal ""⟩ := by
      simp [Draft.collapse, hcloses]
    rw [hcollapse] at hfinal
    rw [htext]
    exact ((hopen.trans hread).trans hpiped).trans hfinal

/-- A template is read from the start of a literal. -/
theorem Template.Spelled.reads {t : Template} {text : List Char} (h : t.Spelled text)
    (ls : List String) (vs : List Variable) :
    ∃ E, Reads ⟨ls, vs, .literal ""⟩ text E [] ∧
      E.finish = ⟨ls ++ t.literals, vs ++ t.placeholders⟩ := by
  induction h generalizing ls vs with
  | @last l text htext =>
    have hread := @SpelledLiteral.reads _ _ htext ⟨ls, vs, .literal ""⟩ rfl []
    rw [List.append_nil] at hread
    refine ⟨_, hread, ?_⟩
    simp [Draft.append, OpenPiece.append, Draft.finish, Draft.collapse, OpenPiece.closePipe,
      OpenPiece.closeParameter]
  | @cons l v ls' vs' text placeholder more htext hplaceholder _ ih =>
    have hread := @SpelledLiteral.reads _ _ htext ⟨ls, vs, .literal ""⟩ rfl (placeholder ++ more)
    have hl : Draft.append ⟨ls, vs, .literal ""⟩ l.toList = ⟨ls, vs, .literal l⟩ := by
      simp [Draft.append, OpenPiece.append]
    rw [hl] at hread
    obtain ⟨E, hmore, hfinish⟩ := ih (ls ++ [l]) (vs ++ [v])
    exact ⟨E, (hread.trans (hplaceholder.reads ls vs l more)).trans hmore, by rw [hfinish]; simp⟩

/-! ## Templates -/

theorem exists_spelledLiteral (content : List Char) : ∃ text, SpelledLiteral content text := by
  induction content with
  | nil => exact ⟨[], .nil⟩
  | cons c content ih =>
    obtain ⟨text, htext⟩ := ih
    exact ⟨_, .escaped c htext⟩

theorem exists_spelledName (content : List Char) : ∃ text, SpelledName content text := by
  induction content with
  | nil => exact ⟨[], .nil⟩
  | cons c content ih =>
    obtain ⟨text, htext⟩ := ih
    exact ⟨_, .escaped c htext⟩

theorem exists_spelledParameters (ps : List String) : ∃ text, SpelledParameters ps text := by
  induction ps with
  | nil => exact ⟨[], .nil⟩
  | cons p ps ih =>
    obtain ⟨more, hmore⟩ := ih
    obtain ⟨text, htext⟩ := exists_spelledName p.toList
    exact ⟨_, .cons (List.forall_mem_nil _) (List.forall_mem_nil _) htext hmore⟩

theorem exists_spelledPipes (ps : List Pipe) : ∃ text, SpelledPipes ps text := by
  induction ps with
  | nil => exact ⟨[], .nil⟩
  | cons p ps ih =>
    obtain ⟨more, hmore⟩ := ih
    obtain ⟨text, htext⟩ := exists_spelledName p.name.toList
    obtain ⟨parameters, hparameters⟩ := exists_spelledParameters p.parameters
    exact ⟨_, .cons (List.forall_mem_nil _) (List.forall_mem_nil _) htext hparameters hmore⟩

theorem Variable.exists_spelled (v : Variable) : ∃ text, v.Spelled text := by
  obtain ⟨text, htext⟩ := exists_spelledName v.name.toList
  obtain ⟨pipes, hpipes⟩ := exists_spelledPipes v.pipes
  exact ⟨_, .mk (List.forall_mem_nil _) htext hpipes (List.forall_mem_nil _)⟩

/-- **The templates that can be written are the well-formed ones.** -/
theorem Template.wellFormed_iff_spelled {t : Template} :
    t.WellFormed ↔ ∃ text, t.Spelled text := by
  constructor
  · obtain ⟨ls, vs⟩ := t
    intro h
    induction vs generalizing ls with
    | nil =>
      obtain ⟨l, rfl⟩ := List.length_eq_one_iff.mp h
      obtain ⟨text, htext⟩ := exists_spelledLiteral l.toList
      exact ⟨_, .last htext⟩
    | cons v vs ih =>
      cases ls with
      | nil => cases h
      | cons l ls =>
        obtain ⟨more, hmore⟩ := ih ls (Nat.succ.inj h)
        obtain ⟨text, htext⟩ := exists_spelledLiteral l.toList
        obtain ⟨placeholder, hplaceholder⟩ := v.exists_spelled
        exact ⟨_, .cons htext hplaceholder hmore⟩
  · rintro ⟨text, h⟩
    induction h with
    | last => rfl
    | cons _ _ _ ih => exact congrArg Nat.succ ih

/-- **Every way of writing a template is read as that template.**  There is one for each
well-formed template, and for no other. -/
theorem Dialect.parse_of_spelled (t : Template) :
    (t.WellFormed ↔ ∃ text : String, t.Spelled text.toList) ∧
      ∀ text : String, t.Spelled text.toList → standard.parse text = .ok t := by
  refine ⟨t.wellFormed_iff_spelled.trans ⟨?_, ?_⟩, fun text h => ?_⟩
  · rintro ⟨text, h⟩
    exact ⟨String.ofList text, by rwa [String.toList_ofList]⟩
  · rintro ⟨text, h⟩
    exact ⟨text.toList, h⟩
  · obtain ⟨E, hread, hfinish⟩ := h.reads [] []
    rw [Reads.parse_eq hread, hfinish]
    rfl

/-- Escaped and quoted characters, an empty pipe name and an empty parameter, with blanks
at some of the places where they may stand. -/
theorem Dialect.parse_of_spelled_mixed :
    standard.parse "a\\$\\\\$\x7b x\\ y | :'|' : |\"p\" \x7d" =
      .ok ⟨["a$\\", ""], [⟨"x y", [⟨"", ["|", ""]⟩, ⟨"p", []⟩]⟩]⟩ := by
  have hblank : AllBlank [' '] := List.forall_mem_singleton.mpr rfl
  have hnone : AllBlank [] := List.forall_mem_nil _
  have hliteral : SpelledLiteral "a$\\".toList "a\\$\\\\".toList :=
    .raw (by decide) (by decide) (.escaped '$' (.escaped '\\' .nil))
  have hname : SpelledName "x y".toList "x\\ y".toList :=
    .raw (by decide) (.escaped ' ' (.raw (by decide) .nil))
  have hbar : SpelledName "|".toList "'|'".toList :=
    @SpelledName.quoted '\'' ['|'] [] [] (by decide) (by decide) (by decide) .nil
  have hp : SpelledName "p".toList "\"p\"".toList :=
    @SpelledName.quoted '"' ['p'] [] [] (by decide) (by decide) (by decide) .nil
  have hempty : SpelledParameters [""] " : ".toList :=
    @SpelledParameters.cons [' '] [' '] [] [] "" [] hblank hblank .nil .nil
  have hparameters : SpelledParameters ["|", ""] ":'|' : ".toList :=
    @SpelledParameters.cons [] [] "'|'".toList " : ".toList "|" [""] hnone hnone hbar hempty
  have hlast : SpelledPipes [⟨"p", []⟩] "|\"p\"".toList :=
    @SpelledPipes.cons [] [] "\"p\"".toList [] [] ⟨"p", []⟩ [] hnone hnone hp .nil .nil
  have hpipes : SpelledPipes [⟨"", ["|", ""]⟩, ⟨"p", []⟩] " | :'|' : |\"p\"".toList :=
    @SpelledPipes.cons [' '] [' '] [] ":'|' : ".toList "|\"p\"".toList ⟨"", ["|", ""]⟩
      [⟨"p", []⟩] hblank hblank .nil hparameters hlast
  have hvariable : Variable.Spelled ⟨"x y", [⟨"", ["|", ""]⟩, ⟨"p", []⟩]⟩
      "$\x7b x\\ y | :'|' : |\"p\" \x7d".toList :=
    @Variable.Spelled.mk ⟨"x y", _⟩ [' '] "x\\ y".toList " | :'|' : |\"p\"".toList [' ']
      hblank hname hpipes hblank
  have hspelled : Template.Spelled ⟨["a$\\", ""], [⟨"x y", [⟨"", ["|", ""]⟩, ⟨"p", []⟩]⟩]⟩
      "a\\$\\\\$\x7b x\\ y | :'|' : |\"p\" \x7d".toList :=
    @Template.Spelled.cons _ _ [""] [] "a\\$\\\\".toList
      "$\x7b x\\ y | :'|' : |\"p\" \x7d".toList [] hliteral hvariable
      (@Template.Spelled.last "" [] .nil)
  exact (parse_of_spelled _).2 _ hspelled

end TextTemplate
