import TextTemplate.Proofs.Dialect.Anchoring
import TextTemplate.Proofs.Quoting.Standard
import TextTemplate.Proofs.Scan.Layout
import TextTemplate.Proofs.Scan.Prefixes

/-! # Dialects with fixed signs

In the simplest dialects the escape and each delimiter is one fixed text.  Such signs can
be told from each other if the escape and any delimiter are apart, and so are any two
delimiters that can be expected at one place (`Signs`).  Then a template can be written
with every character escaped (`Signs.write`), and whatever the ways of quoting are, a
dialect that uses the signs reads that template back (`Dialect.parse_write`). -/
namespace TextTemplate

/-- Neither text is a prefix of the other. -/
def Apart (xs ys : List Char) : Prop := ¬ xs <+: ys ∧ ¬ ys <+: xs

instance (xs ys : List Char) : Decidable (Apart xs ys) := inferInstanceAs (Decidable (_ ∧ _))

namespace Apart

variable {xs ys : List Char} (h : Apart xs ys)
include h

theorem ne_nil : xs ≠ [] := fun hnil => h.1 (hnil ▸ List.nil_prefix)

/-- Where one of the texts stands, the other does not. -/
theorem not_prefix_append (zs : List Char) : ¬ xs <+: ys ++ zs := by
  intro hxs
  rcases List.prefix_or_prefix_of_prefix hxs (List.prefix_append ys zs) with hprefix | hprefix
  · exact h.1 hprefix
  · exact h.2 hprefix

end Apart

/-! ## Matchers of fixed texts -/

/-- The matcher finds the text where the text at hand starts with it, and nothing else. -/
def Matcher.Exactly (m : Matcher) (sign : List Char) : Prop :=
  ∀ text, m.find text = if sign <+: text then some ⟨0, Text.width sign⟩ else none

namespace Matcher.Exactly

variable {m : Matcher} {sign : List Char} (h : m.Exactly sign)
include h

theorem width_append (rest : List Char) : m.width (sign ++ rest) = Text.width sign := by
  rw [width, h, if_pos (List.prefix_append sign rest)]

theorem width_eq_zero {text : List Char} (hnot : ¬ sign <+: text) : m.width text = 0 := by
  rw [width, h, if_neg hnot]

end Matcher.Exactly

/-- A pattern that is one fixed text finds that text. -/
theorem Matcher.exactly_literal (source : String) (sign : List Char) (groups : Nat) :
    (Matcher.ofPattern ⟨source, Pattern.atStart (.literal sign), groups⟩).Exactly sign := by
  intro text
  have houtcomes : Pattern.outcomes (.literal sign) none [.start text] =
      ((Pattern.Cursor.start text).afterText sign).toList := by
    simp only [Pattern.outcomes]
    cases hafter : (Pattern.Cursor.start text).afterText sign <;> simp [hafter]
  simp only [Matcher.ofPattern, Pattern.find?_atStart, houtcomes]
  by_cases hsign : sign <+: text
  · obtain ⟨rest, rfl⟩ := hsign
    obtain ⟨e, he, -, hoffset⟩ := @Pattern.exists_afterText sign rest (.start (sign ++ rest)) rfl
    have htake : (sign ++ rest).take e.offset = sign := by
      rw [hoffset, show (Pattern.Cursor.start (sign ++ rest)).offset = 0 from rfl, Nat.zero_add,
        List.take_left]
    rw [he, if_pos (List.prefix_append sign rest)]
    simp [htake, Pattern.Match.length]
  · rw [Pattern.afterText_eq_none hsign, if_neg hsign]
    rfl

/-! ## Signs -/

/-- An escape and delimiters that can be told from each other.  The start of a placeholder
is expected where no other delimiter is, so it may look like one of them. -/
structure Signs where
  escape : List Char
  sign : Delimiter → List Char
  escape_apart : ∀ δ, Apart escape (sign δ)
  sign_apart : ∀ δ ε, δ ≠ .variableStart → ε ≠ .variableStart → δ ≠ ε → Apart (sign δ) (sign ε)

/-- The dialect recognises exactly the signs; its ways of quoting may be any. -/
def Dialect.Uses (d : Dialect) (S : Signs) : Prop :=
  d.escape.Exactly S.escape ∧ ∀ δ, (d.matcher δ).Exactly (S.sign δ)

namespace Signs

variable (S : Signs)

/-- A text with every character behind an escape. -/
def text (content : List Char) : List Char := content.flatMap fun c => S.escape ++ [c]

/-- A parameter behind its sign. -/
def parameter (p : String) : List Char := S.sign .parameterStart ++ S.text p.toList

/-- A pipe behind its sign, with its parameters. -/
def pipe (p : Pipe) : List Char :=
  S.sign .pipeStart ++ (S.text p.name.toList ++ p.parameters.flatMap S.parameter)

/-- A variable with its pipes, between the signs of a placeholder. -/
def placeholder (v : Variable) : List Char :=
  S.sign .variableStart ++ (S.text v.name.toList ++ (v.pipes.flatMap S.pipe ++ S.sign .variableEnd))

/-- A part of a template. -/
def part : Part → List Char
  | .literal l => S.text l.toList
  | .variable v => S.placeholder v

/-- A template with every character behind an escape. -/
def write (t : Template) : List Char := t.parts.flatMap S.part

/-! ## What is written is taken -/

/-- The spans that are written with the signs. -/
inductive Owns : Span → Prop where
  | escaped (c : Char) : Owns (.escaped S.escape (some c))
  | delimiter (δ : Delimiter) : Owns (.delimiter δ (S.sign δ))

variable {S} {d : Dialect} (hd : d.Uses S) {level : Level}
include hd

/-- An escape is taken with the character behind it. -/
theorem takes_escaped (c : Char) (rest : List Char) :
    d.Takes level (S.escape ++ c :: rest) [.escaped S.escape (some c)] rest := by
  have hne : S.escape ≠ [] := (S.escape_apart .variableStart).ne_nil
  obtain ⟨e, es, hescape⟩ := List.exists_cons_of_ne_nil hne
  have hwidth := hd.1.width_append (c :: rest)
  have htext : e :: (es ++ c :: rest) = S.escape ++ c :: rest := by rw [hescape]; rfl
  rw [← htext] at hwidth ⊢
  exact .single (Dialect.next_eq_escaped htext hne hwidth)

/-- A delimiter that is expected is taken, because the other signs are apart from it. -/
theorem takes_delimiter {δ : Delimiter} (hδ : δ ∈ level.delimiters) (rest : List Char) :
    d.Takes level (S.sign δ ++ rest) [.delimiter δ (S.sign δ)] rest := by
  have hapart : Apart (S.sign δ) S.escape := (S.escape_apart δ).symm
  have hne : S.sign δ ≠ [] := hapart.ne_nil
  have hwidth : (d.matcher δ).width (S.sign δ ++ rest) = Text.width (S.sign δ) :=
    (hd.2 δ).width_append rest
  have hescape : d.escape.width (S.sign δ ++ rest) = 0 :=
    hd.1.width_eq_zero ((S.escape_apart δ).not_prefix_append rest)
  have hfound : d.delimiterAt level (S.sign δ ++ rest) = some δ := by
    refine Dialect.delimiterAt_eq_some hδ (hwidth ▸ Text.width_pos hne) fun ε hε hneε => ?_
    obtain ⟨hεstart, hδstart⟩ := Level.ne_variableStart_of_ne hδ hε hneε
    have hsigns : Apart (S.sign ε) (S.sign δ) := S.sign_apart ε δ hεstart hδstart hneε
    exact (hd.2 ε).width_eq_zero (hsigns.not_prefix_append rest)
  obtain ⟨c, cs, hsign⟩ := List.exists_cons_of_ne_nil hne
  have htext : c :: (cs ++ rest) = S.sign δ ++ rest := by rw [hsign]; rfl
  rw [← htext] at hwidth hescape hfound ⊢
  exact .single (Dialect.next_eq_delimiter hescape hfound htext hwidth)

/-- **Spans that are written with the signs are taken**, if they fit one behind the
other. -/
theorem takes_of_owns {spans : List Span} (hown : ∀ span ∈ spans, S.Owns span)
    (hfit : Span.FitFrom level spans) : d.Takes level (textOf spans) spans [] := by
  induction spans generalizing level with
  | nil => exact .none level []
  | cons span spans ih =>
    rw [List.forall_mem_cons] at hown
    obtain ⟨hspan, hmore⟩ := hfit
    have hbehind : d.Takes (level.after span) (textOf spans) spans [] := ih hown.2 hmore
    obtain ⟨howns, -⟩ := hown
    cases howns with
    | escaped c =>
      have hfront := @takes_escaped S d hd level c (textOf spans)
      have htext : textOf (.escaped S.escape (some c) :: spans) =
          S.escape ++ c :: textOf spans := by
        simp [textOf, Span.text]
      rw [htext]
      exact hfront.trans hbehind
    | delimiter δ => exact (takes_delimiter hd hspan (textOf spans)).trans hbehind

omit hd

/-! ## What is written is laid out -/

variable (S) in
/-- The text is written with the signs as the spans. -/
def Writes (text : List Char) (spans : List Span) : Prop :=
  textOf spans = text ∧ ∀ span ∈ spans, S.Owns span

theorem writes_nil : S.Writes [] [] := ⟨rfl, List.forall_mem_nil _⟩

theorem Writes.append {text more : List Char} {xs ys : List Span} (h : S.Writes text xs)
    (h' : S.Writes more ys) : S.Writes (text ++ more) (xs ++ ys) := by
  refine ⟨?_, fun span hspan => ?_⟩
  · rw [← h.1, ← h'.1, textOf, List.flatMap_append]
    rfl
  · rcases List.mem_append.mp hspan with hx | hy
    · exact h.2 span hx
    · exact h'.2 span hy

theorem writes_escaped (c : Char) :
    S.Writes (S.escape ++ [c]) [.escaped S.escape (some c)] := by
  refine ⟨by simp [textOf, Span.text], ?_⟩
  exact List.forall_mem_singleton.mpr (.escaped c)

theorem writes_delimiter (δ : Delimiter) : S.Writes (S.sign δ) [.delimiter δ (S.sign δ)] := by
  refine ⟨by simp [textOf, Span.text], ?_⟩
  exact List.forall_mem_singleton.mpr (.delimiter δ)

variable (S)

theorem exists_laidText (content : List Char) :
    ∃ spans, LaidText content spans ∧ S.Writes (S.text content) spans := by
  induction content with
  | nil => exact ⟨[], ⟨List.forall_mem_nil _, rfl⟩, writes_nil⟩
  | cons c content ih =>
    obtain ⟨spans, hlaid, hwrites⟩ := ih
    have hc : LaidText [c] [.escaped S.escape (some c)] := by
      refine ⟨?_, rfl⟩
      exact List.forall_mem_singleton.mpr trivial
    exact ⟨_, hc.append hlaid, (writes_escaped c).append hwrites⟩

theorem exists_laidParameters (ps : List String) :
    ∃ spans, LaidParameters ps spans ∧ S.Writes (ps.flatMap S.parameter) spans := by
  induction ps with
  | nil => exact ⟨[], .nil, writes_nil⟩
  | cons p ps ih =>
    obtain ⟨more, hlaid, hmore⟩ := ih
    obtain ⟨xs, hxs, hp⟩ := S.exists_laidText p.toList
    have htext : (p :: ps).flatMap S.parameter =
        S.sign .parameterStart ++ (S.text p.toList ++ ps.flatMap S.parameter) := by
      simp [parameter]
    have hwrites := (writes_delimiter .parameterStart).append (hp.append hmore)
    rw [← htext] at hwrites
    exact ⟨_, .cons hxs hlaid, hwrites⟩

theorem exists_laidPipes (ps : List Pipe) :
    ∃ spans, LaidPipes ps spans ∧ S.Writes (ps.flatMap S.pipe) spans := by
  induction ps with
  | nil => exact ⟨[], .nil, writes_nil⟩
  | cons p ps ih =>
    obtain ⟨more, hlaid, hmore⟩ := ih
    obtain ⟨xs, hxs, hname⟩ := S.exists_laidText p.name.toList
    obtain ⟨parameters, hparameters, hp⟩ := S.exists_laidParameters p.parameters
    have htext : (p :: ps).flatMap S.pipe = S.sign .pipeStart ++
        (S.text p.name.toList ++ (p.parameters.flatMap S.parameter ++ ps.flatMap S.pipe)) := by
      simp [pipe]
    have hwrites := (writes_delimiter .pipeStart).append (hname.append (hp.append hmore))
    rw [← htext] at hwrites
    exact ⟨_, .cons hxs hparameters hlaid, hwrites⟩

theorem exists_laidVariable (v : Variable) :
    ∃ spans, v.Laid spans ∧ S.Writes (S.placeholder v) spans := by
  obtain ⟨xs, hxs, hname⟩ := S.exists_laidText v.name.toList
  obtain ⟨pipes, hpipes, hp⟩ := S.exists_laidPipes v.pipes
  have hwrites := (writes_delimiter .variableStart).append
    (hname.append (hp.append (writes_delimiter .variableEnd)))
  exact ⟨_, .mk hxs hpipes, hwrites⟩

/-- **A well-formed template is written as spans that lay it out.** -/
theorem exists_laidTemplate {t : Template} (ht : t.WellFormed) :
    ∃ spans, t.Laid spans ∧ S.Writes (S.write t) spans := by
  obtain ⟨ls, vs⟩ := t
  induction vs generalizing ls with
  | nil =>
    obtain ⟨l, rfl⟩ := List.length_eq_one_iff.mp ht
    obtain ⟨xs, hxs, hl⟩ := S.exists_laidText l.toList
    refine ⟨xs, .last hxs, ?_⟩
    simpa [write, Template.parts, Template.interleave, part] using hl
  | cons v vs ih =>
    obtain ⟨l, ks, rfl⟩ := List.exists_cons_of_length_eq_add_one ht
    have hks : ks.length = vs.length + 1 := Nat.succ.inj ht
    obtain ⟨k, ls, rfl⟩ := List.exists_cons_of_length_eq_add_one hks
    obtain ⟨more, hmore, hwrites⟩ := ih (k :: ls) hks
    obtain ⟨xs, hxs, hl⟩ := S.exists_laidText l.toList
    obtain ⟨placeholder, hplaceholder, hv⟩ := S.exists_laidVariable v
    have hparts : S.write ⟨l :: k :: ls, v :: vs⟩ =
        S.text l.toList ++ (S.placeholder v ++ S.write ⟨k :: ls, vs⟩) := by
      simp [write, Template.parts, Template.interleave, part]
    refine ⟨_, .cons hxs hplaceholder hmore, ?_⟩
    rw [hparts]
    exact hl.append (hv.append hwrites)

end Signs

/-! ## Templates -/

/-- **What is written with fixed signs is read back**, whatever the ways of quoting are: they
are not asked, because every character of the text belongs to an escape or a sign. -/
theorem Dialect.parse_write (S : Signs) (d : Dialect) (hd : d.Uses S) (t : Template)
    (ht : t.WellFormed) : d.parse (String.ofList (S.write t)) = .ok t := by
  obtain ⟨spans, hlaid, htext, howns⟩ := S.exists_laidTemplate ht
  have htakes : d.Takes .literal (String.ofList (S.write t)).toList spans [] := by
    rw [String.toList_ofList, ← htext]
    exact Signs.takes_of_owns hd howns hlaid.fitFrom
  rw [htakes.parse_eq, hlaid.ofSpans_eq]

/-- Signs of which one both starts and ends a placeholder, and is half of another. -/
def Signs.percent : Signs where
  escape := ['~']
  sign
    | .variableStart => ['%', '%']
    | .variableEnd => ['%', '%']
    | .pipeStart => ['%', '|']
    | .parameterStart => [':', ':']
  escape_apart δ := by cases δ <;> decide
  sign_apart δ ε := by cases δ <;> cases ε <;> decide

/-- Signs in a name and in a parameter, an empty pipe name and an empty parameter, and ways
of quoting that would take all of the text. -/
theorem Dialect.parse_write_percent :
    ∃ d, build [.escape "~", .delimiter .variableStart "%%", .delimiter .variableEnd "%%",
        .delimiter .pipeStart "%\\|", .delimiter .parameterStart "::",
        .names (.custom (fun _ => true) fun text => ⟨Text.width text, ['!']⟩),
        .parameters (.custom (fun _ => true) fun text => ⟨Text.width text, ['!']⟩)] = .ok d ∧
      d.Uses .percent ∧
      Template.WellFormed ⟨["a%", ""], [⟨"%%", [⟨"", ["::~", ""]⟩]⟩]⟩ ∧
      Signs.percent.write ⟨["a%", ""], [⟨"%%", [⟨"", ["::~", ""]⟩]⟩]⟩ =
        "~a~%%%~%~%%|::~:~:~~::%%".toList ∧
      d.parse "~a~%%%~%~%%|::~:~:~~::%%" = .ok ⟨["a%", ""], [⟨"%%", [⟨"", ["::~", ""]⟩]⟩]⟩ := by
  have hescape : Pattern.readAnchored "~" =
      .ok ⟨"^(?:~)", Pattern.atStart (.literal ['~']), 0⟩ :=
    Pattern.read_eq_ok (by decide +kernel)
  have hpercent : Pattern.readAnchored "%%" =
      .ok ⟨"^(?:%%)", Pattern.atStart (.literal ['%', '%']), 0⟩ :=
    Pattern.read_eq_ok (by decide +kernel)
  have hpipe : Pattern.readAnchored "%\\|" =
      .ok ⟨"^(?:%\\|)", Pattern.atStart (.literal ['%', '|']), 0⟩ :=
    Pattern.read_eq_ok (by decide +kernel)
  have hparameter : Pattern.readAnchored "::" =
      .ok ⟨"^(?:::)", Pattern.atStart (.literal [':', ':']), 0⟩ :=
    Pattern.read_eq_ok (by decide +kernel)
  obtain ⟨d, hbuild, huses⟩ : ∃ d, build [.escape "~", .delimiter .variableStart "%%",
      .delimiter .variableEnd "%%", .delimiter .pipeStart "%\\|",
      .delimiter .parameterStart "::",
      .names (.custom (fun _ => true) fun text => ⟨Text.width text, ['!']⟩),
      .parameters (.custom (fun _ => true) fun text => ⟨Text.width text, ['!']⟩)] = .ok d ∧
      d.Uses .percent := by
    refine ⟨⟨.ofPattern ⟨"^(?:~)", Pattern.atStart (.literal ['~']), 0⟩,
      .ofPattern ⟨"^(?:%%)", Pattern.atStart (.literal ['%', '%']), 0⟩,
      .ofPattern ⟨"^(?:%%)", Pattern.atStart (.literal ['%', '%']), 0⟩,
      .ofPattern ⟨"^(?:%\\|)", Pattern.atStart (.literal ['%', '|']), 0⟩,
      .ofPattern ⟨"^(?:::)", Pattern.atStart (.literal [':', ':']), 0⟩,
      .custom (fun _ => true) fun text => ⟨Text.width text, ['!']⟩,
      .custom (fun _ => true) fun text => ⟨Text.width text, ['!']⟩⟩, ?_, ?_, ?_⟩
    · simp only [build, applyAll, apply, Delimiter.option, List.foldlM_cons, List.foldlM_nil,
        readOption_eq_ok_iff.mpr hescape, readOption_eq_ok_iff.mpr hpercent,
        readOption_eq_ok_iff.mpr hpipe, readOption_eq_ok_iff.mpr hparameter]
      rfl
    · exact Matcher.exactly_literal _ _ _
    · intro δ
      cases δ <;> exact Matcher.exactly_literal _ _ _
  have hwrite : Signs.percent.write ⟨["a%", ""], [⟨"%%", [⟨"", ["::~", ""]⟩]⟩]⟩ =
      "~a~%%%~%~%%|::~:~:~~::%%".toList := by decide
  have hparse := parse_write .percent d huses ⟨["a%", ""], [⟨"%%", [⟨"", ["::~", ""]⟩]⟩]⟩ rfl
  rw [hwrite, String.ofList_toList] at hparse
  exact ⟨d, hbuild, huses, rfl, hwrite, hparse⟩

end TextTemplate
