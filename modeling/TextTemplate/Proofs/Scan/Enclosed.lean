import TextTemplate.Proofs.Dialect.Standard
import TextTemplate.Proofs.Quoting.Braces
import TextTemplate.Proofs.Scan.Layout
import TextTemplate.Proofs.Scan.Prefixes

/-! # Enclosed parameters

With the delimiters of the standard dialect a parameter can be enclosed: in braces, if it
is balanced, or between quotation marks (`Enclosed`).  An enclosed parameter is one span,
so whatever looks like a delimiter, an escape or a whole placeholder inside it is text
(`takes_enclosed`).  The brace behind the last parameter ends the placeholder, which is read
as it looks (`Dialect.parse_enclosed_parameters`), also where names are quoted in another way
(`Dialect.parse_enclosed`). -/
namespace TextTemplate

open Pattern Dialect

/-- The dialect with other ways of quoting. -/
def Dialect.quotedBy (d : Dialect) (names parameters : Quoting) : Dialect :=
  { d with names := names, parameters := parameters }

namespace Quoting

/-- Balanced braces, or else quotation marks. -/
def bracesOrMarks : Quoting := .chain [.standardBraces, .standard]

/-- No quoted span starts with a letter or a digit. -/
def SparesWords (q : Quoting) : Prop :=
  ∀ c cs, c.isAlphanum = true → q.take? (c :: cs) = none

end Quoting

/-- A text that stands for another as one span of a way of quoting: balanced text in
braces or, where quotation marks are allowed too, text between them. -/
inductive Enclosed (q : Quoting) : List Char → List Char → Prop where
  | braces {content : List Char} :
      Quoting.Balanced '{' '}' content → Enclosed q content ('{' :: (content ++ ['}']))
  | marks {mark : Char} {content : List Char} :
      q = .bracesOrMarks → IsMark mark → mark ∉ content → '\\' ∉ content →
      Enclosed q content (mark :: (content ++ [mark]))

/-! ## Letters and digits -/

/-- The last of the letters and digits is `z`. -/
theorem toNat_lt_of_isAlphanum {c : Char} (h : c.isAlphanum = true) : c.toNat < 128 := by
  have hz : c.val ≤ 'z'.val := by
    rcases Bool.or_eq_true_iff.mp h with halpha | hdigit
    · rcases Bool.or_eq_true_iff.mp halpha with hupper | hlower
      · exact UInt32.le_trans (of_decide_eq_true hupper).2 (by decide)
      · exact of_decide_eq_true (Bool.and_eq_true_iff.mp hlower).2
    · exact UInt32.le_trans (of_decide_eq_true (Bool.and_eq_true_iff.mp hdigit).2) (by decide)
  exact Nat.lt_of_le_of_lt (UInt32.le_iff_toNat_le.mp hz) (by decide)

/-- Letters and digits mean nothing to the standard dialect. -/
theorem Dialect.Plain.of_isAlphanum {c : Char} (h : c.isAlphanum = true) : Plain c := by
  have hascii : ∀ n, n < 128 → (Char.ofNat n).isAlphanum = true → Plain (Char.ofNat n) := by
    decide
  have hplain := hascii c.toNat (toNat_lt_of_isAlphanum h)
  rw [Char.ofNat_toNat] at hplain
  exact hplain h

/-- A character that stands for itself in a name: it means nothing to the standard dialect, and
no quoted span starts with it. -/
structure Dialect.Bare (names : Quoting) (c : Char) : Prop where
  plain : Plain c
  spared : ∀ cs, names.take? (c :: cs) = none

theorem Dialect.Bare.of_isAlphanum {names : Quoting} (hnames : names.SparesWords) {c : Char}
    (h : c.isAlphanum = true) : Bare names c :=
  ⟨.of_isAlphanum h, fun cs => hnames c cs h⟩

/-- Where quotation marks quote, every character that means nothing stands for itself. -/
theorem Dialect.Plain.bare {c : Char} (h : Plain c) : Bare .standard c := by
  refine ⟨h, fun cs => Quoting.take?_standard_eq_none fun d hd => ?_⟩
  obtain rfl := Option.some.inj hd
  exact h.mark

/-- Quotation marks spare words. -/
theorem Quoting.sparesWords_standard : Quoting.standard.SparesWords := by
  intro c cs hc
  exact (Plain.of_isAlphanum hc).bare.spared cs

/-! ## Enclosed text is one span -/

namespace Enclosed

variable {q : Quoting} {content text : List Char}

/-- What is enclosed starts with a brace or a quotation mark. -/
theorem exists_cons (h : Enclosed q content text) :
    ∃ c cs, text = c :: cs ∧ (c = '{' ∨ IsMark c) := by
  cases h with
  | braces => exact ⟨_, _, rfl, .inl rfl⟩
  | marks _ hmark => exact ⟨_, _, rfl, .inr hmark⟩

/-- **What is enclosed is taken as one span**, whatever comes behind it. -/
theorem take? (hq : q = .standardBraces ∨ q = .bracesOrMarks) (h : Enclosed q content text)
    (rest : List Char) : q.take? (text ++ rest) = some (text, content, rest) := by
  cases h with
  | braces hbalanced =>
    have hbraces := Quoting.take?_braces_of_balanced (by decide) (by decide) hbalanced
      (by decide) rest
    rw [List.cons_append, List.append_assoc, List.singleton_append]
    rcases hq with rfl | rfl
    · exact hbraces
    · exact Quoting.take?_chain_of_take? hbraces [.standard]
  | @marks mark _ hchain hmark hm hb =>
    have hmarks := @Quoting.take?_standard_of_mark _ hmark _ rest hm hb
    have hbraces : Quoting.standardBraces.starts (mark :: (content ++ mark :: rest)) = false := by
      refine Quoting.starts_braces_eq_false ?_
      rcases hmark with rfl | rfl <;> exact nofun
    rw [List.cons_append, List.append_assoc, List.singleton_append, hchain, Quoting.bracesOrMarks,
      Quoting.take?_chain_of_starts_eq_false hbraces]
    exact Quoting.take?_chain_of_take? hmarks []

end Enclosed

namespace Dialect

variable {names q : Quoting} {level : Level} {rest : List Char}

theorem matcher_quotedBy (d : Dialect) (names q : Quoting) :
    (d.quotedBy names q).matcher = d.matcher := by
  funext δ
  cases δ <;> rfl

/-- The ways of quoting have no part in delimiters. -/
theorem delimiterAt_quotedBy (d : Dialect) (names q : Quoting) (level : Level) (text : List Char) :
    (d.quotedBy names q).delimiterAt level text = d.delimiterAt level text := by
  rw [delimiterAt, delimiterAt, matcher_quotedBy]

/-- A delimiter is taken with the blanks that belong to it. -/
theorem takes_spelled {δ : Delimiter} {taken : List Char} (h : δ.Spelled taken rest)
    (hlevel : δ ∈ level.delimiters) :
    (standard.quotedBy names q).Takes level (taken ++ rest) [.delimiter δ taken] rest := by
  obtain ⟨c, cs, htaken⟩ := List.exists_cons_of_ne_nil (ne_nil_of_spelled h)
  have htext : c :: (cs ++ rest) = taken ++ rest := by rw [htaken]; rfl
  have hescape : (standard.quotedBy names q).escape.width (taken ++ rest) = 0 :=
    escape_width_of_spelled h
  have hfound : (standard.quotedBy names q).delimiterAt level (taken ++ rest) = some δ := by
    rw [delimiterAt_quotedBy, delimiterAt_of_spelled h hlevel]
  have hwidth : ((standard.quotedBy names q).matcher δ).width (taken ++ rest) =
      Text.width taken := by
    rw [matcher_quotedBy, width_of_spelled h]
  rw [← htext] at hescape hfound hwidth ⊢
  exact .single (next_eq_delimiter hescape hfound htext hwidth)

/-- A separator without blanks around it is taken. -/
theorem takes_separator {δ : Delimiter} (hδ : δ = .pipeStart ∨ δ = .parameterStart)
    (hlevel : δ ∈ level.delimiters) (hrest : Avoids blank rest) :
    (standard.quotedBy names q).Takes level (δ.sign :: rest) [.delimiter δ [δ.sign]] rest :=
  takes_spelled (.separator hδ (List.forall_mem_nil _) (List.forall_mem_nil _) hrest) hlevel

/-- Characters of a name that stand for themselves are taken one by one. -/
theorem takes_word (hlevel : level = .variable ∨ level = .pipe) {cs : List Char}
    (hcs : ∀ c ∈ cs, Bare names c) (rest : List Char) :
    (standard.quotedBy names q).Takes level (cs ++ rest) (cs.map .plain) rest := by
  induction cs with
  | nil => exact .none level rest
  | cons c cs ih =>
    rw [List.forall_mem_cons] at hcs
    have hplain : Plain c := hcs.1.plain
    have hopen : level ≠ .literal := by rcases hlevel with rfl | rfl <;> exact nofun
    have hescape : (standard.quotedBy names q).escape.width (c :: (cs ++ rest)) = 0 :=
      (escape_width_cons c (cs ++ rest)).trans (if_neg hplain.escape)
    have hnone : (standard.quotedBy names q).delimiterAt level (c :: (cs ++ rest)) = none := by
      rw [delimiterAt_quotedBy]
      exact delimiterAt_of_unsigned (unsigned_of_head hopen hplain.blank hplain.notMem_signs)
    have hquoted : (standard.quotedBy names q).quotedAt level (c :: (cs ++ rest)) = none := by
      have hspared := hcs.1.spared (cs ++ rest)
      rcases hlevel with rfl | rfl <;> exact hspared
    exact .next (next_eq_plain hescape hnone hquoted) (ih hcs.2)

/-- An enclosed parameter is taken as a whole. -/
theorem takes_enclosed (hq : q = .standardBraces ∨ q = .bracesOrMarks) {content text : List Char}
    (h : Enclosed q content text) (rest : List Char) :
    (standard.quotedBy names q).Takes .parameter (text ++ rest) [.quoted text content] rest := by
  have htake := h.take? hq rest
  obtain ⟨c, cs, rfl, hc⟩ := h.exists_cons
  have hc' : c ≠ '\\' := by rcases hc with rfl | rfl | rfl <;> decide
  have hparameter : Level.parameter ≠ .literal := nofun
  have hescape : (standard.quotedBy names q).escape.width (c :: (cs ++ rest)) = 0 :=
    (escape_width_cons c (cs ++ rest)).trans (if_neg hc')
  have hblank : blank.contains c = false := by rcases hc with rfl | rfl | rfl <;> rfl
  have hsigns : c ∉ ['}', '|', ':'] := by rcases hc with rfl | rfl | rfl <;> decide
  have hnone : (standard.quotedBy names q).delimiterAt .parameter (c :: (cs ++ rest)) = none := by
    rw [delimiterAt_quotedBy]
    exact delimiterAt_of_unsigned (unsigned_of_head hparameter hblank hsigns)
  have hquoted : (standard.quotedBy names q).quotedAt .parameter (c :: (cs ++ rest)) =
      some (c :: cs, content, rest) := htake
  exact .single (next_eq_quoted hescape hnone hquoted)

/-- Enclosed parameters are taken one behind the other. -/
theorem exists_takes_parameters (hq : q = .standardBraces ∨ q = .bracesOrMarks)
    {ps : List (String × String)} (hps : ∀ p ∈ ps, Enclosed q p.1.toList p.2.toList)
    (hlevel : level = .pipe ∨ level = .parameter) (rest : List Char) :
    ∃ spans, LaidParameters (ps.map (·.1)) spans ∧
      (standard.quotedBy names q).Takes level ((ps.flatMap fun p => ':' :: p.2.toList) ++ rest)
        spans rest ∧
      (level.afterAll spans = .pipe ∨ level.afterAll spans = .parameter) := by
  induction ps generalizing level with
  | nil => exact ⟨[], .nil, .none level rest, hlevel⟩
  | cons p ps ih =>
    rw [List.forall_mem_cons] at hps
    obtain ⟨hp, hps⟩ := hps
    obtain ⟨spans, hlaid, hmore, hafter⟩ := @ih .parameter hps (.inr rfl)
    have hfront : Avoids blank
        (p.2.toList ++ ((ps.flatMap fun p => ':' :: p.2.toList) ++ rest)) := by
      obtain ⟨c, cs, htext, hc⟩ := hp.exists_cons
      rw [htext]
      exact avoids_cons.mpr (by rcases hc with rfl | rfl | rfl <;> rfl)
    have hsign := @takes_separator names q level _ .parameterStart (.inr rfl)
      (by rcases hlevel with rfl | rfl <;> simp [Level.delimiters]) hfront
    have hparameter := @takes_enclosed names q hq _ _ hp
      ((ps.flatMap fun p => ':' :: p.2.toList) ++ rest)
    have htext : LaidText p.1.toList [.quoted p.2.toList p.1.toList] := by
      refine ⟨List.forall_mem_singleton.mpr trivial, ?_⟩
      simp [Span.content]
    have htakes := hsign.trans (hparameter.trans hmore)
    have hwhole : ((p :: ps).flatMap fun p => ':' :: p.2.toList) ++ rest =
        ':' :: (p.2.toList ++ ((ps.flatMap fun p => ':' :: p.2.toList) ++ rest)) := by
      simp
    rw [hwhole]
    exact ⟨_, .cons htext hlaid, htakes, hafter⟩

/-- A word starts with no blank, unless what is behind it does. -/
theorem avoids_word {cs : List Char} (hcs : ∀ c ∈ cs, Bare names c)
    (hrest : Avoids blank rest) : Avoids blank (cs ++ rest) := by
  cases cs with
  | nil => exact hrest
  | cons c cs => exact avoids_cons.mpr (hcs c List.mem_cons_self).plain.blank

theorem laidText_plain (cs : List Char) : LaidText cs (cs.map .plain) := by
  refine ⟨fun span hspan => ?_, ?_⟩
  · obtain ⟨c, -, rfl⟩ := List.mem_map.mp hspan
    trivial
  · induction cs with
    | nil => rfl
    | cons c cs ih => rw [List.map_cons, List.flatMap_cons, ih]; rfl

/-- Plain characters change no level. -/
theorem afterAll_plain (level : Level) (cs : List Char) :
    level.afterAll (cs.map .plain) = level := by
  induction cs with
  | nil => rfl
  | cons c cs ih => exact ih

/-- A placeholder with one pipe whose parameters are enclosed is taken as its variable. -/
theorem exists_takes_named (hq : q = .standardBraces ∨ q = .bracesOrMarks)
    {name pipe : String} (hname : ∀ c ∈ name.toList, Bare names c)
    (hpipe : ∀ c ∈ pipe.toList, Bare names c) {ps : List (String × String)}
    (hps : ∀ p ∈ ps, Enclosed q p.1.toList p.2.toList) (rest : List Char) :
    ∃ spans, Variable.Laid ⟨name, [⟨pipe, ps.map (·.1)⟩]⟩ spans ∧
      (standard.quotedBy names q).Takes .literal
        ('$' :: '{' :: (name.toList ++ '|' :: (pipe.toList ++
          ((ps.flatMap fun p => ':' :: p.2.toList) ++ '}' :: rest)))) spans rest := by
  obtain ⟨parameters, hlaid, hparameters, hlevel⟩ :=
    @exists_takes_parameters names q .pipe hq ps hps (.inl rfl) ('}' :: rest)
  generalize hbehind : (ps.flatMap fun p => ':' :: p.2.toList) ++ '}' :: rest = behind
    at hparameters
  have hfront : Avoids blank behind := by
    rw [← hbehind]
    cases ps <;> exact avoids_cons.mpr rfl
  have hbar : Avoids blank ('|' :: (pipe.toList ++ behind)) := avoids_cons.mpr rfl
  -- the spans from left to right
  have hstart : (standard.quotedBy names q).Takes .literal
      ('$' :: '{' :: (name.toList ++ '|' :: (pipe.toList ++ behind)))
      [.delimiter .variableStart ['$', '{']] (name.toList ++ '|' :: (pipe.toList ++ behind)) :=
    takes_spelled (.variableStart (List.forall_mem_nil _) (avoids_word hname hbar))
      List.mem_cons_self
  have hnamed : (standard.quotedBy names q).Takes .variable
      (name.toList ++ '|' :: (pipe.toList ++ behind)) (name.toList.map .plain)
      ('|' :: (pipe.toList ++ behind)) :=
    takes_word (.inl rfl) hname _
  have hsign : (standard.quotedBy names q).Takes .variable ('|' :: (pipe.toList ++ behind))
      [.delimiter .pipeStart ['|']] (pipe.toList ++ behind) :=
    takes_separator (.inl rfl) (by decide) (avoids_word hpipe hfront)
  have hpiped : (standard.quotedBy names q).Takes .pipe (pipe.toList ++ behind)
      (pipe.toList.map .plain) behind :=
    takes_word (.inr rfl) hpipe _
  have hend : (standard.quotedBy names q).Takes (Level.pipe.afterAll parameters) ('}' :: rest)
      [.delimiter .variableEnd ['}']] rest := by
    have hbrace : Delimiter.variableEnd.Spelled ['}'] rest := .variableEnd (List.forall_mem_nil _)
    refine takes_spelled hbrace ?_
    rcases hlevel with hlevel | hlevel <;> rw [hlevel] <;> decide
  -- plain characters keep the level that the sign in front of them leads to
  have htail : (standard.quotedBy names q).Takes .pipe (pipe.toList ++ behind)
      (pipe.toList.map .plain ++ (parameters ++ [.delimiter .variableEnd ['}']])) rest :=
    hpiped.trans (by rw [afterAll_plain]; exact hparameters.trans hend)
  have hmiddle : (standard.quotedBy names q).Takes .variable
      (name.toList ++ '|' :: (pipe.toList ++ behind))
      (name.toList.map .plain ++ (.delimiter .pipeStart ['|'] ::
        (pipe.toList.map .plain ++ (parameters ++ [.delimiter .variableEnd ['}']])))) rest :=
    hnamed.trans (by rw [afterAll_plain]; exact hsign.trans htail)
  have hpipes : LaidPipes [⟨pipe, ps.map (·.1)⟩] (.delimiter .pipeStart ['|'] ::
      (pipe.toList.map .plain ++ (parameters ++ []))) :=
    .cons (laidText_plain _) hlaid .nil
  have hvariable := @Variable.Laid.mk ⟨name, [⟨pipe, ps.map (·.1)⟩]⟩ ['$', '{'] ['}'] _ _
    (laidText_plain _) hpipes
  simp only [List.append_nil, List.cons_append, List.append_assoc] at hvariable
  exact ⟨_, hvariable, hstart.trans hmiddle⟩

end Dialect

/-! ## Placeholders -/

/-- A text that looks like a placeholder with enclosed parameters is read as its variable. -/
theorem Dialect.parse_of_enclosed {names q : Quoting}
    (hq : q = .standardBraces ∨ q = .bracesOrMarks) {name pipe : String}
    (hname : ∀ c ∈ name.toList, Bare names c) (hpipe : ∀ c ∈ pipe.toList, Bare names c)
    {ps : List (String × String)} (hps : ∀ p ∈ ps, Enclosed q p.1.toList p.2.toList)
    {text : String}
    (htext : text.toList = '$' :: '{' :: (name.toList ++ '|' :: (pipe.toList ++
      ((ps.flatMap fun p => ':' :: p.2.toList) ++ ['}'])))) :
    (standard.quotedBy names q).parse text = .ok ⟨["", ""], [⟨name, [⟨pipe, ps.map (·.1)⟩]⟩]⟩ := by
  obtain ⟨spans, hlaid, htakes⟩ := exists_takes_named hq hname hpipe hps []
  rw [← htext] at htakes
  rw [htakes.parse_eq, hlaid.template.ofSpans_eq]

theorem toList_placeholder (name pipe : String) (ps : List (String × String)) :
    ("$\x7b" ++ name ++ "|" ++ pipe ++ String.join (ps.map fun p => ":" ++ p.2) ++ "\x7d").toList =
      '$' :: '{' :: (name.toList ++ '|' :: (pipe.toList ++
        ((ps.flatMap fun p => ':' :: p.2.toList) ++ ['}']))) := by
  have hparameters : (String.join (ps.map fun p => ":" ++ p.2)).toList =
      ps.flatMap fun p => ':' :: p.2.toList := by
    induction ps with
    | nil => rfl
    | cons p ps ih => simp [ih]
  simp [String.toList_append, hparameters]

/-- **Enclosed parameters are read as they stand**, whatever they hold: in the standard dialect
with braces around parameters, or else quotation marks, the placeholder is one variable with
one pipe, and the parameters are the texts that were enclosed. -/
theorem Dialect.parse_enclosed_parameters {q : Quoting}
    (hq : q = .standardBraces ∨ q = .bracesOrMarks) {name pipe : String}
    (hname : ∀ c ∈ name.toList, c.isAlphanum = true)
    (hpipe : ∀ c ∈ pipe.toList, c.isAlphanum = true) {ps : List (String × String)}
    (hps : ∀ p ∈ ps, Enclosed q p.1.toList p.2.toList) :
    Dialect.parse { standard with parameters := q }
        ("$\x7b" ++ name ++ "|" ++ pipe ++ String.join (ps.map fun p => ":" ++ p.2) ++ "\x7d") =
      .ok ⟨["", ""], [⟨name, [⟨pipe, ps.map (·.1)⟩]⟩]⟩ := by
  have hnameBare : ∀ c ∈ name.toList, Bare .standard c :=
    fun c hc => (Plain.of_isAlphanum (hname c hc)).bare
  have hpipeBare : ∀ c ∈ pipe.toList, Bare .standard c :=
    fun c hc => (Plain.of_isAlphanum (hpipe c hc)).bare
  exact parse_of_enclosed hq hnameBare hpipeBare hps (toList_placeholder name pipe ps)

/-- **Whatever quotes names may be put in the place of quotation marks**, if it spares words as
they do: enclosed parameters are still read as they stand. -/
theorem Dialect.parse_enclosed :
    Quoting.standard.SparesWords ∧
    ∀ (names q : Quoting), names.SparesWords → q = .standardBraces ∨ q = .bracesOrMarks →
      ∀ (name pipe : String) (ps : List (String × String)),
        (∀ c ∈ name.toList, c.isAlphanum = true) → (∀ c ∈ pipe.toList, c.isAlphanum = true) →
        (∀ p ∈ ps, Enclosed q p.1.toList p.2.toList) →
        (standard.quotedBy names q).parse
            ("$\x7b" ++ name ++ "|" ++ pipe ++ String.join (ps.map fun p => ":" ++ p.2) ++ "\x7d") =
          .ok ⟨["", ""], [⟨name, [⟨pipe, ps.map (·.1)⟩]⟩]⟩ := by
  refine ⟨Quoting.sparesWords_standard, fun names q hnames hq name pipe ps hname hpipe hps => ?_⟩
  have hnameBare : ∀ c ∈ name.toList, Bare names c :=
    fun c hc => .of_isAlphanum hnames (hname c hc)
  have hpipeBare : ∀ c ∈ pipe.toList, Bare names c :=
    fun c hc => .of_isAlphanum hnames (hpipe c hc)
  exact parse_of_enclosed hq hnameBare hpipeBare hps (toList_placeholder name pipe ps)

/-- A whole placeholder in braces, with a brace behind a backslash and a line break, and
another between quotation marks. -/
theorem Dialect.parse_enclosed_placeholders :
    Quoting.Balanced '{' '}' "$\x7bx|q:\x7b\\\x7d\x7d\x7d\n".toList ∧
      (standard.quotedBy .standard .bracesOrMarks).parse
          "$\x7bn|p:\x7b$\x7bx|q:\x7b\\\x7d\x7d\x7d\n\x7d:'$\x7by|u\x7d'\x7d" =
        .ok ⟨["", ""], [⟨"n", [⟨"p", ["$\x7bx|q:\x7b\\\x7d\x7d\x7d\n", "$\x7by|u\x7d"]⟩]⟩]⟩ := by
  have hbalanced : Quoting.Balanced '{' '}' "$\x7bx|q:\x7b\\\x7d\x7d\x7d\n".toList :=
    (Quoting.balanced_iff_depthAfter (by decide)).mpr (by decide +kernel)
  have hbraces : Enclosed .bracesOrMarks "$\x7bx|q:\x7b\\\x7d\x7d\x7d\n".toList
      "\x7b$\x7bx|q:\x7b\\\x7d\x7d\x7d\n\x7d".toList := by
    have htext : "\x7b$\x7bx|q:\x7b\\\x7d\x7d\x7d\n\x7d".toList =
        '{' :: ("$\x7bx|q:\x7b\\\x7d\x7d\x7d\n".toList ++ ['}']) := by decide +kernel
    rw [htext]
    exact .braces hbalanced
  have hmarks : Enclosed .bracesOrMarks "$\x7by|u\x7d".toList "'$\x7by|u\x7d'".toList := by
    have htext : "'$\x7by|u\x7d'".toList = '\'' :: ("$\x7by|u\x7d".toList ++ ['\'']) := by
      decide +kernel
    rw [htext]
    exact .marks rfl (.inl rfl) (by decide +kernel) (by decide +kernel)
  have hparse := parse_enclosed.2 .standard .bracesOrMarks parse_enclosed.1 (.inr rfl) "n" "p"
    [("$\x7bx|q:\x7b\\\x7d\x7d\x7d\n", "\x7b$\x7bx|q:\x7b\\\x7d\x7d\x7d\n\x7d"),
      ("$\x7by|u\x7d", "'$\x7by|u\x7d'")]
    (List.all_eq_true.mp (by decide +kernel)) (List.all_eq_true.mp (by decide +kernel))
    (List.forall_mem_cons.mpr ⟨hbraces, List.forall_mem_singleton.mpr hmarks⟩)
  have htext : "$\x7bn|p:\x7b$\x7bx|q:\x7b\\\x7d\x7d\x7d\n\x7d:'$\x7by|u\x7d'\x7d" =
      "$\x7b" ++ "n" ++ "|" ++ "p" ++ String.join [":" ++ "\x7b$\x7bx|q:\x7b\\\x7d\x7d\x7d\n\x7d",
        ":" ++ "'$\x7by|u\x7d'"] ++ "\x7d" := by
    decide +kernel
  rw [htext]
  exact ⟨hbalanced, hparse⟩

end TextTemplate
