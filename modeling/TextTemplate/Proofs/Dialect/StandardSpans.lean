import TextTemplate.Proofs.Dialect.Standard
import TextTemplate.Proofs.Scan.Prefixes

/-! # The first span in the standard dialect

`StandardSpan` says without patterns what the first span of a text is in the standard
dialect.  Every text that is not empty has such a span (`exists_standardSpan`), and it
is the one that the dialect takes (`standardSpan_iff`).

How far the text reaches matters in a few places only: behind an escape or a dollar sign,
behind blanks, and where a quotation mark is not closed.  Anywhere else a text goes on
as it began when more text is put behind it, for one span (`StandardSpan.append`) and for
all of them (`Dialect.Takes.append_of_joins`).  What the last span asks of the text behind
it is `Span.Joins`. -/
namespace TextTemplate

open Pattern Dialect

/-- The first span of a text in the standard dialect, and what it leaves. -/
inductive StandardSpan (level : Level) : List Char → Span → List Char → Prop where
  | escaped (after : List Char) :
      StandardSpan level ('\\' :: after) (.escaped ['\\'] after.head?) after.tail
  | delimiter {δ : Delimiter} {taken rest : List Char} :
      δ ∈ level.delimiters → δ.Spelled taken rest →
      StandardSpan level (taken ++ rest) (.delimiter δ taken) rest
  /-- Literal text is neither quoted nor does it hold any sign but the start of a
  placeholder. -/
  | literal {c : Char} {cs : List Char} :
      level = .literal → c ≠ '\\' → ¬ ['$', '{'] <+: c :: cs →
      StandardSpan level (c :: cs) (.plain c) cs
  | closed {mark : Char} {us rest : List Char} :
      level ≠ .literal → IsMark mark → Units mark us →
      StandardSpan level (mark :: (us ++ mark :: rest))
        (.quoted (mark :: (us ++ [mark])) (Quoting.unescapeFirst us)) rest
  /-- Without a closing mark everything is quoted. -/
  | unclosed {mark : Char} {us : List Char} :
      level ≠ .literal → IsMark mark → Units mark us →
      StandardSpan level (mark :: us) (.quoted (mark :: us) (Quoting.unescapeFirst us)) []
  /-- A backslash that goes with nothing keeps a mark from quoting. -/
  | broken {mark : Char} {us rest : List Char} :
      level ≠ .literal → IsMark mark → Units mark us → Stops mark ('\\' :: rest) →
      StandardSpan level (mark :: (us ++ '\\' :: rest)) (.plain mark) (us ++ '\\' :: rest)
  | plain {c : Char} {cs : List Char} :
      level ≠ .literal → c ≠ '\\' → ¬ IsMark c → Unsigned level (c :: cs) →
      StandardSpan level (c :: cs) (.plain c) cs

namespace StandardSpan

variable {level : Level} {text rest : List Char} {span : Span}

/-! ## What is described is taken -/

/-- The span that is described is the one that is taken. -/
theorem next_eq (h : StandardSpan level text span rest) :
    ∃ c cs, text = c :: cs ∧ standard.next level c cs = .ok (span, rest) := by
  cases h with
  | escaped after =>
    refine ⟨'\\', after, rfl, ?_⟩
    have hwidth : standard.escape.width ('\\' :: after) = Text.width ['\\'] := by
      rw [escape_width_cons, if_pos rfl]
      rfl
    have htext : '\\' :: after = ['\\'] ++ after := rfl
    rw [next_eq_escaped htext (List.cons_ne_nil _ _) hwidth]
    cases after <;> rfl
  | @delimiter δ taken rest hδ hspelled =>
    have hne : taken ++ rest ≠ [] := by simp [ne_nil_of_spelled hspelled]
    obtain ⟨c, cs, htext⟩ := List.exists_cons_of_ne_nil hne
    exact ⟨c, cs, htext, next_delimiter hspelled hδ htext.symm⟩
  | @literal c _ hlevel hescape hstart =>
    subst hlevel
    exact ⟨c, rest, rfl, next_literal_of_not_prefix hescape hstart⟩
  | @closed mark us rest hlevel hmark hus =>
    refine ⟨mark, _, rfl, ?_⟩
    rw [next_of_mark hlevel hmark, Quoting.take?_standard_closed hmark hus]
  | @unclosed mark us hlevel hmark hus =>
    refine ⟨mark, us, rfl, ?_⟩
    rw [next_of_mark hlevel hmark, Quoting.take?_standard_unclosed hmark hus]
  | @broken mark us rest hlevel hmark hus hstops =>
    refine ⟨mark, _, rfl, ?_⟩
    rw [next_of_mark hlevel hmark, Quoting.take?_standard_broken hmark hus hstops]
  | @plain c _ hlevel hescape hmark hunsigned =>
    exact ⟨c, rest, rfl, next_of_unsigned hlevel hescape hmark hunsigned⟩

/-! ## Something is always described -/

/-- Behind a quotation mark text is quoted or it is broken. -/
theorem exists_of_mark (hlevel : level ≠ .literal) {mark : Char} (hmark : IsMark mark)
    (cs : List Char) : ∃ span rest, StandardSpan level (mark :: cs) span rest := by
  obtain ⟨us, rest, rfl, hus, hstops⟩ := exists_units mark cs
  cases hstops with
  | nil =>
    rw [List.append_nil]
    exact ⟨_, _, .unclosed hlevel hmark hus⟩
  | mark rest => exact ⟨_, _, .closed hlevel hmark hus⟩
  | backslash => exact ⟨_, _, .broken hlevel hmark hus .backslash⟩
  | lineBreak rest => exact ⟨_, _, .broken hlevel hmark hus (.lineBreak rest)⟩

/-- A sign behind blanks is a delimiter. -/
theorem exists_of_sign {δ : Delimiter} (hδ : δ ∈ level.delimiters) (hlevel : level ≠ .literal)
    (hsign : (dropBlanks text).head? = some δ.sign) :
    ∃ span rest, StandardSpan level text span rest := by
  obtain ⟨more, hmore⟩ := List.head?_eq_some_iff.mp hsign
  have hbefore : AllBlank (text.takeWhile blank.contains) := allBlank_takeWhile text
  have htext : text = text.takeWhile blank.contains ++ δ.sign :: more := by
    rw [← hmore, List.takeWhile_append_dropWhile]
  have hseparator : δ = .pipeStart ∨ δ = .parameterStart →
      ∃ span rest, StandardSpan level text span rest := by
    intro h
    have hspelled : δ.Spelled
        (text.takeWhile blank.contains ++ δ.sign :: more.takeWhile blank.contains)
        (dropBlanks more) :=
      .separator h hbefore (allBlank_takeWhile more) (avoids_dropBlanks more)
    have hspan := StandardSpan.delimiter hδ hspelled
    rw [List.append_assoc, List.cons_append, List.takeWhile_append_dropWhile, ← htext] at hspan
    exact ⟨_, _, hspan⟩
  cases δ with
  | variableStart => exact absurd rfl (Level.ne_variableStart hlevel hδ)
  | variableEnd =>
    have hspan := StandardSpan.delimiter hδ (@Delimiter.Spelled.variableEnd _ more hbefore)
    rw [List.append_assoc, List.singleton_append] at hspan
    rw [htext]
    exact ⟨_, _, hspan⟩
  | pipeStart => exact hseparator (.inl rfl)
  | parameterStart => exact hseparator (.inr rfl)

/-- In literal text a dollar sign and a brace start a placeholder. -/
theorem of_start (more : List Char) :
    StandardSpan .literal ('$' :: '{' :: more)
      (.delimiter .variableStart ('$' :: '{' :: more.takeWhile blank.contains))
      (dropBlanks more) := by
  have hspelled : Delimiter.variableStart.Spelled ('$' :: '{' :: more.takeWhile blank.contains)
      (dropBlanks more) :=
    .variableStart (allBlank_takeWhile more) (avoids_dropBlanks more)
  have hspan := @StandardSpan.delimiter .literal _ _ _ List.mem_cons_self hspelled
  rwa [List.cons_append, List.cons_append, List.takeWhile_append_dropWhile] at hspan

end StandardSpan

/-- **Every text that is not empty has a first span.** -/
theorem exists_standardSpan (level : Level) (c : Char) (cs : List Char) :
    ∃ span rest, StandardSpan level (c :: cs) span rest := by
  by_cases hescape : c = '\\'
  · subst hescape
    exact ⟨_, _, .escaped cs⟩
  by_cases hlevel : level = .literal
  · subst hlevel
    by_cases hstart : ['$', '{'] <+: c :: cs
    · obtain ⟨more, hmore⟩ := hstart
      rw [← hmore]
      exact ⟨_, _, .of_start more⟩
    · exact ⟨_, _, .literal rfl hescape hstart⟩
  by_cases hmark : IsMark c
  · exact StandardSpan.exists_of_mark hlevel hmark cs
  by_cases hsign : ∃ δ ∈ level.delimiters, (dropBlanks (c :: cs)).head? = some δ.sign
  · obtain ⟨δ, hδ, hsign⟩ := hsign
    exact StandardSpan.exists_of_sign hδ hlevel hsign
  · refine ⟨_, _, .plain hlevel hescape hmark fun δ hδ hhead => ?_⟩
    exact hsign ⟨δ, hδ, hhead⟩

/-- **The first span is the one that is described.** -/
theorem standardSpan_iff {level : Level} {c : Char} {cs rest : List Char} {span : Span} :
    StandardSpan level (c :: cs) span rest ↔ standard.next level c cs = .ok (span, rest) := by
  constructor
  · intro h
    obtain ⟨c', cs', htext, hnext⟩ := h.next_eq
    cases htext
    exact hnext
  · intro hnext
    obtain ⟨span', rest', h⟩ := exists_standardSpan level c cs
    obtain ⟨c', cs', htext, hnext'⟩ := h.next_eq
    cases htext
    rw [hnext] at hnext'
    cases hnext'
    exact h

/-- The standard dialect never misses a first span. -/
theorem Dialect.exists_standard_next (level : Level) (c : Char) (cs : List Char) :
    ∃ span rest, standard.next level c cs = .ok (span, rest) := by
  obtain ⟨span, rest, h⟩ := exists_standardSpan level c cs
  exact ⟨span, rest, standardSpan_iff.mp h⟩

/-! ## More text behind -/

namespace Span

/-- The span is quoted text that no mark closes. -/
def Unclosed : Span → Prop
  | .quoted text _ => ∃ mark us, IsMark mark ∧ Units mark us ∧ text = mark :: us
  | _ => False

/-- A mark that closes quoted text is not part of it. -/
theorem not_unclosed_of_units {mark : Char} {us content : List Char} (h : Units mark us) :
    ¬ Unclosed (.quoted (mark :: (us ++ [mark])) content) := by
  rintro ⟨mark', us', -, hus', htext⟩
  obtain ⟨rfl, rfl⟩ := List.cons.inj htext
  exact h.not_concat hus'

/-- What may stand behind a span that would end the text otherwise, with a level behind it:
any text where literal text goes on, but for a dollar sign that a brace might follow; inside
a placeholder nothing that the span could take as well. -/
inductive Joins (more : List Char) : Level → Span → Prop where
  | literal {span : Span} : span ≠ .plain '$' → Joins more .literal span
  | placeholder {level : Level} {span : Span} :
      level ≠ .literal → Avoids blank more → ¬ span.Unclosed → Joins more level span

namespace Joins

variable {more : List Char} {level : Level} {span : Span}

theorem of_delimiter {δ : Delimiter} {sign : List Char}
    (h : Joins more δ.level (.delimiter δ sign)) : δ = .variableEnd ∨ Avoids blank more := by
  generalize hlevel : δ.level = level at h
  cases h with
  | literal =>
    cases δ <;> first | exact .inl rfl | cases hlevel
  | placeholder _ hmore => exact .inr hmore

theorem ne_dollar (h : Joins more level span) (hlevel : level = .literal) : span ≠ .plain '$' := by
  cases h with
  | literal hspan => exact hspan
  | placeholder hopen => exact absurd hlevel hopen

theorem not_unclosed (h : Joins more level span) (hlevel : level ≠ .literal) : ¬ span.Unclosed := by
  cases h with
  | literal => exact absurd rfl hlevel
  | placeholder _ _ hspan => exact hspan

end Joins
end Span

namespace StandardSpan

variable {level : Level} {text rest : List Char} {span : Span}

theorem avoids_append {xs : List Char} (h : Avoids blank xs) (hne : xs ≠ []) (ys : List Char) :
    Avoids blank (xs ++ ys) := by
  obtain ⟨c, cs, rfl⟩ := List.exists_cons_of_ne_nil hne
  exact avoids_cons.mpr (avoids_cons.mp h)

/-- A delimiter stays one with more text behind it, if no blanks are added to those behind
it. -/
theorem spelled_append {δ : Delimiter} {taken more : List Char} (h : δ.Spelled taken rest)
    (hrest : rest = [] → δ = .variableEnd ∨ Avoids blank more) :
    δ.Spelled taken (rest ++ more) := by
  have hmore : δ ≠ .variableEnd → Avoids blank rest → Avoids blank (rest ++ more) := by
    intro hδ havoids
    by_cases hnil : rest = []
    · subst hnil
      exact (hrest rfl).resolve_left hδ
    · exact avoids_append havoids hnil more
  cases h with
  | variableStart hbehind havoids => exact .variableStart hbehind (hmore nofun havoids)
  | variableEnd hbefore => exact .variableEnd hbefore
  | separator hδ hbefore hbehind havoids =>
    have hne : δ ≠ .variableEnd := by rcases hδ with rfl | rfl <;> exact nofun
    exact .separator hδ hbefore hbehind (hmore hne havoids)

/-- Where something other than blanks comes, what comes is known. -/
theorem unsigned_append (h : Unsigned level text) (hblank : ¬ AllBlank text) (more : List Char) :
    Unsigned level (text ++ more) := by
  have hne : dropBlanks text ≠ [] := by
    intro hnil
    have hwhole := allBlank_takeWhile text
    rw [← List.append_nil (text.takeWhile _), ← hnil, List.takeWhile_append_dropWhile] at hwhole
    exact hblank hwhole
  intro δ hδ
  obtain ⟨c, cs, hcs⟩ := List.exists_cons_of_ne_nil hne
  have hsign := h δ hδ
  rw [hcs] at hsign
  have hmore : dropBlanks (text ++ more) = c :: (cs ++ more) := by
    rw [dropBlanks, List.dropWhile_append, if_neg (by simpa using hne), ← dropBlanks, hcs]
    rfl
  rw [hmore]
  exact hsign

/-- **More text changes nothing about the first span**, unless the text ends right behind
a backslash, holds nothing but blanks inside a placeholder, or ends with a span that the
text does not join. -/
theorem append (h : StandardSpan level text span rest) (hescape : text.getLast? ≠ some '\\')
    (hblank : level ≠ .literal → ¬ AllBlank text) {more : List Char}
    (hrest : rest = [] → span.Joins more (level.after span)) :
    StandardSpan level (text ++ more) span (rest ++ more) := by
  cases h with
  | escaped after =>
    cases after with
    | nil => exact absurd rfl hescape
    | cons c after => exact .escaped (c :: (after ++ more))
  | @delimiter δ taken rest hδ hspelled =>
    rw [List.append_assoc]
    exact .delimiter hδ (spelled_append hspelled fun hnil => (hrest hnil).of_delimiter)
  | @literal c _ hlevel hc hstart =>
    refine .literal hlevel hc fun hprefix => hstart ?_
    cases rest with
    | nil =>
      obtain rfl := (List.cons_prefix_cons.mp hprefix).1
      exact absurd rfl ((hrest rfl).ne_dollar hlevel)
    | cons d rest => simpa [List.cons_prefix_cons] using hprefix
  | @closed mark us rest hlevel hmark hus =>
    rw [List.cons_append, List.append_assoc, List.cons_append]
    exact .closed hlevel hmark hus
  | @unclosed mark us hlevel hmark hus =>
    exact absurd ⟨mark, us, hmark, hus, rfl⟩ ((hrest rfl).not_unclosed hlevel)
  | @broken mark us rest hlevel hmark hus hstops =>
    rw [List.cons_append, List.append_assoc, List.cons_append]
    cases hstops with
    | mark => rcases hmark with h | h <;> cases h
    | backslash =>
      rw [← List.cons_append, List.getLast?_concat] at hescape
      exact absurd rfl hescape
    | lineBreak rest => exact .broken hlevel hmark hus (.lineBreak (rest ++ more))
  | @plain c _ hlevel hc hmark hunsigned =>
    exact .plain hlevel hc hmark (unsigned_append hunsigned (hblank hlevel) more)

/-- Blanks lead to no other level. -/
theorem after_eq_of_allBlank (h : StandardSpan level text span rest)
    (hblank : AllBlank text) : level.after span = level := by
  cases h with
  | @delimiter δ taken rest hδ hspelled =>
    obtain ⟨before, behind, -, rfl⟩ := exists_of_spelled hspelled
    have hsign := hblank δ.sign (by simp)
    rw [blank_sign] at hsign
    cases hsign
  | escaped | literal | closed | unclosed | broken | plain => rfl

end StandardSpan

/-! ## Several spans -/

namespace Dialect

variable {level : Level} {text : List Char} {spans : List Span}

/-- Nothing but blanks leads to no other level. -/
theorem Takes.afterAll_eq_of_allBlank {rest : List Char} (h : standard.Takes level text spans rest)
    (hblank : AllBlank text) : level.afterAll spans = level := by
  induction h with
  | none => rfl
  | @next level c cs more rest span spans hnext _ ih =>
    have hspan : StandardSpan level (c :: cs) span more := standardSpan_iff.mpr hnext
    have hmore : AllBlank more := by
      intro b hb
      refine hblank b ?_
      rw [(eq_append_of_next hnext).1]
      exact List.mem_append_right _ hb
    have hlevel : level.after span = level := hspan.after_eq_of_allBlank hblank
    rw [Level.afterAll_cons, ih hmore, hlevel]

/-- **What is taken from a text stays so with more text behind it**, if the last span joins
that text and neither a backslash nor, inside a placeholder, a blank stands in front of it. -/
theorem Takes.append_of_joins {more : List Char} (h : standard.Takes level text spans [])
    (hescape : text.getLast? ≠ some '\\')
    (hblank : level.afterAll spans ≠ .literal → ∀ c ∈ text.getLast?, blank.contains c = false)
    (hlast : ∀ span ∈ spans.getLast?, span.Joins more (level.afterAll spans)) :
    standard.Takes level (text ++ more) spans more := by
  generalize hrest : [] = rest at h
  induction h with
  | none level text =>
    subst hrest
    exact .none level more
  | @next level c cs behind rest span spans hnext htakes ih =>
    subst hrest
    have hspan : StandardSpan level (c :: cs) span behind := standardSpan_iff.mpr hnext
    have htext : c :: cs = span.text ++ behind := (eq_append_of_next hnext).1
    have hbehind : ∀ d, behind.getLast? = some d → (c :: cs).getLast? = some d := by
      intro d hd
      rw [htext, List.getLast?_append, hd]
      rfl
    -- only blanks would lead to the end of the text at this level
    have hall : level ≠ .literal → ¬ AllBlank (c :: cs) := by
      intro hlevel hall
      have hkeeps : level.afterAll (span :: spans) = level :=
        (Takes.next hnext htakes).afterAll_eq_of_allBlank hall
      have hend := List.getLast?_eq_some_getLast (List.cons_ne_nil c cs)
      have hnot := hblank (by rwa [hkeeps]) _ hend
      have hmem := hall _ (List.getLast_mem (List.cons_ne_nil c cs))
      rw [hnot] at hmem
      cases hmem
    have hjoins : behind = [] → span.Joins more (level.after span) := by
      rintro rfl
      cases htakes
      exact hlast span rfl
    have hnext' := standardSpan_iff.mp (hspan.append hescape hall hjoins)
    refine .next hnext' (ih (fun hd => hescape (hbehind _ hd))
      (fun hlevel d hd => hblank hlevel d (hbehind d hd)) (fun last hmem => hlast last ?_) rfl)
    rw [List.getLast?_cons, Option.mem_def.mp hmem]
    rfl

/-- **Text that ends as literal text is taken in the same way whatever is put behind it**,
unless it ends right behind a backslash or a dollar sign. -/
theorem Takes.append (h : standard.Takes level text spans [])
    (hend : level.afterAll spans = .literal) (hescape : text.getLast? ≠ some '\\')
    (hdollar : text.getLast? ≠ some '$') (more : List Char) :
    standard.Takes level (text ++ more) spans more := by
  refine h.append_of_joins hescape (fun hlevel => absurd hend hlevel) fun span hspan => ?_
  rw [hend]
  refine .literal ?_
  rintro rfl
  obtain ⟨before, rfl⟩ := List.getLast?_eq_some_iff.mp hspan
  refine hdollar ?_
  rw [h.eq_append]
  simp [textOf, Span.text]

end Dialect

end TextTemplate
