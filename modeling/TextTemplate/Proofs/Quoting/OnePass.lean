import TextTemplate.Proofs.Quoting.Standard

/-! # Quotation marks in one pass

The standard pattern has four kinds of spans to choose from, and each of them might give
back units that it has taken.  None of that can be told from its answers: it is enough to
read units once, from the mark on, and to look at the place where no more of them start
(`standard_eq_onePass`).

Quoting is described without units: text is quoted up to the next mark that no backslash
escapes, or to the end of the text (`Described`).  The standard pattern keeps to that as long
as every backslash in the quoted text goes with a character behind it that is no line break;
otherwise it quotes nothing (`standard_follows_description`). -/
namespace TextTemplate

namespace Pattern

/-- The units at the front of a text, and the text from the first place on where no unit
starts. -/
def readUnits (mark : Char) : List Char → List Char × List Char
  | [] => ([], [])
  | c :: cs =>
    if c = '\\' then
      match cs with
      | [] => ([], [c])
      | d :: ds =>
        if d = '\n' then ([], c :: d :: ds)
        else
          let (us, rest) := readUnits mark ds
          (c :: d :: us, rest)
    else if c = mark then ([], c :: cs)
    else
      let (us, rest) := readUnits mark cs
      (c :: us, rest)

theorem IsMark.ne_backslash {mark : Char} (h : IsMark mark) : mark ≠ '\\' := by
  rcases h with rfl | rfl <;> decide

theorem readUnits_of_stops {mark : Char} (h : IsMark mark) {rest : List Char}
    (hrest : Stops mark rest) : readUnits mark rest = ([], rest) := by
  cases hrest with
  | nil => rfl
  | mark rest => simp [readUnits.eq_def, h.ne_backslash]
  | backslash => rfl
  | lineBreak rest => simp [readUnits.eq_def]

/-- Reading stops where the units do. -/
theorem readUnits_append {mark : Char} (h : IsMark mark) {us rest : List Char}
    (hus : Units mark us) (hrest : Stops mark rest) :
    readUnits mark (us ++ rest) = (us, rest) := by
  induction hus with
  | nil => exact readUnits_of_stops h hrest
  | plain hm hb _ ih =>
    rw [List.cons_append, readUnits.eq_def]
    simp only [if_neg hb, if_neg hm, ih]
  | escaped hc _ ih =>
    rw [List.cons_append, List.cons_append, readUnits.eq_def]
    simp only [if_pos, if_neg hc, ih]

end Pattern

namespace Quoting

open Pattern

/-- The span that the units behind a quotation mark make, if the same mark stands behind them
or the text ends there. -/
def quotedInOnePass : List Char → Option Quoted
  | [] => none
  | mark :: cs =>
    if IsMark mark then
      match readUnits mark cs with
      | (us, []) => some ⟨Text.width (mark :: us), unescapeFirst us⟩
      | (us, c :: _) =>
        if c = mark then some ⟨Text.width (mark :: (us ++ [mark])), unescapeFirst us⟩ else none
    else none

/-! ## The first two backslashes in a row -/

/-- Of the first two backslashes in a row one is left, and nothing else changes. -/
inductive PairHalved : List Char → List Char → Prop where
  | first {front back : List Char} : ¬ ['\\', '\\'] <:+: front ++ ['\\'] →
      PairHalved (front ++ '\\' :: '\\' :: back) (front ++ '\\' :: back)
  | none {text : List Char} : ¬ ['\\', '\\'] <:+: text → PairHalved text text

/-- No two backslashes in a row start at the front of a text. -/
theorem not_pair_prefix {c : Char} {rest : List Char}
    (h : ∀ more, c = '\\' → rest = '\\' :: more → False) : ¬ ['\\', '\\'] <+: c :: rest := by
  rintro ⟨more, hmore⟩
  obtain ⟨hc, hrest⟩ := List.cons.inj hmore
  exact h more hc.symm hrest.symm

theorem pairHalved_unescapeFirst (text : List Char) : PairHalved text (unescapeFirst text) := by
  fun_induction unescapeFirst text with
  | case1 rest =>
    have hone : ¬ ['\\', '\\'] <:+: [] ++ ['\\'] := fun h => by simpa using h.length_le
    exact @PairHalved.first [] rest hone
  | case2 c rest hpair ih =>
    have hfront : ¬ ['\\', '\\'] <+: c :: rest := not_pair_prefix hpair
    generalize unescapeFirst rest = short at ih ⊢
    cases ih with
    | @first front back hback =>
      refine @PairHalved.first (c :: front) back fun h => ?_
      rcases List.infix_cons_iff.mp h with hhere | hlater
      · refine hfront (hhere.trans ?_)
        exact ⟨'\\' :: back, by simp⟩
      · exact hback hlater
    | none hrest =>
      refine .none fun h => ?_
      rcases List.infix_cons_iff.mp h with hhere | hlater
      · exact hfront hhere
      · exact hrest hlater
  | case3 => exact .none fun h => by simpa using h.length_le

/-! ## Reading once -/

section units
variable {mark : Char} (h : IsMark mark) {us : List Char} (hus : Units mark us)
include h hus

theorem quotedInOnePass_closed (rest : List Char) :
    quotedInOnePass (mark :: (us ++ mark :: rest)) =
      some ⟨Text.width (mark :: (us ++ [mark])), unescapeFirst us⟩ := by
  simp only [quotedInOnePass, if_pos h, readUnits_append h hus (.mark rest), if_true]

theorem quotedInOnePass_unclosed :
    quotedInOnePass (mark :: us) = some ⟨Text.width (mark :: us), unescapeFirst us⟩ := by
  have hread : readUnits mark us = (us, []) := by
    simpa using readUnits_append h hus .nil
  simp only [quotedInOnePass, if_pos h, hread]

theorem quotedInOnePass_broken {rest : List Char} (hrest : Stops mark ('\\' :: rest)) :
    quotedInOnePass (mark :: (us ++ '\\' :: rest)) = none := by
  simp only [quotedInOnePass, if_pos h, readUnits_append h hus hrest, if_neg h.ne_backslash.symm]

end units

/-- **The standard pattern quotes what one pass quotes**: it starts at the same texts, takes as
many bytes and gives the same content, and in the content the first two backslashes in a row
are made one. -/
theorem standard_eq_onePass (text : List Char) :
    standard.starts text = (quotedInOnePass text).isSome ∧
      standard.extract text = (quotedInOnePass text).getD .nothing ∧
      ∀ inside, PairHalved inside (unescapeFirst inside) := by
  refine and_assoc.mp ⟨?_, pairHalved_unescapeFirst⟩
  cases text with
  | nil => exact standard_unmarked (by simp)
  | cons mark cs =>
    by_cases hmark : IsMark mark
    · obtain ⟨us, rest, rfl, hus, hstops⟩ := exists_units mark cs
      cases hstops with
      | nil =>
        rw [List.append_nil, quotedInOnePass_unclosed hmark hus]
        exact standard_unclosed hmark hus
      | mark rest =>
        rw [quotedInOnePass_closed hmark hus]
        exact standard_closed hmark hus rest
      | backslash =>
        rw [quotedInOnePass_broken hmark hus .backslash]
        exact standard_broken hmark hus .backslash
      | lineBreak rest =>
        rw [quotedInOnePass_broken hmark hus (.lineBreak rest)]
        exact standard_broken hmark hus (.lineBreak rest)
    · have hnone : quotedInOnePass (mark :: cs) = none := by rw [quotedInOnePass, if_neg hmark]
      rw [hnone]
      exact standard_unmarked (by simpa using hmark)

/-! ## Up to the closing mark -/

/-- Text that holds no mark but behind a backslash that escapes it, and does not stop right
behind such a backslash. -/
inductive Sheltered (mark : Char) : List Char → Prop where
  | nil : Sheltered mark []
  | plain {c : Char} {cs : List Char} : c ≠ mark → c ≠ '\\' → Sheltered mark cs →
      Sheltered mark (c :: cs)
  | escaped {c : Char} {cs : List Char} : Sheltered mark cs → Sheltered mark ('\\' :: c :: cs)

/-- Units shelter marks: a backslash goes with the character behind it, whatever it is. -/
theorem Sheltered.of_units {mark : Char} {us : List Char} (h : Units mark us) :
    Sheltered mark us := by
  induction h with
  | nil => exact .nil
  | plain hm hb _ ih => exact .plain hm hb ih
  | escaped _ _ ih => exact .escaped ih

/-- A mark behind sheltered text is not sheltered. -/
theorem Sheltered.ne_append_mark {mark : Char} (hmark : mark ≠ '\\') {xs ys : List Char}
    (hxs : Sheltered mark xs) (hys : Sheltered mark ys) (rest : List Char) :
    xs ≠ ys ++ mark :: rest := by
  induction hys generalizing xs with
  | nil =>
    rintro rfl
    cases hxs with
    | plain hm => exact hm rfl
    | escaped => exact hmark rfl
  | plain hm hb _ ih =>
    intro he
    rw [he, List.cons_append] at hxs
    generalize hmore : _ ++ mark :: rest = more at hxs
    cases hxs with
    | plain _ _ hxs => exact ih hxs hmore.symm
    | escaped => exact hb rfl
  | escaped _ ih =>
    intro he
    rw [he, List.cons_append, List.cons_append] at hxs
    generalize hmore : _ ++ mark :: rest = more at hxs
    cases hxs with
    | plain _ hb => exact hb rfl
    | escaped hxs => exact ih hxs hmore.symm

/-- The first mark that is not sheltered comes first whatever stands behind it. -/
theorem Sheltered.eq_of_append_mark {mark : Char} (hmark : mark ≠ '\\') {xs ys us vs : List Char}
    (hxs : Sheltered mark xs) (hys : Sheltered mark ys) (h : xs ++ mark :: us = ys ++ mark :: vs) :
    xs = ys := by
  rcases List.append_eq_append_iff.mp h with ⟨more, rfl, hmore⟩ | ⟨more, rfl, hmore⟩
  · cases more with
    | nil => exact (List.append_nil xs).symm
    | cons c more =>
      obtain rfl := (List.cons.inj hmore).1
      exact absurd rfl (hys.ne_append_mark hmark hxs more)
  · cases more with
    | nil => exact List.append_nil ys
    | cons c more =>
      obtain rfl := (List.cons.inj hmore).1
      exact absurd rfl (hxs.ne_append_mark hmark hys more)

/-- What the text behind a quotation mark is said to quote, and the span that this makes:
everything up to the next mark that no backslash escapes, or else up to the end of the
text. -/
inductive Described (mark : Char) : List Char → List Char → Quoted → Prop where
  | closed {inside rest : List Char} : Sheltered mark inside →
      Described mark (inside ++ mark :: rest) inside
        ⟨Text.width (mark :: (inside ++ [mark])), unescapeFirst inside⟩
  | unclosed {cs : List Char} :
      (∀ inside rest, Sheltered mark inside → cs ≠ inside ++ mark :: rest) →
      Described mark cs cs ⟨Text.width (mark :: cs), unescapeFirst cs⟩

namespace Described

variable {mark : Char} {cs inside inside' : List Char} {span span' : Quoted}

theorem exists_described (mark : Char) (cs : List Char) :
    ∃ inside span, Described mark cs inside span := by
  by_cases hclosed : ∃ inside rest, Sheltered mark inside ∧ cs = inside ++ mark :: rest
  · obtain ⟨inside, rest, hinside, rfl⟩ := hclosed
    exact ⟨_, _, .closed hinside⟩
  · refine ⟨_, _, .unclosed fun inside rest hinside hcs => hclosed ?_⟩
    exact ⟨inside, rest, hinside, hcs⟩

/-- The description leaves no choice. -/
theorem unique (hmark : mark ≠ '\\') (h : Described mark cs inside span)
    (h' : Described mark cs inside' span') : inside' = inside ∧ span' = span := by
  cases h with
  | @closed inside rest hinside =>
    generalize hcs : inside ++ mark :: rest = cs at h'
    cases h' with
    | closed hinside' =>
      obtain rfl := hinside.eq_of_append_mark hmark hinside' hcs
      exact ⟨rfl, rfl⟩
    | unclosed hnone => exact absurd hcs.symm (hnone inside rest hinside)
  | @unclosed cs hnone =>
    generalize hcs : cs = text at h'
    cases h' with
    | @closed _ rest hinside' => exact absurd hcs (hnone _ rest hinside')
    | unclosed => exact ⟨rfl, rfl⟩

/-- What is described is quoted if it is made of units. -/
theorem standard_of_units (hmark : IsMark mark) (h : Described mark cs inside span)
    (hinside : Units mark inside) :
    standard.starts (mark :: cs) = true ∧ standard.extract (mark :: cs) = span := by
  cases h with
  | closed => exact standard_closed hmark hinside _
  | unclosed => exact standard_unclosed hmark hinside

/-- What is quoted is made of units: where reading them breaks off, nothing is. -/
theorem standard_of_not_units (hmark : IsMark mark) (h : Described mark cs inside span)
    (hinside : ¬ Units mark inside) :
    standard.starts (mark :: cs) = false ∧ standard.extract (mark :: cs) = .nothing := by
  obtain ⟨us, rest, rfl, hus, hstops⟩ := exists_units mark cs
  have hne := hmark.ne_backslash
  -- units up to the mark, or up to the end, would be what is described
  cases hstops with
  | nil =>
    rw [List.append_nil] at h
    have hnone : ∀ inside rest, Sheltered mark inside → us ≠ inside ++ mark :: rest :=
      fun inside rest hin => (Sheltered.of_units hus).ne_append_mark hne hin rest
    obtain ⟨rfl, -⟩ := h.unique hne (.unclosed hnone)
    exact absurd hus hinside
  | mark rest =>
    obtain ⟨rfl, -⟩ := h.unique hne (.closed (.of_units hus))
    exact absurd hus hinside
  | backslash => exact standard_broken hmark hus .backslash
  | lineBreak rest => exact standard_broken hmark hus (.lineBreak rest)

end Described

/-- **Where quoting keeps to its description.**  Behind a quotation mark the description
gives one span.  The standard pattern quotes just that span if every backslash in the
described text goes with a character behind it that is no line break, and it quotes nothing
otherwise. -/
theorem standard_follows_description {mark : Char} (hmark : IsMark mark) (cs : List Char) :
    ∃ inside span, Described mark cs inside span ∧
      (∀ inside' span', Described mark cs inside' span' → inside' = inside ∧ span' = span) ∧
      (standard.starts (mark :: cs) = true ∧ standard.extract (mark :: cs) = span ↔
        Units mark inside) ∧
      (¬ Units mark inside →
        standard.starts (mark :: cs) = false ∧ standard.extract (mark :: cs) = .nothing) := by
  obtain ⟨inside, span, h⟩ := Described.exists_described mark cs
  refine ⟨inside, span, h, fun _ _ => h.unique hmark.ne_backslash, ?_,
    h.standard_of_not_units hmark⟩
  constructor
  · rintro ⟨hstarts, -⟩
    refine Classical.byContradiction fun hinside => ?_
    rw [(h.standard_of_not_units hmark hinside).1] at hstarts
    cases hstarts
  · exact h.standard_of_units hmark

/-- An escaped mark inside, and text behind the span. -/
theorem standard_follows_description_escaped :
    IsMark '"' ∧
      Described '"' "a\\\"b\" c".toList "a\\\"b".toList ⟨6, "a\\\"b".toList⟩ ∧
      standard.starts "\"a\\\"b\" c".toList = true ∧
      standard.extract "\"a\\\"b\" c".toList = ⟨6, "a\\\"b".toList⟩ := by
  have hmark : IsMark '"' := .inr rfl
  have hunits : Units '"' ['a', '\\', '"', 'b'] :=
    .plain (by decide) (by decide) (.escaped (by decide) (.plain (by decide) (by decide) .nil))
  have hdescribed : Described '"' "a\\\"b\" c".toList "a\\\"b".toList ⟨6, "a\\\"b".toList⟩ :=
    .closed (.of_units hunits)
  obtain ⟨inside, span, -, hunique, hfollows, -⟩ :=
    standard_follows_description hmark "a\\\"b\" c".toList
  obtain ⟨rfl, rfl⟩ := hunique _ _ hdescribed
  exact ⟨hmark, hdescribed, hfollows.mpr hunits⟩

/-- Two texts whose first mark opens quoted text that the standard pattern misses: no mark
closes the one, which stops right behind a backslash, and in the other a backslash stands in
front of a line break. -/
theorem described_not_quoted :
    (Described '\'' ['a', '\\'] ['a', '\\'] ⟨3, ['a', '\\']⟩ ∧
      standard.starts ['\'', 'a', '\\'] = false ∧
      standard.extract ['\'', 'a', '\\'] = .nothing) ∧
    Described '\'' ['\\', '\n', '\''] ['\\', '\n'] ⟨4, ['\\', '\n']⟩ ∧
      standard.starts ['\'', '\\', '\n', '\''] = false ∧
      standard.extract ['\'', '\\', '\n', '\''] = .nothing := by
  have hmark : IsMark '\'' := .inl rfl
  have hunclosed : ∀ inside rest, Sheltered '\'' inside → ['a', '\\'] ≠ inside ++ '\'' :: rest := by
    intro inside rest _ htext
    have hmem : '\'' ∈ ['a', '\\'] := by simp [htext]
    exact absurd hmem (by decide)
  refine ⟨⟨.unclosed hunclosed, ?_⟩, .closed (.escaped .nil), ?_⟩
  · exact standard_broken hmark (.plain (by decide) (by decide) .nil) .backslash
  · exact standard_broken hmark .nil (.lineBreak _)

end Quoting
end TextTemplate
