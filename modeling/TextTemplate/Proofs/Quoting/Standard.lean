import TextTemplate.Dialect.Standard
import TextTemplate.Proofs.Pattern.Repetition

/-! # Standard quotation marks

Behind a quotation mark text is read in units, each a character or a backslash with the
character behind it, up to the first place where no unit starts (`exists_units`).  If that
place is the same mark, or the end of the text, the units are quoted
(`standard_closed`, `standard_unclosed`).  Otherwise a backslash stands there that goes with
nothing, and nothing is quoted (`standard_broken`).  Text that does not start with a quotation
mark is not quoted either (`standard_unmarked`). -/
namespace TextTemplate

namespace Pattern

/-- A pattern is started here, with nothing behind it. -/
def Cursor.start (text : List Char) : Cursor := ⟨none, 0, text, [], []⟩

/-- A pattern for the start of the text finds what it prefers there. -/
theorem find?_atStart (source : String) (n : Node) (groups : Nat) (text : List Char) :
    Pattern.find? ⟨source, atStart n, groups⟩ text =
      (outcomes n none [.start text]).head?.map fun e => ⟨0, text.take e.offset, e.groups⟩ := by
  have hanchored : (atStart n).anchored = true := rfl
  rw [find?, if_pos hanchored]
  rfl

theorem head?_distinct (ks : List Cursor) : (distinct 0 ks).head? = ks.head? := by
  cases ks with
  | nil => rfl
  | cons k ks => rw [distinct, if_neg (by simp), List.head?_cons, List.head?_cons]

/-- A choice prefers what its first alternative prefers. -/
theorem head?_outcomes_alt (first second : Node) (k : Cursor) :
    (outcomes (.alt first second) none [k]).head? =
      (outcomes first none [k]).head?.or (outcomes second none [k]).head? := by
  simp only [outcomes, List.flatMap_cons, List.flatMap_nil, List.append_nil, Cursor.pass, Site.part,
    Option.map_none, head?_distinct, List.head?_append]

theorem outcomes_group (index : Nat) (body : Node) (k : Cursor) :
    outcomes (.group index body) none [k] =
      distinct 0 ((outcomes body none [k]).map fun e => e.remember index (k.textTo e)) := by
  simp only [outcomes, List.flatMap_cons, List.flatMap_nil, List.append_nil]

theorem head?_outcomes_group (index : Nat) (body : Node) (k : Cursor) :
    (outcomes (.group index body) none [k]).head? =
      (outcomes body none [k]).head?.map fun e => e.remember index (k.textTo e) := by
  rw [outcomes_group, head?_distinct, List.head?_map]

theorem outcomes_seq (first second : Node) (ks : List Cursor) :
    outcomes (.seq first second) none ks = outcomes second none (outcomes first none ks) := rfl

/-! ## Fixed text -/

theorem outcomes_char (c : Char) (ks : List Cursor) :
    outcomes (.char c) none ks = ks.filterMap (·.afterText [c]) := rfl

theorem afterText_char {c : Char} {cs : List Char} {k : Cursor} (hk : k.rest = c :: cs) :
    k.afterText [c] = some (k.advance c cs) := by
  simp [Cursor.afterText, hk]

/-- A fixed text that comes next is passed. -/
theorem exists_afterText {text rest : List Char} {k : Cursor} (hk : k.rest = text ++ rest) :
    ∃ e, k.afterText text = some e ∧ e.rest = rest ∧ e.offset = k.offset + text.length := by
  induction text generalizing k with
  | nil => exact ⟨k, rfl, hk, rfl⟩
  | cons c text ih =>
    obtain ⟨e, he, herest, hoffset⟩ := ih (k := k.advance c (text ++ rest)) rfl
    refine ⟨e, by simpa [Cursor.afterText, hk] using he, herest, ?_⟩
    rw [hoffset, Cursor.advance_offset, List.length_cons]
    omega

/-- A fixed text that does not come next is not passed. -/
theorem afterText_eq_none {text : List Char} {k : Cursor} (hk : ¬ text <+: k.rest) :
    k.afterText text = none := by
  induction text generalizing k with
  | nil => exact absurd List.nil_prefix hk
  | cons c text ih =>
    cases hr : k.rest with
    | nil => simp [Cursor.afterText, hr]
    | cons d rest =>
      by_cases hd : d = c
      · subst hd
        have hmore : ¬ text <+: rest := by simpa [hr, List.cons_prefix_cons] using hk
        simpa [Cursor.afterText, hr] using @ih (k.advance d rest) hmore
      · simp [Cursor.afterText, hr, hd]

theorem afterText_char_eq_none {c : Char} {k : Cursor} (hk : k.rest.head? ≠ some c) :
    k.afterText [c] = none := by
  refine afterText_eq_none fun h => hk ?_
  obtain ⟨rest, hrest⟩ := h
  simp [← hrest]

/-! ## Units of quoted text -/

/-- The quotation marks. -/
def IsMark (c : Char) : Prop := c = '\'' ∨ c = '"'

instance (c : Char) : Decidable (IsMark c) := inferInstanceAs (Decidable (_ ∨ _))

/-- The characters that may stand for themselves between quotation marks. -/
def unquoted (mark : Char) : Unicode.CharSet :=
  ((Unicode.CharSet.single mark).union (.single '\\')).complement.scalars

theorem inRanges_cons {n lo hi : Nat} {rest : List (Nat × Nat)} :
    Unicode.CharSet.inRanges n ((lo, hi) :: rest) = true ↔
      lo ≤ n ∧ (n ≤ hi ∨ Unicode.CharSet.inRanges n rest = true) := by
  rw [Unicode.CharSet.inRanges]
  by_cases hlo : n < lo
  · simp [hlo, Nat.not_le_of_lt hlo]
  · by_cases hhi : n ≤ hi <;> simp [hlo, hhi, Nat.le_of_not_lt hlo]

/-- The characters with two gaps of one character each. -/
theorem inRanges_gaps {a b n : Nat} (ha : 0 < a) (hab : a < b) (hb : b < 0xd7ff)
    (hn : n.isValidChar) :
    Unicode.CharSet.inRanges n
      [(0, a - 1), (a + 1, b - 1), (b + 1, 0xd7ff), (0xe000, Unicode.CharSet.top)] = true ↔
      n ≠ a ∧ n ≠ b := by
  have htop : Unicode.CharSet.top = 0x10ffff := rfl
  have hnil : Unicode.CharSet.inRanges n [] = true ↔ False := by simp [Unicode.CharSet.inRanges]
  simp only [inRanges_cons, hnil, htop]
  unfold Nat.isValidChar at hn
  omega

theorem contains_unquoted {mark c : Char} (h : IsMark mark) :
    (unquoted mark).contains c = true ↔ c ≠ mark ∧ c ≠ '\\' := by
  have hvalid : c.toNat.isValidChar := c.valid
  have hne : ∀ d : Char, c ≠ d ↔ c.toNat ≠ d.toNat := fun d => not_congr Char.toNat_inj.symm
  rw [hne, hne]
  rcases h with rfl | rfl <;>
    exact inRanges_gaps (by decide) (by decide) (by decide) hvalid

theorem contains_unquoted_eq_false {mark c : Char} (h : IsMark mark) (hc : c = mark ∨ c = '\\') :
    (unquoted mark).contains c = false := by
  rw [Bool.eq_false_iff, Ne, contains_unquoted h]
  rintro ⟨hm, hb⟩
  exact hc.elim hm hb

/-- The characters with a gap of one character. -/
theorem inRanges_gap {a n : Nat} (ha : 0 < a) (hb : a < 0xd7ff) (hn : n.isValidChar) :
    Unicode.CharSet.inRanges n
      [(0, a - 1), (a + 1, 0xd7ff), (0xe000, Unicode.CharSet.top)] = true ↔ n ≠ a := by
  have htop : Unicode.CharSet.top = 0x10ffff := rfl
  have hnil : Unicode.CharSet.inRanges n [] = true ↔ False := by simp [Unicode.CharSet.inRanges]
  simp only [inRanges_cons, hnil, htop]
  unfold Nat.isValidChar at hn
  omega

/-- The characters that may stand behind a backslash. -/
def unbroken : Unicode.CharSet := (Unicode.CharSet.single '\n').complement.scalars

theorem contains_unbroken {c : Char} : unbroken.contains c = true ↔ c ≠ '\n' := by
  have hvalid : c.toNat.isValidChar := c.valid
  rw [Ne, ← Char.toNat_inj]
  exact inRanges_gap (by decide) (by decide) hvalid

/-- Text made of units. -/
inductive Units (mark : Char) : List Char → Prop where
  | nil : Units mark []
  | plain {c : Char} {us : List Char} : c ≠ mark → c ≠ '\\' → Units mark us → Units mark (c :: us)
  | escaped {c : Char} {us : List Char} : c ≠ '\n' → Units mark us → Units mark ('\\' :: c :: us)

/-- Text without the quotation mark and without backslashes is made of units. -/
theorem units_of_notMem {mark : Char} {text : List Char} (hm : mark ∉ text) (hb : '\\' ∉ text) :
    Units mark text := by
  induction text with
  | nil => exact .nil
  | cons c text ih =>
    rw [List.mem_cons, not_or] at hm hb
    exact .plain (Ne.symm hm.1) (Ne.symm hb.1) (ih hm.2 hb.2)

/-- A quotation mark behind units is no unit. -/
theorem Units.not_concat {mark : Char} {us : List Char} (h : Units mark us) :
    ¬ Units mark (us ++ [mark]) := by
  induction h with
  | nil =>
    intro hmark
    cases hmark with
    | plain hm => exact hm rfl
  | plain _ hb _ ih =>
    rw [List.cons_append]
    generalize _ ++ [mark] = more at ih ⊢
    intro hmark
    cases hmark with
    | plain _ _ hmore => exact ih hmore
    | escaped => exact hb rfl
  | escaped _ _ ih =>
    intro hmark
    cases hmark with
    | plain _ hb => exact hb rfl
    | escaped _ hmore => exact ih hmore

/-- Text that does not start with a unit. -/
inductive Stops (mark : Char) : List Char → Prop where
  | nil : Stops mark []
  | mark (rest : List Char) : Stops mark (mark :: rest)
  | backslash : Stops mark ['\\']
  | lineBreak (rest : List Char) : Stops mark ('\\' :: '\n' :: rest)

/-- Every text is units and then text that does not start with one. -/
theorem exists_units (mark : Char) (text : List Char) :
    ∃ us rest, text = us ++ rest ∧ Units mark us ∧ Stops mark rest := by
  induction hn : text.length using Nat.strongRecOn generalizing text with
  -- a unit is one character or two
  | ind n ih =>
    subst hn
    cases text with
    | nil => exact ⟨[], [], rfl, .nil, .nil⟩
    | cons c cs =>
      by_cases hmark : c = mark
      · subst hmark
        exact ⟨[], c :: cs, rfl, .nil, .mark cs⟩
      by_cases hescape : c = '\\'
      · subst hescape
        cases cs with
        | nil => exact ⟨[], ['\\'], rfl, .nil, .backslash⟩
        | cons d ds =>
          by_cases hbreak : d = '\n'
          · subst hbreak
            exact ⟨[], _, rfl, .nil, .lineBreak ds⟩
          · have hlt : ds.length < ('\\' :: d :: ds).length := Nat.lt_add_of_pos_right Nat.two_pos
            obtain ⟨us, rest, rfl, hus, hrest⟩ := ih ds.length hlt ds rfl
            exact ⟨'\\' :: d :: us, rest, rfl, .escaped hbreak hus, hrest⟩
      · obtain ⟨us, rest, rfl, hus, hrest⟩ := ih cs.length (by simp) cs rfl
        exact ⟨c :: us, rest, rfl, .plain hmark hescape hus, hrest⟩

theorem quotedUnit_eq {mark : Char} (h : IsMark mark) :
    quotedUnit mark = .alt (.set (unquoted mark)) (.seq (.char '\\') (.set unbroken)) := by
  rcases h with rfl | rfl <;> rfl

theorem takesText_quotedUnit {mark : Char} (h : IsMark mark) :
    (quotedUnit mark).takesText = true := by
  rcases h with rfl | rfl <;> rfl

/-- A unit takes a character that may stand for itself. -/
theorem outcomes_quotedUnit {mark c : Char} (h : IsMark mark) (hm : c ≠ mark) (hb : c ≠ '\\')
    {k : Cursor} {cs : List Char} (hk : k.rest = c :: cs) :
    outcomes (quotedUnit mark) none [k] = [k.advance c cs] := by
  have hc := (contains_unquoted h).mpr ⟨hm, hb⟩
  have hesc : k.afterText ['\\'] = none := afterText_char_eq_none (by simp [hk, hb])
  rw [quotedUnit_eq h]
  simp [outcomes, Cursor.pass, Site.part, Node.char, hk, hc, hesc, distinct]

/-- A unit takes a backslash with the character behind it. -/
theorem outcomes_quotedUnit_escaped {mark c : Char} (h : IsMark mark) (hc : c ≠ '\n')
    {k : Cursor} {cs : List Char} (hk : k.rest = '\\' :: c :: cs) :
    outcomes (quotedUnit mark) none [k] = [(k.advance '\\' (c :: cs)).advance c cs] := by
  have hset := contains_unquoted_eq_false h (.inr rfl)
  have hesc := afterText_char hk
  have hbehind := contains_unbroken.mpr hc
  rw [quotedUnit_eq h]
  simp [outcomes, Cursor.pass, Site.part, Node.char, hk, hset, hesc, hbehind, distinct,
    Cursor.advance]

/-- Where no unit starts, none is taken. -/
theorem outcomes_quotedUnit_of_stops {mark : Char} (h : IsMark mark) {k : Cursor}
    (hk : Stops mark k.rest) : outcomes (quotedUnit mark) none [k] = [] := by
  have hset := contains_unquoted_eq_false h (.inr rfl)
  have hbreak : unbroken.contains '\n' = false := by
    rw [Bool.eq_false_iff, Ne, contains_unbroken]
    exact fun hn => hn rfl
  rw [quotedUnit_eq h]
  generalize hr : k.rest = rest at hk
  cases hk with
  | nil => simp [outcomes, Cursor.pass, Node.char, hr, Cursor.afterText, distinct]
  | mark rest =>
    have hmark := contains_unquoted_eq_false h (.inl rfl)
    have hne : mark ≠ '\\' := by rcases h with rfl | rfl <;> decide
    simp [outcomes, Cursor.pass, Site.part, Node.char, hr, hmark, Cursor.afterText, hne, distinct]
  | backslash =>
    simp [outcomes, Cursor.pass, Site.part, Node.char, hr, hset, Cursor.afterText, distinct,
      Cursor.advance]
  | lineBreak rest =>
    simp [outcomes, Cursor.pass, Site.part, Node.char, hr, hset, hbreak, Cursor.afterText, distinct,
      Cursor.advance]

/-- Units lead over the text that they make up. -/
theorem rounds_of_units {mark : Char} (h : IsMark mark) {us rest : List Char}
    (hus : Units mark us) (hrest : Stops mark rest) {k : Cursor} (hk : k.rest = us ++ rest) :
    ∃ l, Rounds (outcomes (quotedUnit mark) none) k l ∧ l.rest = rest ∧
      l.offset = k.offset + us.length ∧ l.groups = k.groups := by
  induction hus generalizing k with
  | nil => exact ⟨k, .last (outcomes_quotedUnit_of_stops h (by rwa [hk])), hk, rfl, rfl⟩
  | @plain c us hm hb _ ih =>
    obtain ⟨l, hl, hlrest, hoffset, hgroups⟩ := ih (k := k.advance c (us ++ rest)) rfl
    refine ⟨l, .more (outcomes_quotedUnit h hm hb hk) (Nat.lt_succ_self _) ?_ hl, hlrest, ?_,
      hgroups⟩
    · rw [hk]
      exact Nat.lt_succ_self _
    · rw [hoffset, Cursor.advance_offset, List.length_cons]
      omega
  | @escaped c us hc _ ih =>
    obtain ⟨l, hl, hlrest, hoffset, hgroups⟩ :=
      ih (k := (k.advance '\\' (c :: (us ++ rest))).advance c (us ++ rest)) rfl
    refine ⟨l, .more (outcomes_quotedUnit_escaped h hc hk) ?_ ?_ hl, hlrest, ?_, hgroups⟩
    · simp only [Cursor.advance_offset]
      omega
    · rw [hk]
      exact Nat.lt_add_of_pos_right Nat.two_pos
    · rw [hoffset, Cursor.advance_offset, Cursor.advance_offset, List.length_cons,
        List.length_cons]
      omega


/-! ## Quoted spans -/

/-- Where text does not start with its quotation mark, there is no quoted span. -/
theorem outcomes_quotedSpan_eq_nil {mark : Char} {index : Nat} {closing : Node} {k : Cursor}
    (hk : k.rest.head? ≠ some mark) : outcomes (quotedSpan mark index closing) none [k] = [] := by
  rw [quotedSpan, outcomes_seq, outcomes_char]
  simp [afterText_char_eq_none hk]

/-- **Behind its quotation mark a quoted span takes units as long as there are any.**  Every
other place where it might close stands in front of a unit. -/
theorem outcomes_quotedSpan {mark : Char} (h : IsMark mark) (index : Nat) (closing : Node)
    {us rest : List Char} (hus : Units mark us) (hrest : Stops mark rest) {k : Cursor}
    (hk : k.rest = mark :: (us ++ rest)) :
    ∃ l others, outcomes (quotedSpan mark index closing) none [k] =
        outcomes closing none (l :: others) ∧ l.rest = rest ∧
      l.offset = k.offset + us.length + 1 ∧
      l.groups = (index, us) :: k.groups.filter (·.1 != index) ∧
      ∀ e ∈ others, ¬ Stops mark e.rest := by
  have hopen : outcomes (.char mark) none [k] = [k.advance mark (us ++ rest)] := by
    rw [outcomes_char]
    simp [afterText_char hk]
  generalize hk₁ : k.advance mark (us ++ rest) = k₁ at hopen
  have hstart : k₁.offset = k.offset + 1 ∧ k₁.rest = us ++ rest ∧ k₁.groups = k.groups := by
    subst hk₁
    exact ⟨rfl, rfl, rfl⟩
  obtain ⟨l, hl, hlrest, hloffset, hlgroups⟩ :=
    rounds_of_units h hus hrest (k := k₁.enter none) hstart.2.1
  obtain ⟨others, hunits, hothers⟩ := tours_of_rounds hl
  rw [← outcomes_repeat (takesText_quotedUnit h)] at hunits
  have hoffset : l.offset = k₁.offset + us.length := hloffset
  have hinside : k₁.textTo l = us := by
    rw [Cursor.textTo, hoffset, hstart.2.1, Nat.add_sub_cancel_left, List.take_left']
    rfl
  -- the group remembers what the units cover, wherever they may end
  have hgroup := outcomes_group index (.repeat (quotedUnit mark) 0 none true) k₁
  rw [hunits] at hgroup
  rw [List.map_cons, distinct, if_neg (by simp), hinside] at hgroup
  refine ⟨l.remember index us, _, by rw [quotedSpan, outcomes_seq, hopen, outcomes_seq, hgroup],
    hlrest, ?_, ?_, ?_⟩
  · show l.offset = _
    rw [hoffset, hstart.1]
    omega
  · have hsame : l.groups = k.groups := hlgroups.trans hstart.2.2
    show (index, us) :: l.groups.filter _ = _
    rw [hsame]
  · intro e he hstops
    obtain ⟨e', he', rfl⟩ := List.mem_map.mp (mem_of_mem_distinct he)
    exact hothers e' he' (outcomes_quotedUnit_of_stops h hstops)

/-- The preferred end of a quoted span that its quotation mark closes. -/
theorem head?_outcomes_closed {mark : Char} {l : Cursor} {others : List Cursor}
    (hothers : ∀ e ∈ others, ¬ Stops mark e.rest) :
    (outcomes (.char mark) none (l :: others)).head? = l.afterText [mark] := by
  have hnone : others.filterMap (·.afterText [mark]) = [] := by
    refine List.filterMap_eq_nil_iff.mpr fun e he => afterText_char_eq_none fun hhead => ?_
    obtain ⟨cs, hcs⟩ := List.head?_eq_some_iff.mp hhead
    exact hothers e he (by rw [hcs]; exact .mark cs)
  rw [outcomes_char]
  cases hl : l.afterText [mark] with
  | none => rw [List.filterMap_cons_none hl, hnone, List.head?_nil]
  | some e => rw [List.filterMap_cons_some hl, List.head?_cons]

/-- The preferred end of a quoted span that runs to the end of the text. -/
theorem head?_outcomes_unclosed {mark : Char} {l : Cursor} {others : List Cursor}
    (hothers : ∀ e ∈ others, ¬ Stops mark e.rest) :
    (outcomes (.mark .textEnd) none (l :: others)).head? =
      if l.rest = [] then some l else none := by
  have hnone : others.filter (fun k => Mark.textEnd.holds k.before k.rest.head?) = [] := by
    refine List.filter_eq_nil_iff.mpr fun e he hend => ?_
    have hnil : e.rest = [] := by simpa [Mark.holds] using hend
    exact hothers e he (by rw [hnil]; exact .nil)
  rw [outcomes, List.filter_cons, hnone]
  by_cases hl : l.rest = [] <;> simp [Mark.holds, hl]


/-! ## The standard pattern -/

/-- The quoted spans of the standard pattern: each kind closed, or running to the end. -/
def quotedSpans : Node :=
  .alt (quotedSpan '\'' 2 (.char '\'')) (.alt (quotedSpan '\'' 3 (.mark .textEnd))
    (.alt (quotedSpan '"' 4 (.char '"')) (quotedSpan '"' 5 (.mark .textEnd))))

theorem find?_standardQuote (text : List Char) :
    standardQuote.find? text = (outcomes quotedSpans none [.start text]).head?.map fun e =>
      ⟨0, text.take e.offset, (e.remember 1 (text.take e.offset)).groups⟩ := by
  have hquote : standardQuote = ⟨standardQuoteText, atStart (.group 1 quotedSpans), 5⟩ := rfl
  rw [hquote, find?_atStart, head?_outcomes_group, Option.map_map]
  rfl

/-- What the standard pattern finds is a span of one of its four kinds, and the groups from
the second on hold what is inside. -/
theorem find?_standardQuote_of_head {taken rest inside : List Char} {e : Cursor} {index : Nat}
    (he : (outcomes quotedSpans none [.start (taken ++ rest)]).head? = some e)
    (hoffset : e.offset = taken.length) (hindex : index ∈ [2, 3, 4, 5])
    (hgroups : e.groups = [(index, inside)]) :
    ∃ m, standardQuote.find? (taken ++ rest) = some m ∧ m.text = taken ∧
      standardQuote.groupTexts 2 m = [inside] := by
  refine ⟨_, by rw [find?_standardQuote, he, Option.map_some], ?_, ?_⟩
  · show List.take e.offset (taken ++ rest) = taken
    rw [hoffset, List.take_left]
  · show ((List.range 6).drop 2).filterMap
      (Match.group? ⟨0, _, (1, _) :: e.groups.filter (·.1 != 1)⟩) = [inside]
    rw [hgroups]
    simp only [List.mem_cons, List.not_mem_nil, or_false] at hindex
    rcases hindex with rfl | rfl | rfl | rfl <;> rfl

/-- Of the four kinds of spans the two of the quotation mark at the front are tried, the
closed one first. -/
theorem head?_outcomes_quotedSpans {mark : Char} (h : IsMark mark) {us rest : List Char}
    (hus : Units mark us) (hrest : Stops mark rest) :
    ∃ (l m : Cursor) (index : Nat), (index = 2 ∨ index = 4) ∧
      (outcomes quotedSpans none [.start (mark :: (us ++ rest))]).head? =
        (l.afterText [mark]).or (if rest = [] then some m else none) ∧
      l.rest = rest ∧ l.offset = us.length + 1 ∧ m.offset = us.length + 1 ∧
      l.groups = [(index, us)] ∧ m.groups = [(index + 1, us)] := by
  have hspan : ∀ index, ∃ l m : Cursor, l.rest = rest ∧ l.offset = us.length + 1 ∧
      m.offset = us.length + 1 ∧ l.groups = [(index, us)] ∧ m.groups = [(index + 1, us)] ∧
      (outcomes (quotedSpan mark index (.char mark)) none
        [.start (mark :: (us ++ rest))]).head? = l.afterText [mark] ∧
      (outcomes (quotedSpan mark (index + 1) (.mark .textEnd)) none
        [.start (mark :: (us ++ rest))]).head? = if rest = [] then some m else none := by
    intro index
    have hk : (Cursor.start (mark :: (us ++ rest))).rest = mark :: (us ++ rest) := rfl
    obtain ⟨l, others, hl, hlrest, hloffset, hlgroups, hlothers⟩ :=
      outcomes_quotedSpan h index (.char mark) hus hrest hk
    obtain ⟨m, others', hm, hmrest, hmoffset, hmgroups, hmothers⟩ :=
      outcomes_quotedSpan h (index + 1) (.mark .textEnd) hus hrest hk
    refine ⟨l, m, hlrest, by simpa [Cursor.start] using hloffset,
      by simpa [Cursor.start] using hmoffset, hlgroups, hmgroups, ?_, ?_⟩
    · rw [hl, head?_outcomes_closed hlothers]
    · rw [hm, head?_outcomes_unclosed hmothers, hmrest]
  rcases h with rfl | rfl
  · obtain ⟨l, m, hlrest, hloffset, hmoffset, hlgroups, hmgroups, hl, hm⟩ := hspan 2
    have hother : (Cursor.start ('\'' :: (us ++ rest))).rest.head? ≠ some '"' := by
      simp [Cursor.start]
    refine ⟨l, m, 2, .inl rfl, ?_, hlrest, hloffset, hmoffset, hlgroups, hmgroups⟩
    rw [quotedSpans, head?_outcomes_alt, hl, head?_outcomes_alt, hm, head?_outcomes_alt,
      outcomes_quotedSpan_eq_nil hother, outcomes_quotedSpan_eq_nil hother]
    simp
  · obtain ⟨l, m, hlrest, hloffset, hmoffset, hlgroups, hmgroups, hl, hm⟩ := hspan 4
    have hother : (Cursor.start ('"' :: (us ++ rest))).rest.head? ≠ some '\'' := by
      simp [Cursor.start]
    refine ⟨l, m, 4, .inr rfl, ?_, hlrest, hloffset, hmoffset, hlgroups, hmgroups⟩
    rw [quotedSpans, head?_outcomes_alt, outcomes_quotedSpan_eq_nil hother, head?_outcomes_alt,
      outcomes_quotedSpan_eq_nil hother, head?_outcomes_alt, hl, hm]
    rfl

section units
variable {mark : Char} (h : IsMark mark) {us : List Char} (hus : Units mark us)
include h hus

/-- Units between two equal quotation marks are found. -/
theorem find?_standardQuote_closed (rest : List Char) :
    ∃ m, standardQuote.find? (mark :: (us ++ mark :: rest)) = some m ∧
      m.text = mark :: (us ++ [mark]) ∧ standardQuote.groupTexts 2 m = [us] := by
  obtain ⟨l, m, index, hindex, hhead, hlrest, hloffset, -, hlgroups, -⟩ :=
    head?_outcomes_quotedSpans h hus (.mark rest)
  have hwhole : mark :: (us ++ mark :: rest) = (mark :: (us ++ [mark])) ++ rest := by simp
  rw [afterText_char hlrest, Option.some_or] at hhead
  rw [hwhole] at hhead ⊢
  refine find?_standardQuote_of_head hhead ?_ (by rcases hindex with rfl | rfl <;> simp) hlgroups
  rw [Cursor.advance_offset, hloffset]
  simp

/-- Units behind a quotation mark are found up to the end of the text. -/
theorem find?_standardQuote_unclosed :
    ∃ m, standardQuote.find? (mark :: us) = some m ∧ m.text = mark :: us ∧
      standardQuote.groupTexts 2 m = [us] := by
  obtain ⟨l, m, index, hindex, hhead, hlrest, -, hmoffset, -, hmgroups⟩ :=
    head?_outcomes_quotedSpans h hus .nil
  have hclosed : l.afterText [mark] = none := afterText_char_eq_none (by simp [hlrest])
  rw [hclosed, if_pos rfl, Option.none_or, ← List.cons_append] at hhead
  have hfound := find?_standardQuote_of_head hhead (by rw [hmoffset]; simp)
    (by rcases hindex with rfl | rfl <;> simp) hmgroups
  rwa [List.append_nil] at hfound

/-- Where a backslash stands behind the units and starts no unit, nothing is found. -/
theorem find?_standardQuote_broken {rest : List Char} (hrest : Stops mark ('\\' :: rest)) :
    standardQuote.find? (mark :: (us ++ '\\' :: rest)) = none := by
  obtain ⟨l, m, index, -, hhead, hlrest, -⟩ := head?_outcomes_quotedSpans h hus hrest
  have hne : '\\' ≠ mark := by rcases h with rfl | rfl <;> decide
  have hclosed : l.afterText [mark] = none := afterText_char_eq_none (by simp [hlrest, hne])
  rw [hclosed, if_neg (List.cons_ne_nil _ _), Option.none_or] at hhead
  rw [find?_standardQuote, hhead, Option.map_none]

end units

/-- Text that starts with something else is not found. -/
theorem find?_standardQuote_eq_none {text : List Char} (h : ∀ c ∈ text.head?, ¬ IsMark c) :
    standardQuote.find? text = none := by
  have hnone : ∀ mark index closing, IsMark mark →
      outcomes (quotedSpan mark index closing) none [.start text] = [] := by
    intro mark index closing hmark
    exact outcomes_quotedSpan_eq_nil fun he => h mark he hmark
  rw [find?_standardQuote, quotedSpans, head?_outcomes_alt, head?_outcomes_alt, head?_outcomes_alt,
    hnone _ _ _ (.inl rfl), hnone _ _ _ (.inl rfl), hnone _ _ _ (.inr rfl), hnone _ _ _ (.inr rfl)]
  rfl

end Pattern

namespace Quoting

theorem unescapeFirst_eq {text : List Char} (h : '\\' ∉ text) : unescapeFirst text = text := by
  fun_induction unescapeFirst text with
  | case1 rest => simp at h
  | case2 c rest _ ih => rw [ih (fun hc => h (List.mem_cons_of_mem c hc))]
  | case3 => rfl

theorem take?_of_starts_eq_false {q : Quoting} {text : List Char} (h : q.starts text = false) :
    q.take? text = none := by
  rw [take?, if_neg (by simp [h])]

/-- What the standard pattern finds is quoted, with the first two backslashes in a row
made one. -/
theorem standard_of_find? {text taken inside : List Char} {m : Pattern.Match}
    (hm : Pattern.standardQuote.find? text = some m) (htext : m.text = taken)
    (hgroups : Pattern.standardQuote.groupTexts 2 m = [inside]) :
    standard.starts text = true ∧
      standard.extract text = ⟨Text.width taken, unescapeFirst inside⟩ := by
  constructor
  · simp [standard, starts, Pattern.isMatch, hm]
  · simp only [standard, extract, extractPattern, hm, hgroups, Pattern.Match.length, htext,
      List.flatten_cons, List.flatten_nil, List.append_nil]

/-- Where the standard pattern finds nothing, nothing is quoted. -/
theorem standard_of_find?_eq_none {text : List Char}
    (h : Pattern.standardQuote.find? text = none) :
    standard.starts text = false ∧ standard.extract text = .nothing := by
  constructor
  · simp [standard, starts, Pattern.isMatch, h]
  · simp only [standard, extract, extractPattern, h]

section units
variable {mark : Char} (h : Pattern.IsMark mark) {us : List Char} (hus : Pattern.Units mark us)
include h hus

/-- **Units between two equal quotation marks are quoted**, whatever comes behind them. -/
theorem standard_closed (rest : List Char) :
    standard.starts (mark :: (us ++ mark :: rest)) = true ∧
      standard.extract (mark :: (us ++ mark :: rest)) =
        ⟨Text.width (mark :: (us ++ [mark])), unescapeFirst us⟩ := by
  obtain ⟨m, hfind, htext, hgroups⟩ := Pattern.find?_standardQuote_closed h hus rest
  exact standard_of_find? hfind htext hgroups

/-- **Without a closing quotation mark the units up to the end of the text are quoted.** -/
theorem standard_unclosed :
    standard.starts (mark :: us) = true ∧
      standard.extract (mark :: us) = ⟨Text.width (mark :: us), unescapeFirst us⟩ := by
  obtain ⟨m, hfind, htext, hgroups⟩ := Pattern.find?_standardQuote_unclosed h hus
  exact standard_of_find? hfind htext hgroups

/-- **Behind a quotation mark a backslash that starts no unit stops all quoting.** -/
theorem standard_broken {rest : List Char} (hrest : Pattern.Stops mark ('\\' :: rest)) :
    standard.starts (mark :: (us ++ '\\' :: rest)) = false ∧
      standard.extract (mark :: (us ++ '\\' :: rest)) = .nothing :=
  standard_of_find?_eq_none (Pattern.find?_standardQuote_broken h hus hrest)

theorem take?_standard_closed (rest : List Char) :
    standard.take? (mark :: (us ++ mark :: rest)) =
      some (mark :: (us ++ [mark]), unescapeFirst us, rest) := by
  obtain ⟨hstarts, hextract⟩ := standard_closed h hus rest
  have hwhole : mark :: (us ++ mark :: rest) = (mark :: (us ++ [mark])) ++ rest := by simp
  rw [hwhole] at hstarts hextract ⊢
  exact take?_eq_some_iff.mpr ⟨hstarts, hextract, rfl, List.cons_ne_nil _ _⟩

theorem take?_standard_unclosed :
    standard.take? (mark :: us) = some (mark :: us, unescapeFirst us, []) := by
  obtain ⟨hstarts, hextract⟩ := standard_unclosed h hus
  exact take?_eq_some_iff.mpr
    ⟨hstarts, hextract, (List.append_nil _).symm, List.cons_ne_nil _ _⟩

theorem take?_standard_broken {rest : List Char} (hrest : Pattern.Stops mark ('\\' :: rest)) :
    standard.take? (mark :: (us ++ '\\' :: rest)) = none :=
  take?_of_starts_eq_false (standard_broken h hus hrest).1

end units

/-- Text that does not start with a quotation mark is not quoted. -/
theorem standard_unmarked {text : List Char} (h : ∀ c ∈ text.head?, ¬ Pattern.IsMark c) :
    standard.starts text = false ∧ standard.extract text = .nothing :=
  standard_of_find?_eq_none (Pattern.find?_standardQuote_eq_none h)

/-- Text between two equal quotation marks is quoted as it stands. -/
theorem take?_standard_of_mark {mark : Char} (h : Pattern.IsMark mark) {inside rest : List Char}
    (hm : mark ∉ inside) (hb : '\\' ∉ inside) :
    standard.take? (mark :: (inside ++ mark :: rest)) =
      some (mark :: (inside ++ [mark]), inside, rest) := by
  rw [take?_standard_closed h (Pattern.units_of_notMem hm hb), unescapeFirst_eq hb]

theorem take?_standard_eq_none {text : List Char} (h : ∀ c ∈ text.head?, ¬ Pattern.IsMark c) :
    standard.take? text = none :=
  take?_of_starts_eq_false (standard_unmarked h).1

end Quoting
end TextTemplate
