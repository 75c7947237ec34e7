import Mathlib.Data.Bool.AllAny
import TextTemplate.Proofs.Json.Reading
import TextTemplate.Text.Bytes
import TextTemplate.Yaml.Layout
import TextTemplate.Yaml.Resolution

/-! # Words of JSON as scalars

JSON and documents agree on most words but not on all (`portable` lists what sets them apart).
A string of portable words is a quoted scalar with the same text, and a number, a truth value
or null is a plain scalar that stands for the same value. -/
namespace TextTemplate.Yaml

/-- The words of JSON that a document gives the meaning they have in JSON: no character that may
not stand in a document or breaks a line there, no escapes for pairs of surrogates, no number
that comes out differently, and keys whose colon comes on the same line and soon enough. -/
def portable : Json.Lexis where
  plain c := Json.Lexis.json.plain c ∧ isAllowed c = true ∧ c ≠ '\u0085' ∧ isBreak c = false
  -- only the escapes for pairs are longer
  escape c e := Json.Escaped c e ∧ e.length ≤ 5
  number n t := Json.Lexis.json.number n t ∧ plainValue? (String.ofList t) = some (.number n)
  key t a := '\n' ∉ a ∧ '\r' ∉ a ∧ Text.width (t ++ a) ≤ keyLimit

theorem portable_within : portable.Within .json :=
  ⟨fun _ h => h.1, fun _ _ h => h.1, fun _ _ h => h.1, fun _ _ _ => trivial⟩

/-! ## Cursors -/

namespace Cursor

theorem skip_skip (m n : Nat) (c : Cursor) : (c.skip m).skip n = c.skip (m + n) := by
  induction m generalizing c with
  | zero => rw [skip, Nat.zero_add]
  | succ m ih => rw [skip, ih, Nat.succ_add, skip]

theorem next_skip (n : Nat) (c : Cursor) : c.next.skip n = c.skip (n + 1) := rfl

/-- Going on inside a line stays on it. -/
theorem skip_inside {w more : List Char} {c : Cursor} (hrest : c.rest = w ++ more)
    (hw : ∀ x ∈ w, isBreak x = false) :
    (c.skip w.length).line = c.line ∧ (c.skip w.length).column = c.column + w.length ∧
      (c.skip w.length).offset = c.offset + Text.width w := by
  induction w generalizing c with
  | nil => exact ⟨rfl, rfl, rfl⟩
  | cons x w ih =>
    obtain ⟨rest, offset, line, column⟩ := c
    subst hrest
    have hx : isBreak x = false := hw x List.mem_cons_self
    have hnext : next ⟨x :: w ++ more, offset, line, column⟩ =
        ⟨w ++ more, offset + x.utf8Size, line, column + 1⟩ := by
      simp [next, hx]
    obtain ⟨hline, hcolumn, hoffset⟩ :=
      @ih ⟨w ++ more, offset + x.utf8Size, line, column + 1⟩ rfl
        fun y hy => hw y (List.mem_cons_of_mem x hy)
    rw [List.length_cons, skip, hnext, hline, hcolumn, hoffset]
    refine ⟨rfl, ?_, ?_⟩
    · show column + 1 + w.length = column + (w.length + 1)
      omega
    · show offset + x.utf8Size + Text.width w = offset + Text.width (x :: w)
      rw [Text.width_cons]
      omega

/-- The characters in front that pass a test end where one does not. -/
theorem span_eq {test : Char → Bool} {w more : List Char} {c : Cursor} (hrest : c.rest = w ++ more)
    (hw : ∀ x ∈ w, test x = true) (hmore : ∀ x ∈ more.head?, test x = false) :
    c.span test = (w, c.skip w.length) := by
  have htake : (w ++ more).takeWhile test = w := by
    rw [List.takeWhile_append_of_pos hw]
    cases more with
    | nil => simp
    | cons x more => simp [hmore x rfl]
  rw [span, hrest, htake]

/-- A document starts or ends only at the start of a line. -/
theorem atBoundary_of_column {c : Cursor} (h : 0 < c.column) : c.atBoundary = false := by
  have hne : (c.column == 0) = false := by
    rw [beq_eq_false_iff_ne]
    omega
  simp [atBoundary, atMarker, hne]

end Cursor

/-! ## Characters -/

/-- A printing character of ASCII other than the space. -/
def IsGraphic (c : Char) : Prop := 0x21 ≤ c.toNat ∧ c.toNat ≤ 0x7e

instance (c : Char) : Decidable (IsGraphic c) := inferInstanceAs (Decidable (_ ∧ _))

theorem IsGraphic.isBreak_eq {c : Char} (h : IsGraphic c) : isBreak c = false := by
  simp only [isBreak, Bool.or_eq_false_iff, beq_eq_false_iff_ne]
  refine ⟨⟨?_, ?_⟩, ?_⟩ <;>
  · rintro rfl
    exact absurd h (by decide)

theorem IsGraphic.isWhite_eq {c : Char} (h : IsGraphic c) : isWhite c = false := by
  simp only [isWhite, isBlank, h.isBreak_eq, Bool.or_false, Bool.or_eq_false_iff,
    beq_eq_false_iff_ne]
  constructor <;>
  · rintro rfl
    exact absurd h (by decide)

theorem IsGraphic.isAllowed_eq {c : Char} (h : IsGraphic c) : isAllowed c = true := by
  have hcode : decide (0x20 ≤ c.toNat) = true ∧ decide (c.toNat ≤ 0x7e) = true := by
    obtain ⟨hlow, hhigh⟩ := h
    simp only [decide_eq_true_eq]
    omega
  simp [isAllowed, hcode]

/-! ## Strings -/

theorem lt_of_digitIn? {base d : Nat} {c : Char} (h : digitIn? base c = some d) : d < base := by
  obtain ⟨-, hlt⟩ := Option.filter_eq_some_iff.mp h
  simpa using hlt

theorem isGraphic_of_digitIn? {base d : Nat} {c : Char} (h : digitIn? base c = some d) :
    IsGraphic c := by
  obtain ⟨hvalue, -⟩ := Option.filter_eq_some_iff.mp h
  unfold digitValue? at hvalue
  split at hvalue
  · rename_i hc
    exact ⟨Nat.le_trans (by decide) hc.1, Nat.le_trans hc.2 (by decide)⟩
  split at hvalue
  · rename_i hc
    exact ⟨Nat.le_trans (by decide) hc.1, Nat.le_trans hc.2 (by decide)⟩
  split at hvalue
  · rename_i hc
    exact ⟨Nat.le_trans (by decide) hc.1, Nat.le_trans hc.2 (by decide)⟩
  · cases hvalue

/-- Four hexadecimal digits are a number of 16 bits. -/
theorem numberIn?_of_readHex4 {digits : List Char} {n : Nat}
    (h : Json.readHex4 digits = some (n, [])) :
    digits.length = 4 ∧ numberIn? 16 digits = some n ∧ n < 0x10000 ∧
      ∀ c ∈ digits, IsGraphic c := by
  unfold Json.readHex4 at h
  split at h
  · rename_i a b c d more
    simp only [Option.bind_eq_bind, Option.bind_eq_some_iff, Option.some.injEq,
      Prod.mk.injEq] at h
    obtain ⟨a', ha, b', hb, c', hc, d', hd, rfl, rfl⟩ := h
    refine ⟨rfl, by simp [numberIn?, ha, hb, hc, hd], ?_, ?_⟩
    · have ha := lt_of_digitIn? ha
      have hb := lt_of_digitIn? hb
      have hc := lt_of_digitIn? hc
      have hd := lt_of_digitIn? hd
      omega
    · simp [isGraphic_of_digitIn? ha, isGraphic_of_digitIn? hb, isGraphic_of_digitIn? hc,
        isGraphic_of_digitIn? hd]
  · cases h

/-- An escape that is not for a pair of surrogates means the same in a quoted scalar. -/
theorem readEscape?_of_escaped {x : Char} {e : List Char} (h : portable.escape x e)
    (rest : List Char) :
    readEscape? (e ++ rest) = some (x, e.length) ∧ e ≠ [] ∧ ∀ c ∈ e, IsGraphic c := by
  obtain ⟨h, hshort⟩ := h
  cases h with
  | letter h =>
    simp only [List.mem_cons, Prod.mk.injEq, List.not_mem_nil, or_false] at h
    rcases h with ⟨rfl, rfl⟩ | ⟨rfl, rfl⟩ | ⟨rfl, rfl⟩ | ⟨rfl, rfl⟩ | ⟨rfl, rfl⟩ | ⟨rfl, rfl⟩ |
      ⟨rfl, rfl⟩ | ⟨rfl, rfl⟩ <;> exact ⟨rfl, by decide, List.all_iff_forall_prop.mp (by decide)⟩
  | @unit n digits h hhigh hlow =>
    obtain ⟨hlength, hnumber, hbound, hgraphic⟩ := numberIn?_of_readHex4 h
    have htake : (digits ++ rest).take 4 = digits := by
      rw [← hlength, List.take_left']
      rfl
    have hvalid : n.isValidChar := by
      simp only [Json.isHighSurrogate, Json.isLowSurrogate, Bool.and_eq_false_iff,
        decide_eq_false_iff_not] at hhigh hlow
      unfold Nat.isValidChar
      omega
    refine ⟨?_, by simp, List.forall_mem_cons.mpr ⟨by decide, hgraphic⟩⟩
    simp [readEscape?, letterEscape?, escapeWidth?, htake, hnumber, hlength, hvalid]
  | @pair high low first second hf hhigh hs hlow =>
    have hfirst := (numberIn?_of_readHex4 hf).1
    simp only [List.length_append, List.length_cons, hfirst] at hshort
    omega

section

variable {fuel : Nat} {c : Cursor} {rest : List Char}

theorem readQuotedUpTo_mark (h : c.rest = '"' :: rest) :
    readQuotedUpTo '"' (fuel + 1) c = some ([], c.next) := by
  simp [readQuotedUpTo, h]

theorem readQuotedUpTo_plain {x : Char} (h : c.rest = x :: rest) (hmark : x ≠ '"')
    (hslash : x ≠ '\\') (hwhite : isWhite x = false) :
    readQuotedUpTo '"' (fuel + 1) c = ahead [x] (readQuotedUpTo '"' fuel c.next) := by
  simp [readQuotedUpTo, h, hmark, hslash, hwhite]

theorem readQuotedUpTo_escape {x : Char} {e : List Char} (h : c.rest = '\\' :: (e ++ rest))
    (he : portable.escape x e) :
    readQuotedUpTo '"' (fuel + 1) c =
      ahead [x] (readQuotedUpTo '"' fuel (c.skip (e.length + 1))) := by
  obtain ⟨hread, hne, hgraphic⟩ := readEscape?_of_escaped he rest
  obtain ⟨y, more, rfl⟩ := List.exists_cons_of_ne_nil hne
  have hy : isBreak y = false := (hgraphic y List.mem_cons_self).isBreak_eq
  rw [List.cons_append] at hread h
  have hslash : isWhite '\\' = false := by decide
  simp [readQuotedUpTo, h, hslash, hy, hread]

/-- A run of spaces is read at once. -/
theorem readQuotedUpTo_spaces {k : Nat} {x : Char}
    (h : c.rest = List.replicate (k + 1) ' ' ++ x :: rest) (hx : isWhite x = false)
    (hcolumn : 0 < c.column) :
    readQuotedUpTo '"' (fuel + 1) c =
      ahead (List.replicate (k + 1) ' ') (readQuotedUpTo '"' fuel (c.skip (k + 1))) := by
  have hspace : ∀ y ∈ List.replicate (k + 1) ' ', y = ' ' :=
    fun y hy => (List.mem_replicate.mp hy).2
  have hspan : c.span isWhite = (List.replicate (k + 1) ' ', c.skip (k + 1)) := by
    have hspan := @Cursor.span_eq isWhite _ _ _ h (fun y hy => by rw [hspace y hy]; rfl)
      (fun y hy => by cases hy; exact hx)
    rwa [List.length_replicate] at hspan
  have hbreaks : breaksOf (List.replicate (k + 1) ' ') = [] := by
    simp [breaksOf, isBreak]
  have hboundary : (c.skip (k + 1)).atBoundary = false := by
    have hinside := Cursor.skip_inside h fun y hy => by rw [hspace y hy]; rfl
    rw [List.length_replicate] at hinside
    exact Cursor.atBoundary_of_column (by omega)
  have hwhite : isWhite ' ' = true := rfl
  rw [readQuotedUpTo, h, List.replicate_succ, List.cons_append]
  simp only [hwhite, hspan, hboundary]
  simp [← List.replicate_succ, folded_of_breaksOf_eq_nil hbreaks]

end

theorem isWhite_of_portable {x : Char} (h : portable.plain x) (hspace : x ≠ ' ') :
    isWhite x = false := by
  obtain ⟨⟨-, -, hcode⟩, -, -, hbreak⟩ := h
  have htab : x ≠ '\t' := by
    rintro rfl
    exact absurd hcode (by decide)
  simp [isWhite, isBlank, hspace, htab, hbreak]

/-- What is read in front of the rest of a string. -/
theorem ahead_some {front text : List Char} {c : Cursor} :
    ahead front (some (text, c)) = some (front ++ text, c) := rfl

/-- Spaces in front of something else are part of the text. -/
theorem readQuotedUpTo_behind_spaces {x : Char} {s rest : List Char} {n : Nat}
    (hx : isWhite x = false)
    (hread : ∀ {fuel : Nat} {c : Cursor}, c.rest = x :: rest → 0 < c.column → n < fuel →
      readQuotedUpTo '"' fuel c = some (s, c.skip n))
    {k fuel : Nat} {c : Cursor} (hrest : c.rest = List.replicate k ' ' ++ x :: rest)
    (hcolumn : 0 < c.column) (hfuel : k + n < fuel) :
    readQuotedUpTo '"' fuel c = some (List.replicate k ' ' ++ s, c.skip (k + n)) := by
  cases k with
  | zero =>
    rw [Nat.zero_add] at hfuel ⊢
    exact hread hrest hcolumn hfuel
  | succ k =>
    obtain ⟨fuel, rfl⟩ : ∃ j, fuel = j + 1 := ⟨fuel - 1, by omega⟩
    have hinside := Cursor.skip_inside hrest fun y hy => by
      rw [(List.mem_replicate.mp hy).2]
      rfl
    rw [List.length_replicate] at hinside
    have hbehind : (c.skip (k + 1)).rest = x :: rest := by
      rw [Cursor.skip_rest, hrest, List.drop_left' List.length_replicate]
    rw [readQuotedUpTo_spaces hrest hx hcolumn, hread hbehind (by omega) (by omega), ahead_some,
      Cursor.skip_skip]

/-- The text of a string is read up to its closing mark, also behind spaces. -/
theorem readQuotedUpTo_of_spelled {s t more : List Char} (h : Json.StringSpelled portable s t)
    {k fuel : Nat} {c : Cursor} (hrest : c.rest = List.replicate k ' ' ++ (t ++ '"' :: more))
    (hcolumn : 0 < c.column) (hfuel : k + (t.length + 1) < fuel) :
    readQuotedUpTo '"' fuel c = some (List.replicate k ' ' ++ s, c.skip (k + (t.length + 1))) := by
  induction h generalizing k fuel c with
  | nil =>
    refine readQuotedUpTo_behind_spaces (by decide) (fun {fuel c} hrest _ hfuel => ?_) hrest
      hcolumn hfuel
    obtain ⟨fuel, rfl⟩ : ∃ j, fuel = j + 1 := ⟨fuel - 1, by omega⟩
    exact readQuotedUpTo_mark hrest
  | @plain x s t hx h ih =>
    by_cases hspace : x = ' '
    · -- the space joins those in front
      subst hspace
      have hrest' : c.rest = List.replicate (k + 1) ' ' ++ (t ++ '"' :: more) := by
        rw [hrest, List.replicate_succ']
        simp
      have hread : readQuotedUpTo '"' fuel c =
          some (List.replicate (k + 1) ' ' ++ s, c.skip (k + 1 + (t.length + 1))) :=
        ih hrest' hcolumn (by simp only [List.length_cons] at hfuel; omega)
      rw [hread, List.replicate_succ', List.append_assoc, List.length_cons,
        Nat.add_right_comm k 1, Nat.add_assoc k]
      rfl
    · obtain ⟨⟨hmark, hslash, -⟩, -, -, hbreak⟩ := id hx
      have hwhite := isWhite_of_portable hx hspace
      refine readQuotedUpTo_behind_spaces hwhite (fun {fuel c} hrest hcolumn hfuel => ?_) hrest
        hcolumn hfuel
      obtain ⟨fuel, rfl⟩ : ∃ j, fuel = j + 1 := ⟨fuel - 1, by omega⟩
      have hnext : c.next.rest = t ++ '"' :: more := by
        rw [Cursor.next_rest, hrest]
        rfl
      have hinside := @Cursor.skip_inside [x] _ c hrest (by simpa using hbreak)
      have hread : readQuotedUpTo '"' fuel c.next = some (s, c.next.skip (t.length + 1)) := by
        have hread := ih (k := 0) hnext (Nat.lt_of_lt_of_eq (Nat.succ_pos _) hinside.2.1.symm)
          (Nat.lt_of_lt_of_le (by simp) (Nat.le_of_lt_succ hfuel))
        simpa using hread
      rw [readQuotedUpTo_plain hrest hmark hslash hwhite, hread, ahead_some, Cursor.next_skip]
      rfl
  | @escaped x e s t he h ih =>
    refine readQuotedUpTo_behind_spaces (by decide) (fun {fuel c} hrest hcolumn hfuel => ?_) hrest
      hcolumn hfuel
    obtain ⟨fuel, rfl⟩ : ∃ j, fuel = j + 1 := ⟨fuel - 1, by omega⟩
    obtain ⟨-, -, hgraphic⟩ := readEscape?_of_escaped he []
    have hescape : c.rest = '\\' :: (e ++ (t ++ '"' :: more)) := by
      rw [hrest]
      simp
    have hbehind : (c.skip (e.length + 1)).rest = t ++ '"' :: more := by
      rw [Cursor.skip_rest, hescape, List.drop_succ_cons, List.drop_left]
    have hcolumn : 0 < (c.skip (e.length + 1)).column := by
      have hinside := @Cursor.skip_inside ('\\' :: e) _ c hescape
        (List.forall_mem_cons.mpr ⟨by decide, fun y hy => (hgraphic y hy).isBreak_eq⟩)
      exact Nat.lt_of_lt_of_eq (Nat.succ_pos _) hinside.2.1.symm
    have hread : readQuotedUpTo '"' fuel (c.skip (e.length + 1)) =
        some (s, (c.skip (e.length + 1)).skip (t.length + 1)) := by
      have hlength : t.length + 1 < fuel := by
        simp only [List.length_cons, List.length_append] at hfuel
        omega
      simpa using ih (k := 0) hbehind hcolumn (by omega)
    rw [readQuotedUpTo_escape hescape he, hread, ahead_some, Cursor.skip_skip, List.length_cons,
      List.length_append]
    simp only [List.singleton_append]
    congr 3
    omega

/-- **A string of portable words is a quoted scalar with the same text.** -/
theorem readQuoted_of_spelled {s t more : List Char} (h : Json.StringSpelled portable s t)
    {c : Cursor} (hrest : c.rest = Json.inMarks t ++ more) :
    readQuoted '"' c.next = some (s, c.skip (Json.inMarks t).length) := by
  have hmarks : c.rest = '"' :: (t ++ '"' :: more) := by
    rw [hrest]
    simp [Json.inMarks]
  have hnext : c.next.rest = t ++ '"' :: more := by
    rw [Cursor.next_rest, hmarks]
    rfl
  have hcolumn : 0 < c.next.column := by
    have hinside := @Cursor.skip_inside ['"'] _ c hmarks (by simp [isBreak])
    exact Nat.lt_of_lt_of_eq (Nat.succ_pos _) hinside.2.1.symm
  have hfuel : t.length + 1 < c.next.rest.length + 1 := by
    rw [hnext, List.length_append, List.length_cons]
    omega
  have hread : readQuotedUpTo '"' (c.next.rest.length + 1) c.next =
      some (List.replicate 0 ' ' ++ s, c.next.skip (0 + (t.length + 1))) :=
    readQuotedUpTo_of_spelled h hnext hcolumn (by omega)
  rw [readQuoted, hread, Cursor.next_skip]
  simp [Json.inMarks]

/-- The characters of a string of portable words may stand in a document and break no line. -/
theorem allowed_of_spelled {s t : List Char} (h : Json.StringSpelled portable s t) :
    ∀ y ∈ Json.inMarks t, isAllowed y = true ∧ isBreak y = false ∧ y ≠ '\r' ∧ y ≠ '\u0085' := by
  have hgraphic : ∀ {y}, IsGraphic y →
      isAllowed y = true ∧ isBreak y = false ∧ y ≠ '\r' ∧ y ≠ '\u0085' := by
    intro y hy
    refine ⟨hy.isAllowed_eq, hy.isBreak_eq, ?_, ?_⟩ <;>
    · rintro rfl
      exact absurd hy (by decide)
  have hinside : ∀ y ∈ t, isAllowed y = true ∧ isBreak y = false ∧ y ≠ '\r' ∧ y ≠ '\u0085' := by
    induction h with
    | nil => nofun
    | @plain x s t hx h ih =>
      obtain ⟨⟨-, -, hcode⟩, hallowed, hnext, hbreak⟩ := hx
      refine List.forall_mem_cons.mpr ⟨⟨hallowed, hbreak, ?_, hnext⟩, ih⟩
      rintro rfl
      exact absurd hcode (by decide)
    | @escaped x e s t he h ih =>
      obtain ⟨-, -, he⟩ := readEscape?_of_escaped he []
      refine List.forall_mem_cons.mpr ⟨hgraphic (by decide), fun y hy => ?_⟩
      rcases List.mem_append.mp hy with hy | hy
      · exact hgraphic (he y hy)
      · exact ih y hy
  intro y hy
  simp only [Json.inMarks, List.mem_cons, List.mem_append, List.not_mem_nil, or_false] at hy
  rcases hy with rfl | hy | rfl
  · exact hgraphic (by decide)
  · exact hinside y hy
  · exact hgraphic (by decide)

/-! ## Plain scalars -/

/-- A word that is a plain scalar: a number, or a word of letters. -/
structure IsWord (w : List Char) : Prop where
  graphic : ∀ c ∈ w, IsGraphic c ∧ c ≠ ':' ∧ isFlowMark c = false
  first : ∃ c more, w = c :: more ∧
    (c.isAlphanum = true ∨ c = '-' ∧ ∃ d rest, more = d :: rest ∧ d.isDigit = true)

/-- No tab is outside what need not be indented. -/
theorem tabsIndented_zero (column : Option Nat) (run : List Char) :
    tabsIndented 0 column run = true := by
  induction run generalizing column with
  | nil => cases column <;> rfl
  | cons c run ih =>
    cases column with
    | none => simp [tabsIndented, ih]
    | some k => simp [tabsIndented, ih]

/-- A word in a flow collection ends at a blank or at a mark. -/
theorem word?_of_isWord {w more : List Char} {x : Char}
    (hw : ∀ c ∈ w, IsGraphic c ∧ c ≠ ':' ∧ isFlowMark c = false)
    (hx : isWhite x = true ∨ isFlowMark x = true ∧ x ≠ ':') :
    word? true (w ++ x :: more) = some w := by
  induction w with
  | nil =>
    rw [List.nil_append, word?]
    rcases hx with hx | ⟨hx, hcolon⟩
    · rw [if_pos hx]
    · split
      · rfl
      · simp [hx, hcolon]
  | cons c w ih =>
    obtain ⟨hgraphic, hcolon, hmark⟩ := hw c List.mem_cons_self
    have hmore := ih fun y hy => hw y (List.mem_cons_of_mem c hy)
    rw [List.cons_append, word?, if_neg (by simp [hgraphic.isWhite_eq]), hmore]
    simp [hcolon, hmark]

theorem Cursor.atMarker_of_ne {c : Cursor} {mark x : Char} {rest : List Char}
    (hrest : c.rest = x :: rest) (h : x ≠ mark ∨ rest.head? ≠ some mark) :
    c.atMarker mark = false := by
  rcases h with h | h
  · simp [atMarker, hrest, h]
  · cases rest with
    | nil => simp [atMarker, hrest]
    | cons y rest =>
      have hy : y ≠ mark := by simpa using h
      simp [atMarker, hrest, hy]

/-- A word begins with no mark but the hyphen, behind which it goes on. -/
theorem IsWord.first_ne {x : Char} {w : List Char} (hw : IsWord (x :: w)) :
    (∀ y : Char, y.isAlphanum = false → y ≠ '-' → x ≠ y) ∧
      ∀ rest, x = '-' → endsWord (w ++ rest) = false := by
  obtain ⟨_, _, ⟨rfl, rfl⟩, hx | ⟨rfl, d, rest, rfl, hd⟩⟩ := hw.first
  · constructor
    · rintro y hy - rfl
      simp [hx] at hy
    · rintro rest rfl
      exact absurd hx (by decide)
  · refine ⟨fun y _ hy => hy.symm, fun _ _ => ?_⟩
    exact (hw.graphic d (by simp)).1.isWhite_eq

/-- What begins a word begins neither a comment nor the end of a document. -/
theorem IsWord.starts {w : List Char} (hw : IsWord w) {c : Cursor} {more : List Char}
    (hrest : c.rest = w ++ more) :
    c.atMarker '-' = false ∧ c.atMarker '.' = false ∧ c.rest.head? ≠ some '#' ∧
      startsPlain true c.rest = true := by
  obtain ⟨x, w, rfl, hx | ⟨rfl, d, rest, rfl, hd⟩⟩ := hw.first
  · have hne : ∀ y : Char, y.isAlphanum = false → x ≠ y := by
      rintro y hy rfl
      simp [hx] at hy
    have hx := (hw.graphic x List.mem_cons_self).1
    refine ⟨Cursor.atMarker_of_ne hrest (.inl (hne _ (by decide))),
      Cursor.atMarker_of_ne hrest (.inl (hne _ (by decide))), ?_, ?_⟩
    · rw [hrest]
      simpa using hne '#' (by decide)
    · have hindicator : isIndicator x = false := by
        rw [isIndicator, List.contains_eq_mem, decide_eq_false_iff_not]
        intro hmem
        have hall : ∀ y ∈ "-?:,[]\x7b\x7d#&*!|>'\"%@\x60".toList, y.isAlphanum = false :=
          List.all_iff_forall_prop.mp (by decide)
        exact hne x (hall x hmem) rfl
      rw [hrest]
      simp [startsPlain, hx.isWhite_eq, hindicator]
  · have hd' : d ≠ '-' := by
      rintro rfl
      exact absurd hd (by decide)
    have hblank : isBlank d = false := by
      have := (hw.graphic d (by simp)).1.isWhite_eq
      simp only [isWhite, Bool.or_eq_false_iff] at this
      exact this.1
    refine ⟨Cursor.atMarker_of_ne hrest (.inr (by simpa using hd')),
      Cursor.atMarker_of_ne hrest (.inl (by decide)), ?_, ?_⟩
    · rw [hrest]
      simp
    · rw [hrest]
      simp [startsPlain, hblank]

theorem isWhite_of_isFlowMark {x : Char} (h : isFlowMark x = true) :
    isWhite x = false ∧ x ≠ ':' ∧ x ≠ '#' ∧ x ≠ '-' ∧ x ≠ '.' := by
  rw [isFlowMark, List.contains_iff_mem] at h
  have hall : ∀ y ∈ ",[]\x7b\x7d".toList,
      isWhite y = false ∧ y ≠ ':' ∧ y ≠ '#' ∧ y ≠ '-' ∧ y ≠ '.' :=
    List.all_iff_forall_prop.mp (by decide)
  exact hall x h

/-- A plain scalar is over in front of a mark. -/
theorem readWords_mark {x : Char} {more gap : List Char} {broken : Bool} {fuel : Nat} {c : Cursor}
    (hx : isFlowMark x = true) (hrest : c.rest = x :: more) :
    readWords true 0 (fuel + 1) gap broken c = some ⟨[], broken, c⟩ := by
  obtain ⟨hwhite, hcolon, hcomment, hhyphen, hpoint⟩ := isWhite_of_isFlowMark hx
  have hboundary : c.atBoundary = false := by
    rw [Cursor.atBoundary, Cursor.atMarker_of_ne hrest (.inl hhyphen),
      Cursor.atMarker_of_ne hrest (.inl hpoint)]
    rfl
  have hword : word? true c.rest = some [] := by
    rw [hrest]
    exact @word?_of_isWord [] more x nofun (.inr ⟨hx, hcolon⟩)
  have hspan : c.span isWhite = ([], c) :=
    @Cursor.span_eq isWhite [] (x :: more) c hrest nofun (by rintro y ⟨⟩; exact hwhite)
  have hhead : c.rest.head? ≠ some '#' := by
    rw [hrest]
    simpa using hcomment
  rw [readWords]
  simp [hboundary, hword, hhead, Cursor.skip, hspan]

/-- **A word in a flow collection is a plain scalar**, and the blanks behind it up to the next
mark are read with it. -/
theorem readPlain_of_isWord {w b more : List Char} {x : Char} (hw : IsWord w)
    (hb : ∀ y ∈ b, isWhite y = true) (hx : isFlowMark x = true) {c : Cursor}
    (hrest : c.rest = w ++ (b ++ x :: more)) :
    ∃ broken, readPlain true 0 c = some ⟨w, broken, c.skip (w.length + b.length)⟩ := by
  obtain ⟨hwhite, hcolon, -⟩ := isWhite_of_isFlowMark hx
  obtain ⟨hhyphen, hpoint, hcomment, -⟩ := hw.starts hrest
  have hboundary : c.atBoundary = false := by
    rw [Cursor.atBoundary, hhyphen, hpoint]
    rfl
  have hne : w ≠ [] := by
    obtain ⟨y, w, rfl, -⟩ := hw.first
    simp
  have hword : word? true c.rest = some w := by
    rw [hrest]
    cases b with
    | nil => exact word?_of_isWord hw.graphic (.inr ⟨hx, hcolon⟩)
    | cons y b => exact word?_of_isWord hw.graphic (.inl (hb y List.mem_cons_self))
  have hbehind : (c.skip w.length).rest = b ++ x :: more := by
    rw [Cursor.skip_rest, hrest, List.drop_left]
  have hspan : (c.skip w.length).span isWhite = (b, c.skip (w.length + b.length)) := by
    rw [@Cursor.span_eq isWhite b (x :: more) _ hbehind hb (by rintro y ⟨⟩; exact hwhite),
      Cursor.skip_skip]
  have hafter : (c.skip (w.length + b.length)).rest = x :: more := by
    rw [← Cursor.skip_skip, Cursor.skip_rest, hbehind, List.drop_left]
  obtain ⟨fuel, hfuel⟩ : ∃ fuel, c.rest.length = fuel + 1 := by
    refine ⟨c.rest.length - 1, ?_⟩
    rw [hrest]
    simp
    omega
  rw [readPlain, hfuel, readWords]
  by_cases hnil : b = []
  · subst hnil
    refine ⟨false, ?_⟩
    simp [hboundary, hcomment, hword, hne, hspan]
  · refine ⟨!(breaksOf b).isEmpty, ?_⟩
    simp [hboundary, hcomment, hword, hne, hspan, hnil, tabsIndented_zero, readWords_mark hx hafter]

/-! ## Scalars -/

theorem exists_digit_of_readMagnitude {negative : Bool} {cs rest : List Char} {n : Number}
    (h : Json.readMagnitude negative cs = some (n, rest)) :
    ∃ d more, cs = d :: more ∧ d.isDigit = true := by
  obtain ⟨d, digits, hdigits⟩ :=
    List.exists_cons_of_ne_nil (Json.readMagnitude_eq_some_iff.mp h).1.ne_nil
  have hd : d ∈ cs.takeWhile Char.isDigit := by
    rw [hdigits]
    exact List.mem_cons_self
  refine ⟨d, digits ++ cs.dropWhile Char.isDigit, ?_, Json.isDigit_of_takeWhile cs d hd⟩
  rw [← List.cons_append, ← hdigits, List.takeWhile_append_dropWhile]

theorem isGraphic_of_isNumberChar {c : Char} (h : Json.isNumberChar c = true) :
    IsGraphic c ∧ c ≠ ':' ∧ isFlowMark c = false := by
  rw [Json.isNumberChar, Bool.or_eq_true] at h
  rcases h with h | h
  · have hcode : 48 ≤ c.toNat ∧ c.toNat ≤ 57 := by
      simp only [Char.isDigit, Bool.and_eq_true, decide_eq_true_eq] at h
      exact h
    refine ⟨⟨by omega, by omega⟩, ?_, ?_⟩
    · rintro rfl
      exact absurd h (by decide)
    · rw [isFlowMark, List.contains_eq_mem, decide_eq_false_iff_not]
      intro hmem
      have hall : ∀ y ∈ ",[]\x7b\x7d".toList, y.isDigit = false :=
        List.all_iff_forall_prop.mp (by decide)
      simp [hall c hmem] at h
  · rw [List.contains_iff_mem] at h
    have hall : ∀ y ∈ ['-', '+', '.', 'e', 'E'], IsGraphic y ∧ y ≠ ':' ∧ isFlowMark y = false :=
      List.all_iff_forall_prop.mp (by decide)
    exact hall c h

theorem isWord_of_number {n : Number} {t : List Char} (h : Json.Lexis.json.number n t) :
    IsWord t := by
  obtain ⟨hchars, hread⟩ := h
  refine ⟨fun c hc => isGraphic_of_isNumberChar (hchars c hc), ?_⟩
  unfold Json.readNumber at hread
  split at hread
  · rename_i rest
    obtain ⟨d, more, rfl, hd⟩ := exists_digit_of_readMagnitude hread
    exact ⟨'-', _, rfl, .inr ⟨rfl, d, more, rfl, hd⟩⟩
  · obtain ⟨d, more, rfl, hd⟩ := exists_digit_of_readMagnitude hread
    exact ⟨d, more, rfl, .inl (by simp [Char.isAlphanum, hd])⟩

/-- **A scalar is a string between marks or a word that stands for it.** -/
theorem isWord_of_scalar {v : Value} {t : List Char} (h : Json.ScalarSpelled portable v t) :
    (∃ s u, v = .string (String.ofList s) ∧ t = Json.inMarks u ∧
        Json.StringSpelled portable s u) ∨
      IsWord t ∧ plainValue? (String.ofList t) = some v := by
  cases h with
  | null =>
    refine .inr ⟨⟨List.all_iff_forall_prop.mp (by decide), _, _, rfl, .inl (by decide)⟩, ?_⟩
    rw [plainValue?, String.toList_ofList]
    rfl
  | yes =>
    refine .inr ⟨⟨List.all_iff_forall_prop.mp (by decide), _, _, rfl, .inl (by decide)⟩, ?_⟩
    rw [plainValue?, String.toList_ofList]
    rfl
  | no =>
    refine .inr ⟨⟨List.all_iff_forall_prop.mp (by decide), _, _, rfl, .inl (by decide)⟩, ?_⟩
    rw [plainValue?, String.toList_ofList]
    rfl
  | number h => exact .inr ⟨isWord_of_number h.1, h.2⟩
  | string h => exact .inl ⟨_, _, rfl, rfl, h⟩

end TextTemplate.Yaml
