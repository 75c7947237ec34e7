import TextTemplate.Proofs.Quoting.Braces

/-! # Counting open braces

The closing character of a span in braces can be found by counting: an opening character
raises the count, a closing one lowers it, and one that lowers it to zero ends the span
(`BraceCount`).  The count is an integer, so nothing keeps it from falling below zero but the
order of the characters.  It never does, since the span starts with its opening character
(`depth_nonneg_of_mem_counts`), and counting finds the spans that are extracted
(`extract_braces_eq_counted`).

A span that is closed is the one balanced piece at the front of the text, and where there is
no such piece the span is all of the text (`extract_braces_balanced`). -/
namespace TextTemplate

/-- The span covers some bytes of the text, and it ends between two characters or at the end. -/
def Quoted.TakenFrom (span : Quoted) (text : List Char) : Prop :=
  0 < span.consumed ∧ span.consumed ≤ Text.width text ∧ (Text.cut? span.consumed text).isSome

namespace Quoting

/-- How many braces are open, and whether a backslash stands in front of the next
character. -/
structure BraceCount where
  depth : Int
  escaped : Bool
deriving DecidableEq, Repr

namespace BraceCount

/-- Nothing is open in front of the text. -/
def start : BraceCount := ⟨0, false⟩

variable (opening closing : Char)

/-- The count behind one more character. -/
def step (k : BraceCount) (c : Char) : BraceCount :=
  if k.escaped then { k with escaped := false }
  else if c = '\\' then { k with escaped := true }
  else if c = opening then { k with depth := k.depth + 1 }
  else if c = closing then { k with depth := k.depth - 1 }
  else k

/-- The character lowers the count to zero. -/
def Ends (k : BraceCount) (c : Char) : Prop :=
  (k.step opening closing c).depth < k.depth ∧ (k.step opening closing c).depth = 0

instance (k : BraceCount) (c : Char) : Decidable (k.Ends opening closing c) :=
  inferInstanceAs (Decidable (_ ∧ _))

/-- The counts that are gone through, up to the character that ends the span. -/
def counts (k : BraceCount) : List Char → List BraceCount
  | [] => [k]
  | c :: cs =>
    k :: if k.Ends opening closing c then [k.step opening closing c]
      else counts (k.step opening closing c) cs

/-- The text in front of the character that ends the span. -/
def beforeEnd (k : BraceCount) : List Char → Option (List Char)
  | [] => none
  | c :: cs =>
    if k.Ends opening closing c then some []
    else (beforeEnd (k.step opening closing c) cs).map (c :: ·)

end BraceCount

/-- The span that counting finds; without an end it runs to the end of the text. -/
def extractCounted (opening closing : Char) (text : List Char) : Quoted :=
  if text.head? = some opening then
    match BraceCount.start.beforeEnd opening closing text with
    | some front => ⟨Text.width front + closing.utf8Size, front.tail⟩
    | none => ⟨Text.width text, text.tail⟩
  else .nothing

namespace BraceCount

variable {opening closing : Char} {k : BraceCount}

/-! ## The count stays above zero -/

/-- One character lowers the count by one at most. -/
theorem le_depth_step (k : BraceCount) (c : Char) :
    k.depth - 1 ≤ (k.step opening closing c).depth := by
  grind [step]

/-- While the span goes on, something is open. -/
theorem depth_step_pos {c : Char} (hk : 0 < k.depth) (hc : ¬ k.Ends opening closing c) :
    0 < (k.step opening closing c).depth := by
  have hle : k.depth - 1 ≤ (k.step opening closing c).depth := k.le_depth_step c
  unfold Ends at hc
  omega

/-- **The count does not fall below zero** once it has risen. -/
theorem depth_nonneg_of_pos {cs : List Char} (hk : 0 < k.depth) :
    ∀ l ∈ k.counts opening closing cs, 0 ≤ l.depth := by
  induction cs generalizing k with
  | nil =>
    intro l hl
    obtain rfl : l = k := by simpa [counts] using hl
    omega
  | cons c cs ih =>
    rw [counts, List.forall_mem_cons]
    refine ⟨by omega, ?_⟩
    split
    · rename_i hend
      intro l hl
      obtain rfl : l = k.step opening closing c := by simpa using hl
      exact Int.le_of_eq hend.2.symm
    · rename_i hgoes
      exact ih (depth_step_pos hk hgoes)

section opened
variable (hopening : opening ≠ '\\')
include hopening

/-- The opening character in front opens one brace. -/
theorem step_start : start.step opening closing opening = ⟨1, false⟩ := by
  simp [step, start, hopening]

theorem not_ends_start : ¬ start.Ends opening closing opening := by
  rintro ⟨hlower, -⟩
  rw [step_start hopening] at hlower
  exact absurd hlower (by decide)

/-- **From the opening character on the count does not fall below zero.** -/
theorem depth_nonneg_of_mem_counts (cs : List Char) :
    ∀ k ∈ start.counts opening closing (opening :: cs), 0 ≤ k.depth := by
  -- in front of the text nothing is open: the bound that a step keeps holds from `⟨1, false⟩` on
  rw [counts, if_neg (not_ends_start hopening), step_start hopening, List.forall_mem_cons]
  exact ⟨Int.le_refl 0, depth_nonneg_of_pos Int.one_pos⟩

end opened

/-! ## Counting finds the closing character -/

/-- A character that is escaped or does not lower the count to zero is gone past. -/
theorem beforeEnd_cons {c : Char} {l : BraceCount} (hstep : k.step opening closing c = l)
    (hends : l.depth < k.depth → l.depth ≠ 0) (cs : List Char) :
    k.beforeEnd opening closing (c :: cs) =
      (l.beforeEnd opening closing cs).map (c :: ·) := by
  have hgoes : ¬ k.Ends opening closing c := by
    rintro ⟨hlower, hzero⟩
    rw [hstep] at hlower hzero
    exact hends hlower hzero
  rw [beforeEnd, if_neg hgoes, hstep]

/-- The search for a closing character counts the braces that are open besides the first. -/
theorem beforeEnd_eq_splitBalanced (depth : Nat) (cs : List Char) :
    beforeEnd opening closing ⟨depth + 1, false⟩ cs =
      (splitBalanced opening closing depth cs).map Prod.fst := by
  fun_induction splitBalanced opening closing depth cs with
  | case1 => rfl
  | case2 depth =>
    rw [beforeEnd_cons (l := ⟨depth + 1, true⟩) (by simp [step]) (by simp)]
    rfl
  | case3 depth d cs ih =>
    rw [beforeEnd_cons (l := ⟨depth + 1, true⟩) (by simp [step]) (by simp),
      beforeEnd_cons (l := ⟨depth + 1, false⟩) (by simp [step]) (by simp), ih]
    simp [Function.comp_def]
  | case4 depth cs hb ih =>
    rw [beforeEnd_cons (l := ⟨(depth + 1 : Nat) + 1, false⟩) (by simp [step, hb])
      (by simp only; omega), ih]
    simp [Function.comp_def]
  | case5 cs hb ho =>
    have hends : Ends opening closing ⟨(0 : Nat) + 1, false⟩ closing := by
      simp [Ends, step, hb, ho]
    rw [beforeEnd, if_pos hends]
    rfl
  | case6 cs depth hb ho ih =>
    rw [beforeEnd_cons (l := ⟨depth + 1, false⟩) (by simp [step, hb, ho])
      (by simp only; omega), ih]
    simp [Function.comp_def]
  | case7 depth c cs hb ho hc ih =>
    rw [beforeEnd_cons (l := ⟨depth + 1, false⟩) (by simp [step, hb, ho, hc]) (by simp), ih]
    simp [Function.comp_def]

/-- A backslash opens nothing, so behind an opening backslash nothing is closed. -/
theorem beforeEnd_eq_none_of_depth_le {cs : List Char} (hk : k.depth ≤ 0) :
    k.beforeEnd '\\' closing cs = none := by
  induction cs generalizing k with
  | nil => rfl
  | cons c cs ih =>
    have hle : (k.step '\\' closing c).depth ≤ k.depth := by grind [step]
    have hgoes : ¬ k.Ends '\\' closing c := by
      rintro ⟨hlower, hzero⟩
      omega
    rw [beforeEnd, if_neg hgoes, ih (by omega), Option.map_none]

/-- From the opening character on, counting finds the character that closes it. -/
theorem beforeEnd_start (opening closing : Char) (cs : List Char) :
    start.beforeEnd opening closing (opening :: cs) =
      (splitOpened opening closing cs).map fun p => opening :: p.1 := by
  by_cases hopening : opening = '\\'
  · subst hopening
    rw [beforeEnd_eq_none_of_depth_le (Int.le_refl 0), splitOpened, if_pos rfl, Option.map_none]
  · have hone : beforeEnd opening closing ⟨1, false⟩ cs =
        (splitBalanced opening closing 0 cs).map Prod.fst :=
      beforeEnd_eq_splitBalanced 0 cs
    rw [beforeEnd_cons (step_start hopening) (by simp [start]), hone, Option.map_map,
      splitOpened_of_ne hopening]
    rfl

end BraceCount

section extract
variable {opening closing : Char} {cs : List Char}

/-- **What is extracted is what counting finds**, whatever the two characters are. -/
theorem extract_braces_eq_counted (opening closing : Char) (text : List Char) :
    (braces opening closing).extract text = extractCounted opening closing text := by
  cases text with
  | nil => rfl
  | cons c cs =>
    by_cases hc : c = opening
    · subst hc
      simp only [extract, extractBraces, extractCounted, List.head?_cons, if_true,
        BraceCount.beforeEnd_start]
      cases splitOpened c closing cs <;> rfl
    · rw [extract, extractBraces, extractCounted, if_neg hc, if_neg (by simpa using hc)]

/-! ## The balanced span -/

/-- The depth along the text in front of the closing character comes down to that of the
character. -/
theorem exists_counted_of_splitBalanced {depth : Nat} {t u : List Char}
    (h : splitBalanced opening closing depth cs = some (t, u)) :
    ∃ ds, counted t = some ds ∧ depthAfter opening closing depth ds = some 0 := by
  fun_induction splitBalanced opening closing depth cs generalizing t with
  | case1 => cases h
  | case2 => cases h
  | case3 depth d cs ih =>
    obtain ⟨⟨t, u⟩, hsplit, he⟩ := Option.map_eq_some_iff.mp h
    cases he
    obtain ⟨ds, hds, hdepth⟩ := ih hsplit
    exact ⟨ds, by simpa [counted] using hds, hdepth⟩
  | case4 depth cs hb ih =>
    obtain ⟨⟨t, u⟩, hsplit, he⟩ := Option.map_eq_some_iff.mp h
    cases he
    obtain ⟨ds, hds, hdepth⟩ := ih hsplit
    refine ⟨opening :: ds, by rw [counted_cons hb, hds, Option.map_some], ?_⟩
    rw [depthAfter.eq_def]
    simpa only [if_true] using hdepth
  | case5 =>
    cases h
    exact ⟨[], rfl, rfl⟩
  | case6 cs depth hb ho ih =>
    obtain ⟨⟨t, u⟩, hsplit, he⟩ := Option.map_eq_some_iff.mp h
    cases he
    obtain ⟨ds, hds, hdepth⟩ := ih hsplit
    refine ⟨closing :: ds, by rw [counted_cons hb, hds, Option.map_some], ?_⟩
    rw [depthAfter.eq_def]
    simpa only [if_neg ho, if_true] using hdepth
  | case7 depth c cs hb ho hc ih =>
    obtain ⟨⟨t, u⟩, hsplit, he⟩ := Option.map_eq_some_iff.mp h
    cases he
    obtain ⟨ds, hds, hdepth⟩ := ih hsplit
    refine ⟨c :: ds, by rw [counted_cons hb, hds, Option.map_some], ?_⟩
    rw [depthAfter.eq_def]
    simpa only [if_neg ho, if_neg hc] using hdepth

section balanced
variable (hne : opening ≠ closing) (hclosing : closing ≠ '\\')
include hne hclosing

/-- **The search finds the closing character behind balanced text, and no other.** -/
theorem splitBalanced_eq_some_iff {t u : List Char} :
    splitBalanced opening closing 0 cs = some (t, u) ↔
      Balanced opening closing t ∧ cs = t ++ closing :: u := by
  constructor
  · intro h
    refine ⟨?_, eq_append_of_splitBalanced h⟩
    obtain ⟨ds, hds, hdepth⟩ := exists_counted_of_splitBalanced h
    rw [balanced_iff_depthAfter hne, hds, Option.bind_some, hdepth]
  · rintro ⟨ht, rfl⟩
    exact splitBalanced_of_balanced hne hclosing ht u

/-- Without balanced text and a closing character behind it, everything is extracted. -/
theorem extract_braces_of_unbalanced (hopening : opening ≠ '\\')
    (hnone : ∀ t u, Balanced opening closing t → cs ≠ t ++ closing :: u) :
    (braces opening closing).extract (opening :: cs) = ⟨Text.width (opening :: cs), cs⟩ := by
  have hsplit : splitBalanced opening closing 0 cs = none := by
    refine Option.eq_none_iff_forall_ne_some.mpr fun ⟨t, u⟩ h => ?_
    obtain ⟨ht, hcs⟩ := (splitBalanced_eq_some_iff hne hclosing).mp h
    exact hnone t u ht hcs
  simp only [extract, extractBraces, if_true, splitOpened_of_ne hopening, hsplit]

end balanced

/-- A piece of the front of a text is taken from it. -/
theorem takenFrom_append {taken : List Char} (hne : taken ≠ []) (content rest : List Char) :
    Quoted.TakenFrom ⟨Text.width taken, content⟩ (taken ++ rest) := by
  refine ⟨Text.width_pos hne, ?_, ?_⟩
  · rw [Text.width_append]
    exact Nat.le_add_right _ _
  · rw [Text.cut?_width_append]
    rfl

/-- What is extracted is a piece of the front of the text. -/
theorem takenFrom_extract_braces (opening closing : Char) (cs : List Char) :
    ((braces opening closing).extract (opening :: cs)).TakenFrom (opening :: cs) := by
  simp only [extract, extractBraces, if_true]
  -- up to the closing character, or all of the text
  cases hsplit : splitOpened opening closing cs with
  | none =>
    have htaken := takenFrom_append (List.cons_ne_nil opening cs) cs []
    rwa [List.append_nil] at htaken
  | some p =>
    have htaken := takenFrom_append (List.cons_ne_nil opening (p.1 ++ [closing])) p.1 p.2
    rw [eq_append_of_splitOpened hsplit]
    simpa [Nat.add_assoc] using htaken

end extract

/-- **A span in braces is the balanced piece at the front of the text.**  Behind an opening
character other than the backslash the count of open braces does not fall below zero, counting
gives what is extracted, and what is extracted is not empty and ends between two characters of
the text.  If the closing character is neither the opening one nor the backslash, one
balanced text at most stands in front of a closing character, and that text is extracted,
whatever comes behind it; where there is none, everything is. -/
theorem extract_braces_balanced {opening : Char} (hopening : opening ≠ '\\') (closing : Char)
    (cs : List Char) :
    (∀ k ∈ BraceCount.start.counts opening closing (opening :: cs), 0 ≤ k.depth) ∧
    (braces opening closing).extract (opening :: cs) =
      extractCounted opening closing (opening :: cs) ∧
    ((braces opening closing).extract (opening :: cs)).TakenFrom (opening :: cs) ∧
    (opening ≠ closing → closing ≠ '\\' →
      (∀ t u t' u', Balanced opening closing t → cs = t ++ closing :: u →
        Balanced opening closing t' → cs = t' ++ closing :: u' → t' = t) ∧
      (∀ t u, Balanced opening closing t → cs = t ++ closing :: u →
        (braces opening closing).extract (opening :: cs) =
          ⟨Text.width (opening :: (t ++ [closing])), t⟩) ∧
      ((∀ t u, Balanced opening closing t → cs ≠ t ++ closing :: u) →
        (braces opening closing).extract (opening :: cs) = ⟨Text.width (opening :: cs), cs⟩) ∧
      ∀ t u u', Balanced opening closing t →
        (braces opening closing).extract (opening :: (t ++ closing :: u)) =
          (braces opening closing).extract (opening :: (t ++ closing :: u'))) := by
  refine ⟨BraceCount.depth_nonneg_of_mem_counts hopening cs,
    extract_braces_eq_counted opening closing _, takenFrom_extract_braces opening closing cs,
    fun hne hclosing => ⟨?_, ?_, ?_, ?_⟩⟩
  · intro t u t' u' ht hcs ht' hcs'
    have h := (splitBalanced_eq_some_iff hne hclosing).mpr ⟨ht, hcs⟩
    have h' := (splitBalanced_eq_some_iff hne hclosing).mpr ⟨ht', hcs'⟩
    rw [h] at h'
    cases h'
    rfl
  · rintro t u ht rfl
    exact extract_braces_of_balanced hne hclosing ht hopening u
  · exact extract_braces_of_unbalanced hne hclosing hopening
  · intro t u u' ht
    rw [extract_braces_of_balanced hne hclosing ht hopening u,
      extract_braces_of_balanced hne hclosing ht hopening u']

/-- Braces inside, one of them escaped, and text behind the span. -/
theorem extract_braces_balanced_escaped :
    Balanced '{' '}' ['a', '\\', '}', '{', 'b', '}'] ∧
      (BraceCount.start.counts '{' '}'
        ['{', 'a', '\\', '}', '{', 'b', '}', '}', 'c']).map BraceCount.depth =
          [0, 1, 1, 1, 1, 2, 2, 1, 0] ∧
      (∀ k ∈ BraceCount.start.counts '{' '}' ['{', 'a', '\\', '}', '{', 'b', '}', '}', 'c'],
        0 ≤ k.depth) ∧
      (braces '{' '}').extract ['{', 'a', '\\', '}', '{', 'b', '}', '}', 'c'] =
        ⟨8, ['a', '\\', '}', '{', 'b', '}']⟩ := by
  have hbalanced : Balanced '{' '}' ['a', '\\', '}', '{', 'b', '}'] :=
    (balanced_iff_depthAfter (by decide)).mpr rfl
  obtain ⟨hcounts, -, -, hclosed⟩ := @extract_braces_balanced '{' (by decide) '}'
    ['a', '\\', '}', '{', 'b', '}', '}', 'c']
  obtain ⟨-, hextract, -, -⟩ := hclosed (by decide) (by decide)
  exact ⟨hbalanced, by decide, hcounts, hextract _ ['c'] hbalanced rfl⟩

end Quoting
end TextTemplate
