import TextTemplate.Proofs.Yaml.Scalars

/-! # Numbers that mean the same

JSON and documents write whole numbers alike, and every number that JSON reads as a whole one is
portable (`portable_whole`). -/
namespace TextTemplate.Yaml

/-! ## Digits -/

/-- The number that decimal digits behind others stand for. -/
def decimalValue (start : Nat) (digits : List Char) : Nat :=
  digits.foldl (fun n d => n * 10 + Json.digitValue d) start

theorem digitIn?_of_isDigit {d : Char} (h : d.isDigit = true) :
    digitIn? 10 d = some (Json.digitValue d) := by
  have hcode : '0' ≤ d ∧ d ≤ '9' := by
    simp only [Char.isDigit, Bool.and_eq_true, decide_eq_true_eq] at h
    exact h
  have hlt : d.toNat - 48 < 10 := by
    have h9 : d.toNat ≤ 57 := hcode.2
    omega
  simp [digitIn?, digitValue?, hcode, Json.digitValue, hlt]

theorem numberIn?_of_isDigit {digits : List Char} (h : ∀ d ∈ digits, d.isDigit = true) :
    numberIn? 10 digits = some (decimalValue 0 digits) := by
  have hfold : ∀ start, digits.foldlM
      (fun n c => (digitIn? 10 c).map (n * 10 + ·)) start = some (decimalValue start digits) := by
    induction digits with
    | nil => exact fun _ => rfl
    | cons d digits ih =>
      intro start
      rw [List.foldlM_cons, digitIn?_of_isDigit (h d List.mem_cons_self), Option.map_some,
        Option.bind_eq_bind, Option.bind_some, ih fun x hx => h x (List.mem_cons_of_mem d hx)]
      rfl
  exact hfold 0

/-- Digits that were all collected are the number that they stand for, which fits 64 bits. -/
theorem collect_eq {significand n : Nat} {digits : List Char}
    (h : Json.collect significand digits = (n, [])) (hs : significand ≤ Json.wordMax) :
    n = decimalValue significand digits ∧ n ≤ Json.wordMax := by
  induction digits generalizing significand with
  | nil =>
    cases h
    exact ⟨rfl, hs⟩
  | cons d digits ih =>
    rw [Json.collect] at h
    split at h
    · rename_i hfits
      exact ih h hfits
    · cases h

/-! ## Whole numbers -/

/-- Numbers that are assembled are not whole. -/
theorem assemble_ne_int {negative : Bool} {significand : Nat} {power n : Int} :
    Json.assemble negative significand power ≠ some (.int n) := by
  intro h
  simp only [Json.assemble, Option.bind_eq_bind, Option.bind_eq_some_iff] at h
  obtain ⟨x, -, y, -, h⟩ := h
  cases h

theorem finishNumber_ne_int {negative : Bool} {significand : Nat} {power n : Int}
    {cs rest : List Char} :
    Json.finishNumber negative significand power cs ≠ some (.int n, rest) := by
  intro h
  rcases Json.finishNumber_eq_some_iff.mp h with ⟨_, _, _, -, -, -, hm⟩ | ⟨-, -, hm⟩
  · exact assemble_ne_int hm
  · exact assemble_ne_int hm

/-- A number that is read as whole is its digits, without a zero in front. -/
theorem digits_of_readMagnitude {negative : Bool} {cs : List Char} {n : Int}
    (h : Json.readMagnitude negative cs = some (.int n, [])) :
    (∀ d ∈ cs, d.isDigit = true) ∧ Json.IsWhole cs ∧ decimalValue 0 cs ≤ Json.wordMax ∧
      Json.wholeNumber negative (decimalValue 0 cs) = some (.int n) := by
  obtain ⟨hwhole, hcontinues⟩ := Json.readMagnitude_eq_some_iff.mp h
  have hall := Json.isDigit_of_takeWhile cs
  have hsplit : cs.takeWhile Char.isDigit ++ cs.dropWhile Char.isDigit = cs :=
    List.takeWhile_append_dropWhile
  generalize hbehind : cs.dropWhile Char.isDigit = behind at hcontinues hsplit
  generalize hnil : ([] : List Char) = rest at hcontinues
  cases hcontinues with
  | point hne h => exact absurd h finishNumber_ne_int
  | exponent hletter h => exact absurd h finishNumber_ne_int
  | whole hmarks h =>
    subst hnil
    rw [List.append_nil] at hsplit
    rw [hsplit] at h hwhole hall
    split at h
    · rename_i hexcess
      have hcollect : Json.collect 0 cs = ((Json.collect 0 cs).1, []) := by
        rw [← List.isEmpty_iff.mp hexcess]
      obtain ⟨hvalue, hword⟩ := collect_eq hcollect (Nat.zero_le _)
      rw [hvalue] at h hword
      exact ⟨hall, hwhole, hword, h⟩
    · exact absurd h assemble_ne_int

section

variable {cs : List Char} (hall : ∀ d ∈ cs, d.isDigit = true) (hcs : Json.IsWhole cs)

include hall hcs

theorem isPadded_of_digits : isPadded cs = false ∧ isPadded ('-' :: cs) = false := by
  have hpadded :
      (decide (1 < cs.length) && cs.head? == some '0' && cs.all Char.isDigit) = false := by
    by_cases hfirst : cs.head? = some '0'
    · simp [hcs.zero hfirst]
    · simp [hfirst]
  refine ⟨?_, hpadded⟩
  unfold isPadded
  split
  · exact absurd (hall '-' List.mem_cons_self) (by decide)
  · exact absurd (hall '+' List.mem_cons_self) (by decide)
  · exact hpadded

/-- Digits without a zero in front are a whole number. -/
theorem magnitude?_of_digits : magnitude? cs = some (decimalValue 0 cs) := by
  have hletter : ∀ c rest, cs = '0' :: c :: rest → c.isDigit = true := by
    rintro c rest rfl
    exact hall c (by simp)
  unfold magnitude?
  split
  · exact absurd (hletter _ _ rfl) (by decide)
  · exact absurd (hletter _ _ rfl) (by decide)
  · exact absurd (hletter _ _ rfl) (by decide)
  · rw [(isPadded_of_digits hall hcs).1, if_neg (by decide), magnitudeIn?,
      if_neg (by simpa using hcs.ne_nil), numberIn?_of_isDigit hall]

theorem whole?_of_digits : whole? cs = some (decimalValue 0 cs : Int) ∧
    whole? ('-' :: cs) = some (-(decimalValue 0 cs : Int)) := by
  have hmagnitude := magnitude?_of_digits hall hcs
  refine ⟨?_, by rw [whole?, hmagnitude]; rfl⟩
  unfold whole?
  split
  · exact absurd (hall '-' List.mem_cons_self) (by decide)
  · exact absurd (hall '+' List.mem_cons_self) (by decide)
  · rw [hmagnitude]
    rfl

end

/-- A text that begins like a number is no word for nothing and no truth value. -/
theorem not_word_of_first {c : Char} {cs : List Char} (hc : c.isDigit = true ∨ c = '-') :
    isNullWord (c :: cs) = false ∧ truth? (c :: cs) = none := by
  have hne : ∀ d : Char, d.isDigit = false → d ≠ '-' → d ≠ c := by
    rintro d hd hminus rfl
    rcases hc with hc | hc
    · simp [hc] at hd
    · exact hminus hc
  have hn := hne 'n' (by decide) (by decide)
  have hN := hne 'N' (by decide) (by decide)
  have htilde := hne '~' (by decide) (by decide)
  have ht := hne 't' (by decide) (by decide)
  have hT := hne 'T' (by decide) (by decide)
  have hf := hne 'f' (by decide) (by decide)
  have hF := hne 'F' (by decide) (by decide)
  constructor
  · simp [isNullWord, hn, hN, htilde]
  · simp [truth?, ht, hT, hf, hF]

/-- A whole number of 64 bits is read as it is. -/
theorem plainValue?_of_whole {n : Int} {c : Char} {cs : List Char} (hc : c.isDigit = true ∨ c = '-')
    (hwhole : whole? (c :: cs) = some n) (hfits : fitsWord 64 n = true) :
    plainValue? (String.ofList (c :: cs)) = some (.number (.int n)) := by
  obtain ⟨hnull, htruth⟩ := @not_word_of_first c cs hc
  have hwide : fitsWord 128 n = true := by
    simp [fitsWord, Nat.shiftLeft_eq] at hfits ⊢
    omega
  simp [plainValue?, hnull, htruth, hwhole, Option.filter, hwide, hfits]

/-- **A number that JSON reads as whole is portable.** -/
theorem portable_whole {n : Int} {t : List Char} (h : Json.Lexis.json.number (.int n) t) :
    portable.number (.int n) t := by
  refine ⟨h, ?_⟩
  have hread := h.2
  have hword : Json.wordMax = 2 ^ 64 - 1 := by decide
  unfold Json.readNumber at hread
  split at hread
  · rename_i digits
    obtain ⟨hall, hwhole, -, hn⟩ := digits_of_readMagnitude hread
    have hbound : (1 <<< 63 : Nat) = 2 ^ 63 := by decide
    rw [Json.wholeNumber, if_neg (by decide), hbound] at hn
    split at hn
    · rename_i hfits
      cases hn
      refine plainValue?_of_whole (.inr rfl) (whole?_of_digits hall hwhole).2 ?_
      simp [fitsWord, Nat.shiftLeft_eq]
      omega
    · -- beyond 64 bits, and for zero, the number is not whole
      obtain ⟨x, -, hx⟩ := Option.map_eq_some_iff.mp hn
      cases hx
  · obtain ⟨hall, hwhole, hmax, hn⟩ := digits_of_readMagnitude hread
    cases hn
    obtain ⟨d, more, rfl⟩ := List.exists_cons_of_ne_nil hwhole.ne_nil
    refine plainValue?_of_whole (.inl (hall d List.mem_cons_self))
      (whole?_of_digits hall hwhole).1 ?_
    simp [fitsWord, Nat.shiftLeft_eq]
    omega

end TextTemplate.Yaml
