import TextTemplate.Proofs.Json.Grammar

/-! # Reading what the grammar spells

Strings, lists and mappings end with a mark of their own, so they are read whatever comes
behind them; a number is read where no character of a number follows (`Ends`).  A text that
spells a value with blanks around it is a document, and is read as that value
(`read?_of_document`). -/
namespace TextTemplate.Json

/-! ## Strings -/

theorem readHex4_append {digits : List Char} {n : Nat} (h : readHex4 digits = some (n, []))
    (rest : List Char) : readHex4 (digits ++ rest) = some (n, rest) := by
  unfold readHex4 at h
  split at h
  · rename_i a b c d more
    simp only [Option.bind_eq_bind, Option.bind_eq_some_iff, Option.some.injEq,
      Prod.mk.injEq] at h
    obtain ⟨a', ha, b', hb, c', hc, d', hd, rfl, rfl⟩ := h
    simp [readHex4, ha, hb, hc, hd]
  · cases h

theorem readEscape_of_escaped {c : Char} {e : List Char} (h : Escaped c e) (rest : List Char) :
    readEscape (e ++ rest) = some (c, rest) := by
  cases h with
  | letter h =>
    simp only [List.mem_cons, Prod.mk.injEq, List.not_mem_nil, or_false] at h
    rcases h with ⟨rfl, rfl⟩ | ⟨rfl, rfl⟩ | ⟨rfl, rfl⟩ | ⟨rfl, rfl⟩ | ⟨rfl, rfl⟩ | ⟨rfl, rfl⟩ |
      ⟨rfl, rfl⟩ | ⟨rfl, rfl⟩ <;> rfl
  | unit h hhigh hlow => simp [readEscape, readHex4_append h, hhigh, hlow]
  | pair hf hhigh hs hlow =>
    simp [readEscape, readHex4_append hf, hhigh, readHex4_append hs, hlow]

theorem readString_mark (rest : List Char) : readString ('"' :: rest) = some ([], rest) := by
  rw [readString]
  simp

theorem readString_plain {c : Char} (h : Lexis.json.plain c) (cs : List Char) :
    readString (c :: cs) = (readString cs).map fun (s, rest) => (c :: s, rest) := by
  obtain ⟨hmark, hslash, hcode⟩ := h
  rw [readString, if_neg hmark, if_neg hslash, if_neg (by omega)]

theorem readString_escape {c : Char} {cs rest : List Char} (h : readEscape cs = some (c, rest)) :
    readString ('\\' :: cs) = (readString rest).map fun (s, rest) => (c :: s, rest) := by
  rw [readString, if_neg (by decide), if_pos rfl]
  split
  · rename_i hnone
    cases hnone.symm.trans h
  · rename_i hsome
    cases hsome.symm.trans h
    rfl

/-- **A string is read up to its closing mark**, whatever comes behind it. -/
theorem readString_of_spelled {s t : List Char} (h : StringSpelled .json s t) (rest : List Char) :
    readString (t ++ '"' :: rest) = some (s, rest) := by
  induction h with
  | nil => exact readString_mark rest
  | plain hc h ih =>
    rw [List.cons_append, readString_plain hc, ih]
    rfl
  | escaped he h ih =>
    rw [List.cons_append, List.append_assoc, readString_escape (readEscape_of_escaped he _), ih]
    rfl

/-! ## Numbers -/

/-- No number goes on here. -/
def Ends (rest : List Char) : Prop := ∀ c ∈ rest.head?, isNumberChar c = false

theorem isDigit_of_takeWhile (cs : List Char) : ∀ d ∈ cs.takeWhile Char.isDigit, d.isDigit = true :=
  List.all_eq_true.mp List.all_takeWhile

theorem isNumberChar_of_isDigit {c : Char} (h : c.isDigit = true) : isNumberChar c = true := by
  simp [isNumberChar, h]

/-- Digits in front of a text are the same digits in front of more text, where no number goes
on. -/
theorem digits_append {rest : List Char} (h : Ends rest) (cs : List Char) :
    (cs ++ rest).takeWhile Char.isDigit = cs.takeWhile Char.isDigit ∧
      (cs ++ rest).dropWhile Char.isDigit = cs.dropWhile Char.isDigit ++ rest := by
  induction cs with
  | nil =>
    cases rest with
    | nil => exact ⟨rfl, rfl⟩
    | cons c rest =>
      have hc : c.isDigit = false := by
        by_cases hd : c.isDigit = true
        · exact absurd (isNumberChar_of_isDigit hd) (by simp [h c rfl])
        · simpa using hd
      simp [hc]
  | cons c cs ih =>
    by_cases hc : c.isDigit = true
    · simpa [hc] using ih
    · simp [hc]

/-- An exponent whose sign has been read. -/
def readExponentDigits (negative : Bool) (cs : List Char) : Option (Int × List Char) :=
  let digits := cs.takeWhile Char.isDigit
  if digits.isEmpty then none else
  let n : Int := digits.foldl (fun n d => n * 10 + digitValue d) 0
  some (if negative then -n else n, cs.dropWhile Char.isDigit)

theorem readExponent_unsigned {cs : List Char} (hplus : ∀ more, cs ≠ '+' :: more)
    (hminus : ∀ more, cs ≠ '-' :: more) : readExponent cs = readExponentDigits false cs := by
  unfold readExponent
  split
  rename_i hsign
  split at hsign
  · exact absurd rfl (hplus _)
  · exact absurd rfl (hminus _)
  · cases hsign
    rfl

theorem readExponentDigits_append {negative : Bool} {cs rest : List Char} {e : Int}
    (h : readExponentDigits negative cs = some (e, [])) (hrest : Ends rest) :
    readExponentDigits negative (cs ++ rest) = some (e, rest) := by
  obtain ⟨htake, hdrop⟩ := digits_append hrest cs
  unfold readExponentDigits at h ⊢
  simp only [htake, hdrop] at h ⊢
  split at h
  · cases h
  · rename_i hdigits
    obtain ⟨he, hnil⟩ := Prod.mk.inj (Option.some.inj h)
    rw [if_neg hdigits, he, hnil, List.nil_append]

theorem readExponent_append {cs rest : List Char} {e : Int}
    (h : readExponent cs = some (e, [])) (hrest : Ends rest) :
    readExponent (cs ++ rest) = some (e, rest) := by
  cases cs with
  | nil => cases h
  | cons c cs =>
    by_cases hplus : c = '+'
    · subst hplus
      exact @readExponentDigits_append false _ _ _ h hrest
    · by_cases hminus : c = '-'
      · subst hminus
        exact @readExponentDigits_append true _ _ _ h hrest
      · have hunsigned : ∀ cs, readExponent (c :: cs) = readExponentDigits false (c :: cs) :=
          fun cs => readExponent_unsigned (fun more hmore => hplus (List.cons.inj hmore).1)
            fun more hmore => hminus (List.cons.inj hmore).1
        rw [hunsigned] at h
        rw [List.cons_append, hunsigned]
        exact readExponentDigits_append h hrest

/-- A number ends with an exponent, or where none follows. -/
theorem finishNumber_eq_some_iff {negative : Bool} {significand : Nat} {power : Int}
    {cs rest : List Char} {n : Number} :
    finishNumber negative significand power cs = some (n, rest) ↔
      (∃ letter ds e, (letter = 'e' ∨ letter = 'E') ∧ cs = letter :: ds ∧
        readExponent ds = some (e, rest) ∧
          assemble negative significand (power + e) = some n) ∨
      (∀ c ∈ cs.head?, c ≠ 'e' ∧ c ≠ 'E') ∧ rest = cs ∧
        assemble negative significand power = some n := by
  have hexponent : ∀ {letter : Char} {ds : List Char}, letter = 'e' ∨ letter = 'E' →
      ((readExponent ds >>= fun p =>
        assemble negative significand (power + p.1) >>= fun n => some (n, p.2)) = some (n, rest) ↔
      (∃ letter' ds' e, (letter' = 'e' ∨ letter' = 'E') ∧ letter :: ds = letter' :: ds' ∧
        readExponent ds' = some (e, rest) ∧
          assemble negative significand (power + e) = some n) ∨
      (∀ c ∈ (letter :: ds).head?, c ≠ 'e' ∧ c ≠ 'E') ∧ rest = letter :: ds ∧
        assemble negative significand power = some n) := by
    intro letter ds hletter
    simp only [Option.bind_eq_bind, Option.bind_eq_some_iff, Option.some.injEq, Prod.mk.injEq]
    constructor
    · rintro ⟨⟨e, rest⟩, he, m, hm, rfl, rfl⟩
      exact .inl ⟨letter, ds, e, hletter, rfl, he, hm⟩
    · rintro (⟨letter', ds', e, -, heq, he, hm⟩ | ⟨hne, -⟩)
      · cases heq
        exact ⟨(e, rest), he, n, hm, rfl, rfl⟩
      · obtain ⟨hlower, hupper⟩ := hne letter rfl
        rcases hletter with rfl | rfl
        · exact absurd rfl hlower
        · exact absurd rfl hupper
  unfold finishNumber
  split
  · exact hexponent (.inl rfl)
  · exact hexponent (.inr rfl)
  · rename_i hlower hupper
    rw [Option.map_eq_some_iff]
    constructor
    · rintro ⟨m, hm, hn⟩
      cases hn
      refine .inr ⟨fun c hc => ?_, rfl, hm⟩
      obtain ⟨more, rfl⟩ := List.head?_eq_some_iff.mp hc
      exact ⟨fun h => hlower more (h ▸ rfl), fun h => hupper more (h ▸ rfl)⟩
    · rintro (⟨letter, ds, e, rfl | rfl, rfl, -⟩ | ⟨-, rfl, hm⟩)
      · exact absurd rfl (hlower ds)
      · exact absurd rfl (hupper ds)
      · exact ⟨n, hm, rfl⟩

theorem finishNumber_append {negative : Bool} {significand : Nat} {power : Int}
    {cs rest : List Char} {n : Number}
    (h : finishNumber negative significand power cs = some (n, [])) (hrest : Ends rest) :
    finishNumber negative significand power (cs ++ rest) = some (n, rest) := by
  rw [finishNumber_eq_some_iff] at h ⊢
  rcases h with ⟨letter, ds, e, hletter, rfl, he, hm⟩ | ⟨-, rfl, hm⟩
  · exact .inl ⟨letter, ds ++ rest, e, hletter, rfl, readExponent_append he hrest, hm⟩
  · refine .inr ⟨fun c hc => ?_, rfl, hm⟩
    have hend := hrest c hc
    constructor <;>
    · rintro rfl
      exact absurd hend (by decide)

/-- Digits in front of a number: at least one, and no zero in front of others. -/
structure IsWhole (digits : List Char) : Prop where
  ne_nil : digits ≠ []
  zero : digits.head? = some '0' → digits.length = 1

/-- How a number goes on behind its digits: with a fraction, with an exponent, or not at all. -/
inductive Continues (negative : Bool) (digits : List Char) :
    List Char → Number → List Char → Prop
  | point {fraction rest : List Char} {n : Number} (hne : fraction.takeWhile Char.isDigit ≠ [])
      (h : finishNumber negative
        (collect (collect 0 digits).1 (fraction.takeWhile Char.isDigit)).1
        ((collect 0 digits).2.length - ((fraction.takeWhile Char.isDigit).length -
          (collect (collect 0 digits).1 (fraction.takeWhile Char.isDigit)).2.length : Int))
        (fraction.dropWhile Char.isDigit) = some (n, rest)) :
      Continues negative digits ('.' :: fraction) n rest
  | exponent {letter : Char} {more rest : List Char} {n : Number}
      (hletter : letter = 'e' ∨ letter = 'E')
      (h : finishNumber negative (collect 0 digits).1 (collect 0 digits).2.length
        (letter :: more) = some (n, rest)) :
      Continues negative digits (letter :: more) n rest
  | whole {behind : List Char} {n : Number}
      (hbehind : ∀ c ∈ behind.head?, c ≠ '.' ∧ c ≠ 'e' ∧ c ≠ 'E')
      (h : (if (collect 0 digits).2.isEmpty then wholeNumber negative (collect 0 digits).1
        else assemble negative (collect 0 digits).1 (collect 0 digits).2.length) = some n) :
      Continues negative digits behind n behind

/-- A number is digits and what they continue with. -/
theorem readMagnitude_eq_some_iff {negative : Bool} {cs rest : List Char} {n : Number} :
    readMagnitude negative cs = some (n, rest) ↔
      IsWhole (cs.takeWhile Char.isDigit) ∧
        Continues negative (cs.takeWhile Char.isDigit) (cs.dropWhile Char.isDigit) n rest := by
  generalize hdigits : cs.takeWhile Char.isDigit = digits
  generalize hbehind : cs.dropWhile Char.isDigit = behind
  have hwhole : ¬ (digits.isEmpty || (digits.head? == some '0' && digits.length != 1)) = true ↔
      IsWhole digits := by
    simp only [Bool.or_eq_true, Bool.and_eq_true, List.isEmpty_iff, beq_iff_eq, bne_iff_ne,
      not_or, not_and, ne_eq, Decidable.not_not]
    exact ⟨fun h => ⟨h.1, h.2⟩, fun h => ⟨h.1, h.2⟩⟩
  unfold readMagnitude
  simp only [hdigits, hbehind]
  constructor
  · intro h
    split at h
    · cases h
    rename_i hdigits
    refine ⟨hwhole.mp hdigits, ?_⟩
    split at h
    · split at h
      · cases h
      · rename_i hfraction
        exact .point (fun hnil => hfraction (by rw [hnil]; rfl)) h
    · exact .exponent (.inl rfl) h
    · exact .exponent (.inr rfl) h
    · rename_i hpoint hlower hupper
      have hmarks : ∀ c ∈ behind.head?, c ≠ '.' ∧ c ≠ 'e' ∧ c ≠ 'E' := by
        intro c hc
        obtain ⟨more, rfl⟩ := List.head?_eq_some_iff.mp hc
        exact ⟨fun h => hpoint more (h ▸ rfl), fun h => hlower more (h ▸ rfl),
          fun h => hupper more (h ▸ rfl)⟩
      split at h <;> rename_i hexcess <;>
      · obtain ⟨m, hm, hn⟩ := Option.map_eq_some_iff.mp h
        cases hn
        exact .whole hmarks (by simp [hexcess, hm])
  · rintro ⟨hdigits, h⟩
    rw [if_neg (hwhole.mpr hdigits)]
    cases h with
    | point hne h => exact (if_neg (by simpa using hne)).trans h
    | exponent hletter h => rcases hletter with rfl | rfl <;> exact h
    | whole hmarks h =>
      split
      · exact absurd rfl (hmarks '.' rfl).1
      · exact absurd rfl (hmarks 'e' rfl).2.1
      · exact absurd rfl (hmarks 'E' rfl).2.2
      · split at h <;> rename_i hexcess <;> simp [hexcess, h]

theorem Continues.append {negative : Bool} {digits behind rest : List Char} {n : Number}
    (h : Continues negative digits behind n []) (hrest : Ends rest) :
    Continues negative digits (behind ++ rest) n rest := by
  generalize hnil : ([] : List Char) = last at h
  cases h with
  | @point fraction _ _ hne h =>
    subst hnil
    obtain ⟨htake, hdrop⟩ := digits_append hrest fraction
    rw [List.cons_append]
    exact .point (by rwa [htake]) (by rw [htake, hdrop]; exact finishNumber_append h hrest)
  | exponent hletter h =>
    subst hnil
    exact .exponent hletter (finishNumber_append h hrest)
  | whole hmarks h =>
    subst hnil
    refine .whole (fun c hc => ?_) h
    have hend := hrest c hc
    refine ⟨?_, ?_, ?_⟩ <;>
    · rintro rfl
      exact absurd hend (by decide)

theorem readMagnitude_append {negative : Bool} {cs rest : List Char} {n : Number}
    (h : readMagnitude negative cs = some (n, [])) (hrest : Ends rest) :
    readMagnitude negative (cs ++ rest) = some (n, rest) := by
  obtain ⟨htake, hdrop⟩ := digits_append hrest cs
  rw [readMagnitude_eq_some_iff] at h ⊢
  rw [htake, hdrop]
  exact ⟨h.1, h.2.append hrest⟩

/-- **A number is read where no number goes on behind it.** -/
theorem readNumber_append {cs rest : List Char} {n : Number}
    (h : readNumber cs = some (n, [])) (hrest : Ends rest) :
    readNumber (cs ++ rest) = some (n, rest) := by
  unfold readNumber at h
  split at h
  · exact readMagnitude_append h hrest
  · rename_i hsign
    have hne : cs ≠ [] := by
      rintro rfl
      cases h
    obtain ⟨c, cs, rfl⟩ := List.exists_cons_of_ne_nil hne
    rw [readNumber]
    · exact readMagnitude_append h hrest
    · intro more hmore
      cases hmore
      exact hsign cs rfl

/-! ## Blanks -/

theorem skipBlank_append {a : List Char} (h : Blank a) (cs : List Char) :
    skipBlank (a ++ cs) = skipBlank cs :=
  List.dropWhile_append_of_pos h

theorem skipBlank_cons {c : Char} (h : isBlank c = false) (cs : List Char) :
    skipBlank (c :: cs) = c :: cs := by
  simp [skipBlank, h]

/-- Blanks are skipped up to the next mark. -/
theorem skipBlank_mark {b : List Char} {c : Char} (hb : Blank b) (hc : isBlank c = false)
    (more : List Char) : skipBlank (b ++ c :: more) = c :: more := by
  rw [skipBlank_append hb, skipBlank_cons hc]

theorem isNumberChar_of_isBlank {c : Char} (h : isBlank c = true) : isNumberChar c = false := by
  simp only [isBlank, Bool.or_eq_true, beq_iff_eq] at h
  rcases h with ((rfl | rfl) | rfl) | rfl <;> decide

/-- No number goes on behind blanks and another mark. -/
theorem ends_mark {b more : List Char} {c : Char} (hb : Blank b) (hc : isNumberChar c = false) :
    Ends (b ++ c :: more) := by
  cases b with
  | nil =>
    rintro x hx
    cases hx
    exact hc
  | cons x b =>
    rintro y hy
    cases hy
    exact isNumberChar_of_isBlank (hb x List.mem_cons_self)

/-! ## Values -/

/-- A text that begins an item: neither with a blank nor with a mark that ends a list or a
mapping. -/
def Opens (t : List Char) : Prop :=
  ∃ c more, t = c :: more ∧ isBlank c = false ∧ c ≠ ']' ∧ c ≠ '}'

theorem Opens.append {t : List Char} (h : Opens t) (rest : List Char) : Opens (t ++ rest) := by
  obtain ⟨c, more, rfl, hc⟩ := h
  exact ⟨c, more ++ rest, rfl, hc⟩

theorem Opens.skipBlank_eq {t : List Char} (h : Opens t) : skipBlank t = t := by
  obtain ⟨c, more, rfl, hc, -⟩ := h
  exact skipBlank_cons hc more

theorem Opens.of_isNumberChar {c : Char} (h : isNumberChar c = true) (more : List Char) :
    Opens (c :: more) := by
  refine ⟨c, more, rfl, ?_, ?_, ?_⟩
  · by_cases hb : isBlank c = true
    · exact absurd (isNumberChar_of_isBlank hb) (by simp [h])
    · simpa using hb
  · rintro rfl
    exact absurd h (by decide)
  · rintro rfl
    exact absurd h (by decide)

theorem readValue_number {depth : Nat} {c : Char} (hc : isNumberChar c = true) (cs : List Char) :
    readValue depth (c :: cs) = (readNumber (c :: cs)).map fun (n, rest) => (.number n, rest) := by
  have hne : c ≠ 'n' ∧ c ≠ 't' ∧ c ≠ 'f' ∧ c ≠ '"' ∧ c ≠ '[' ∧ c ≠ '{' := by
    refine ⟨?_, ?_, ?_, ?_, ?_, ?_⟩ <;> · rintro rfl; exact absurd hc (by decide)
  cases depth with
  | zero => rw [readValue] <;> simp_all
  | succ depth => rw [readValue] <;> simp_all

theorem exists_cons_of_number {n : Number} {t : List Char} (h : Lexis.json.number n t) :
    ∃ c more, t = c :: more ∧ isNumberChar c = true := by
  obtain ⟨hchars, hread⟩ := h
  cases t with
  | nil => cases hread
  | cons c more => exact ⟨c, more, rfl, hchars c List.mem_cons_self⟩

theorem ScalarSpelled.opens {v : Value} {t : List Char} (h : ScalarSpelled .json v t) :
    Opens t := by
  cases h with
  | null => exact ⟨_, _, rfl, by decide⟩
  | yes => exact ⟨_, _, rfl, by decide⟩
  | no => exact ⟨_, _, rfl, by decide⟩
  | string h => exact ⟨_, _, rfl, by decide⟩
  | number h =>
    obtain ⟨c, more, rfl, hc⟩ := exists_cons_of_number h
    exact .of_isNumberChar hc more

theorem Spelled.opens {depth : Nat} {v : Value} {t : List Char} (h : Spelled .json depth v t) :
    Opens t := by
  cases depth with
  | zero => exact ScalarSpelled.opens h
  | succ depth =>
    rcases h with h | h
    · exact h.opens
    · cases h with
      | array h => exact ⟨_, _, rfl, by decide⟩
      | object h => exact ⟨_, _, rfl, by decide⟩

theorem EntrySpelled.opens {L : Lexis} {item : Value → List Char → Prop} {e : String × Value}
    {t : List Char} (h : EntrySpelled L item e t) : Opens t := by
  cases h with
  | intro hk ha hkey hb hv => exact ⟨_, _, rfl, by decide⟩

section

variable {α : Type} {item : α → List Char → Prop} {close : Char} {xs : List α} {u : List Char}

/-- The blanks in front of the first item can be left out. -/
theorem Separated.exists_opens (hitem : ∀ x t, item x t → Opens t)
    (h : Separated item close xs u) :
    ∃ a u', Blank a ∧ u = a ++ u' ∧ Opens u' ∧ Separated item close xs u' := by
  cases h with
  | last ha ht hb => exact ⟨_, _, ha, rfl, (hitem _ _ ht).append _, .last (a := []) nofun ht hb⟩
  | cons ha ht hb h => exact ⟨_, _, ha, rfl, (hitem _ _ ht).append _, .cons (a := []) nofun ht hb h⟩

theorem Separated.length_le (h : Separated item close xs u) : xs.length ≤ u.length := by
  induction h with
  | last ha ht hb =>
    simp only [List.length_append, List.length_singleton]
    omega
  | cons ha ht hb h ih =>
    simp only [List.length_append, List.length_cons]
    omega

end

section

variable {item : Value → List Char → Prop} {read : List Char → Option (Value × List Char)}
  (hopens : ∀ v t, item v t → Opens t)
  (hread : ∀ v t rest, item v t → Ends rest → read (t ++ rest) = some (v, rest))
  {rest : List Char}

include hopens hread

/-- An item is read with the blanks around it. -/
theorem read_item {v : Value} {a t b : List Char} {c : Char} (ha : Blank a) (ht : item v t)
    (hb : Blank b) (hc : isNumberChar c = false) (hblank : isBlank c = false)
    (more : List Char) :
    ∃ behind, read (skipBlank (a ++ (t ++ (b ++ c :: more)))) = some (v, behind) ∧
      skipBlank behind = c :: more := by
  refine ⟨b ++ c :: more, ?_, skipBlank_mark hb hblank more⟩
  rw [skipBlank_append ha, ((hopens _ _ ht).append _).skipBlank_eq]
  exact hread _ _ _ ht (ends_mark hb hc)

/-- **The items of a list are read up to its closing bracket.** -/
theorem readItems_of_separated {vs : List Value} {u : List Char} (h : Separated item ']' vs u)
    {fuel : Nat} (hfuel : vs.length ≤ fuel) :
    readItems read fuel (u ++ rest) = some (vs, rest) := by
  induction h generalizing fuel with
  | @last v a t b ha ht hb =>
    obtain ⟨fuel, rfl⟩ : ∃ n, fuel = n + 1 :=
      ⟨fuel - 1, by simp only [List.length_singleton] at hfuel; omega⟩
    obtain ⟨behind, hv, hmark⟩ :=
      read_item hopens hread (c := ']') ha ht hb (by decide) (by decide) rest
    simp only [List.append_assoc, List.cons_append, List.nil_append]
    simp [readItems, hv, hmark]
  | @cons v a t b vs u ha ht hb h ih =>
    obtain ⟨fuel, rfl⟩ : ∃ n, fuel = n + 1 :=
      ⟨fuel - 1, by simp only [List.length_cons] at hfuel; omega⟩
    obtain ⟨behind, hv, hmark⟩ :=
      read_item hopens hread (c := ',') ha ht hb (by decide) (by decide) (u ++ rest)
    have hrest : readItems read fuel (u ++ rest) = some (vs, rest) := ih (by simpa using hfuel)
    simp only [List.append_assoc, List.cons_append]
    simp [readItems, hv, hmark, hrest]

/-- An entry is read part by part, with the blanks around it. -/
theorem read_entry {e : String × Value} {a t b : List Char} {c : Char} (ha : Blank a)
    (ht : EntrySpelled .json item e t) (hb : Blank b) (hc : isNumberChar c = false)
    (hblank : isBlank c = false) (more : List Char) :
    ∃ inside k behindKey value behind,
      skipBlank (a ++ (t ++ (b ++ c :: more))) = '"' :: inside ∧
      readString inside = some (k, behindKey) ∧ skipBlank behindKey = ':' :: value ∧
      read (skipBlank value) = some (e.2, behind) ∧ skipBlank behind = c :: more ∧
      e.1 = String.ofList k := by
  cases ht with
  | @intro k s a' b' u v hk ha' hkey hb' hv =>
    obtain ⟨behind, hvalue, hmark⟩ :=
      read_item hopens hread hb' hv hb hc hblank more
    refine ⟨s ++ '"' :: (a' ++ ':' :: (b' ++ (u ++ (b ++ c :: more)))), k,
      a' ++ ':' :: (b' ++ (u ++ (b ++ c :: more))), b' ++ (u ++ (b ++ c :: more)), behind,
      ?_, readString_of_spelled hk _, skipBlank_mark ha' (by decide) _, hvalue, hmark, rfl⟩
    simp only [inMarks, List.append_assoc, List.cons_append, List.nil_append]
    exact skipBlank_mark ha (by decide) _

/-- **The entries of a mapping are read up to its closing brace.** -/
theorem readEntries_of_separated {es : List (String × Value)} {u : List Char}
    (h : Separated (EntrySpelled .json item) '}' es u) {fuel : Nat} (hfuel : es.length ≤ fuel) :
    readEntries read fuel (u ++ rest) = some (es, rest) := by
  induction h generalizing fuel with
  | @last e a t b ha ht hb =>
    obtain ⟨fuel, rfl⟩ : ∃ n, fuel = n + 1 :=
      ⟨fuel - 1, by simp only [List.length_singleton] at hfuel; omega⟩
    obtain ⟨inside, k, behindKey, value, behind, hinside, hk, hcolon, hv, hmark, hkey⟩ :=
      read_entry hopens hread (c := '}') ha ht hb (by decide) (by decide) rest
    simp only [List.append_assoc, List.cons_append, List.nil_append]
    simp [readEntries, hinside, hk, hcolon, hv, hmark, ← hkey]
  | @cons e a t b es u ha ht hb h ih =>
    obtain ⟨fuel, rfl⟩ : ∃ n, fuel = n + 1 :=
      ⟨fuel - 1, by simp only [List.length_cons] at hfuel; omega⟩
    obtain ⟨inside, k, behindKey, value, behind, hinside, hk, hcolon, hv, hmark, hkey⟩ :=
      read_entry hopens hread (c := ',') ha ht hb (by decide) (by decide) (u ++ rest)
    have hrest : readEntries read fuel (u ++ rest) = some (es, rest) := ih (by simpa using hfuel)
    simp only [List.append_assoc, List.cons_append]
    simp [readEntries, hinside, hk, hcolon, hv, hmark, hrest, ← hkey]

end

theorem readValue_of_scalar {depth : Nat} {v : Value} {t rest : List Char}
    (h : ScalarSpelled .json v t) (hrest : Ends rest) :
    readValue depth (t ++ rest) = some (v, rest) := by
  cases h with
  | null => cases depth <;> rfl
  | yes => cases depth <;> rfl
  | no => cases depth <;> rfl
  | string h =>
    have hs := readString_of_spelled h rest
    cases depth <;> simp [inMarks, readValue, hs]
  | number h =>
    obtain ⟨c, more, rfl, hc⟩ := exists_cons_of_number h
    rw [List.cons_append, readValue_number hc, ← List.cons_append, readNumber_append h.2 hrest]
    rfl

theorem readValue_list {depth : Nat} {cs : List Char} (h : Opens (skipBlank cs)) :
    readValue (depth + 1) ('[' :: cs) =
      (readItems (readValue depth) (skipBlank cs).length (skipBlank cs)).map fun (vs, rest) =>
        (.array vs, rest) := by
  obtain ⟨c, more, heq, -, hclose, -⟩ := h
  rw [readValue, heq]
  split
  · rename_i hmark
    exact absurd (List.cons.inj hmark).1 hclose
  · rfl

theorem readValue_mapping {depth : Nat} {cs : List Char} (h : Opens (skipBlank cs)) :
    readValue (depth + 1) ('{' :: cs) =
      (readEntries (readValue depth) (skipBlank cs).length (skipBlank cs)).map fun (es, rest) =>
        (.object (Entries.ofList es), rest) := by
  obtain ⟨c, more, heq, -, -, hclose⟩ := h
  rw [readValue, heq]
  split
  · rename_i hmark
    exact absurd (List.cons.inj hmark).1 hclose
  · rfl

/-- **A value is read wherever no number goes on behind it.** -/
theorem readValue_of_spelled {depth : Nat} {v : Value} {t rest : List Char}
    (h : Spelled .json depth v t) (hrest : Ends rest) :
    readValue depth (t ++ rest) = some (v, rest) := by
  induction depth generalizing v t rest with
  | zero => exact readValue_of_scalar h hrest
  | succ depth ih =>
    have hopens : ∀ v t, Spelled .json depth v t → Opens t := fun v t h => h.opens
    have hread : ∀ v t rest, Spelled .json depth v t → Ends rest →
        readValue depth (t ++ rest) = some (v, rest) := fun v t rest h hrest => ih h hrest
    rcases h with h | (@⟨_, _, (@⟨a, ha⟩ | h)⟩ | @⟨_, _, (@⟨a, ha⟩ | h)⟩)
    · exact readValue_of_scalar h hrest
    · have hclose : skipBlank (a ++ ([']'] ++ rest)) = ']' :: rest :=
        skipBlank_mark ha (by decide) rest
      rw [List.cons_append, List.append_assoc, readValue, hclose]
      rfl
    · obtain ⟨a, u, ha, rfl, hu, h⟩ := h.exists_opens hopens
      have hskip : skipBlank (a ++ u ++ rest) = u ++ rest := by
        rw [List.append_assoc, skipBlank_append ha, (hu.append rest).skipBlank_eq]
      rw [List.cons_append, readValue_list (by rw [hskip]; exact hu.append rest), hskip,
        readItems_of_separated hopens hread h (by have := h.length_le; simp; omega)]
      rfl
    · have hclose : skipBlank (a ++ (['}'] ++ rest)) = '}' :: rest :=
        skipBlank_mark ha (by decide) rest
      rw [List.cons_append, List.append_assoc, readValue, hclose]
      rfl
    · obtain ⟨a, u, ha, rfl, hu, h⟩ := h.exists_opens fun e t he => he.opens
      have hskip : skipBlank (a ++ u ++ rest) = u ++ rest := by
        rw [List.append_assoc, skipBlank_append ha, (hu.append rest).skipBlank_eq]
      rw [List.cons_append, readValue_mapping (by rw [hskip]; exact hu.append rest), hskip,
        readEntries_of_separated hopens hread h (by have := h.length_le; simp; omega)]
      rfl

theorem ends_blank {b : List Char} (hb : Blank b) : Ends b := by
  intro c hc
  exact isNumberChar_of_isBlank (hb c (List.mem_of_mem_head? hc))

/-- **A document is read as its value.** -/
theorem read?_of_document {v : Value} {text : List Char}
    (h : Document .json nestingLimit v text) : read? (String.ofList text) = some v := by
  obtain ⟨ha, ht, hb⟩ := h
  rename_i a t b
  have hfront : skipBlank (a ++ (t ++ b)) = t ++ b := by
    rw [skipBlank_append ha, (ht.opens.append b).skipBlank_eq]
  have hbehind : skipBlank b = [] := by
    have := skipBlank_append hb []
    rwa [List.append_nil] at this
  unfold read?
  rw [String.toList_ofList, hfront, readValue_of_spelled ht (ends_blank hb)]
  simp [hbehind]

end TextTemplate.Json
