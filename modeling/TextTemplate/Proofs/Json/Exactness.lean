import TextTemplate.Proofs.Json.Reading

/-! # What is read is spelled

The reader accepts nothing but what the grammar spells: whatever is read off the front of a text
is a spelling of the value that was read, and the rest is what follows it.  So a text is read as a
value exactly if it is a document of that value (`read?_iff_document`). -/
namespace TextTemplate.Json

/-! ## Blanks -/

theorem blank_takeWhile (cs : List Char) : Blank (cs.takeWhile isBlank) :=
  List.all_eq_true.mp List.all_takeWhile

/-- Blanks are all that is skipped. -/
theorem exists_blank (cs : List Char) : ∃ a, Blank a ∧ cs = a ++ skipBlank cs :=
  ⟨cs.takeWhile isBlank, blank_takeWhile cs, List.takeWhile_append_dropWhile.symm⟩

/-- Blanks in front of what is read. -/
theorem exists_blank_of_skipBlank {cs more : List Char} (h : skipBlank cs = more) :
    ∃ a, Blank a ∧ cs = a ++ more := by
  obtain ⟨a, ha, hcs⟩ := exists_blank cs
  exact ⟨a, ha, h ▸ hcs⟩

/-! ## Strings -/

theorem exists_hex4 {cs rest : List Char} {n : Nat} (h : readHex4 cs = some (n, rest)) :
    ∃ digits, cs = digits ++ rest ∧ readHex4 digits = some (n, []) := by
  unfold readHex4 at h
  split at h
  · rename_i a b c d more
    simp only [Option.bind_eq_bind, Option.bind_eq_some_iff, Option.some.injEq,
      Prod.mk.injEq] at h
    obtain ⟨a', ha, b', hb, c', hc, d', hd, rfl, rfl⟩ := h
    exact ⟨[a, b, c, d], rfl, by simp [readHex4, ha, hb, hc, hd]⟩
  · cases h

theorem exists_escaped {cs rest : List Char} {c : Char} (h : readEscape cs = some (c, rest)) :
    ∃ e, cs = e ++ rest ∧ Escaped c e := by
  unfold readEscape at h
  split at h
  case h_9 =>
    rename_i more
    simp only [Option.bind_eq_bind, Option.bind_eq_some_iff] at h
    obtain ⟨⟨unit, mid⟩, hmid, h⟩ := h
    obtain ⟨first, rfl, hfirst⟩ := exists_hex4 hmid
    simp only at h
    split at h
    · rename_i hhigh
      split at h
      · rename_i more
        simp only [Option.bind_eq_some_iff] at h
        obtain ⟨⟨low, last⟩, hlast, h⟩ := h
        obtain ⟨second, rfl, hsecond⟩ := exists_hex4 hlast
        simp only at h
        split at h
        · rename_i hlow
          obtain ⟨rfl, rfl⟩ := Prod.mk.inj (Option.some.inj h)
          exact ⟨'u' :: first ++ '\\' :: 'u' :: second, by simp,
            .pair hfirst hhigh hsecond hlow⟩
        · cases h
      · cases h
    · rename_i hhigh
      split at h
      · cases h
      · rename_i hlow
        obtain ⟨rfl, rfl⟩ := Prod.mk.inj (Option.some.inj h)
        exact ⟨'u' :: first, rfl, .unit hfirst (by simpa using hhigh) (by simpa using hlow)⟩
  case h_10 => cases h
  all_goals
    cases h
    exact ⟨[_], rfl, .letter (by decide)⟩

/-- **A string that is read is spelled.** -/
theorem exists_stringSpelled {cs s rest : List Char} (h : readString cs = some (s, rest)) :
    ∃ t, cs = t ++ '"' :: rest ∧ StringSpelled .json s t := by
  induction cs using readString.induct generalizing s rest with
  | case1 =>
    rw [readString] at h
    cases h
  | case2 cs =>
    rw [readString_mark] at h
    cases h
    exact ⟨[], rfl, .nil⟩
  | case3 cs hnone hmark =>
    rw [readString, if_neg hmark, if_pos rfl] at h
    split at h
    · cases h
    · rename_i hsome
      cases hnone.symm.trans hsome
  | case4 cs e more hescape hlength hmark ih =>
    rw [readString_escape hescape] at h
    obtain ⟨⟨s', rest'⟩, hs, hpair⟩ := Option.map_eq_some_iff.mp h
    cases hpair
    obtain ⟨t, rfl, ht⟩ := ih hs
    obtain ⟨u, rfl, hu⟩ := exists_escaped hescape
    exact ⟨'\\' :: (u ++ t), by simp, .escaped hu ht⟩
  | case5 c cs hmark hslash hcode =>
    rw [readString, if_neg hmark, if_neg hslash, if_pos hcode] at h
    cases h
  | case6 c cs hmark hslash hcode ih =>
    have hplain : Lexis.json.plain c := ⟨hmark, hslash, Nat.le_of_not_lt hcode⟩
    rw [readString_plain hplain] at h
    obtain ⟨⟨s', rest'⟩, hs, hpair⟩ := Option.map_eq_some_iff.mp h
    cases hpair
    obtain ⟨t, rfl, ht⟩ := ih hs
    exact ⟨c :: t, rfl, .plain hplain ht⟩

/-! ## Numbers -/

theorem takeWhile_digits (cs : List Char) {t : List Char}
    (ht : ∀ c ∈ t.head?, c.isDigit = false) :
    (cs.takeWhile Char.isDigit ++ t).takeWhile Char.isDigit = cs.takeWhile Char.isDigit ∧
      (cs.takeWhile Char.isDigit ++ t).dropWhile Char.isDigit = t := by
  rw [List.takeWhile_append_of_pos (isDigit_of_takeWhile cs),
    List.dropWhile_append_of_pos (isDigit_of_takeWhile cs)]
  cases t with
  | nil => simp
  | cons c t => simp [ht c rfl]

theorem isNumberChar_of_takeWhile (cs : List Char) :
    ∀ c ∈ cs.takeWhile Char.isDigit, isNumberChar c = true :=
  fun c hc => isNumberChar_of_isDigit (isDigit_of_takeWhile cs c hc)

theorem exists_exponentDigits {negative : Bool} {cs rest : List Char} {e : Int}
    (h : readExponentDigits negative cs = some (e, rest)) :
    ∃ t, cs = t ++ rest ∧ (∀ c ∈ t, isNumberChar c = true) ∧
      readExponentDigits negative t = some (e, []) := by
  obtain ⟨htake, hdrop⟩ := @takeWhile_digits cs [] nofun
  rw [List.append_nil] at htake hdrop
  refine ⟨cs.takeWhile Char.isDigit, ?_, isNumberChar_of_takeWhile cs, ?_⟩
  · unfold readExponentDigits at h
    dsimp only at h
    split at h
    · cases h
    · obtain ⟨-, rfl⟩ := Prod.mk.inj (Option.some.inj h)
      exact List.takeWhile_append_dropWhile.symm
  · unfold readExponentDigits at h ⊢
    dsimp only at h ⊢
    rw [htake, hdrop]
    split at h
    · cases h
    · rename_i hdigits
      rw [if_neg hdigits, (Prod.mk.inj (Option.some.inj h)).1]

theorem exists_exponent {cs rest : List Char} {e : Int} (h : readExponent cs = some (e, rest)) :
    ∃ t, cs = t ++ rest ∧ (∀ c ∈ t, isNumberChar c = true) ∧ readExponent t = some (e, []) := by
  have hsigned : ∀ {negative : Bool} {c : Char} {cs : List Char}, isNumberChar c = true →
      (∀ ds, readExponent (c :: ds) = readExponentDigits negative ds) →
        readExponent (c :: cs) = some (e, rest) →
      ∃ t, c :: cs = t ++ rest ∧ (∀ c ∈ t, isNumberChar c = true) ∧
        readExponent t = some (e, []) := by
    intro negative c cs hc hsign h
    rw [hsign] at h
    obtain ⟨t, rfl, hchars, ht⟩ := exists_exponentDigits h
    exact ⟨c :: t, rfl, List.forall_mem_cons.mpr ⟨hc, hchars⟩, by rw [hsign, ht]⟩
  cases cs with
  | nil => cases h
  | cons c cs =>
    by_cases hplus : c = '+'
    · subst hplus
      exact @hsigned false _ _ (by decide) (fun _ => rfl) h
    · by_cases hminus : c = '-'
      · subst hminus
        exact @hsigned true _ _ (by decide) (fun _ => rfl) h
      · have hunsigned : ∀ ds, readExponent (c :: ds) = readExponentDigits false (c :: ds) :=
          fun ds => readExponent_unsigned (fun more hmore => hplus (List.cons.inj hmore).1)
            fun more hmore => hminus (List.cons.inj hmore).1
        rw [hunsigned] at h
        obtain ⟨t, hcs, hchars, ht⟩ := exists_exponentDigits h
        cases t with
        | nil => cases ht
        | cons d t =>
          obtain ⟨rfl, rfl⟩ := List.cons.inj hcs
          exact ⟨c :: t, rfl, hchars, by rw [hunsigned, ht]⟩

theorem exists_finish {negative : Bool} {significand : Nat} {power : Int}
    {cs rest : List Char} {n : Number}
    (h : finishNumber negative significand power cs = some (n, rest)) :
    ∃ t, cs = t ++ rest ∧ (∀ c ∈ t, isNumberChar c = true) ∧
      (∀ c ∈ t.head?, c = 'e' ∨ c = 'E') ∧
        (∀ c ∈ cs.head?, c = 'e' ∨ c = 'E' → t.head? = some c) ∧
          finishNumber negative significand power t = some (n, []) := by
  rcases finishNumber_eq_some_iff.mp h with
    ⟨letter, ds, e, hletter, rfl, he, hm⟩ | ⟨hne, rfl, hm⟩
  · obtain ⟨t, rfl, hchars, ht⟩ := exists_exponent he
    refine ⟨letter :: t, rfl, List.forall_mem_cons.mpr ⟨?_, hchars⟩, ?_, ?_, ?_⟩
    · rcases hletter with rfl | rfl <;> decide
    · rintro c ⟨⟩
      exact hletter
    · rintro c ⟨⟩ -
      rfl
    · exact finishNumber_eq_some_iff.mpr (.inl ⟨letter, t, e, hletter, rfl, ht, hm⟩)
  · refine ⟨[], rfl, nofun, nofun, fun c hc hletter => ?_, ?_⟩
    · obtain ⟨hlower, hupper⟩ := hne c hc
      exact absurd hletter (not_or.mpr ⟨hlower, hupper⟩)
    · exact finishNumber_eq_some_iff.mpr (.inr ⟨nofun, rfl, hm⟩)

theorem Continues.exists {negative : Bool} {digits behind rest : List Char} {n : Number}
    (h : Continues negative digits behind n rest) :
    ∃ t, behind = t ++ rest ∧ (∀ c ∈ t, isNumberChar c = true) ∧
      (∀ c ∈ t.head?, c.isDigit = false) ∧ Continues negative digits t n [] := by
  have hletter : ∀ {t : List Char}, (∀ c ∈ t.head?, c = 'e' ∨ c = 'E') →
      ∀ c ∈ t.head?, c.isDigit = false := by
    intro t ht c hc
    rcases ht c hc with rfl | rfl <;> decide
  cases h with
  | @point fraction _ _ hne h =>
    obtain ⟨t, ht, htchars, hthead, -, hfinish⟩ := exists_finish h
    obtain ⟨htake, hdrop⟩ := @takeWhile_digits fraction t (hletter hthead)
    refine ⟨'.' :: (fraction.takeWhile Char.isDigit ++ t), ?_, ?_, by simp, ?_⟩
    · rw [List.cons_append, List.append_assoc, ← ht, List.takeWhile_append_dropWhile]
    · refine List.forall_mem_cons.mpr ⟨by decide, ?_⟩
      exact List.forall_mem_append.mpr ⟨isNumberChar_of_takeWhile fraction, htchars⟩
    · exact .point (by rwa [htake]) (by rwa [htake, hdrop])
  | exponent hfirst h =>
    obtain ⟨t, ht, htchars, hthead, hsame, hfinish⟩ := exists_finish h
    obtain ⟨u, rfl⟩ := List.head?_eq_some_iff.mp (hsame _ rfl hfirst)
    exact ⟨_, ht, htchars, hletter hthead, .exponent hfirst hfinish⟩
  | whole hmarks h => exact ⟨[], rfl, nofun, nofun, .whole nofun h⟩

theorem exists_magnitude {negative : Bool} {cs rest : List Char} {n : Number}
    (h : readMagnitude negative cs = some (n, rest)) :
    ∃ t, cs = t ++ rest ∧ (∀ c ∈ t, isNumberChar c = true) ∧
      readMagnitude negative t = some (n, []) := by
  obtain ⟨hwhole, hcontinues⟩ := readMagnitude_eq_some_iff.mp h
  obtain ⟨t, ht, hchars, hhead, hends⟩ := hcontinues.exists
  obtain ⟨htake, hdrop⟩ := @takeWhile_digits cs t hhead
  refine ⟨cs.takeWhile Char.isDigit ++ t, ?_, ?_, ?_⟩
  · rw [List.append_assoc, ← ht, List.takeWhile_append_dropWhile]
  · exact List.forall_mem_append.mpr ⟨isNumberChar_of_takeWhile cs, hchars⟩
  · rw [readMagnitude_eq_some_iff, htake, hdrop]
    exact ⟨hwhole, hends⟩

/-- **A number that is read is spelled.** -/
theorem exists_number {cs rest : List Char} {n : Number} (h : readNumber cs = some (n, rest)) :
    ∃ t, cs = t ++ rest ∧ Lexis.json.number n t := by
  unfold readNumber at h
  split at h
  · obtain ⟨t, rfl, hchars, ht⟩ := exists_magnitude h
    exact ⟨'-' :: t, rfl, List.forall_mem_cons.mpr ⟨by decide, hchars⟩, ht⟩
  · rename_i hsign
    obtain ⟨t, rfl, hchars, ht⟩ := exists_magnitude h
    refine ⟨t, rfl, hchars, ?_⟩
    cases t with
    | nil => cases ht
    | cons c t =>
      rw [readNumber]
      · exact ht
      · rintro more ⟨⟩
        exact hsign _ rfl

/-! ## Values -/

/-- More blanks may stand in front of items. -/
theorem Separated.blank_append {α : Type} {item : α → List Char → Prop} {close : Char}
    {xs : List α} {a u : List Char} (ha : Blank a) (h : Separated item close xs u) :
    Separated item close xs (a ++ u) := by
  cases h with
  | last ha' ht hb =>
    rw [← List.append_assoc]
    exact .last (ha.append ha') ht hb
  | cons ha' ht hb h =>
    rw [← List.append_assoc]
    exact .cons (ha.append ha') ht hb h

section

variable {read : List Char → Option (Value × List Char)} {item : Value → List Char → Prop}
  (hread : ∀ {cs rest v}, read cs = some (v, rest) → ∃ t, cs = t ++ rest ∧ item v t)

include hread

/-- An item is spelled with blanks around it, up to the next mark. -/
theorem exists_item {cs behind rest : List Char} {v : Value} {mark : Char}
    (h : read (skipBlank cs) = some (v, behind)) (hmark : skipBlank behind = mark :: rest) :
    ∃ a t b, Blank a ∧ item v t ∧ Blank b ∧ cs = a ++ (t ++ (b ++ mark :: rest)) := by
  obtain ⟨a, ha, hcs⟩ := exists_blank cs
  obtain ⟨t, ht, hitem⟩ := hread h
  obtain ⟨b, hb, rfl⟩ := exists_blank_of_skipBlank hmark
  exact ⟨a, t, b, ha, hitem, hb, by rw [← ht, ← hcs]⟩

/-- **The items that are read are spelled.** -/
theorem exists_separated_items {fuel : Nat} {cs rest : List Char} {vs : List Value}
    (h : readItems read fuel cs = some (vs, rest)) :
    ∃ u, cs = u ++ rest ∧ Separated item ']' vs u := by
  induction fuel generalizing cs vs with
  | zero => cases h
  | succ fuel ih =>
    simp only [readItems, Option.bind_eq_bind, Option.bind_eq_some_iff] at h
    obtain ⟨⟨v, behind⟩, hv, h⟩ := h
    dsimp only at h
    split at h
    · rename_i more hmark
      obtain ⟨⟨vs', rest'⟩, hvs, hpair⟩ := Option.map_eq_some_iff.mp h
      cases hpair
      obtain ⟨u, rfl, hu⟩ := ih hvs
      obtain ⟨a, t, b, ha, ht, hb, rfl⟩ := exists_item hread hv hmark
      exact ⟨_, by simp, .cons ha ht hb hu⟩
    · rename_i more hmark
      cases h
      obtain ⟨a, t, b, ha, ht, hb, rfl⟩ := exists_item hread hv hmark
      exact ⟨_, by simp, .last ha ht hb⟩
    · cases h

/-- **The entries that are read are spelled.** -/
theorem exists_separated_entries {fuel : Nat} {cs rest : List Char} {es : List (String × Value)}
    (h : readEntries read fuel cs = some (es, rest)) :
    ∃ u, cs = u ++ rest ∧ Separated (EntrySpelled .json item) '}' es u := by
  induction fuel generalizing cs es with
  | zero => cases h
  | succ fuel ih =>
    rw [readEntries] at h
    split at h
    · rename_i inside hinside
      obtain ⟨a, ha, rfl⟩ := exists_blank_of_skipBlank hinside
      simp only [Option.bind_eq_bind, Option.bind_eq_some_iff] at h
      obtain ⟨⟨k, behindKey⟩, hk, h⟩ := h
      obtain ⟨s, rfl, hs⟩ := exists_stringSpelled hk
      dsimp only at h
      split at h
      · rename_i value hcolon
        obtain ⟨b, hb, rfl⟩ := exists_blank_of_skipBlank hcolon
        simp only [Option.bind_eq_some_iff] at h
        obtain ⟨⟨v, behind⟩, hv, h⟩ := h
        dsimp only at h
        split at h
        · rename_i more hmark
          obtain ⟨⟨es', rest'⟩, hes, hpair⟩ := Option.map_eq_some_iff.mp h
          cases hpair
          obtain ⟨u, rfl, hu⟩ := ih hes
          obtain ⟨c, t, d, hc, ht, hd, rfl⟩ := exists_item hread hv hmark
          exact ⟨_, by simp [inMarks], .cons ha (.intro hs hb trivial hc ht) hd hu⟩
        · rename_i more hmark
          cases h
          obtain ⟨c, t, d, hc, ht, hd, rfl⟩ := exists_item hread hv hmark
          exact ⟨_, by simp [inMarks], .last ha (.intro hs hb trivial hc ht) hd⟩
        · cases h
      · cases h
    · cases h

end

/-- **A value that is read is spelled.** -/
theorem exists_spelled {depth : Nat} {cs rest : List Char} {v : Value}
    (h : readValue depth cs = some (v, rest)) :
    ∃ t, cs = t ++ rest ∧ Spelled .json depth v t := by
  induction depth using Nat.strongRecOn generalizing cs rest v with
  | ind depth ih =>
  unfold readValue at h
  split at h
  · cases h
    exact ⟨['n', 'u', 'l', 'l'], rfl, .scalar .null _⟩
  · cases h
    exact ⟨['t', 'r', 'u', 'e'], rfl, .scalar .yes _⟩
  · cases h
    exact ⟨['f', 'a', 'l', 's', 'e'], rfl, .scalar .no _⟩
  · obtain ⟨⟨s, rest'⟩, hs, hpair⟩ := Option.map_eq_some_iff.mp h
    cases hpair
    obtain ⟨t, rfl, ht⟩ := exists_stringSpelled hs
    exact ⟨inMarks t, by simp [inMarks], .scalar (.string ht) _⟩
  · cases h
  · rename_i depth inside
    have hitem : ∀ {cs rest v}, readValue depth cs = some (v, rest) →
        ∃ t, cs = t ++ rest ∧ Spelled .json depth v t := ih depth (Nat.lt_succ_self depth)
    obtain ⟨a, ha, hinside⟩ := exists_blank inside
    split at h
    · rename_i hclose
      cases h
      rw [hclose] at hinside
      exact ⟨'[' :: (a ++ [']']), by simp [hinside], .inr (.array (.none ha))⟩
    · obtain ⟨⟨vs, rest'⟩, hvs, hpair⟩ := Option.map_eq_some_iff.mp h
      cases hpair
      obtain ⟨u, hu, hitems⟩ := exists_separated_items hitem hvs
      rw [hu] at hinside
      exact ⟨'[' :: (a ++ u), by simp [hinside], .inr (.array (.some (hitems.blank_append ha)))⟩
  · cases h
  · rename_i depth inside
    have hitem : ∀ {cs rest v}, readValue depth cs = some (v, rest) →
        ∃ t, cs = t ++ rest ∧ Spelled .json depth v t := ih depth (Nat.lt_succ_self depth)
    obtain ⟨a, ha, hinside⟩ := exists_blank inside
    split at h
    · rename_i hclose
      cases h
      rw [hclose] at hinside
      exact ⟨'{' :: (a ++ ['}']), by simp [hinside],
        .inr (@CollectionSpelled.object _ _ [] _ (.none ha))⟩
    · obtain ⟨⟨es, rest'⟩, hes, hpair⟩ := Option.map_eq_some_iff.mp h
      cases hpair
      obtain ⟨u, hu, hentries⟩ := exists_separated_entries hitem hes
      rw [hu] at hinside
      exact ⟨'{' :: (a ++ u), by simp [hinside],
        .inr (.object (.some (hentries.blank_append ha)))⟩
  · obtain ⟨⟨n, rest'⟩, hn, hpair⟩ := Option.map_eq_some_iff.mp h
    cases hpair
    obtain ⟨t, rfl, ht⟩ := exists_number hn
    exact ⟨t, rfl, .scalar (.number ht) _⟩

/-- **The reader accepts what the grammar spells, and nothing else.** -/
theorem read?_iff_document {v : Value} {text : String} :
    read? text = some v ↔ Document .json nestingLimit v text.toList := by
  constructor
  · intro h
    unfold read? at h
    split at h
    · rename_i w rest hread
      split at h
      · rename_i hrest
        cases h
        obtain ⟨a, ha, hcs⟩ := exists_blank text.toList
        obtain ⟨t, ht, hspelled⟩ := exists_spelled hread
        obtain ⟨b, hb, hbehind⟩ := exists_blank_of_skipBlank (List.isEmpty_iff.mp hrest)
        rw [List.append_nil] at hbehind
        subst hbehind
        rw [hcs, ht]
        exact .intro ha hspelled hb
      · cases h
    · cases h
  · intro h
    have hread := read?_of_document h
    rwa [String.ofList_toList] at hread

end TextTemplate.Json
