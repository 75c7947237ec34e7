import Mathlib.Tactic.Positivity
import TextTemplate.Proofs.Number.Rounding
import TextTemplate.Proofs.Yaml.Numbers

/-! # Decimals that mean the same

JSON rounds a decimal up to three times: its digits, the power of ten, and their product or
quotient.  Documents round it once.  Where digits and power are exact the two agree, so numbers
of few digits near the point are portable (`portable_short`). -/
namespace TextTemplate.Yaml

/-! ## Rounding -/

section

variable {n : Nat} {power : Int} (hpower : power.natAbs ≤ 22)

include hpower

theorem scale_eq {x : Binary64} (hx : x.Exact n) (fuel : Nat) :
    Json.scale x (fuel + 1) power =
      Binary64.round false (n * Binary64.pow10 power) (Binary64.pow10 (-power)) := by
  obtain ⟨ten, hten, hexact⟩ := Binary64.exists_exact_ten hpower
  have hnear : power.natAbs ≤ 308 := by omega
  refine (if_pos hnear).trans ?_
  rw [hten]
  dsimp only
  split
  · have hup : power.toNat = power.natAbs ∧ (-power).toNat = 0 := by omega
    rw [Binary64.mul_exact hx hexact, Binary64.pow10_eq, Binary64.pow10_eq, hup.1, hup.2,
      Nat.pow_zero]
  · have hdown : power.toNat = 0 ∧ (-power).toNat = power.natAbs := by omega
    have hpos : 0 < 10 ^ power.natAbs := by positivity
    rw [Binary64.div_exact hx hexact hpos, Binary64.pow10_eq, Binary64.pow10_eq, hdown.1,
      hdown.2, Nat.pow_zero, Nat.mul_one]

/-- A decimal of few digits near the point is rounded once, as in a document. -/
theorem assemble_eq (hn : n < 2 ^ 53) (negative : Bool) :
    Json.assemble negative n power = (Binary64.ofDecimal negative n power).map .float := by
  obtain ⟨x, hx, hexact⟩ := Binary64.exists_exact hn
  rw [Binary64.ofDecimal_eq hn hpower, Binary64.round_sign, Json.assemble, hx]
  simp only [Option.bind_eq_bind, Option.bind_some, scale_eq hpower hexact]
  cases hround : Binary64.round false (n * Binary64.pow10 power) (Binary64.pow10 (-power)) with
  | none => rfl
  | some y =>
    have hpositive := Binary64.positive_of_round hround
    obtain ⟨sign, significand, exponent⟩ := y
    cases negative <;> simp_all [Binary64.neg]

end

/-! ## Digits -/

theorem le_decimalValue (start : Nat) (digits : List Char) : start ≤ decimalValue start digits := by
  induction digits generalizing start with
  | nil => exact Nat.le_refl start
  | cons d digits ih => exact Nat.le_trans (by omega) (ih (start * 10 + Json.digitValue d))

/-- Digits of a number that fits 64 bits are all collected. -/
theorem collect_of_le {start : Nat} {digits : List Char}
    (h : decimalValue start digits ≤ Json.wordMax) :
    Json.collect start digits = (decimalValue start digits, []) := by
  induction digits generalizing start with
  | nil => rfl
  | cons d digits ih =>
    rw [Json.collect, if_pos (Nat.le_trans (le_decimalValue _ digits) h), ih h]
    rfl

theorem decimalValue_append (start : Nat) (ds es : List Char) :
    decimalValue start (ds ++ es) = decimalValue (decimalValue start ds) es :=
  List.foldl_append

theorem decimalValue_cast (start : Nat) (digits : List Char) :
    digits.foldl (fun n d => n * 10 + (Json.digitValue d : Int)) (start : Int) =
      decimalValue start digits := by
  induction digits generalizing start with
  | nil => rfl
  | cons d digits ih =>
    have h := ih (start * 10 + Json.digitValue d)
    push_cast at h
    exact h

/-! ## Parts of a number -/

/-- The exponent that follows the digits of a number in a document. -/
def exponent? : List Char → Option Int
  | [] => some 0
  | 'e' :: '-' :: exponent | 'E' :: '-' :: exponent =>
    (magnitudeIn? 10 exponent).map fun n => -(n : Int)
  | 'e' :: '+' :: exponent | 'E' :: '+' :: exponent | 'e' :: exponent | 'E' :: exponent =>
    (magnitudeIn? 10 exponent).map fun n => (n : Int)
  | _ => none

/-- A number with a point. -/
theorem decimal?_of_point {text rest : List Char} (hne : text.takeWhile Char.isDigit ≠ [])
    (hrest : text.dropWhile Char.isDigit = '.' :: rest) :
    decimal? text = (exponent? (rest.dropWhile Char.isDigit)).map fun e =>
      (text.takeWhile Char.isDigit ++ rest.takeWhile Char.isDigit,
        -((rest.takeWhile Char.isDigit).length : Int) + e) := by
  unfold decimal?
  simp only [hrest]
  rw [if_neg (by simp [hne])]
  generalize rest.dropWhile Char.isDigit = tail
  unfold exponent?
  split <;> simp [Int.sub_eq_add_neg]

/-- A number without a point. -/
theorem decimal?_of_exponent {text : List Char} (hne : text.takeWhile Char.isDigit ≠ [])
    (hrest : (text.dropWhile Char.isDigit).head? ≠ some '.') :
    decimal? text = (exponent? (text.dropWhile Char.isDigit)).map fun e =>
      (text.takeWhile Char.isDigit, e) := by
  unfold decimal?
  simp only
  split
  · rename_i hpoint
    simp [hpoint] at hrest
  · simp only [List.append_nil]
    rw [if_neg (by simp [hne])]
    generalize text.dropWhile Char.isDigit = tail
    unfold exponent?
    split <;> simp

/-- Digits that end a text. -/
theorem magnitudeIn?_of_dropWhile {ds : List Char} (hne : ds.takeWhile Char.isDigit ≠ [])
    (hdrop : ds.dropWhile Char.isDigit = []) :
    magnitudeIn? 10 ds = some (decimalValue 0 (ds.takeWhile Char.isDigit)) := by
  have htake : ds.takeWhile Char.isDigit = ds := by
    have hsplit := @List.takeWhile_append_dropWhile _ Char.isDigit ds
    rwa [hdrop, List.append_nil] at hsplit
  have hall : ∀ d ∈ ds, d.isDigit = true := htake ▸ Json.isDigit_of_takeWhile ds
  rw [htake] at hne ⊢
  rw [magnitudeIn?, if_neg (by simpa using hne), numberIn?_of_isDigit hall]

/-- An exponent in JSON is one in a document. -/
theorem exponent?_of_readExponent {letter : Char} (hletter : letter = 'e' ∨ letter = 'E')
    {cs : List Char} {e : Int} (h : Json.readExponent cs = some (e, [])) :
    exponent? (letter :: cs) = some e := by
  unfold Json.readExponent at h
  split at h
  rename_i negative ds hsign
  dsimp only at h
  by_cases hempty : (ds.takeWhile Char.isDigit).isEmpty = true
  · rw [if_pos hempty] at h
    cases h
  rw [if_neg hempty] at h
  obtain ⟨he, hdrop⟩ := Prod.mk.inj (Option.some.inj h)
  have hne : ds.takeWhile Char.isDigit ≠ [] := fun hnil => hempty (by rw [hnil]; rfl)
  have hmagnitude := magnitudeIn?_of_dropWhile hne hdrop
  have hcast := decimalValue_cast 0 (ds.takeWhile Char.isDigit)
  rw [Nat.cast_zero] at hcast
  rw [hcast] at he
  split at hsign <;> cases hsign
  · rcases hletter with rfl | rfl <;> simp [exponent?, hmagnitude, ← he]
  · rcases hletter with rfl | rfl <;> simp [exponent?, hmagnitude, ← he]
  · rename_i hplus hminus
    have hcs : cs ≠ [] := fun hnil => hne (by rw [hnil]; rfl)
    obtain ⟨d, more, rfl⟩ := List.exists_cons_of_ne_nil hcs
    rcases hletter with rfl | rfl <;> simp [exponent?, hmagnitude, ← he]

/-- The rest of a number in JSON, as a document reads it. -/
theorem exponent?_of_finishNumber {negative : Bool} {significand : Nat} {power : Int}
    {cs : List Char} {m : Number}
    (h : Json.finishNumber negative significand power cs = some (m, [])) :
    ∃ e, exponent? cs = some e ∧ Json.assemble negative significand (power + e) = some m := by
  rcases Json.finishNumber_eq_some_iff.mp h with
    ⟨letter, ds, e, hletter, rfl, he, hm⟩ | ⟨-, rfl, hm⟩
  · exact ⟨e, exponent?_of_readExponent hletter he, hm⟩
  · exact ⟨0, rfl, by rwa [Int.add_zero]⟩

/-- A number of few digits in JSON is the decimal that a document reads. -/
theorem assemble_of_readMagnitude {negative : Bool} {cs digits : List Char} {power : Int}
    {m : Number} (h : Json.readMagnitude negative cs = some (m, []))
    (hmark : cs.dropWhile Char.isDigit ≠ []) (hdecimal : decimal? cs = some (digits, power))
    (hfew : decimalValue 0 digits ≤ Json.wordMax) :
    (∀ d ∈ digits, d.isDigit = true) ∧
      Json.assemble negative (decimalValue 0 digits) power = some m := by
  obtain ⟨hwhole, hcontinues⟩ := Json.readMagnitude_eq_some_iff.mp h
  generalize hbehind : cs.dropWhile Char.isDigit = behind at hcontinues hmark
  generalize hnil : ([] : List Char) = rest at hcontinues
  cases hcontinues with
  | @point fraction _ _ hne h =>
    subst hnil
    obtain ⟨e, he, hm⟩ := exponent?_of_finishNumber h
    rw [decimal?_of_point hwhole.ne_nil hbehind, he] at hdecimal
    obtain ⟨rfl, rfl⟩ := Prod.mk.inj (Option.some.inj hdecimal)
    rw [decimalValue_append] at hfew ⊢
    rw [collect_of_le (Nat.le_trans (le_decimalValue _ _) hfew), collect_of_le hfew] at hm
    refine ⟨fun d hd => ?_, by simpa using hm⟩
    rcases List.mem_append.mp hd with hd | hd
    · exact Json.isDigit_of_takeWhile cs d hd
    · exact Json.isDigit_of_takeWhile fraction d hd
  | exponent hletter h =>
    subst hnil
    obtain ⟨e, he, hm⟩ := exponent?_of_finishNumber h
    have hpoint : (cs.dropWhile Char.isDigit).head? ≠ some '.' := by
      rw [hbehind]
      rcases hletter with rfl | rfl <;> simp
    rw [decimal?_of_exponent hwhole.ne_nil hpoint, hbehind, he] at hdecimal
    obtain ⟨rfl, rfl⟩ := Prod.mk.inj (Option.some.inj hdecimal)
    rw [collect_of_le hfew] at hm
    exact ⟨Json.isDigit_of_takeWhile cs, by simpa using hm⟩
  | whole hmarks h => exact absurd hnil.symm hmark

/-- What follows the digits of a number in JSON. -/
theorem mark_of_readMagnitude {negative : Bool} {cs : List Char} {m : Number}
    (h : Json.readMagnitude negative cs = some (m, []))
    (hmark : cs.dropWhile Char.isDigit ≠ []) :
    cs.takeWhile Char.isDigit ≠ [] ∧
      ∃ c more, cs.dropWhile Char.isDigit = c :: more ∧ (c = '.' ∨ c = 'e' ∨ c = 'E') := by
  obtain ⟨hwhole, hcontinues⟩ := Json.readMagnitude_eq_some_iff.mp h
  refine ⟨hwhole.ne_nil, ?_⟩
  generalize hbehind : cs.dropWhile Char.isDigit = behind at hcontinues hmark
  generalize hnil : ([] : List Char) = rest at hcontinues
  cases hcontinues with
  | point hne h => exact ⟨_, _, rfl, .inl rfl⟩
  | exponent hletter h => exact ⟨_, _, rfl, .inr hletter⟩
  | whole hmarks h => exact absurd hnil.symm hmark

/-! ## Resolution -/

theorem numberIn?_eq_none {base : Nat} {cs : List Char} {c : Char} (hc : c ∈ cs)
    (h : digitIn? base c = none) : numberIn? base cs = none := by
  have hfold : ∀ start, cs.foldlM
      (fun n c => (digitIn? base c).map (n * base + ·)) start = none := by
    induction cs with
    | nil => cases hc
    | cons d cs ih =>
      intro start
      rw [List.foldlM_cons]
      rcases List.mem_cons.mp hc with rfl | hc
      · rw [h]
        rfl
      · cases digitIn? base d with
        | none => rfl
        | some n => exact ih hc _
  exact hfold 0

section

variable {ws more : List Char} {c : Char} (hws : ∀ d ∈ ws, d.isDigit = true) (hne : ws ≠ [])
  (hc : c = '.' ∨ c = 'e' ∨ c = 'E')

include hws hne hc

theorem isPadded_of_mark : isPadded (ws ++ c :: more) = false ∧
    isPadded ('-' :: (ws ++ c :: more)) = false := by
  have hdigit : c.isDigit = false := by rcases hc with rfl | rfl | rfl <;> decide
  have hpadded : (decide (1 < (ws ++ c :: more).length) && (ws ++ c :: more).head? == some '0' &&
      (ws ++ c :: more).all Char.isDigit) = false := by simp [hdigit]
  obtain ⟨d, ws, rfl⟩ := List.exists_cons_of_ne_nil hne
  have hd := hws d List.mem_cons_self
  refine ⟨?_, hpadded⟩
  unfold isPadded
  split
  · rename_i heq
    exact absurd hd (by rw [(List.cons.inj heq).1]; decide)
  · rename_i heq
    exact absurd hd (by rw [(List.cons.inj heq).1]; decide)
  · exact hpadded

/-- Digits with a point or an exponent behind them are no whole number. -/
theorem magnitude?_of_mark : magnitude? (ws ++ c :: more) = none := by
  have hletter : ∀ {x rest}, ws ++ c :: more = '0' :: x :: rest →
      x ≠ 'x' ∧ x ≠ 'o' ∧ x ≠ 'b' := by
    intro x rest heq
    obtain ⟨d, ws, rfl⟩ := List.exists_cons_of_ne_nil hne
    have hx : x.isDigit = true ∨ x = '.' ∨ x = 'e' ∨ x = 'E' := by
      cases ws with
      | nil =>
        cases heq
        exact .inr hc
      | cons e ws =>
        cases heq
        exact .inl (hws x (by simp))
    refine ⟨?_, ?_, ?_⟩ <;>
    · rintro rfl
      exact absurd hx (by decide)
  have hdigit : digitIn? 10 c = none := by rcases hc with rfl | rfl | rfl <;> decide
  unfold magnitude?
  split
  · exact absurd rfl (hletter ‹_›).1
  · exact absurd rfl (hletter ‹_›).2.1
  · exact absurd rfl (hletter ‹_›).2.2
  · split
    · rfl
    · rw [magnitudeIn?, if_neg (by simp), numberIn?_eq_none (by simp) hdigit]

/-- A number with a point or an exponent is read as a double-precision number. -/
theorem plainValue?_of_mark {x : Binary64} :
    (finite? (ws ++ c :: more) = some x →
      plainValue? (String.ofList (ws ++ c :: more)) = some (.number (.float x))) ∧
    (finite? ('-' :: (ws ++ c :: more)) = some x →
      plainValue? (String.ofList ('-' :: (ws ++ c :: more))) = some (.number (.float x))) := by
  have hmagnitude := @magnitude?_of_mark ws more c hws hne hc
  have hpadded := @isPadded_of_mark ws more c hws hne hc
  obtain ⟨d, ws, rfl⟩ := List.exists_cons_of_ne_nil hne
  have hd := hws d List.mem_cons_self
  have hd' : d ≠ '.' ∧ d ≠ '+' ∧ d ≠ '-' := by
    refine ⟨?_, ?_, ?_⟩ <;>
    · rintro rfl
      exact absurd hd (by decide)
  rw [List.cons_append] at hmagnitude hpadded ⊢
  have hwhole : whole? (d :: (ws ++ c :: more)) = none ∧
      whole? ('-' :: d :: (ws ++ c :: more)) = none := by
    simp [whole?, hmagnitude, hd']
  have hfinite : isNonFinite (d :: (ws ++ c :: more)) = false ∧
      isNonFinite ('-' :: d :: (ws ++ c :: more)) = false := by
    simp [isNonFinite, hd'.1.symm, hd'.2.1.symm, hd'.2.2.symm]
  constructor
  · intro h
    obtain ⟨hnull, htruth⟩ := @not_word_of_first d (ws ++ c :: more) (.inl hd)
    simp [plainValue?, hnull, htruth, hwhole.1, hpadded.1, float?, hfinite.1, h]
  · intro h
    obtain ⟨hnull, htruth⟩ := @not_word_of_first '-' (d :: (ws ++ c :: more)) (.inr rfl)
    simp [plainValue?, hnull, htruth, hwhole.2, hpadded.2, float?, hfinite.2, h]

end

/-! ## Short numbers -/

/-- What follows a minus sign, if there is one. -/
def unsigned : List Char → List Char
  | '-' :: rest => rest
  | text => text

/-- A number with a point or an exponent, of few digits and near the point. -/
structure IsShort (t : List Char) : Prop where
  marked : (unsigned t).dropWhile Char.isDigit ≠ []
  near : ∃ digits power, decimal? (unsigned t) = some (digits, power) ∧
    decimalValue 0 digits < 2 ^ 53 ∧ power.natAbs ≤ 22

/-- The digits of a short number are rounded to the number that JSON reads. -/
theorem ofDecimal_of_readMagnitude {negative : Bool} {cs : List Char} {x : Binary64}
    (h : Json.readMagnitude negative cs = some (.float x, []))
    (hmark : cs.dropWhile Char.isDigit ≠ [])
    (hnear : ∃ digits power, decimal? cs = some (digits, power) ∧
      decimalValue 0 digits < 2 ^ 53 ∧ power.natAbs ≤ 22) :
    (do
      let (digits, power) ← decimal? cs
      let n ← numberIn? 10 digits
      Binary64.ofDecimal negative n power) = some x := by
  obtain ⟨digits, power, hdecimal, hfew, hpower⟩ := hnear
  have hword : Json.wordMax = 2 ^ 64 - 1 := by decide
  obtain ⟨hdigits, hm⟩ := assemble_of_readMagnitude h hmark hdecimal (by omega)
  rw [assemble_eq hpower hfew] at hm
  obtain ⟨y, hy, hxy⟩ := Option.map_eq_some_iff.mp hm
  cases hxy
  simp [hdecimal, numberIn?_of_isDigit hdigits, hy]

/-- **A number of few digits near the point is portable.**  Its digits and the power of ten are
exact, so that JSON and documents both round it once. -/
theorem portable_short {x : Binary64} {t : List Char}
    (h : Json.Lexis.json.number (.float x) t) (hshort : IsShort t) :
    portable.number (.float x) t := by
  refine ⟨h, ?_⟩
  have hread := h.2
  obtain ⟨hmark, hnear⟩ := hshort
  unfold Json.readNumber at hread
  split at hread
  · rename_i cs
    obtain ⟨hne, c, more, hmore, hc⟩ := mark_of_readMagnitude hread hmark
    have hplain := (@plainValue?_of_mark _ more c (Json.isDigit_of_takeWhile cs) hne hc x).2
    rw [← hmore, List.takeWhile_append_dropWhile] at hplain
    exact hplain (ofDecimal_of_readMagnitude hread hmark hnear)
  · rename_i hminus
    have ht : unsigned t = t := by
      unfold unsigned
      split
      · exact absurd rfl (hminus _)
      · rfl
    rw [ht] at hmark hnear
    obtain ⟨hne, c, more, hmore, hc⟩ := mark_of_readMagnitude hread hmark
    have hplain := (@plainValue?_of_mark _ more c (Json.isDigit_of_takeWhile t) hne hc x).1
    rw [← hmore, List.takeWhile_append_dropWhile] at hplain
    refine hplain (Eq.trans ?_ (ofDecimal_of_readMagnitude hread hmark hnear))
    unfold finite?
    split
    rename_i heq
    split at heq <;> cases heq
    · exact absurd rfl (hminus _)
    · -- a number in JSON has no plus sign
      exact absurd rfl hne
    · rfl

end TextTemplate.Yaml
