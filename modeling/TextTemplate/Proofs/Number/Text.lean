import TextTemplate.Number.Text

/-! # Numbers in writing

The decimal digits of a whole number are the library's (`decimal_eq_toDigits`), so they are
digits and stand for the number; no zero stands in front of others (`head?_decimal_ne`).  No
number is written with no characters (`Number.text_ne_nil`). -/
namespace TextTemplate

/-- The digits of a number are those of the library. -/
theorem decimal_eq_toDigits (n : Nat) : decimal n = Nat.toDigits 10 n := by
  induction n using Nat.strongRecOn with
  | ind n ih =>
    rw [decimal]
    by_cases hn : n < 10
    · rw [if_pos hn, Nat.toDigits_of_lt_base hn]
    · have hsmaller : n / 10 < n := by omega
      rw [if_neg hn, ih _ hsmaller, Nat.toDigits_of_base_le (by decide) (Nat.le_of_not_lt hn)]

theorem decimal_ne_nil (n : Nat) : decimal n ≠ [] := by
  rw [decimal_eq_toDigits]
  exact Nat.toDigits_ne_nil

theorem isDigit_of_mem_decimal {n : Nat} {d : Char} (h : d ∈ decimal n) : d.isDigit = true := by
  rw [decimal_eq_toDigits] at h
  exact Nat.isDigit_of_mem_toDigits (by decide) (by decide) h

theorem digitChar_ne_zero : ∀ n < 10, 0 < n → Nat.digitChar n ≠ '0' := by
  decide

/-- No zero stands in front of the digits of another number. -/
theorem head?_decimal_ne {n : Nat} (h : 0 < n) : (decimal n).head? ≠ some '0' := by
  induction n using Nat.strongRecOn with
  | ind n ih =>
    rw [decimal]
    by_cases hn : n < 10
    · rw [if_pos hn, List.head?_cons]
      exact fun hzero => digitChar_ne_zero n hn h (Option.some.inj hzero)
    · have hsmaller : n / 10 < n := by omega
      have hpos : 0 < n / 10 := by omega
      obtain ⟨d, ds, hdigits⟩ := List.exists_cons_of_ne_nil (decimal_ne_nil (n / 10))
      have hfront := ih _ hsmaller hpos
      rw [hdigits] at hfront
      rwa [if_neg hn, hdigits]

/-- The digits of a number stand for it. -/
theorem ofDigitChars_decimal (n : Nat) : Nat.ofDigitChars 10 (decimal n) 0 = n := by
  rw [decimal_eq_toDigits, Nat.ofDigitChars_ten_toDigits]

theorem wholeText_ne_nil (n : Int) : wholeText n ≠ [] := by
  unfold wholeText
  split
  · exact List.cons_ne_nil _ _
  · exact decimal_ne_nil _

/-- A number with a point has at least the point. -/
theorem positional_ne_nil (digits : List Char) (whole : Int) : positional digits whole ≠ [] := by
  unfold positional
  split
  · exact List.cons_ne_nil _ _
  · exact List.append_ne_nil_of_right_ne_nil _ (List.cons_ne_nil _ _)

/-- A number with an exponent has at least the letter in front of it. -/
theorem scientific_ne_nil (digits : List Char) (exponent : Int) :
    scientific digits exponent ≠ [] :=
  List.append_ne_nil_of_right_ne_nil _ (List.cons_ne_nil _ _)

theorem Binary64.text_ne_nil (x : Binary64) : x.text ≠ [] := by
  simp only [text]
  split
  · exact List.cons_ne_nil _ _
  · split
    · exact List.cons_ne_nil _ _
    · split
      · exact positional_ne_nil _ _
      · exact scientific_ne_nil _ _

/-- Every number has a text. -/
theorem Number.text_ne_nil (n : Number) : n.text ≠ [] := by
  cases n with
  | int n => exact wholeText_ne_nil n
  | float x => exact x.text_ne_nil

end TextTemplate
