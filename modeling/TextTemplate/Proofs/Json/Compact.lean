import Mathlib.Data.List.TakeWhile
import TextTemplate.Proofs.Json.Writing
import TextTemplate.Proofs.Number.Text
import TextTemplate.Proofs.Yaml.Decimals

/-! # Values that are written and read back

Values are written on one line.  A value without double-precision numbers is spelled by what is
written for it (`Json.spelled_compact`): whole numbers of 64 bits have a spelling that is read as
whole, any string has one, and the entries of a mapping, which stand in the order of their keys,
keep their places.  So such a value is read back, if it is not nested too deep
(`Json.read?_text`). -/
namespace TextTemplate

/-! ## Entries -/

namespace Entries

variable {α : Type}

instance (entries : List (String × α)) : Decidable (Ordered entries) :=
  inferInstanceAs (Decidable (List.Pairwise _ _))

/-- A key behind all others goes to the end. -/
theorem insert_of_forall_lt {key : String} {entries : List (String × α)}
    (h : ∀ e ∈ entries, e.1 < key) (value : α) :
    insert key value entries = entries ++ [(key, value)] := by
  induction entries with
  | nil => rfl
  | cons entry rest ih =>
    obtain ⟨k, v⟩ := entry
    obtain ⟨hk, hrest⟩ := List.forall_mem_cons.mp h
    have hnot : ¬ key < k := String.lt_asymm hk
    have hne : ¬ (key == k) = true := by
      rw [beq_iff_eq]
      rintro rfl
      exact hnot hk
    rw [insert, if_neg hnot, if_neg hne, ih hrest]
    rfl

theorem foldl_insert_of_ordered {front entries : List (String × α)}
    (h : Ordered (front ++ entries)) :
    entries.foldl (fun acc e => insert e.1 e.2 acc) front = front ++ entries := by
  induction entries generalizing front with
  | nil => simp
  | cons e entries ih =>
    have hlast : ∀ x ∈ front, x.1 < e.1 :=
      fun x hx => (List.pairwise_append.mp h).2.2 x hx e List.mem_cons_self
    have hmore : Ordered ((front ++ [e]) ++ entries) := by
      rwa [List.append_assoc, List.singleton_append]
    rw [List.foldl_cons, insert_of_forall_lt hlast, ih hmore, List.append_assoc,
      List.singleton_append]

/-- Entries in the order of their keys stay as they are. -/
theorem ofList_of_ordered {entries : List (String × α)} (h : Ordered entries) :
    ofList entries = entries :=
  foldl_insert_of_ordered h

end Entries

/-- A value whose numbers are whole and have 64 bits, with or without a sign, with at most
`depth` lists and mappings inside one another. -/
inductive Value.Integral : Nat → Value → Prop
  | null {depth : Nat} : Integral depth .null
  | bool {depth : Nat} (b : Bool) : Integral depth (.bool b)
  | int {depth : Nat} {n : Int} (hlow : -2 ^ 63 ≤ n) (hhigh : n < 2 ^ 64) :
      Integral depth (.number (.int n))
  | string {depth : Nat} (s : String) : Integral depth (.string s)
  | array {depth : Nat} {items : List Value} (h : ∀ v ∈ items, Integral depth v) :
      Integral (depth + 1) (.array items)
  | object {depth : Nat} {entries : List (String × Value)} (hkeys : Entries.Ordered entries)
      (h : ∀ e ∈ entries, Integral depth e.2) : Integral (depth + 1) (.object entries)

namespace Json

/-! ## Whole numbers -/

theorem isWhole_decimal (n : Nat) : IsWhole (decimal n) := by
  refine ⟨decimal_ne_nil n, fun hzero => ?_⟩
  obtain rfl | hpos := Nat.eq_zero_or_pos n
  · rw [decimal]
    rfl
  · exact absurd hzero (head?_decimal_ne hpos)

theorem decimalValue_decimal (n : Nat) : Yaml.decimalValue 0 (decimal n) = n := by
  have h := ofDigitChars_decimal n
  simpa [Yaml.decimalValue, Nat.ofDigitChars, digitValue, Nat.mul_comm] using h

/-- Digits that are written for a number are read as the number. -/
theorem readMagnitude_decimal {negative : Bool} {n : Nat} {m : Number} (hn : n ≤ wordMax)
    (hm : wholeNumber negative n = some m) :
    readMagnitude negative (decimal n) = some (m, []) := by
  have hdigits : ∀ d ∈ decimal n, d.isDigit = true := fun d => isDigit_of_mem_decimal
  have htake : (decimal n).takeWhile Char.isDigit = decimal n :=
    List.takeWhile_eq_self_iff.mpr hdigits
  have hdrop : (decimal n).dropWhile Char.isDigit = [] :=
    List.dropWhile_eq_nil_iff.mpr hdigits
  have hcollect : collect 0 (decimal n) = (n, []) := by
    have hvalue := decimalValue_decimal n
    rw [Yaml.collect_of_le (by rwa [hvalue]), hvalue]
  rw [readMagnitude_eq_some_iff, htake, hdrop]
  exact ⟨isWhole_decimal n, .whole nofun (by rw [hcollect]; exact hm)⟩

theorem readNumber_wholeText {n : Int} (hlow : -2 ^ 63 ≤ n) (hhigh : n < 2 ^ 64) :
    readNumber (wholeText n) = some (.int n, []) := by
  have hmax : wordMax = 2 ^ 64 - 1 := by decide
  by_cases hn : n < 0
  · rw [wholeText, if_pos hn]
    have hbound : (1 <<< 63 : Nat) = 2 ^ 63 := by decide
    refine readMagnitude_decimal (by omega) ?_
    rw [wholeNumber, if_neg (by decide), hbound, if_pos (by omega)]
    congr 2
    omega
  · rw [wholeText, if_neg hn, readNumber]
    · refine readMagnitude_decimal (by omega) ?_
      rw [wholeNumber, if_pos (by decide)]
      congr 2
      omega
    · intro rest hminus
      have hdigit : '-'.isDigit = true :=
        isDigit_of_mem_decimal (hminus ▸ List.mem_cons_self)
      exact absurd hdigit (by decide)

/-- A whole number of 64 bits is spelled as it is written. -/
theorem number_wholeText {n : Int} (hlow : -2 ^ 63 ≤ n) (hhigh : n < 2 ^ 64) :
    Lexis.json.number (.int n) (wholeText n) := by
  refine ⟨fun c hc => ?_, readNumber_wholeText hlow hhigh⟩
  have hdigits : ∀ d ∈ decimal n.natAbs, isNumberChar d = true :=
    fun d hd => isNumberChar_of_isDigit (isDigit_of_mem_decimal hd)
  unfold wholeText at hc
  split at hc
  · rcases List.mem_cons.mp hc with rfl | hc
    · decide
    · exact hdigits c hc
  · exact hdigits c hc

/-! ## Lists and mappings -/

section

variable {item : Value → List Char → Prop}

theorem separated_compactItems {v : Value} {vs : List Value}
    (h : ∀ w ∈ v :: vs, item w (compact w)) :
    Separated item ']' (v :: vs) (compactItems (v :: vs)) := by
  induction vs generalizing v with
  | nil =>
    exact .last (a := []) (b := []) nofun (h v List.mem_cons_self) nofun
  | cons w vs ih =>
    obtain ⟨hv, hmore⟩ := List.forall_mem_cons.mp h
    exact .cons (a := []) (b := []) nofun hv nofun (ih hmore)

theorem separated_compactEntries {e : String × Value} {es : List (String × Value)}
    (h : ∀ e' ∈ e :: es, item e'.2 (compact e'.2)) :
    Separated (EntrySpelled .json item) '}' (e :: es) (compactEntries (e :: es)) := by
  induction es generalizing e with
  | nil =>
    have he := entrySpelled_quoted (b := []) e.1 nofun (h e List.mem_cons_self)
    exact .last (a := []) (b := []) nofun he nofun
  | cons e' es ih =>
    obtain ⟨hv, hmore⟩ := List.forall_mem_cons.mp h
    have he := entrySpelled_quoted (b := []) e.1 nofun hv
    have h := Separated.cons (a := []) (b := []) nofun he nofun (ih hmore)
    simpa [compactEntries] using h

end

/-- **A value is spelled by what is written for it**, if its numbers are whole. -/
theorem spelled_compact {depth : Nat} {v : Value} (h : v.Integral depth) :
    Spelled .json depth v (compact v) := by
  induction h with
  | null => exact .scalar .null _
  | bool b =>
    cases b with
    | true => exact .scalar .yes _
    | false => exact .scalar .no _
  | int hlow hhigh => exact .scalar (.number (number_wholeText hlow hhigh)) _
  | string s => exact spelled_quoted _ s
  | @array depth items _ ih =>
    refine .inr (.array ?_)
    cases items with
    | nil => exact .none (a := []) nofun
    | cons v vs => exact .some (separated_compactItems ih)
  | @object depth entries hkeys _ ih =>
    have hlisted : Listed (EntrySpelled .json (Spelled .json depth)) '}' entries
        (compactEntries entries) := by
      cases entries with
      | nil => exact .none (a := []) nofun
      | cons e es => exact .some (separated_compactEntries ih)
    have h : Spelled .json (depth + 1) (.object (Entries.ofList entries))
        ('{' :: compactEntries entries) := .inr (.object hlisted)
    rwa [Entries.ofList_of_ordered hkeys] at h

/-- **A value is read back from its text**, if its numbers are whole and it is not nested too
deep. -/
theorem read?_text {v : Value} (h : v.Integral nestingLimit) : read? (text v) = some v := by
  have hdocument : Document .json nestingLimit v (compact v) := by
    have h := Document.intro (a := []) (b := []) nofun (spelled_compact h) nofun
    rwa [List.append_nil] at h
  exact read?_of_document hdocument

end Json
end TextTemplate
