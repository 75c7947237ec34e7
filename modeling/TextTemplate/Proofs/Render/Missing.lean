import TextTemplate.Proofs.Number.Text
import TextTemplate.Proofs.Render.ListText
import TextTemplate.Render.Evaluate

/-! # Values that count as missing

A value without text is one of a few plain ones, or a list of nothing but one value that has
no text as an item (`Value.Missing`).  On its own and inside a list different values have no
text: `false` and zero are written in a list (`Value.itemText_eq_empty_iff`), so a list with
one of them is not missing, and neither is a list of several items, for its commas
(`Value.toText_array_eq_empty_iff`).  A default takes the place of what is missing, and of
nothing else (`Value.default_for_missing`). -/
namespace TextTemplate.Value

/-- A value that counts as missing: null, false, zero of any kind, empty text, an empty list,
or a list whose only item is null, empty text or a list that counts as missing. -/
inductive Missing : Value → Prop where
  | null : Missing .null
  | no : Missing (.bool false)
  | wholeZero : Missing (.number (.int 0))
  | zero {x : Binary64} : x.significand = 0 → Missing (.number (.float x))
  | noText : Missing (.string "")
  | noItems : Missing (.array [])
  | onlyNull : Missing (.array [.null])
  | onlyNoText : Missing (.array [.string ""])
  | onlyList {items : List Value} : Missing (.array items) → Missing (.array [.array items])

/-! ## Texts that are empty -/

/-- Inside a list only null, empty text and a list without text have no text. -/
theorem itemText_eq_empty_iff {v : Value} :
    v.itemText = "" ↔
      v = .null ∨ v = .string "" ∨ ∃ items, v = .array items ∧ (array items).toText = "" := by
  cases v with
  | null => simp [itemText]
  | bool b => cases b <;> simp [itemText]
  | number n => simp [itemText, n.text_ne_nil]
  | string s => simp [itemText]
  | array items => simp [toText_array, itemText_array]
  | object entries => simp [itemText, Json.text, Json.compact]

/-- A list of several items has a comma in its text. -/
theorem toText_array_eq_empty_iff {items : List Value} :
    (array items).toText = "" ↔ items = [] ∨ ∃ v, items = [v] ∧ v.itemText = "" := by
  rcases items with _ | ⟨v, _ | ⟨w, rest⟩⟩
  · simp [toText_array]
  · simp [toText_array]
  · simp [toText_array]

theorem isZero_iff {n : Number} :
    n.isZero = true ↔ n = .int 0 ∨ ∃ x : Binary64, n = .float x ∧ x.significand = 0 := by
  cases n <;> simp [Number.isZero, Binary64.isZero]

theorem Missing.toText_eq {v : Value} (h : v.Missing) : v.toText = "" := by
  induction h with
  | @zero x hx => simp [toText, isFalsy, Number.isZero, Binary64.isZero, hx]
  | onlyList _ ih => rwa [toText_array_singleton, itemText_array, ← toText_array]
  | _ => rfl

theorem missing_of_toText_eq {v : Value} (h : v.toText = "") : v.Missing := by
  induction v using induction_items with
  | leaf v hleaf =>
    cases v with
    | null => exact .null
    | bool b =>
      cases b with
      | false => exact .no
      | true => exact absurd h (by decide)
    | number n =>
      by_cases hn : n.isZero = true
      · obtain rfl | ⟨x, rfl, hx⟩ := isZero_iff.mp hn
        · exact .wholeZero
        · exact .zero hx
      · have htext : (number n).itemText = "" := by simpa [toText, isFalsy, hn] using h
        simp [itemText_eq_empty_iff] at htext
    | string s =>
      obtain rfl : s = "" := h
      exact .noText
    | array items => exact absurd rfl (hleaf items)
    | object entries =>
      have htext : (object entries).itemText = "" := h
      simp [itemText_eq_empty_iff] at htext
  | array items ih =>
    obtain rfl | ⟨v, rfl, hv⟩ := toText_array_eq_empty_iff.mp h
    · exact .noItems
    · obtain rfl | rfl | ⟨inner, rfl, hinner⟩ := itemText_eq_empty_iff.mp hv
      · exact .onlyNull
      · exact .onlyNoText
      · exact .onlyList (ih (array inner) List.mem_cons_self hinner)

/-- **A value has no text if and only if it counts as missing.** -/
theorem toText_eq_empty_iff {v : Value} : v.toText = "" ↔ v.Missing :=
  ⟨missing_of_toText_eq, Missing.toText_eq⟩

instance (v : Value) : Decidable v.Missing :=
  decidable_of_iff (v.toText = "") toText_eq_empty_iff

/-- A list with an item that is written as something is not missing, nor is one of several
items. -/
theorem not_missing_array {items : List Value}
    (h : (∃ v ∈ items, v.itemText ≠ "") ∨ 2 ≤ items.length) : ¬ (array items).Missing := by
  rw [← toText_eq_empty_iff, toText_array_eq_empty_iff]
  rintro (rfl | ⟨v, rfl, hv⟩)
  · simp at h
  · simp [hv] at h

/-! ## Defaults -/

/-- A single default takes the place of empty text. -/
theorem render_default (lookup : String → Value) (name fallback : String) (more : List String) :
    Variable.render .builtins lookup ⟨name, [⟨"default", fallback :: more⟩]⟩ =
      if (lookup name).toText = "" then fallback else (lookup name).toText := by
  have hpipe : Registry.builtins.get? "default" = some Pipes.default := rfl
  simp [Variable.render, applyPipes, hpipe, Pipes.default]

/-- **What counts as missing is just what has no text.**  So mappings do not, nor do lists with
a boolean or a number in them, false and zero included, or with several items.  With the
built-in pipes, a variable whose only pipe is a default is its first parameter if its value
counts as missing, and the text of its value otherwise. -/
theorem default_for_missing :
    (∀ v : Value, v.toText = "" ↔ v.Missing) ∧
    (∀ entries, (object entries).toText ≠ "") ∧
    (∀ items, ((∃ b, .bool b ∈ items) ∨ (∃ n, .number n ∈ items) ∨ 2 ≤ items.length) →
      (array items).toText ≠ "") ∧
    ∀ (vars : Variables) (name fallback : String) (more : List String),
      Variable.render .builtins vars.resolve ⟨name, [⟨"default", fallback :: more⟩]⟩ =
        if (vars.resolve name).Missing then fallback else (vars.resolve name).toText := by
  refine ⟨fun v => toText_eq_empty_iff, fun entries h => ?_, fun items hitems => ?_,
    fun vars name fallback more => ?_⟩
  · cases toText_eq_empty_iff.mp h
  · refine mt toText_eq_empty_iff.mp (not_missing_array ?_)
    rcases hitems with ⟨b, hb⟩ | ⟨n, hn⟩ | hlength
    · exact .inl ⟨_, hb, by simp [itemText_eq_empty_iff]⟩
    · exact .inl ⟨_, hn, by simp [itemText_eq_empty_iff]⟩
    · exact .inr hlength
  · simp only [render_default, toText_eq_empty_iff]

/-- A list in a list of one empty text, a list of zero, and the defaults for them. -/
theorem default_for_missing_lists :
    (array [.array [.string ""]]).toText = "" ∧ (array [.number (.int 0)]).toText ≠ "" ∧
      Variable.render .builtins (Variables.resolve [("x", .array [.array [.string ""]])])
        ⟨"x", [⟨"default", ["none", "nobody"]⟩]⟩ = "none" ∧
      Variable.render .builtins (Variables.resolve [("x", .array [.number (.int 0)])])
        ⟨"x", [⟨"default", ["none", "nobody"]⟩]⟩ = "0" := by
  obtain ⟨hmissing, -, hlist, hdefault⟩ := default_for_missing
  refine ⟨(hmissing _).mpr (.onlyList .onlyNoText), hlist _ (.inr (.inl ⟨.int 0, by simp⟩)), ?_, ?_⟩
  · rw [hdefault]
    decide +kernel
  · rw [hdefault]
    decide +kernel

end TextTemplate.Value
