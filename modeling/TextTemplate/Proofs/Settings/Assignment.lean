import TextTemplate.Proofs.Json.Compact
import TextTemplate.Proofs.Json.Exactness
import TextTemplate.Settings.Variables

/-! # What assignments carry

The first equals sign of an assignment ends the key.  So a key without one comes back as it was
put in, and what is behind it comes back whole, whatever signs and blanks are in it
(`readAssignment_append`).  If that text is JSON, its value is bound; otherwise the text itself
is.  A value whose numbers are whole is thereby carried by the text that is written for it
(`assignments_carry`). -/
namespace TextTemplate

/-! ## Keys -/

theorem splitAssignment_eq_none_iff (cs : List Char) : splitAssignment cs = none ↔ '=' ∉ cs := by
  induction cs with
  | nil => simp [splitAssignment]
  | cons c cs ih =>
    by_cases hc : c = '='
    · simp [splitAssignment, hc]
    · simp [splitAssignment, hc, ih, Ne.symm hc]

/-- A text without an equals sign is no assignment. -/
theorem readAssignment_eq_error {text : String} (h : '=' ∉ text.toList) :
    readAssignment text = .error (.bindings (.notAssignment text)) := by
  rw [readAssignment, (splitAssignment_eq_none_iff _).mpr h]

/-- A text with an equals sign is an assignment. -/
theorem exists_readAssignment {text : String} (h : '=' ∈ text.toList) :
    ∃ key value, readAssignment text = .ok (key, value) := by
  cases hs : splitAssignment text.toList with
  | none => exact absurd h ((splitAssignment_eq_none_iff _).mp hs)
  | some split => exact ⟨_, _, by rw [readAssignment, hs]⟩

theorem splitAssignment_append {k : List Char} (hk : '=' ∉ k) (raw : List Char) :
    splitAssignment (k ++ '=' :: raw) = some (k, raw) := by
  induction k with
  | nil => rfl
  | cons c k ih =>
    rw [List.mem_cons, not_or] at hk
    rw [List.cons_append, splitAssignment, if_neg (Ne.symm hk.1), ih hk.2]
    rfl

/-- A key without an equals sign is read back, and so is all that is behind the sign. -/
theorem readAssignment_append {k : String} (hk : '=' ∉ k.toList) (raw : String) :
    readAssignment (k ++ "=" ++ raw) = .ok (k, assignedValue raw) := by
  have htext : (k ++ "=" ++ raw).toList = k.toList ++ '=' :: raw.toList := by simp
  rw [readAssignment, htext, splitAssignment_append hk]
  simp

/-- Only a text without an equals sign is no assignment. -/
theorem readAssignment_eq_error_iff {text : String} {e : Error} :
    readAssignment text = .error e ↔
      '=' ∉ text.toList ∧ e = .bindings (.notAssignment text) := by
  by_cases hsign : '=' ∈ text.toList
  · obtain ⟨key, value, hread⟩ := exists_readAssignment hsign
    simp [hread, hsign]
  · simp [readAssignment_eq_error hsign, hsign, eq_comm]

/-! ## Values -/

/-- A document binds its value. -/
theorem assignedValue_of_document {raw : String} {v : Value}
    (h : Json.Document .json Json.nestingLimit v raw.toList) : assignedValue raw = v := by
  rw [assignedValue, Json.read?_iff_document.mpr h, Option.getD_some]

/-- A text that is no document binds itself. -/
theorem assignedValue_of_not_document {raw : String}
    (h : ∀ v, ¬ Json.Document .json Json.nestingLimit v raw.toList) :
    assignedValue raw = .string raw := by
  cases hread : Json.read? raw with
  | none => rw [assignedValue, hread, Option.getD_none]
  | some v => exact absurd (Json.read?_iff_document.mp hread) (h v)

theorem assignedValue_text {v : Value} (h : v.Integral Json.nestingLimit) :
    assignedValue (Json.text v) = v := by
  rw [assignedValue, Json.read?_text h, Option.getD_some]

/-- **Assignments carry every value.**  With any key that has no equals sign in it, a value whose
numbers are whole comes back from the text that is written for it, and so does the value of any
other document that spells it; a text that is no document comes back as it is.  Only a text
without an equals sign is no assignment. -/
theorem assignments_carry :
    (∀ (k : String) (v : Value), '=' ∉ k.toList → v.Integral Json.nestingLimit →
      readAssignment (k ++ "=" ++ Json.text v) = .ok (k, v)) ∧
    (∀ (k raw : String) (v : Value), '=' ∉ k.toList →
      Json.Document .json Json.nestingLimit v raw.toList →
      readAssignment (k ++ "=" ++ raw) = .ok (k, v)) ∧
    (∀ k raw : String, '=' ∉ k.toList →
      (∀ v, ¬ Json.Document .json Json.nestingLimit v raw.toList) →
      readAssignment (k ++ "=" ++ raw) = .ok (k, .string raw)) ∧
    ∀ (text : String) (e : Error), readAssignment text = .error e ↔
      '=' ∉ text.toList ∧ e = .bindings (.notAssignment text) := by
  refine ⟨fun k v hk hv => ?_, fun k raw v hk hraw => ?_, fun k raw hk hraw => ?_,
    fun text e => readAssignment_eq_error_iff⟩
  · rw [readAssignment_append hk, assignedValue_text hv]
  · rw [readAssignment_append hk, assignedValue_of_document hraw]
  · rw [readAssignment_append hk, assignedValue_of_not_document hraw]

/-- The least and the greatest whole number under an empty key, next to a text that is escaped. -/
def outermost : Value :=
  .object [("", .array [.number (.int (-2 ^ 63)), .number (.int (2 ^ 64 - 1)), .null]),
    ("k=", .string "\"=\té")]

/-- A value under a key with a blank and a point in it, a list between blanks under an empty key,
and a text that is no document. -/
theorem assignments_carry_outermost :
    '=' ∉ "a b.".toList ∧ outermost.Integral Json.nestingLimit ∧
      readAssignment ("a b." ++ "=" ++ Json.text outermost) = .ok ("a b.", outermost) ∧
      Json.text outermost =
        "\x7b\"\":[-9223372036854775808,18446744073709551615,null],\"k=\":\"\\\"=\\té\"\x7d" ∧
      readAssignment ("" ++ "=" ++ " [1]\n") = .ok ("", .array [.number (.int 1)]) ∧
      readAssignment ("k" ++ "=" ++ " x=[1 ") = .ok ("k", .string " x=[1 ") := by
  obtain ⟨hvalue, hdocument, htext, -⟩ := assignments_carry
  have hkey : '=' ∉ "a b.".toList := by decide
  have houtermost : outermost.Integral Json.nestingLimit := by
    have hitems : ∀ v ∈ [Value.number (.int (-2 ^ 63)), .number (.int (2 ^ 64 - 1)), .null],
        v.Integral 125 :=
      List.forall_mem_cons.mpr ⟨.int (by decide) (by decide), List.forall_mem_cons.mpr
        ⟨.int (by decide) (by decide), List.forall_mem_singleton.mpr .null⟩⟩
    exact .object (by decide +kernel)
      (List.forall_mem_cons.mpr ⟨.array hitems, List.forall_mem_singleton.mpr (.string _)⟩)
  have hlist : Json.Document .json Json.nestingLimit (.array [.number (.int 1)]) " [1]\n".toList :=
    Json.read?_iff_document.mp (by rfl)
  have hnone : ∀ v, ¬ Json.Document .json Json.nestingLimit v " x=[1 ".toList := by
    intro v h
    have hread := Json.read?_iff_document.mpr h
    have hunread : (Json.read? " x=[1 ").isNone = true := by decide +kernel
    simp [hread] at hunread
  exact ⟨hkey, houtermost, hvalue _ _ hkey houtermost, by decide +kernel,
    hdocument "" _ _ nofun hlist, htext "k" _ (by decide) hnone⟩

end TextTemplate
