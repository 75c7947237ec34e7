/-! # Lengths and cuts in UTF-8 bytes

Spans of text are measured in UTF-8 bytes, while text itself is a list of
characters.  `width` is the number of bytes a text takes and `cut?` takes that
many bytes off the front; it fails where the cut would fall inside a character
or beyond the end.  `cut?_eq_some_iff` says that a cut is a way of splitting the
text. -/
namespace TextTemplate.Text

/-- The number of UTF-8 bytes of a text. -/
def width : List Char → Nat
  | [] => 0
  | c :: cs => c.utf8Size + width cs

/-- The first `n` bytes and the rest, if the cut falls between characters. -/
def cut? : Nat → List Char → Option (List Char × List Char)
  | 0, cs => some ([], cs)
  | _ + 1, [] => none
  | n + 1, c :: cs =>
    if c.utf8Size ≤ n + 1 then
      (cut? (n + 1 - c.utf8Size) cs).map fun (taken, rest) => (c :: taken, rest)
    else none

@[simp] theorem width_nil : width [] = 0 := rfl

@[simp] theorem width_cons (c : Char) (cs : List Char) :
    width (c :: cs) = c.utf8Size + width cs := rfl

@[simp] theorem width_append (xs ys : List Char) : width (xs ++ ys) = width xs + width ys := by
  induction xs with
  | nil => simp
  | cons c cs ih => simp [ih]; omega

/-- Every character takes at least one byte. -/
theorem length_le_width (cs : List Char) : cs.length ≤ width cs := by
  induction cs with
  | nil => simp
  | cons c cs ih => have := c.utf8Size_pos; simp; omega

theorem width_pos {cs : List Char} (h : cs ≠ []) : 0 < width cs :=
  Nat.lt_of_lt_of_le (List.length_pos_iff.mpr h) (length_le_width cs)

theorem ne_nil_of_width {cs : List Char} (h : 0 < width cs) : cs ≠ [] := by
  rintro rfl
  exact absurd h (Nat.lt_irrefl 0)

theorem size_utf8Encode (cs : List Char) : cs.utf8Encode.size = width cs := by
  induction cs with
  | nil => rfl
  | cons c cs ih =>
    rw [List.utf8Encode_cons, ByteArray.size_append, ih, List.utf8Encode_singleton,
      List.size_toByteArray, String.length_utf8EncodeChar, width_cons]

/-- The width of a text is its size in bytes. -/
theorem width_toList (s : String) : width s.toList = s.utf8ByteSize := by
  rw [← size_utf8Encode, ← String.toByteArray_ofList, String.ofList_toList]
  rfl

/-- A cut of `width xs` bytes takes exactly `xs` off the front. -/
theorem cut?_width_append (xs ys : List Char) : cut? (width xs) (xs ++ ys) = some (xs, ys) := by
  induction xs with
  | nil => simp [cut?]
  | cons c cs ih =>
    have hc := c.utf8Size_pos
    obtain ⟨n, hn⟩ : ∃ n, c.utf8Size + width cs = n + 1 :=
      ⟨c.utf8Size + width cs - 1, by omega⟩
    rw [width_cons, hn, List.cons_append, cut?, if_pos (by omega), ← hn,
      Nat.add_sub_cancel_left, ih]
    rfl

/-- What a cut takes and what it leaves make up the text again. -/
theorem eq_append_of_cut? {n : Nat} {cs taken rest : List Char}
    (h : cut? n cs = some (taken, rest)) : cs = taken ++ rest ∧ width taken = n := by
  induction cs generalizing n taken with
  | nil =>
    cases n with
    | zero => simp only [cut?, Option.some.injEq, Prod.mk.injEq] at h; simp [← h.1, ← h.2]
    | succ n => simp [cut?] at h
  | cons c cs ih =>
    cases n with
    | zero => simp only [cut?, Option.some.injEq, Prod.mk.injEq] at h; simp [← h.1, ← h.2]
    | succ n =>
      rw [cut?] at h
      split at h
      · obtain ⟨p, hp, he⟩ := Option.map_eq_some_iff.mp h
        obtain ⟨h1, h2⟩ := @ih (n + 1 - c.utf8Size) p.1
          (by rw [hp]; simp only [Prod.mk.injEq] at he; rw [← he.2])
        simp only [Prod.mk.injEq] at he
        subst h1
        rw [← he.1]
        constructor
        · rfl
        · rw [width_cons, h2]; omega
      · simp at h

/-- A cut is a way of splitting the text at a byte count. -/
theorem cut?_eq_some_iff {n : Nat} {cs taken rest : List Char} :
    cut? n cs = some (taken, rest) ↔ cs = taken ++ rest ∧ width taken = n := by
  constructor
  · exact eq_append_of_cut?
  · rintro ⟨rfl, rfl⟩
    exact cut?_width_append taken rest

end TextTemplate.Text
