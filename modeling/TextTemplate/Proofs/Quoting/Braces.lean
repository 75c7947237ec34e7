import TextTemplate.Proofs.Quoting.Standard

/-! # Balanced text

A text is balanced if no prefix of it holds more closing characters than opening ones and
all of it holds as many of either; a character behind a backslash does not count
(`Balanced`).  Counting the open braces on the way through a text decides that
(`balanced_iff_depthAfter`).  The search for a closing brace counts in the same way, so it
goes past balanced text and stops at the brace behind it (`splitBalanced_of_balanced`):
balanced text in braces is quoted as it stands, whatever comes behind it
(`take?_braces_of_balanced`). -/
namespace TextTemplate.Quoting

/-- The characters that count: a backslash does not, nor does the character behind it.  A
text that ends right behind such a backslash has no count. -/
def counted : List Char → Option (List Char)
  | [] => some []
  | c :: cs =>
    if c = '\\' then
      match cs with
      | [] => none
      | _ :: cs => counted cs
    else (counted cs).map (c :: ·)

theorem counted_cons {c : Char} (hc : c ≠ '\\') (cs : List Char) :
    counted (c :: cs) = (counted cs).map (c :: ·) := by
  rw [counted.eq_def]
  simp only [if_neg hc]

/-- No prefix holds more closing characters than opening ones, and the text as many. -/
def Balanced (opening closing : Char) (text : List Char) : Prop :=
  ∃ cs, counted text = some cs ∧
    (∀ front, front <+: cs → front.count closing ≤ front.count opening) ∧
    cs.count closing = cs.count opening

/-- The number of open braces behind some characters, if no more are closed than are
open. -/
def depthAfter (opening closing : Char) : Nat → List Char → Option Nat
  | depth, [] => some depth
  | depth, c :: cs =>
    if c = opening then depthAfter opening closing (depth + 1) cs
    else if c = closing then
      match depth with
      | 0 => none
      | depth + 1 => depthAfter opening closing depth cs
    else depthAfter opening closing depth cs

theorem forall_prefix_cons {P : List Char → Prop} {c : Char} {cs : List Char} :
    (∀ front, front <+: c :: cs → P front) ↔ P [] ∧ ∀ front, front <+: cs → P (c :: front) := by
  constructor
  · intro h
    refine ⟨h [] List.nil_prefix, fun front hfront => h _ ?_⟩
    exact List.cons_prefix_cons.mpr ⟨rfl, hfront⟩
  · rintro ⟨hnil, hcons⟩ front hfront
    cases front with
    | nil => exact hnil
    | cons d front =>
      obtain ⟨rfl, hmore⟩ := List.cons_prefix_cons.mp hfront
      exact hcons front hmore

variable {opening closing : Char}

/-- The depth counts what is opened and what is closed. -/
theorem depthAfter_eq_some_iff (hne : opening ≠ closing) {depth m : Nat} {cs : List Char} :
    depthAfter opening closing depth cs = some m ↔
      (∀ front, front <+: cs → front.count closing ≤ depth + front.count opening) ∧
        m + cs.count closing = depth + cs.count opening := by
  fun_induction depthAfter opening closing depth cs with
  | case1 depth =>
    simp only [Option.some.injEq, List.prefix_nil, List.count_nil]
    constructor
    · rintro rfl
      exact ⟨fun front hfront => by simp [hfront], rfl⟩
    · rintro ⟨-, rfl⟩
      rfl
  | case2 depth cs ih =>
    rw [ih, forall_prefix_cons]
    simp only [List.count_nil, List.count_cons_self, List.count_cons_of_ne hne]
    constructor <;> rintro ⟨hfronts, hsum⟩
    · refine ⟨⟨Nat.zero_le _, fun front hfront => ?_⟩, by omega⟩
      have hcount := hfronts front hfront
      omega
    · refine ⟨fun front hfront => ?_, by omega⟩
      have hcount := hfronts.2 front hfront
      omega
  | case3 cs ho =>
    have hone : [closing] <+: closing :: cs := ⟨cs, rfl⟩
    simp only [reduceCtorEq, false_iff]
    rintro ⟨hfronts, -⟩
    have hcount := hfronts [closing] hone
    simp [List.count_cons_of_ne (Ne.symm hne)] at hcount
  | case4 cs ho depth ih =>
    rw [ih, forall_prefix_cons]
    simp only [List.count_nil, List.count_cons_self, List.count_cons_of_ne (Ne.symm hne)]
    constructor <;> rintro ⟨hfronts, hsum⟩
    · refine ⟨⟨Nat.zero_le _, fun front hfront => ?_⟩, by omega⟩
      have hcount := hfronts front hfront
      omega
    · refine ⟨fun front hfront => ?_, by omega⟩
      have hcount := hfronts.2 front hfront
      omega
  | case5 depth c cs ho hc ih =>
    rw [ih, forall_prefix_cons]
    simp only [List.count_nil, List.count_cons_of_ne ho, List.count_cons_of_ne hc]
    simp

/-- **A text is balanced if going through it opens and closes as much.** -/
theorem balanced_iff_depthAfter (hne : opening ≠ closing) {text : List Char} :
    Balanced opening closing text ↔
      (counted text).bind (depthAfter opening closing 0) = some 0 := by
  simp only [Balanced, Option.bind_eq_some_iff, depthAfter_eq_some_iff hne, Nat.zero_add]

/-- The search for the closing brace goes past a text as the count of open braces does. -/
theorem splitBalanced_append {depth m : Nat} {text cs : List Char} (hcs : counted text = some cs)
    (hdepth : depthAfter opening closing depth cs = some m) (rest : List Char) :
    splitBalanced opening closing depth (text ++ rest) =
      (splitBalanced opening closing m rest).map fun (t, u) => (text ++ t, u) := by
  fun_induction counted text generalizing depth cs with
  | case1 =>
    cases hcs
    cases hdepth
    simp
  | case2 => cases hcs
  | case3 d text ih =>
    rw [List.cons_append, List.cons_append, splitBalanced.eq_def]
    simp only [if_true]
    rw [ih hcs hdepth, Option.map_map]
    rfl
  | case4 c text hc ih =>
    obtain ⟨more, hmore, rfl⟩ := Option.map_eq_some_iff.mp hcs
    rw [depthAfter.eq_def] at hdepth
    rw [List.cons_append, splitBalanced.eq_def]
    simp only [if_neg hc] at hdepth ⊢
    by_cases ho : c = opening
    · rw [if_pos ho] at hdepth ⊢
      rw [ih hmore hdepth, Option.map_map]
      rfl
    · rw [if_neg ho] at hdepth ⊢
      by_cases hclosing : c = closing
      · rw [if_pos hclosing] at hdepth ⊢
        cases depth with
        | zero => cases hdepth
        | succ depth =>
          simp only at hdepth ⊢
          rw [ih hmore hdepth, Option.map_map]
          rfl
      · rw [if_neg hclosing] at hdepth ⊢
        rw [ih hmore hdepth, Option.map_map]
        rfl

section balanced
variable (hne : opening ≠ closing) (hclosing : closing ≠ '\\') {text : List Char}
  (h : Balanced opening closing text)
include hne hclosing h

/-- **Balanced text ends at the closing brace behind it.** -/
theorem splitBalanced_of_balanced (rest : List Char) :
    splitBalanced opening closing 0 (text ++ closing :: rest) = some (text, rest) := by
  obtain ⟨cs, hcs, hdepth⟩ := Option.bind_eq_some_iff.mp ((balanced_iff_depthAfter hne).mp h)
  have hstop : splitBalanced opening closing 0 (closing :: rest) = some ([], rest) := by
    rw [splitBalanced.eq_def]
    simp only [if_neg hclosing, if_neg (Ne.symm hne), if_true]
  rw [splitBalanced_append hcs hdepth, hstop]
  simp

variable (hopening : opening ≠ '\\')
include hopening

/-- Balanced text in braces is extracted as it stands. -/
theorem extract_braces_of_balanced (rest : List Char) :
    (Quoting.braces opening closing).extract (opening :: (text ++ closing :: rest)) =
      ⟨Text.width (opening :: (text ++ [closing])), text⟩ := by
  simp only [extract, extractBraces, if_true, splitOpened_of_ne hopening,
    splitBalanced_of_balanced hne hclosing h rest]
  simp [Nat.add_assoc]

/-- **Balanced text in braces is quoted as it stands**, whatever comes behind it. -/
theorem take?_braces_of_balanced (rest : List Char) :
    (Quoting.braces opening closing).take? (opening :: (text ++ closing :: rest)) =
      some (opening :: (text ++ [closing]), text, rest) := by
  have hwhole : opening :: (text ++ closing :: rest) =
      (opening :: (text ++ [closing])) ++ rest := by simp
  have hstarts : (Quoting.braces opening closing).starts (opening :: (text ++ closing :: rest)) =
      true := by
    simp [starts]
  have hextract := extract_braces_of_balanced hne hclosing h hopening rest
  rw [hwhole] at hstarts hextract ⊢
  exact take?_eq_some_iff.mpr ⟨hstarts, hextract, rfl, List.cons_ne_nil _ _⟩

end balanced

/-- Where braces do not open, they do not quote. -/
theorem starts_braces_eq_false {text : List Char} (h : text.head? ≠ some opening) :
    (Quoting.braces opening closing).starts text = false := by
  simp [starts, h]

/-! ## Chains -/

/-- The first member of a chain that takes text takes it for the chain. -/
theorem take?_chain_of_take? {q : Quoting} {text taken content rest : List Char}
    (h : q.take? text = some (taken, content, rest)) (qs : List Quoting) :
    (Quoting.chain (q :: qs)).take? text = some (taken, content, rest) := by
  obtain ⟨hstarts, hextract, htext, hne⟩ := take?_eq_some_iff.mp h
  have hpos := Text.width_pos hne
  refine take?_eq_some_iff.mpr ⟨?_, ?_, htext, hne⟩
  · simp [starts, startsAny, hstarts]
  · simp [extract, extractFirst, hstarts, hextract, hpos]

/-- A member of a chain that does not start here might as well be left out. -/
theorem take?_chain_of_starts_eq_false {q : Quoting} {text : List Char}
    (h : q.starts text = false) (qs : List Quoting) :
    (Quoting.chain (q :: qs)).take? text = (Quoting.chain qs).take? text := by
  have hstarts : (Quoting.chain (q :: qs)).starts text = (Quoting.chain qs).starts text := by
    simp [starts, startsAny, h]
  have hextract : (Quoting.chain (q :: qs)).extract text = (Quoting.chain qs).extract text := by
    simp [extract, extractFirst, h]
  rw [take?, take?, hstarts, hextract]

end TextTemplate.Quoting
