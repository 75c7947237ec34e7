import Mathlib.Data.List.Forall2
import TextTemplate.Proofs.Number.Text
import TextTemplate.Render.Lookup

/-! # Paths into values

A place inside a value is reached by steps to keys and positions (`Value.at?`).  A name leads
there if the texts between its dots spell the steps: a key by itself, a position by its digits
(`Step.Spelled`).  Looking a name up follows the texts step by step (`Value.child?_eq_some_iff`,
`Value.child?_eq_none_iff`), so it finds the place that the name leads to, and nothing where
some text is no step from the value at hand (`Value.Astray`).  Every place in the variables has
a name, unless a key has a dot (`Variables.resolve_place`). -/
namespace TextTemplate

/-! ## Places -/

/-- A step into a value: to a key of a mapping, or to a position of a list. -/
inductive Step where
  | key (name : String)
  | position (i : Nat)

namespace Value

/-- The value one step inside a value. -/
def inside? : Value → Step → Option Value
  | .object entries, .key name => Entries.get? entries name
  | .array items, .position i => items[i]?
  | _, _ => none

/-- The value at the end of some steps. -/
def at? (v : Value) : List Step → Option Value
  | [] => some v
  | step :: steps => (v.inside? step).bind (·.at? steps)

end Value

/-- A whole number in decimal, maybe with a plus sign, and its value. -/
inductive Numeral : List Char → Nat → Prop where
  | digits {ds : List Char} : ds ≠ [] → (∀ d ∈ ds, d.isDigit = true) →
      Numeral ds (Nat.ofDigitChars 10 ds 0)
  | plus {ds : List Char} : ds ≠ [] → (∀ d ∈ ds, d.isDigit = true) →
      Numeral ('+' :: ds) (Nat.ofDigitChars 10 ds 0)

namespace Step

/-- The texts for a step: a key itself, and the numerals of a position of 64 bits. -/
inductive Spelled : Step → List Char → Prop where
  | key (name : String) : Spelled (.key name) name.toList
  | position {text : List Char} {i : Nat} : Numeral text i → i < 1 <<< 64 →
      Spelled (.position i) text

/-- The usual text for a step. -/
def text : Step → String
  | .key name => name
  | .position i => String.ofList (decimal i)

/-- The step can stand in a name: its key has no dot, its position has 64 bits. -/
def Plain : Step → Prop
  | .key name => '.' ∉ name.toList
  | .position i => i < 1 <<< 64

theorem Plain.spelled {step : Step} (h : step.Plain) : step.Spelled step.text.toList := by
  cases step with
  | key name => exact .key name
  | position i =>
    have hnumeral : Numeral (decimal i) (Nat.ofDigitChars 10 (decimal i) 0) :=
      .digits (decimal_ne_nil i) fun d hd => isDigit_of_mem_decimal hd
    rw [ofDigitChars_decimal] at hnumeral
    rw [text, String.toList_ofList]
    exact .position hnumeral h

theorem Plain.dot_notMem {step : Step} (h : step.Plain) : '.' ∉ step.text.toList := by
  cases step with
  | key name => exact h
  | position i =>
    rw [text, String.toList_ofList]
    exact fun hdot => absurd (isDigit_of_mem_decimal hdot) (by decide)

end Step

/-- The texts between the dots of a name spell the steps. -/
def Spells (name : String) (steps : List Step) : Prop :=
  List.Forall₂ Step.Spelled steps (name.toList.splitOn '.')

namespace Value

/-- No step from the value has the text: there is no such key; the text is no numeral, or one
for a position that has more than 64 bits or is not in the list; or the value has no inside. -/
inductive Lacks : Value → List Char → Prop where
  | noKey {entries : List (String × Value)} {text : List Char} :
      Entries.get? entries (String.ofList text) = none → Lacks (.object entries) text
  | noNumeral {items : List Value} {text : List Char} :
      (∀ n, ¬ Numeral text n) → Lacks (.array items) text
  | tooLarge {items : List Value} {text : List Char} {n : Nat} :
      Numeral text n → 1 <<< 64 ≤ n → Lacks (.array items) text
  | outOfRange {items : List Value} {text : List Char} {n : Nat} :
      Numeral text n → items.length ≤ n → Lacks (.array items) text
  | scalar {v : Value} {text : List Char} :
      (∀ entries, v ≠ .object entries) → (∀ items, v ≠ .array items) → Lacks v text

/-- Somewhere on the way along the texts, the value at hand lacks the next one. -/
inductive Astray : Value → List (List Char) → Prop where
  | here {v : Value} {text : List Char} {texts : List (List Char)} :
      v.Lacks text → Astray v (text :: texts)
  | inside {v w : Value} {step : Step} {text : List Char} {texts : List (List Char)} :
      step.Spelled text → v.inside? step = some w → Astray w texts → Astray v (text :: texts)

end Value

/-! ## Names -/

/-- The pieces of a name are the texts between its dots. -/
theorem splitDots_eq_splitOn (cs : List Char) : splitDots cs = cs.splitOn '.' := by
  induction cs with
  | nil => rfl
  | cons c cs ih =>
    rw [List.splitOn_cons_eq_if_modifyHead, splitDots, ih]
    by_cases hc : c = '.'
    · simp [hc]
    · obtain ⟨piece, pieces, hpieces⟩ :=
        List.exists_cons_of_ne_nil (List.splitOn_ne_nil '.' cs)
      simp [hc, hpieces]

/-- Texts without dots are found between the dots that join them. -/
theorem splitOn_intercalate_dots {texts : List String} (hne : texts ≠ [])
    (h : ∀ text ∈ texts, '.' ∉ text.toList) :
    (".".intercalate texts).toList.splitOn '.' = texts.map String.toList := by
  rw [String.toList_intercalate]
  refine List.splitOn_intercalate '.' (fun text htext => ?_) (by simpa using hne)
  obtain ⟨t, ht, rfl⟩ := List.mem_map.mp htext
  exact h t ht

theorem splitOn_eq_singleton_of_notMem {name : String} (h : '.' ∉ name.toList) :
    name.toList.splitOn '.' = [name.toList] := by
  have hone := splitOn_intercalate_dots (List.cons_ne_nil name []) (List.forall_mem_singleton.mpr h)
  rwa [String.intercalate_singleton] at hone

/-! ## Positions -/

/-- The fold of a position is the value of its digits. -/
theorem foldl_digits (ds : List Char) :
    ds.foldl (fun n d => n * 10 + (d.toNat - 48)) 0 = Nat.ofDigitChars 10 ds 0 := by
  simp only [Nat.ofDigitChars, Nat.mul_comm 10]
  rfl

theorem plus_not_digit : ¬ '+'.isDigit = true := by decide

/-- A numeral has one value. -/
theorem Numeral.unique {text : List Char} {m n : Nat} (hm : Numeral text m) (hn : Numeral text n) :
    m = n := by
  cases hm with
  | digits _ hall =>
    cases hn with
    | digits => rfl
    | plus => exact absurd (hall '+' List.mem_cons_self) plus_not_digit
  | plus =>
    cases hn with
    | digits _ hall => exact absurd (hall '+' List.mem_cons_self) plus_not_digit
    | plus => rfl

/-- A position without its sign: the number that the digits stand for, if there are any and it
has 64 bits. -/
theorem digits_eq_some_iff {ds : List Char} {i : Nat} :
    (if ds.isEmpty || !ds.all Char.isDigit then none else
      if ds.foldl (fun n d => n * 10 + (d.toNat - 48)) 0 < 1 <<< 64
      then some (ds.foldl (fun n d => n * 10 + (d.toNat - 48)) 0) else none) = some i ↔
      (ds ≠ [] ∧ ∀ d ∈ ds, d.isDigit = true) ∧ Nat.ofDigitChars 10 ds 0 = i ∧ i < 1 <<< 64 := by
  rw [foldl_digits]
  grind

/-- **A text is a position if it is a numeral of 64 bits.** -/
theorem position?_eq_some_iff {text : List Char} {i : Nat} :
    position? text = some i ↔ Numeral text i ∧ i < 1 <<< 64 := by
  constructor
  · intro h
    unfold position? at h
    extract_lets ds n at h
    have htext : text = ds ∨ text = '+' :: ds := by
      simp only [ds]
      split <;> simp
    obtain ⟨⟨hne, hall⟩, hvalue, hbound⟩ := digits_eq_some_iff.mp h
    rw [← hvalue] at hbound ⊢
    rcases htext with htext | htext
    · rw [htext]
      exact ⟨.digits hne hall, hbound⟩
    · rw [htext]
      exact ⟨.plus hne hall, hbound⟩
  · rintro ⟨hnumeral, hi⟩
    cases hnumeral with
    | plus hne hall => exact digits_eq_some_iff.mpr ⟨⟨hne, hall⟩, rfl, hi⟩
    | digits hne hall =>
      unfold position?
      split
      -- a digit in front is no sign
      · exact absurd (hall '+' List.mem_cons_self) plus_not_digit
      · exact digits_eq_some_iff.mpr ⟨⟨hne, hall⟩, rfl, hi⟩

/-! ## Following a path -/

namespace Value

/-- **A step of the search is a step that the text spells.** -/
theorem child?_eq_some_iff {v w : Value} {text : List Char} :
    v.child? text = some w ↔ ∃ step : Step, step.Spelled text ∧ v.inside? step = some w := by
  constructor
  · intro h
    cases v with
    | object entries =>
      have hspelled := Step.Spelled.key (String.ofList text)
      rw [String.toList_ofList] at hspelled
      exact ⟨_, hspelled, h⟩
    | array items =>
      obtain ⟨i, hi, hitem⟩ := Option.bind_eq_some_iff.mp h
      obtain ⟨hnumeral, hbound⟩ := position?_eq_some_iff.mp hi
      exact ⟨_, .position hnumeral hbound, hitem⟩
    | _ => cases h
  · rintro ⟨step, hspelled, hinside⟩
    cases hspelled with
    | key name =>
      cases v with
      | object entries =>
        rw [child?, String.ofList_toList]
        exact hinside
      | _ => cases hinside
    | position hnumeral hbound =>
      cases v with
      | array items =>
        have hi := position?_eq_some_iff.mpr ⟨hnumeral, hbound⟩
        rw [child?, hi]
        exact hinside
      | _ => cases hinside

/-- An item of a list is found if its text is a numeral for its position. -/
theorem child?_array_eq_none_iff {items : List Value} {text : List Char} :
    (array items).child? text = none ↔
      ∀ n, Numeral text n → 1 <<< 64 ≤ n ∨ items.length ≤ n := by
  simp only [child?, Option.bind_eq_none_iff, position?_eq_some_iff, List.getElem?_eq_none_iff,
    and_imp, ← Nat.not_lt (b := 1 <<< 64), ← imp_iff_not_or]

/-- **The search stops where the value lacks the text.** -/
theorem child?_eq_none_iff {v : Value} {text : List Char} :
    v.child? text = none ↔ v.Lacks text := by
  constructor
  · intro h
    cases v with
    | object entries => exact .noKey h
    | array items =>
      rw [child?_array_eq_none_iff] at h
      by_cases hnumeral : ∃ n, Numeral text n
      · obtain ⟨n, hn⟩ := hnumeral
        rcases h n hn with hlarge | hlength
        · exact .tooLarge hn hlarge
        · exact .outOfRange hn hlength
      · exact .noNumeral (not_exists.mp hnumeral)
    | _ => exact .scalar nofun nofun
  · intro h
    cases h with
    | noKey hkey => exact hkey
    | noNumeral hnone => exact child?_array_eq_none_iff.mpr fun n hn => absurd hn (hnone n)
    | tooLarge hn hlarge => exact child?_array_eq_none_iff.mpr fun m hm => .inl (hm.unique hn ▸ hlarge)
    | outOfRange hn hlength =>
      exact child?_array_eq_none_iff.mpr fun m hm => .inr (hm.unique hn ▸ hlength)
    | scalar hentries hitems =>
      cases v with
      | object entries => exact absurd rfl (hentries entries)
      | array items => exact absurd rfl (hitems items)
      | _ => rfl

/-- **A path ends at the place whose steps it spells.** -/
theorem descend?_eq_some_iff {v w : Value} {texts : List (List Char)} :
    v.descend? texts = some w ↔
      ∃ steps, List.Forall₂ Step.Spelled steps texts ∧ v.at? steps = some w := by
  induction texts generalizing v with
  | nil => simp [descend?, at?]
  | cons text texts ih =>
    rw [descend?, Option.bind_eq_some_iff]
    constructor
    · rintro ⟨u, hchild, hmore⟩
      obtain ⟨step, hspelled, hinside⟩ := child?_eq_some_iff.mp hchild
      obtain ⟨steps, hsteps, hat⟩ := ih.mp hmore
      exact ⟨step :: steps, .cons hspelled hsteps, by rw [at?, hinside]; exact hat⟩
    · rintro ⟨steps, hsteps, hat⟩
      obtain ⟨step, steps, hspelled, hmore, rfl⟩ := List.forall₂_cons_right_iff.mp hsteps
      obtain ⟨u, hinside, hat⟩ := Option.bind_eq_some_iff.mp hat
      exact ⟨u, child?_eq_some_iff.mpr ⟨step, hspelled, hinside⟩, ih.mpr ⟨steps, hmore, hat⟩⟩

/-- **A path ends nowhere if it goes astray.** -/
theorem descend?_eq_none_iff {v : Value} {texts : List (List Char)} :
    v.descend? texts = none ↔ v.Astray texts := by
  induction texts generalizing v with
  | nil => exact ⟨nofun, nofun⟩
  | cons text texts ih =>
    rw [descend?]
    constructor
    · intro h
      cases hchild : v.child? text with
      | none => exact .here (child?_eq_none_iff.mp hchild)
      | some w =>
        rw [hchild] at h
        obtain ⟨step, hspelled, hinside⟩ := child?_eq_some_iff.mp hchild
        exact .inside hspelled hinside (ih.mp h)
    · intro h
      cases h with
      | here hlacks => rw [child?_eq_none_iff.mpr hlacks, Option.bind_none]
      | @inside _ w step _ _ hspelled hinside hmore =>
        have hchild := child?_eq_some_iff.mpr ⟨step, hspelled, hinside⟩
        rw [hchild, Option.bind_some]
        exact ih.mpr hmore

end Value

namespace Variables

variable {vars : Variables} {name : String}

/-- Variables are walked as a mapping is. -/
theorem walk?_splitDots (vars : Variables) (cs : List Char) :
    vars.walk? (splitDots cs) = (Value.object vars).descend? (cs.splitOn '.') := by
  rw [splitDots_eq_splitOn]
  cases h : cs.splitOn '.' with
  | nil => exact absurd h (List.splitOn_ne_nil '.' cs)
  | cons piece pieces => rfl

/-- The variable of a key is one of the variables. -/
theorem mem_of_get? {v : Value} (h : Entries.get? vars name = some v) :
    ∃ entry ∈ vars, entry.1 = name := by
  obtain ⟨entry, hfind, -⟩ := Option.map_eq_some_iff.mp h
  exact ⟨entry, List.mem_of_find?_eq_some hfind, by simpa using List.find?_some hfind⟩

/-- A name without dots is the path of one step that it is. -/
theorem descend?_of_notMem (vars : Variables) (h : '.' ∉ name.toList) :
    (Value.object vars).descend? (name.toList.splitOn '.') = Entries.get? vars name := by
  rw [splitOn_eq_singleton_of_notMem h]
  simp [Value.descend?, Value.child?]

/-- **Without dots in the keys, every name is a path.** -/
theorem resolve_eq_descend? (h : ∀ entry ∈ vars, '.' ∉ entry.1.toList) (name : String) :
    vars.resolve name =
      ((Value.object vars).descend? (name.toList.splitOn '.')).getD .null := by
  rw [resolve]
  cases hget : Entries.get? vars name with
  | none => rw [walk?_splitDots]
  | some v =>
    -- a key that is the whole name is its only piece
    obtain ⟨entry, hentry, rfl⟩ := mem_of_get? hget
    rw [descend?_of_notMem vars (h entry hentry), hget]
    rfl

/-- The usual name of a place leads there. -/
theorem resolve_text (h : ∀ entry ∈ vars, '.' ∉ entry.1.toList) {first : String}
    {steps : List Step} {v : Value} (hsteps : ∀ step ∈ steps, step.Plain)
    (hat : (Value.object vars).at? (.key first :: steps) = some v) :
    vars.resolve (".".intercalate (first :: steps.map Step.text)) = v := by
  have hfirst : '.' ∉ first.toList := by
    obtain ⟨u, hget, -⟩ := Option.bind_eq_some_iff.mp hat
    obtain ⟨entry, hentry, rfl⟩ := mem_of_get? hget
    exact h entry hentry
  have hdots : ∀ text ∈ first :: steps.map Step.text, '.' ∉ text.toList := by
    refine List.forall_mem_cons.mpr ⟨hfirst, fun text htext => ?_⟩
    obtain ⟨step, hstep, rfl⟩ := List.mem_map.mp htext
    exact (hsteps step hstep).dot_notMem
  have hspelled : List.Forall₂ Step.Spelled (.key first :: steps)
      ((first :: steps.map Step.text).map String.toList) := by
    refine .cons (.key first) ?_
    rw [List.forall₂_map_right_iff, List.forall₂_map_right_iff, List.forall₂_same]
    exact fun step hstep => (hsteps step hstep).spelled
  rw [resolve_eq_descend? h, splitOn_intercalate_dots (List.cons_ne_nil _ _) hdots,
    Value.descend?_eq_some_iff.mpr ⟨_, hspelled, hat⟩, Option.getD_some]

/-- **Every place in the variables has a name.**  A variable of the whole name comes first.  If
no key of the variables has a dot, the value at any place is what the usual name of its steps
stands for.  Then a name that stands for anything but null leads to the place where that value
is; a name that goes astray stands for null; and there are no other names but those that lead to
a place and those that go astray. -/
theorem resolve_place (vars : Variables) :
    (∀ name v, Entries.get? vars name = some v → vars.resolve name = v) ∧
    ((∀ entry ∈ vars, '.' ∉ entry.1.toList) →
      (∀ (first : String) (steps : List Step) (v : Value), (∀ step ∈ steps, step.Plain) →
        (Value.object vars).at? (.key first :: steps) = some v →
        vars.resolve (".".intercalate (first :: steps.map Step.text)) = v) ∧
      (∀ name, vars.resolve name ≠ .null → ∃ steps, Spells name steps ∧
        (Value.object vars).at? steps = some (vars.resolve name)) ∧
      (∀ name, (Value.object vars).Astray (name.toList.splitOn '.') →
        vars.resolve name = .null) ∧
      ∀ name, (∃ steps, Spells name steps ∧
          (Value.object vars).at? steps = some (vars.resolve name)) ∨
        (Value.object vars).Astray (name.toList.splitOn '.')) := by
  have hwhole : ∀ name v, Entries.get? vars name = some v → vars.resolve name = v :=
    fun name v hget => by rw [resolve, hget]
  refine ⟨hwhole, fun h => ?_⟩
  have hastray : ∀ name, (Value.object vars).Astray (name.toList.splitOn '.') →
      vars.resolve name = .null := by
    intro name hname
    rw [resolve_eq_descend? h, Value.descend?_eq_none_iff.mpr hname, Option.getD_none]
  have hplace : ∀ name, (∃ steps, Spells name steps ∧
        (Value.object vars).at? steps = some (vars.resolve name)) ∨
      (Value.object vars).Astray (name.toList.splitOn '.') := by
    intro name
    rw [← Value.descend?_eq_none_iff, resolve_eq_descend? h]
    cases hdescend : (Value.object vars).descend? (name.toList.splitOn '.') with
    | none => exact .inr rfl
    | some v => exact .inl (Value.descend?_eq_some_iff.mp hdescend)
  refine ⟨fun first steps v => resolve_text h, fun name hname => ?_, hastray, hplace⟩
  exact (hplace name).resolve_right fun hlost => hname (hastray name hlost)

/-- One variable, a mapping with a list in it. -/
def order : Variables := [("order", .object [("7", .array [.null, .string "x"])])]

/-- A key of digits, a position with a plus sign and zeros, a position out of range, and a
variable with a dot. -/
theorem resolve_place_signed :
    (∀ entry ∈ order, '.' ∉ entry.1.toList) ∧
    Variables.resolve order "order.7.1" = .string "x" ∧
    (∃ steps, Spells "order.7.+01" steps ∧
      (Value.object order).at? steps = some (Variables.resolve order "order.7.+01")) ∧
    Variables.resolve order "order.7.2" = .null ∧
    Variables.resolve (("order.7", .bool true) :: order) "order.7" = .bool true := by
  have hdots : ∀ entry ∈ order, '.' ∉ entry.1.toList := by decide +kernel
  obtain ⟨hname, hplace, hastray, -⟩ := (resolve_place order).2 hdots
  have htext : ".".intercalate ("order" :: [Step.key "7", .position 1].map Step.text) =
      "order.7.1" := by decide +kernel
  have hsteps : ∀ step ∈ [Step.key "7", .position 1], step.Plain := by
    refine List.forall_mem_cons.mpr ⟨?_, List.forall_mem_singleton.mpr ?_⟩
    · exact (by decide +kernel : '.' ∉ "7".toList)
    · exact (by decide : 1 < 1 <<< 64)
  refine ⟨hdots, ?_, hplace _ ?_, hastray _ ?_, (resolve_place _).1 _ _ rfl⟩
  · rw [← htext]
    exact hname "order" _ _ hsteps rfl
  · have hvalue : Variables.resolve order "order.7.+01" = .string "x" := by rfl
    rw [hvalue]
    exact nofun
  · have hpieces : "order.7.2".toList.splitOn '.' =
        ["order".toList, "7".toList, "2".toList] := by decide +kernel
    have hdigits : ∀ d ∈ "2".toList, d.isDigit = true := List.all_eq_true.mp (by decide +kernel)
    have hnumeral : Numeral "2".toList 2 := .digits (by decide +kernel) hdigits
    rw [hpieces]
    exact .inside (.key "order") rfl (.inside (.key "7") rfl (.here (.outOfRange hnumeral (by decide))))

end Variables
end TextTemplate
