import TextTemplate.Json.Printer
import TextTemplate.Proofs.Json.Reading

/-! # What is written can be read

Strings are written with escapes, and template trees over several lines.  Both are spelled as
the grammar says (`quoted_spelled`, `prettyTemplate_spelled`), so the reader gives back what was
written (`read?_prettyTemplate`), whatever characters the strings of a tree hold. -/
namespace TextTemplate

/-! ## The values of trees -/

/-- A record with two fields. -/
def Value.pair (first second : String) (a b : Value) : Value :=
  .object (Entries.ofList [(first, a), (second, b)])

/-- A pipe as a value. -/
def Pipe.toValue (p : Pipe) : Value :=
  .pair "name" "parameters" (.string p.name) (.array (p.parameters.map .string))

/-- A variable as a value. -/
def Variable.toValue (v : Variable) : Value :=
  .pair "name" "pipes" (.string v.name) (.array (v.pipes.map Pipe.toValue))

/-- A template tree as a value. -/
def Template.toValue (t : Template) : Value :=
  .pair "literals" "variables" (.array (t.literals.map .string))
    (.array (t.placeholders.map Variable.toValue))

namespace Json

/-- Items that are each read back are read back in a list. -/
theorem mapM_map {α β : Type} {write : α → β} {read : β → Option α}
    (h : ∀ x, read (write x) = some x) (xs : List α) : (xs.map write).mapM read = some xs := by
  induction xs with
  | nil => rfl
  | cons x xs ih => simp [h, ih]

theorem toFields?_pair {first second : String} (hne : first ≠ second) (a b : Value) :
    toFields? first second (.pair first second a b) = some (a, b) := by
  have hfirst : Entries.get? (Entries.ofList [(first, a), (second, b)]) first = some a := by
    simp [Entries.ofList, Entries.get?_insert, hne.symm]
  have hsecond : Entries.get? (Entries.ofList [(first, a), (second, b)]) second = some b := by
    simp [Entries.ofList, Entries.get?_insert]
  simp [toFields?, Value.pair, hfirst, hsecond]

theorem toStrings?_map (items : List String) :
    toStrings? (.array (items.map .string)) = some items :=
  @mapM_map _ _ Value.string _ (fun _ => rfl) items

theorem toPipe?_toValue (p : Pipe) : toPipe? p.toValue = some p := by
  simp [toPipe?, Pipe.toValue, toFields?_pair, toStrings?_map]

theorem toVariable?_toValue (v : Variable) : toVariable? v.toValue = some v := by
  simp [toVariable?, Variable.toValue, toFields?_pair, mapM_map toPipe?_toValue]

/-- A tree is what its value describes. -/
theorem toTemplate?_toValue (t : Template) : toTemplate? t.toValue = some t := by
  simp [toTemplate?, Template.toValue, toFields?_pair, toStrings?_map,
    mapM_map toVariable?_toValue]

/-! ## Strings -/

theorem readHex4_control : ∀ n < 0x20,
    readHex4 ['0', '0', hexChar (n / 16), hexChar (n % 16)] = some (n, []) := by
  decide

/-- A character stands for itself, or an escape of at most five characters is written for it. -/
theorem escapeChar_cases (c : Char) :
    (Lexis.json.plain c ∧ escapeChar c = [c]) ∨
      ∃ e, Escaped c e ∧ e.length ≤ 5 ∧ escapeChar c = '\\' :: e := by
  unfold escapeChar
  iterate 7
    split
    · subst_vars
      exact .inr ⟨_, .letter (by decide), by decide, rfl⟩
  split
  · rename_i hcontrol
    have hunit := readHex4_control c.toNat hcontrol
    refine .inr ⟨_, ?_, ?_, rfl⟩
    · have h : Escaped (Char.ofNat c.toNat)
          ['u', '0', '0', hexChar (c.toNat / 16), hexChar (c.toNat % 16)] := by
        refine .unit hunit ?_ ?_
        · simp [isHighSurrogate]; omega
        · simp [isLowSurrogate]; omega
      rwa [Char.ofNat_toNat] at h
    · simp
  · rename_i hmark hslash _ _ _ _ _ hcode
    exact .inl ⟨⟨hmark, hslash, by omega⟩, rfl⟩

/-- **A string that is written out is spelled**, in any lexis that has its characters and the
short escapes. -/
theorem quoted_spelled {L : Lexis} {s : List Char}
    (hplain : ∀ c ∈ s, Lexis.json.plain c → L.plain c)
    (hescape : ∀ c e, Escaped c e → e.length ≤ 5 → L.escape c e) :
    ∃ t, quoted s = inMarks t ∧ StringSpelled L s t := by
  refine ⟨s.flatMap escapeChar, rfl, ?_⟩
  induction s with
  | nil => exact .nil
  | cons c s ih =>
    have hrest := ih fun x hx => hplain x (List.mem_cons_of_mem c hx)
    rw [List.flatMap_cons]
    rcases escapeChar_cases c with ⟨hc, heq⟩ | ⟨e, he, hlength, heq⟩
    · rw [heq]
      exact .plain (hplain c List.mem_cons_self hc) hrest
    · rw [heq]
      exact .escaped (hescape c e he hlength) hrest

theorem quoted_spelled_json (s : List Char) :
    ∃ t, quoted s = inMarks t ∧ StringSpelled .json s t :=
  quoted_spelled (fun _ _ h => h) fun _ _ h _ => h

theorem spelled_quoted (depth : Nat) (s : String) :
    Spelled .json depth (.string s) (quoted s.toList) := by
  obtain ⟨t, heq, ht⟩ := quoted_spelled_json s.toList
  rw [heq]
  have h := Spelled.scalar (.string ht) depth
  rwa [String.ofList_toList] at h

/-- An entry is spelled by its key in quotation marks, a colon, and what its value is spelled
by, with or without blanks in between. -/
theorem entrySpelled_quoted {item : Value → List Char → Prop} {v : Value} {b t : List Char}
    (name : String) (hb : Blank b) (hv : item v t) :
    EntrySpelled .json item (name, v) (quoted name.toList ++ ':' :: (b ++ t)) := by
  obtain ⟨k, heq, hk⟩ := quoted_spelled_json name.toList
  have h : EntrySpelled .json item (String.ofList name.toList, v)
      (inMarks k ++ ([] ++ ':' :: (b ++ t))) := .intro hk nofun trivial hb hv
  rwa [String.ofList_toList, ← heq] at h

/-! ## Lines -/

theorem blank_newline (depth : Nat) : Blank (newline depth) := by
  intro c hc
  rw [newline, List.mem_cons, List.mem_replicate] at hc
  rcases hc with rfl | ⟨-, rfl⟩ <;> rfl

/-- Items on lines of their own. -/
theorem separated_lines {α : Type} {item : α → List Char → Prop} {close : Char} (depth : Nat)
    {x : α} {t : List Char} {more : List (α × List Char)} (ht : item x t)
    (hmore : ∀ p ∈ more, item p.1 p.2) :
    Separated item close (x :: more.map (·.1))
      (newline (depth + 1) ++ (t ++ (more.flatMap (fun p => ',' :: (newline (depth + 1) ++ p.2)) ++
        (newline depth ++ [close])))) := by
  induction more generalizing x t with
  | nil => exact .last (blank_newline _) ht (blank_newline _)
  | cons p more ih =>
    have hp : item p.1 p.2 := hmore p List.mem_cons_self
    have hrest := ih hp fun q hq => hmore q (List.mem_cons_of_mem p hq)
    have h := Separated.cons (b := []) (blank_newline (depth + 1)) ht nofun hrest
    simpa using h

/-- A list over several lines is spelled if its items are. -/
theorem prettyList_spelled {α : Type} {L : Lexis} {d : Nat} {toValue : α → Value}
    {write : α → List Char} (h : ∀ x, Spelled L d (toValue x) (write x)) (depth : Nat)
    (xs : List α) :
    Spelled L (d + 1) (.array (xs.map toValue)) (prettyList depth (xs.map write)) := by
  cases xs with
  | nil => exact .inr (.array (.none (a := []) nofun))
  | cons x xs =>
    have hlines := @separated_lines _ (Spelled L d) ']' depth (toValue x) (write x)
      (xs.map fun x => (toValue x, write x)) (h x) (by simpa using fun x _ => h x)
    refine .inr (.array (.some ?_))
    simpa [List.flatMap_map, Function.comp_def] using hlines

/-- A record over several lines is spelled if its two fields are. -/
theorem prettyFields_spelled {d : Nat} {first second : String} {a b : Value} {s t : List Char}
    (ha : Spelled .json d a s) (hb : Spelled .json d b t) (depth : Nat) :
    Spelled .json (d + 1) (.pair first second a b)
      (prettyFields depth [(first, s), (second, t)]) := by
  have hfield : ∀ {name : String} {v : Value} {u : List Char}, Spelled .json d v u →
      EntrySpelled .json (Spelled .json d) (name, v) (quoted name.toList ++ ':' :: ' ' :: u) := by
    intro name v u hv
    have hblank : Blank [' '] := by simp [Blank, isBlank]
    exact entrySpelled_quoted name hblank hv
  have hlines := @separated_lines _ (EntrySpelled .json (Spelled .json d)) '}' depth
    (first, a) _ [((second, b), quoted second.toList ++ ':' :: ' ' :: t)] (hfield ha)
    (by simpa using hfield hb)
  refine .inr (.object (.some ?_))
  simpa [prettyFields] using hlines

/-! ## Trees -/

theorem prettyPipe_spelled (depth : Nat) (p : Pipe) :
    Spelled .json 2 p.toValue (prettyPipe depth p) :=
  prettyFields_spelled (spelled_quoted 1 p.name)
    (prettyList_spelled (spelled_quoted 0) (depth + 1) p.parameters) depth

theorem prettyVariable_spelled (depth : Nat) (v : Variable) :
    Spelled .json 4 v.toValue (prettyVariable depth v) :=
  prettyFields_spelled (spelled_quoted 3 v.name)
    (prettyList_spelled (prettyPipe_spelled (depth + 2)) (depth + 1) v.pipes) depth

/-- **A tree that is written out is spelled**, six levels deep. -/
theorem prettyTemplate_spelled (t : Template) :
    Spelled .json 6 t.toValue (prettyTemplate t) :=
  prettyFields_spelled
    ((prettyList_spelled (spelled_quoted 0) 1 t.literals).mono .rfl (by omega))
    (prettyList_spelled (prettyVariable_spelled 2) 1 t.placeholders) 0

end Json
end TextTemplate
