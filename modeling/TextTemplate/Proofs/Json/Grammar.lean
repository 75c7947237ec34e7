import TextTemplate.Json.Reader

/-! # The grammar of JSON

`Spelled L depth v text` says that a text spells a value with at most `depth` lists and mappings
inside one another.  The grammar is over a `Lexis`, which says how characters, escapes and
numbers are spelled and what may stand between a key and its colon, so that one grammar serves
JSON itself (`Lexis.json`) and any part of it (`Spelled.mono`).  The reader reads what the
grammar spells, whatever comes behind it (`readValue_of_spelled`). -/
namespace TextTemplate.Json

/-! ## Words -/

/-- What an escape stands for, given as the text behind its backslash. -/
inductive Escaped : Char → List Char → Prop
  | letter {c letter : Char} (h : (letter, c) ∈ [('"', '"'), ('\\', '\\'), ('/', '/'),
      ('b', '\x08'), ('f', '\x0c'), ('n', '\n'), ('r', '\r'), ('t', '\t')]) : Escaped c [letter]
  | unit {n : Nat} {digits : List Char} (h : readHex4 digits = some (n, []))
      (hhigh : isHighSurrogate n = false) (hlow : isLowSurrogate n = false) :
      Escaped (Char.ofNat n) ('u' :: digits)
  | pair {high low : Nat} {first second : List Char} (hf : readHex4 first = some (high, []))
      (hhigh : isHighSurrogate high = true) (hs : readHex4 second = some (low, []))
      (hlow : isLowSurrogate low = true) :
      Escaped (pairChar high low) ('u' :: first ++ '\\' :: 'u' :: second)

/-- The characters of numbers. -/
def isNumberChar (c : Char) : Bool := c.isDigit || ['-', '+', '.', 'e', 'E'].contains c

/-- How the words of JSON are spelled. -/
structure Lexis where
  /-- The characters that stand for themselves in a string. -/
  plain : Char → Prop
  /-- The escapes, as texts behind a backslash. -/
  escape : Char → List Char → Prop
  number : Number → List Char → Prop
  /-- The keys, with their quotation marks, and the blanks behind them. -/
  key : List Char → List Char → Prop

/-- The words of JSON. -/
def Lexis.json : Lexis where
  plain c := c ≠ '"' ∧ c ≠ '\\' ∧ 0x20 ≤ c.toNat
  escape := Escaped
  number n text := (∀ c ∈ text, isNumberChar c = true) ∧ readNumber text = some (n, [])
  key _ _ := True

/-- Nothing but blanks. -/
def Blank (cs : List Char) : Prop := ∀ c ∈ cs, isBlank c = true

theorem Blank.append {a b : List Char} (ha : Blank a) (hb : Blank b) : Blank (a ++ b) :=
  List.forall_mem_append.mpr ⟨ha, hb⟩

/-- The content of a string and its text between the quotation marks. -/
inductive StringSpelled (L : Lexis) : List Char → List Char → Prop
  | nil : StringSpelled L [] []
  | plain {c : Char} {s t : List Char} (hc : L.plain c) (h : StringSpelled L s t) :
      StringSpelled L (c :: s) (c :: t)
  | escaped {c : Char} {e s t : List Char} (he : L.escape c e) (h : StringSpelled L s t) :
      StringSpelled L (c :: s) ('\\' :: (e ++ t))

/-- A text between quotation marks. -/
def inMarks (t : List Char) : List Char := '"' :: (t ++ ['"'])

/-! ## Values -/

variable {α : Type}

/-- Items with blanks around them and commas between them, up to a closing mark. -/
inductive Separated (item : α → List Char → Prop) (close : Char) : List α → List Char → Prop
  | last {x : α} {a t b : List Char} (ha : Blank a) (ht : item x t) (hb : Blank b) :
      Separated item close [x] (a ++ (t ++ (b ++ [close])))
  | cons {x : α} {a t b : List Char} {xs : List α} {u : List Char} (ha : Blank a) (ht : item x t)
      (hb : Blank b) (h : Separated item close xs u) :
      Separated item close (x :: xs) (a ++ (t ++ (b ++ ',' :: u)))

/-- Any number of items up to a closing mark. -/
inductive Listed (item : α → List Char → Prop) (close : Char) : List α → List Char → Prop
  | none {a : List Char} (ha : Blank a) : Listed item close [] (a ++ [close])
  | some {xs : List α} {u : List Char} (h : Separated item close xs u) : Listed item close xs u

/-- An entry of a mapping. -/
inductive EntrySpelled (L : Lexis) (item : Value → List Char → Prop) :
    String × Value → List Char → Prop
  | intro {k t a b u : List Char} {v : Value} (hk : StringSpelled L k t) (ha : Blank a)
      (hkey : L.key (inMarks t) a) (hb : Blank b) (hv : item v u) :
      EntrySpelled L item (String.ofList k, v) (inMarks t ++ (a ++ ':' :: (b ++ u)))

/-- A value without parts. -/
inductive ScalarSpelled (L : Lexis) : Value → List Char → Prop
  | null : ScalarSpelled L .null ['n', 'u', 'l', 'l']
  | yes : ScalarSpelled L (.bool true) ['t', 'r', 'u', 'e']
  | no : ScalarSpelled L (.bool false) ['f', 'a', 'l', 's', 'e']
  | number {n : Number} {t : List Char} (h : L.number n t) : ScalarSpelled L (.number n) t
  | string {s t : List Char} (h : StringSpelled L s t) :
      ScalarSpelled L (.string (String.ofList s)) (inMarks t)

/-- A list or a mapping. -/
inductive CollectionSpelled (L : Lexis) (item : Value → List Char → Prop) :
    Value → List Char → Prop
  | array {vs : List Value} {u : List Char} (h : Listed item ']' vs u) :
      CollectionSpelled L item (.array vs) ('[' :: u)
  | object {es : List (String × Value)} {u : List Char}
      (h : Listed (EntrySpelled L item) '}' es u) :
      CollectionSpelled L item (.object (Entries.ofList es)) ('{' :: u)

/-- A value with at most `depth` lists and mappings inside one another. -/
def Spelled (L : Lexis) : Nat → Value → List Char → Prop
  | 0, v, t => ScalarSpelled L v t
  | depth + 1, v, t => ScalarSpelled L v t ∨ CollectionSpelled L (Spelled L depth) v t

/-- A value with blanks around it. -/
inductive Document (L : Lexis) (depth : Nat) (v : Value) : List Char → Prop
  | intro {a t b : List Char} (ha : Blank a) (ht : Spelled L depth v t) (hb : Blank b) :
      Document L depth v (a ++ (t ++ b))

theorem Spelled.scalar {L : Lexis} {v : Value} {t : List Char} (h : ScalarSpelled L v t) :
    (depth : Nat) → Spelled L depth v t
  | 0 => h
  | _ + 1 => .inl h

/-- Words that may be used in one lexis may be used in another. -/
structure Lexis.Within (L M : Lexis) : Prop where
  plain : ∀ c, L.plain c → M.plain c
  escape : ∀ c e, L.escape c e → M.escape c e
  number : ∀ n t, L.number n t → M.number n t
  key : ∀ t a, L.key t a → M.key t a

theorem Lexis.Within.rfl {L : Lexis} : L.Within L :=
  ⟨fun _ h => h, fun _ _ h => h, fun _ _ h => h, fun _ _ h => h⟩

section

variable {L M : Lexis} {item item' : Value → List Char → Prop} {close : Char}

theorem StringSpelled.mono (h : L.Within M) {s t : List Char} (hs : StringSpelled L s t) :
    StringSpelled M s t := by
  induction hs with
  | nil => exact .nil
  | plain hc hs ih => exact .plain (h.plain _ hc) ih
  | escaped he hs ih => exact .escaped (h.escape _ _ he) ih

theorem Separated.mono {p q : α → List Char → Prop} (h : ∀ x t, p x t → q x t) {xs : List α}
    {u : List Char} (hs : Separated p close xs u) : Separated q close xs u := by
  induction hs with
  | last ha ht hb => exact .last ha (h _ _ ht) hb
  | cons ha ht hb hs ih => exact .cons ha (h _ _ ht) hb ih

theorem Listed.mono {p q : α → List Char → Prop} (h : ∀ x t, p x t → q x t) {xs : List α}
    {u : List Char} (hs : Listed p close xs u) : Listed q close xs u := by
  cases hs with
  | none ha => exact .none ha
  | some hs => exact .some (hs.mono h)

theorem EntrySpelled.mono (h : L.Within M) (hitem : ∀ v t, item v t → item' v t)
    {e : String × Value} {t : List Char} (he : EntrySpelled L item e t) :
    EntrySpelled M item' e t := by
  cases he with
  | intro hk ha hkey hb hv => exact .intro (hk.mono h) ha (h.key _ _ hkey) hb (hitem _ _ hv)

theorem ScalarSpelled.mono (h : L.Within M) {v : Value} {t : List Char}
    (hv : ScalarSpelled L v t) : ScalarSpelled M v t := by
  cases hv with
  | null => exact .null
  | yes => exact .yes
  | no => exact .no
  | number hn => exact .number (h.number _ _ hn)
  | string hs => exact .string (hs.mono h)

/-- **What is spelled in one lexis is spelled in any that has its words**, and in any greater
depth. -/
theorem Spelled.mono (h : L.Within M) {depth depth' : Nat} (hd : depth ≤ depth') {v : Value}
    {t : List Char} (hv : Spelled L depth v t) : Spelled M depth' v t := by
  induction depth generalizing depth' v t with
  | zero => exact .scalar (ScalarSpelled.mono h hv) depth'
  | succ depth ih =>
    cases depth' with
    | zero => omega
    | succ depth' =>
      have hitem : ∀ v t, Spelled L depth v t → Spelled M depth' v t :=
        fun v t hv => ih (by omega) hv
      rcases hv with hv | hv
      · exact .inl (hv.mono h)
      · cases hv with
        | array hl => exact .inr (.array (hl.mono hitem))
        | object hl => exact .inr (.object (hl.mono fun e t he => he.mono h hitem))

theorem Document.mono (h : L.Within M) {depth depth' : Nat} (hd : depth ≤ depth') {v : Value}
    {t : List Char} (hv : Document L depth v t) : Document M depth' v t := by
  obtain ⟨ha, ht, hb⟩ := hv
  exact .intro ha (ht.mono h hd) hb

end

/-! ## Characters -/

section

variable {P : Char → Prop} (hmark : ∀ c, isBlank c = true ∨ c ∈ ",:[]\x7b\x7d".toList → P c)

include hmark

theorem Separated.forall_mem {item : α → List Char → Prop} {close : Char} {xs : List α}
    {u : List Char} (hitem : ∀ x t, item x t → ∀ c ∈ t, P c) (hclose : P close)
    (h : Separated item close xs u) : ∀ c ∈ u, P c := by
  induction h with
  | last ha ht hb =>
    intro c hc
    simp only [List.mem_append, List.mem_singleton] at hc
    rcases hc with hc | hc | hc | rfl
    · exact hmark c (.inl (ha c hc))
    · exact hitem _ _ ht c hc
    · exact hmark c (.inl (hb c hc))
    · exact hclose
  | cons ha ht hb h ih =>
    intro c hc
    simp only [List.mem_append, List.mem_cons] at hc
    rcases hc with hc | hc | hc | rfl | hc
    · exact hmark c (.inl (ha c hc))
    · exact hitem _ _ ht c hc
    · exact hmark c (.inl (hb c hc))
    · exact hmark _ (.inr (by decide))
    · exact ih c hc

theorem Listed.forall_mem {item : α → List Char → Prop} {close : Char} {xs : List α}
    {u : List Char} (hitem : ∀ x t, item x t → ∀ c ∈ t, P c) (hclose : P close)
    (h : Listed item close xs u) : ∀ c ∈ u, P c := by
  cases h with
  | none ha =>
    intro c hc
    rcases List.mem_append.mp hc with hc | hc
    · exact hmark c (.inl (ha c hc))
    · rw [List.mem_singleton.mp hc]
      exact hclose
  | some h => exact h.forall_mem hmark hitem hclose

/-- What holds of blanks, marks and the characters of words holds of all characters. -/
theorem Spelled.forall_mem {L : Lexis} (hword : ∀ v t, ScalarSpelled L v t → ∀ c ∈ t, P c)
    {depth : Nat} {v : Value} {t : List Char} (h : Spelled L depth v t) : ∀ c ∈ t, P c := by
  induction depth generalizing v t with
  | zero => exact hword v t h
  | succ depth ih =>
    have hitem : ∀ v t, Spelled L depth v t → ∀ c ∈ t, P c := fun v t h => ih h
    have hentry : ∀ e t, EntrySpelled L (Spelled L depth) e t → ∀ c ∈ t, P c := by
      rintro e t ⟨hk, ha, -, hb, hv⟩ c hc
      simp only [List.mem_append, List.mem_cons] at hc
      rcases hc with hc | hc | rfl | hc | hc
      · exact hword _ _ (.string hk) c hc
      · exact hmark c (.inl (ha c hc))
      · exact hmark _ (.inr (by decide))
      · exact hmark c (.inl (hb c hc))
      · exact hitem _ _ hv c hc
    rcases h with h | h
    · exact hword v t h
    · cases h with
      | array h =>
        exact List.forall_mem_cons.mpr ⟨hmark _ (.inr (by decide)),
          h.forall_mem hmark hitem (hmark _ (.inr (by decide)))⟩
      | object h =>
        exact List.forall_mem_cons.mpr ⟨hmark _ (.inr (by decide)),
          h.forall_mem hmark hentry (hmark _ (.inr (by decide)))⟩

end

end TextTemplate.Json
