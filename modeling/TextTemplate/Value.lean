import TextTemplate.Number.Text

/-! # Values

The data that templates are filled with: null, booleans, numbers, strings, lists
and mappings.  The entries of a mapping stand in increasing order of their keys,
each key once; `Entries.insert` keeps that order and `Entries.ofList` lets the last
of several entries with one key win. -/
namespace TextTemplate

/-- A value. -/
inductive Value where
  | null
  | bool (b : Bool)
  | number (n : Number)
  | string (s : String)
  | array (items : List Value)
  | object (entries : List (String × Value))
deriving Repr, Inhabited

namespace Entries

variable {α : Type}

/-- The value under a key. -/
def get? (entries : List (String × α)) (key : String) : Option α :=
  (entries.find? (·.1 == key)).map (·.2)

/-- Puts a value under a key, in its place in the order of keys. -/
def insert (key : String) (value : α) : List (String × α) → List (String × α)
  | [] => [(key, value)]
  | (k, v) :: rest =>
    if key < k then (key, value) :: (k, v) :: rest
    else if key == k then (key, value) :: rest
    else (k, v) :: insert key value rest

/-- Takes a key out. -/
def erase (key : String) (entries : List (String × α)) : List (String × α) :=
  entries.filter (·.1 != key)

/-- The ordered entries of any list of entries; the last one of a key wins. -/
def ofList (entries : List (String × α)) : List (String × α) :=
  entries.foldl (fun acc entry => insert entry.1 entry.2 acc) []

/-- Keys in increasing order, each once. -/
def Ordered (entries : List (String × α)) : Prop :=
  entries.Pairwise fun a b => a.1 < b.1

@[simp] theorem get?_nil (key : String) : get? ([] : List (String × α)) key = none := rfl

theorem get?_cons (k : String) (v : α) (rest : List (String × α)) (key : String) :
    get? ((k, v) :: rest) key = if k == key then some v else get? rest key := by
  unfold get?
  rw [List.find?_cons]
  cases h : k == key <;> simp

/-- A key that was put in holds the value put in, and other keys are untouched. -/
theorem get?_insert (key : String) (value : α) (entries : List (String × α)) (other : String) :
    get? (insert key value entries) other =
      if key == other then some value else get? entries other := by
  induction entries with
  | nil => simp [insert, get?_cons]
  | cons entry rest ih =>
    obtain ⟨k, v⟩ := entry
    rw [insert]
    split
    · rw [get?_cons]
    · split
      · rename_i hk
        have hk : key = k := by simpa using hk
        subst hk
        rw [get?_cons, get?_cons]
        split <;> rfl
      · rename_i hk
        have hk : key ≠ k := by simpa using hk
        rw [get?_cons, get?_cons, ih]
        by_cases h1 : k = other
        · subst h1; simp [hk]
        · simp [h1]

/-- A key that was taken out is gone, and other keys are untouched. -/
theorem get?_erase (key : String) (entries : List (String × α)) (other : String) :
    get? (erase key entries) other = if key == other then none else get? entries other := by
  induction entries with
  | nil => simp [erase]
  | cons entry rest ih =>
    obtain ⟨k, v⟩ := entry
    rw [erase] at ih ⊢
    rw [List.filter_cons, get?_cons]
    by_cases h1 : k = key
    · subst h1
      simp only [bne_self_eq_false, Bool.false_eq_true, reduceIte, ih]
      split <;> rfl
    · simp only [bne_iff_ne, ne_eq, h1, not_false_eq_true, reduceIte, get?_cons, ih]
      by_cases h2 : k = other
      · subst h2; simp [Ne.symm h1]
      · simp [h2]

end Entries

/-- The values bound to variable names. -/
abbrev Variables := List (String × Value)

end TextTemplate
