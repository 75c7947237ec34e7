import TextTemplate.Proofs.Pattern.Marks

/-! # Repetitions that are never in two minds

A greedy repetition may have to try many ways.  Where each round has one outcome at
most, there is only one way on, and it is followed to its end (`Rounds`).  The end is
then the preferred outcome, and at every other outcome one more round was possible
(`tours_of_rounds`).

Two repetitions of this kind matter to templates: that of a set of characters, such as
blanks, and that of the units of quoted text. -/
namespace TextTemplate.Pattern

/-- Rounds that have one outcome each and take text, up to a place where a round has no
outcome. -/
inductive Rounds (round : List Cursor → List Cursor) : Cursor → Cursor → Prop where
  | last {k : Cursor} : round [k] = [] → Rounds round k k
  | more {k e l : Cursor} : round [k] = [e] → k.offset < e.offset →
      e.rest.length < k.rest.length → Rounds round e l → Rounds round k l

namespace Tour

/-- No round has started at an offset from `n` on. -/
def Fresh (t : Tour) (n : Nat) : Prop := ∀ o, n ≤ o → (t.started.headD 0).testBit o = false

theorem fresh_new (n : Nat) : new.Fresh n := fun _ _ => Nat.zero_testBit _

theorem Fresh.start {t : Tour} {k : Cursor} {n : Nat} (h : t.Fresh k.offset) (hn : k.offset < n) :
    (t.start k).Fresh n := by
  intro o ho
  have hne : k.offset ≠ o := by omega
  have hold := h o (by omega)
  simp only [Tour.start, List.headD_cons, Nat.testBit_or, hold, Bool.false_or]
  rw [Nat.one_shiftLeft, Nat.testBit_two_pow_of_ne hne]

end Tour

/-- A tour follows the rounds to their end and notes the places on the way, the end
last of all. -/
theorem tour_of_rounds {round : List Cursor → List Cursor} {k l : Cursor} (h : Rounds round k l)
    {fuel : Nat} (hfuel : k.rest.length < fuel) {t : Tour} (ht : t.Fresh k.offset) :
    ∃ front, (tour none round true fuel k t).found = front ++ l :: t.found ∧
      ∀ e ∈ front, round [e] ≠ [] := by
  induction h generalizing fuel t with
  | @last k hround =>
    obtain ⟨n, rfl⟩ : ∃ n, fuel = n + 1 := ⟨fuel - 1, by omega⟩
    have hnew : t.hasStarted k = false := ht k.offset (Nat.le_refl _)
    refine ⟨[], ?_, List.forall_mem_nil _⟩
    simp [tour, hnew, Cursor.pass, hround, Tour.add, Tour.start]
  | @more k e l hround hoffset hrest _ ih =>
    obtain ⟨n, rfl⟩ : ∃ n, fuel = n + 1 := ⟨fuel - 1, by omega⟩
    have hnew : t.hasStarted k = false := ht k.offset (Nat.le_refl _)
    have hn : e.rest.length < n := by omega
    obtain ⟨front, hfound, hfront⟩ := ih hn (ht.start hoffset)
    refine ⟨k :: front, ?_, List.forall_mem_cons.mpr ⟨by simp [hround], hfront⟩⟩
    simp only [tour, hnew, Cursor.pass, hround, Tour.add, List.foldl_cons, List.foldl_nil, if_true,
      Bool.false_eq_true, if_false, hfound]
    rfl

/-- **Where the rounds end is the preferred outcome of the repetition**, and from every
other one it could have gone on. -/
theorem tours_of_rounds {round : List Cursor → List Cursor} {k l : Cursor}
    (h : Rounds round k l) :
    ∃ others, tours none round true [k] = l :: others ∧ ∀ e ∈ others, round [e] ≠ [] := by
  obtain ⟨front, hfound, hfront⟩ := tour_of_rounds h (Nat.lt_succ_self _) (Tour.fresh_new _)
  have hout : tours none round true [k] = distinct 0 (l :: front.reverse) := by
    show distinct 0 (tour none round true (k.rest.length + 1) k .new).found.reverse = _
    rw [hfound]
    simp [Tour.new]
  rw [hout, distinct, if_neg (by simp)]
  exact ⟨_, rfl, fun e he => hfront e (List.mem_reverse.mp (mem_of_mem_distinct he))⟩

@[simp] theorem Cursor.advance_offset (k : Cursor) (c : Char) (rest : List Char) :
    (k.advance c rest).offset = k.offset + 1 := rfl

/-- Rounds that take one character each lead over a text. -/
theorem rounds_of_chars {round : List Cursor → List Cursor} {xs ys : List Char}
    (htake : ∀ k c cs, k.rest = c :: cs → c ∈ xs → round [k] = [k.advance c cs])
    (hstop : ∀ k : Cursor, k.rest = ys → round [k] = []) {k : Cursor} (hk : k.rest = xs ++ ys) :
    ∃ l, Rounds round k l ∧ l.rest = ys ∧ l.offset = k.offset + xs.length ∧
      l.groups = k.groups := by
  induction xs generalizing k with
  | nil => exact ⟨k, .last (hstop k hk), hk, rfl, rfl⟩
  | cons x xs ih =>
    obtain ⟨l, hl, hrest, hoffset, hgroups⟩ :=
      ih (fun k c cs h hc => htake k c cs h (List.mem_cons_of_mem x hc))
        (k := k.advance x (xs ++ ys)) rfl
    refine ⟨l, .more (htake k x _ hk List.mem_cons_self) (Nat.lt_succ_self _) ?_ hl, hrest, ?_,
      hgroups⟩
    · rw [hk]
      exact Nat.lt_succ_self _
    · rw [hoffset, Cursor.advance_offset, List.length_cons]
      omega

/-- A repetition of a pattern that takes text, outside any other repetition. -/
theorem outcomes_repeat {body : Node} (h : body.takesText = true) (k : Cursor) :
    outcomes (.repeat body 0 none true) none [k] =
      tours none (outcomes body none) true [k.enter none] := by
  simp [outcomes, h, Site.part]

theorem outcomes_set_cons {s : Unicode.CharSet} {c : Char} {cs : List Char} {k : Cursor}
    (hk : k.rest = c :: cs) :
    outcomes (.set s) none [k] = if s.contains c then [k.advance c cs] else [] := by
  by_cases hc : s.contains c = true <;> simp [outcomes, hk, hc]

theorem outcomes_set_nil {s : Unicode.CharSet} {k : Cursor} (hk : k.rest = []) :
    outcomes (.set s) none [k] = [] := by
  simp [outcomes, hk]

/-- A text does not start with a character of a set. -/
def Avoids (s : Unicode.CharSet) (text : List Char) : Prop := ∀ c ∈ text.head?, s.contains c = false

theorem outcomes_set_of_avoids {s : Unicode.CharSet} {k : Cursor} (h : Avoids s k.rest) :
    outcomes (.set s) none [k] = [] := by
  cases hr : k.rest with
  | nil => exact outcomes_set_nil hr
  | cons c cs =>
    have hc : s.contains c = false := h c (by rw [hr]; rfl)
    rw [outcomes_set_cons hr, hc]
    rfl

/-- **A repeated set takes characters of the set as long as there are any**, and every
other outcome stands in front of one. -/
theorem outcomes_repeat_set {s : Unicode.CharSet} (hs : s.isEmpty = false) {xs ys : List Char}
    (hxs : ∀ c ∈ xs, s.contains c = true) (hys : Avoids s ys) {k : Cursor}
    (hk : k.rest = xs ++ ys) :
    ∃ l others, outcomes (.repeat (.set s) 0 none true) none [k] = l :: others ∧ l.rest = ys ∧
      l.offset = k.offset + xs.length ∧ ∀ e ∈ others, ¬ Avoids s e.rest := by
  have htakes : (Node.set s).takesText = true := by simp [Node.takesText, Node.minLength, hs]
  have htake : ∀ (k : Cursor) c cs, k.rest = c :: cs → c ∈ xs →
      outcomes (.set s) none [k] = [k.advance c cs] := by
    intro k c cs h hc
    rw [outcomes_set_cons h, if_pos (hxs c hc)]
  have hstop : ∀ k : Cursor, k.rest = ys → outcomes (.set s) none [k] = [] := by
    intro k h
    exact outcomes_set_of_avoids (by rwa [h])
  obtain ⟨l, hl, hrest, hoffset, -⟩ := rounds_of_chars htake hstop (k := k.enter none) hk
  obtain ⟨others, hout, hothers⟩ := tours_of_rounds hl
  rw [outcomes_repeat htakes, hout]
  exact ⟨l, others, rfl, hrest, hoffset, fun e he h => hothers e he (outcomes_set_of_avoids h)⟩

end TextTemplate.Pattern
