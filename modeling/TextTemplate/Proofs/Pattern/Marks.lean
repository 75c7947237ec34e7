import TextTemplate.Pattern.Matching

/-! # Marks at the start of a pattern

`Node.startsWith` reads off a pattern that all its spans start where a mark holds.
Matching agrees (`outcomes_eq_nil_of_startsWith`): where the mark does not hold, the
pattern has no outcome.  The reason is that the parts of a pattern that take no text
end at the place where they started (`allAt_outcomes`), so a mark behind them is tried
where the pattern starts.

A pattern that is anchored throughout can therefore be tried at the start of a text
alone (`search_eq_matchHere`). -/
namespace TextTemplate.Pattern

/-- What lies on both sides of a cursor. -/
def Cursor.place (k : Cursor) : Option Char × List Char := (k.before, k.rest)

/-- All cursors stand at places with a property. -/
def AllAt (P : Option Char × List Char → Prop) (ks : List Cursor) : Prop := ∀ k ∈ ks, P k.place

section AllAt
variable {P : Option Char × List Char → Prop} {ks ls : List Cursor} {s : Site}

@[simp] theorem allAt_singleton {k : Cursor} : AllAt P [k] ↔ P k.place :=
  ⟨fun h => h k List.mem_cons_self, fun h e he => by rwa [List.mem_singleton.mp he]⟩

theorem AllAt.append (hk : AllAt P ks) (hl : AllAt P ls) : AllAt P (ks ++ ls) := by
  intro e he
  rcases List.mem_append.mp he with h | h
  · exact hk e h
  · exact hl e h

theorem AllAt.flatMap {go : Cursor → List Cursor} (h : ∀ k ∈ ks, AllAt P (go k)) :
    AllAt P (ks.flatMap go) := by
  intro e he
  obtain ⟨k, hk, he⟩ := List.mem_flatMap.mp he
  exact h k hk e he

theorem mem_of_mem_distinct {seen : Nat} {e : Cursor} (h : e ∈ distinct seen ks) : e ∈ ks := by
  induction ks generalizing seen with
  | nil => exact h
  | cons k ks ih =>
    rw [distinct] at h
    split at h
    · exact List.mem_cons_of_mem _ (ih h)
    · rcases List.mem_cons.mp h with rfl | h
      · exact List.mem_cons_self
      · exact List.mem_cons_of_mem _ (ih h)

theorem AllAt.distinct (h : AllAt P ks) (seen : Nat) : AllAt P (Pattern.distinct seen ks) :=
  fun e he => h e (mem_of_mem_distinct he)

/-- Passing a choice moves nowhere. -/
theorem Cursor.place_of_mem_pass {k e : Cursor} (h : e ∈ k.pass s) : e.place = k.place := by
  unfold pass at h
  split at h
  · obtain rfl := List.mem_singleton.mp h
    rfl
  · split at h
    · cases h
    · obtain rfl := List.mem_singleton.mp h
      rfl

theorem allAt_pass {k : Cursor} (h : P k.place) : AllAt P (k.pass s) :=
  fun e he => by rwa [Cursor.place_of_mem_pass he]

@[simp] theorem Cursor.place_enter (k : Cursor) : (k.enter s).place = k.place := by
  unfold enter
  split <;> rfl

/-! ## Repetitions -/

/-- A round keeps to places with a property if it starts from such places. -/
def Keeps (P : Option Char × List Char → Prop) (round : List Cursor → List Cursor) : Prop :=
  ∀ ks, AllAt P ks → AllAt P (round ks)

variable {round : Site → List Cursor → List Cursor} {greedy : Bool}

/-- A limited repetition finds places with the property only, if its rounds keep it. -/
theorem allAt_limitedTour (hround : ∀ site, Keeps P (round site)) (n first : Nat) (k : Cursor)
    (t : Tour) (hk : P k.place) (ht : AllAt P t.found) :
    AllAt P (limitedTour s round greedy n first k t).found := by
  induction n generalizing first k t with
  | zero => exact List.forall_mem_cons.mpr ⟨hk, ht⟩
  | succ n ih =>
    rw [limitedTour]
    split
    · exact ht
    · refine List.foldlRecOn (motive := fun t : Tour => AllAt P t.found) _ _ ht ?_
      intro t ht k' hk'
      have hplace : P k'.place := allAt_pass hk k' hk'
      -- from wherever the round can end the repetition goes on with one round less
      have hfurther : ∀ t : Tour, AllAt P t.found → AllAt P
          (t.behind fun t => (round ((s.part first).part 0) [k']).foldl
            (fun t e => limitedTour s round greedy n (first + 1) e t) t).found := by
        intro t ht
        refine List.foldlRecOn (motive := fun t : Tour => AllAt P t.found) _ _ ht ?_
        intro t ht e he
        refine ih (first + 1) e t ?_ ht
        exact hround _ [k'] (allAt_singleton.mpr hplace) e he
      split
      · exact List.forall_mem_cons.mpr ⟨hplace, hfurther t ht⟩
      · exact hfurther _ (List.forall_mem_cons.mpr ⟨hplace, ht⟩)

theorem allAt_limitedTours (hround : ∀ site, Keeps P (round site)) (n first : Nat)
    (hk : AllAt P ks) : AllAt P (limitedTours s round greedy n first ks) := by
  have hfound : AllAt P (ks.foldl (fun t k => limitedTour s round greedy n first k t) .new).found :=
    List.foldlRecOn (motive := fun t : Tour => AllAt P t.found) ks _ (by intro e he; cases he)
      fun t ht k hmem => allAt_limitedTour hround n first k t (hk k hmem) ht
  exact AllAt.distinct (fun e he => hfound e (List.mem_reverse.mp he)) 0

theorem allAt_exactly (hround : ∀ site, Keeps P (round site)) (n first : Nat) (hk : AllAt P ks) :
    AllAt P (exactly s round n first ks) := by
  induction n generalizing first ks with
  | zero => exact hk
  | succ n ih => exact ih (first + 1) (hround _ ks hk)

end AllAt

/-- **A pattern that takes no text ends where it starts.** -/
theorem allAt_outcomes {P : Option Char × List Char → Prop} {n : Node} (h : n.takesNoText = true)
    (s : Site) : Keeps P (outcomes n s) := by
  induction n generalizing s with
  | empty => exact fun ks hk => by simpa [outcomes] using hk
  | mark m =>
    intro ks hk e he
    rw [outcomes] at he
    exact hk e (List.mem_filter.mp he).1
  | literal text =>
    obtain rfl : text = [] := by simpa [Node.takesNoText] using h
    intro ks hk
    have hsame : outcomes (.literal []) s ks = ks := by
      rw [outcomes, show (fun k => Cursor.afterText [] k) = some from rfl, List.filterMap_some]
    rwa [hsame]
  | set => simp [Node.takesNoText] at h
  | group index body ih =>
    intro ks hk
    rw [outcomes]
    refine AllAt.distinct (AllAt.flatMap fun k hmem => ?_) 0
    intro e he
    obtain ⟨e', he', rfl⟩ := List.mem_map.mp he
    exact ih h s [k] (allAt_singleton.mpr (hk k hmem)) e' he'
  | seq first second ih₁ ih₂ =>
    simp only [Node.takesNoText, Bool.and_eq_true] at h
    intro ks hk
    rw [outcomes]
    exact ih₂ h.2 _ _ (ih₁ h.1 _ ks hk)
  | alt first second ih₁ ih₂ =>
    simp only [Node.takesNoText, Bool.and_eq_true] at h
    intro ks hk
    rw [outcomes]
    refine AllAt.distinct (AllAt.flatMap fun k hmem => AllAt.flatMap fun k' hk' => ?_) 0
    have hone : AllAt P [k'] := allAt_singleton.mpr (allAt_pass (hk k hmem) k' hk')
    exact (ih₁ h.1 _ _ hone).append (ih₂ h.2 _ _ hone)
  | «repeat» body least most greedy ih =>
    simp only [Node.takesNoText, Bool.and_eq_true, Option.isSome_iff_exists] at h
    obtain ⟨⟨most, rfl⟩, hbody⟩ := h
    intro ks hk
    rw [outcomes]
    exact allAt_limitedTours (ih hbody) _ _ (allAt_exactly (ih hbody) _ _ hk)

/-! ## No outcome -/

theorem tours_nil (s : Site) (round : List Cursor → List Cursor) (greedy : Bool) :
    tours s round greedy [] = [] := rfl

theorem limitedTours_nil (s : Site) (round : Site → List Cursor → List Cursor) (greedy : Bool)
    (n first : Nat) : limitedTours s round greedy n first [] = [] := rfl

theorem exactly_nil {round : Site → List Cursor → List Cursor} (h : ∀ s, round s [] = []) (s : Site)
    (n first : Nat) : exactly s round n first [] = [] := by
  induction n generalizing first with
  | zero => rfl
  | succ n ih => rw [exactly, h, ih]

/-- A pattern that starts nowhere ends nowhere. -/
@[simp] theorem outcomes_nil (n : Node) (s : Site) : outcomes n s [] = [] := by
  induction n generalizing s with
  | empty | literal | set | mark | group | alt => rfl
  | seq first second ih₁ ih₂ => rw [outcomes, ih₁, ih₂]
  | «repeat» body least most greedy ih =>
    cases most with
    | some most => rw [outcomes, exactly_nil ih, limitedTours_nil]
    | none =>
      cases least with
      | zero => simp only [outcomes]; split <;> rfl
      | succ n => simp only [outcomes, exactly_nil ih, List.map_nil, ih, tours_nil]

/-- The mark does not hold at a place. -/
def FailsAt (m : Mark) (p : Option Char × List Char) : Prop := m.holds p.1 p.2.head? = false

/-- **Where its first mark does not hold, a pattern has no outcome.** -/
theorem outcomes_eq_nil_of_startsWith {m : Mark} {n : Node} (h : n.startsWith m = true) (s : Site)
    {ks : List Cursor} (hk : AllAt (FailsAt m) ks) :
    outcomes n s ks = [] := by
  induction n generalizing s ks with
  | empty | literal | set => simp [Node.startsWith] at h
  | mark m' =>
    obtain rfl : m' = m := by simpa [Node.startsWith] using h
    rw [outcomes, List.filter_eq_nil_iff]
    intro k hmem
    have hfail : m'.holds k.before k.rest.head? = false := hk k hmem
    simp [hfail]
  | group index body ih =>
    rw [outcomes, List.flatMap_eq_nil_iff.mpr]
    · rfl
    · intro k hmem
      rw [ih h s (allAt_singleton.mpr (hk k hmem)), List.map_nil]
  | seq first second ih₁ ih₂ =>
    simp only [Node.startsWith, Bool.or_eq_true, Bool.and_eq_true] at h
    rw [outcomes]
    rcases h with h | ⟨hfirst, hsecond⟩
    · rw [ih₁ h _ hk, outcomes_nil]
    · exact ih₂ hsecond _ (allAt_outcomes hfirst _ ks hk)
  | alt first second ih₁ ih₂ =>
    simp only [Node.startsWith, Bool.and_eq_true] at h
    rw [outcomes, List.flatMap_eq_nil_iff.mpr]
    · rfl
    · intro k hmem
      refine List.flatMap_eq_nil_iff.mpr fun k' hk' => ?_
      have hone : AllAt (FailsAt m) [k'] := allAt_singleton.mpr (allAt_pass (hk k hmem) k' hk')
      rw [ih₁ h.1 _ hone, ih₂ h.2 _ hone, List.append_nil]
  | «repeat» body least most greedy ih =>
    simp only [Node.startsWith, Bool.and_eq_true, decide_eq_true_eq] at h
    obtain ⟨hleast, hbody⟩ := h
    -- the first round that must be there has no outcome
    have hround : ∀ (s : Site) (n first : Nat),
        exactly s (outcomes body) (n + 1) first ks = [] := by
      intro s n first
      rw [exactly, ih hbody _ hk, exactly_nil (outcomes_nil body)]
    cases least with
    | zero => cases hleast
    | succ n =>
      cases most with
      | some most => rw [outcomes, hround, limitedTours_nil]
      | none =>
        simp only [outcomes]
        cases n with
        | zero =>
          rw [exactly, ih hbody, tours_nil]
          intro e he
          obtain ⟨k, hmem, rfl⟩ := List.mem_map.mp he
          rw [Cursor.place_enter]
          exact hk k hmem
        | succ n => rw [hround, List.map_nil, outcomes_nil, tours_nil]

/-! ## Searching -/

/-- A pattern that is anchored throughout does not match behind a character. -/
theorem matchHere_eq_none {n : Node} (h : n.anchored = true) (c : Char) (skipped : Nat)
    (rest : List Char) : matchHere n (some c) skipped rest = none := by
  have hnil : outcomes n none [⟨some c, 0, rest, [], []⟩] = [] :=
    outcomes_eq_nil_of_startsWith h none (allAt_singleton.mpr rfl)
  simp only [matchHere, hnil, List.head?_nil, Option.map_none]

theorem search_cons (n : Node) (before : Option Char) (skipped : Nat) (c : Char) (cs : List Char) :
    search n before skipped (c :: cs) =
      (matchHere n before skipped (c :: cs)).or (search n (some c) (skipped + c.utf8Size) cs) := by
  rw [search]
  cases matchHere n before skipped (c :: cs) <;> rfl

@[simp] theorem search_nil (n : Node) (before : Option Char) (skipped : Nat) :
    search n before skipped [] = matchHere n before skipped [] := rfl

/-- A pattern that is anchored throughout is not found behind a character. -/
theorem search_eq_none {n : Node} (h : n.anchored = true) (c : Char) (skipped : Nat)
    (rest : List Char) : search n (some c) skipped rest = none := by
  induction rest generalizing c skipped with
  | nil => rw [search_nil, matchHere_eq_none h]
  | cons d rest ih => rw [search_cons, matchHere_eq_none h, ih, Option.or_none]

/-- **A pattern that is anchored throughout is found at the start of a text or not at
all.** -/
theorem search_eq_matchHere {n : Node} (h : n.anchored = true) (text : List Char) :
    search n none 0 text = matchHere n none 0 text := by
  cases text with
  | nil => exact search_nil n none 0
  | cons c cs => rw [search_cons, search_eq_none h, Option.or_none]

end TextTemplate.Pattern
