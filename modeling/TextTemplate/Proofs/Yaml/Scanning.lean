import TextTemplate.Proofs.Yaml.Scalars

/-! # Scanning inside flow collections

Inside flow collections no indentation counts and no key is ever required, so that nothing but
the mark at the cursor decides what comes next (`Layout.Flow`).  One step passes over blanks and
reads a token; `Reaches` says that scanning goes from one state to another, whatever follows. -/
namespace TextTemplate.Yaml.Layout

/-! ## Blanks -/

/-- Whether blanks are passed over.  A tab is only where `tabs` says so; behind a line break that
is inside a flow collection. -/
def passes (flow : Bool) : Bool → List Char → Bool
  | _, [] => true
  | tabs, c :: cs =>
    (c == ' ' || (tabs && c == '\t')) && passes flow tabs cs || c == '\n' && passes flow flow cs

/-- Nothing is passed over here. -/
def Stops (rest : List Char) : Prop := ∀ x ∈ rest.head?, IsGraphic x ∧ x ≠ '#'

theorem skipByteOrderMark_eq {c : Cursor} (h : c.rest.head? ≠ some '\ufeff') :
    c.skipByteOrderMark = c := by
  rw [Cursor.skipByteOrderMark, if_neg]
  simp [h]

theorem skipComment_eq {c : Cursor} (h : c.rest.head? ≠ some '#') : c.skipComment = c := by
  unfold Cursor.skipComment
  split
  · rename_i rest heq
    simp [heq] at h
  · rfl

theorem skipWhile_eq {test : Char → Bool} {c : Cursor}
    (h : ∀ x ∈ c.rest.head?, test x = false) : c.skipWhile test = c := by
  rw [Cursor.skipWhile, @Cursor.span_eq test [] c.rest c rfl nofun h]
  rfl

theorem skipWhite_stops {fuel : Nat} {s : Layout} (h : Stops s.cursor.rest) :
    skipWhite (fuel + 1) s = s := by
  have hmark : s.cursor.rest.head? ≠ some '\ufeff' := by
    intro hx
    exact absurd (h _ hx).1 (by decide)
  have hcomment : s.cursor.rest.head? ≠ some '#' := fun hx => (h _ hx).2 rfl
  have hwhite : ∀ x ∈ s.cursor.rest.head?, isWhite x = false := fun x hx => (h x hx).1.isWhite_eq
  have hskip : ∀ tabs : Bool,
      s.cursor.skipWhile (fun c => c == ' ' || (tabs && c == '\t')) = s.cursor := by
    intro tabs
    refine skipWhile_eq fun x hx => ?_
    have hx := hwhite x hx
    simp only [isWhite, isBlank, Bool.or_eq_false_iff] at hx
    simp [hx.1]
  have hbreak : s.cursor.rest.head?.any isBreak = false := by
    cases hhead : s.cursor.rest.head? with
    | none => rfl
    | some x => exact (h x hhead).1.isBreak_eq
  rw [skipWhite]
  simp only [skipByteOrderMark_eq hmark, hskip, skipComment_eq hcomment, hbreak]
  rfl

theorem skipWhite_blank {fuel : Nat} {s : Layout} {c : Char} {rest : List Char}
    (h : s.cursor.rest = c :: rest)
    (hc : (c == ' ' || (s.inFlow || !s.keyAllowed) && c == '\t') = true) :
    skipWhite (fuel + 1) s = skipWhite (fuel + 1) { s with cursor := s.cursor.next } := by
  have hblank : c = ' ' ∨ c = '\t' := by
    simp only [Bool.or_eq_true, Bool.and_eq_true, beq_iff_eq] at hc
    exact hc.imp_right And.right
  have hmark : s.cursor.rest.head? ≠ some '\ufeff' := by
    rw [h, List.head?_cons]
    rintro ⟨⟩
    simp at hblank
  have hnext : s.cursor.next.skipByteOrderMark = s.cursor.next := by
    have hbreak : ∀ x ∈ [c], isBreak x = false := by
      rcases hblank with rfl | rfl <;> simp [isBreak]
    have hinside := @Cursor.skip_inside [c] rest s.cursor h hbreak
    have hcolumn : s.cursor.next.column = s.cursor.column + 1 := hinside.2.1
    simp [Cursor.skipByteOrderMark, hcolumn]
  have hskip : s.cursor.skipWhile (fun c => c == ' ' || (s.inFlow || !s.keyAllowed) && c == '\t') =
      s.cursor.next.skipWhile
        (fun c => c == ' ' || (s.inFlow || !s.keyAllowed) && c == '\t') := by
    simp [Cursor.skipWhile, Cursor.span, h, hc, Cursor.skip]
  rw [skipWhite, skipWhite, skipByteOrderMark_eq hmark, hskip]
  show _ = _
  rw [hnext]
  rfl

theorem skipWhite_break {fuel : Nat} {s : Layout} {rest : List Char}
    (h : s.cursor.rest = '\n' :: rest) :
    skipWhite (fuel + 1) s =
      skipWhite fuel { s with
        cursor := s.cursor.next
        keyAllowed := s.keyAllowed || !s.inFlow } := by
  have hskip : ∀ tabs : Bool,
      s.cursor.skipWhile (fun c => c == ' ' || (tabs && c == '\t')) = s.cursor := by
    intro tabs
    refine skipWhile_eq fun x hx => ?_
    rw [h] at hx
    cases hx
    simp
  have hbreak : s.cursor.rest.head?.any isBreak = true := by
    rw [h]
    rfl
  rw [skipWhite]
  simp only [skipByteOrderMark_eq (c := s.cursor) (by simp [h]), hskip,
    skipComment_eq (c := s.cursor) (by simp [h]), hbreak, if_true]

/-- **Blanks are passed over up to the next mark.** -/
theorem skipWhite_of_passes {b rest : List Char} (hrest : Stops rest) {fuel : Nat} {s : Layout}
    (hcursor : s.cursor.rest = b ++ rest)
    (hb : passes s.inFlow (s.inFlow || !s.keyAllowed) b = true) (hfuel : b.length < fuel) :
    skipWhite fuel s = { s with
      cursor := s.cursor.skip b.length
      keyAllowed := s.keyAllowed || (!s.inFlow && b.any isBreak) } := by
  induction b generalizing fuel s with
  | nil =>
    obtain ⟨fuel, rfl⟩ : ∃ k, fuel = k + 1 := ⟨fuel - 1, by omega⟩
    rw [skipWhite_stops (by rwa [hcursor])]
    simp [Cursor.skip]
  | cons c b ih =>
    obtain ⟨fuel, rfl⟩ : ∃ k, fuel = k + 1 := ⟨fuel - 1, by omega⟩
    rw [List.length_cons, Nat.add_lt_add_iff_right] at hfuel
    have hnext : s.cursor.next.rest = b ++ rest := by
      rw [Cursor.next_rest, hcursor]
      rfl
    rw [passes, Bool.or_eq_true, Bool.and_eq_true, Bool.and_eq_true] at hb
    rcases hb with ⟨hc, hb⟩ | ⟨hc, hb⟩
    · have hbreak : isBreak c = false := by
        simp only [Bool.or_eq_true, Bool.and_eq_true, beq_iff_eq] at hc
        rcases hc with rfl | ⟨-, rfl⟩ <;> decide
      have hmore := @ih (fuel + 1) { s with cursor := s.cursor.next } hnext hb (by omega)
      rw [skipWhite_blank hcursor hc, hmore, List.any_cons, hbreak]
      rfl
    · have hc : c = '\n' := by simpa using hc
      subst hc
      -- behind the break tabs count inside a flow collection only
      have htabs : (s.inFlow || !(s.keyAllowed || !s.inFlow)) = s.inFlow := by
        cases s.inFlow <;> simp
      have hmore := @ih fuel
        { s with cursor := s.cursor.next, keyAllowed := s.keyAllowed || !s.inFlow } hnext
        ((congrArg (passes s.inFlow · b) htabs).trans hb) hfuel
      have hallowed : (s.keyAllowed || !s.inFlow || (!s.inFlow && b.any isBreak)) =
          (s.keyAllowed || (!s.inFlow && (List.cons '\n' b).any isBreak)) := by
        cases s.inFlow <;> simp [isBreak]
      rw [skipWhite_break hcursor, hmore, ← hallowed]
      rfl

/-! ## States -/

/-- The state is inside `depth` flow collections and in no block collection, and no key is
required. -/
structure Flow (depth : Nat) (s : Layout) : Prop where
  columns : s.columns = []
  depth : s.enclosing.length = depth
  free : ∀ k ∈ s.candidate, k.required = false
  around : ∀ o ∈ s.enclosing, ∀ k ∈ o, k.required = false

theorem Flow.inFlow_eq {depth : Nat} {s : Layout} (h : Flow depth s) :
    s.inFlow = decide (0 < depth) := by
  rw [inFlow, ← h.depth]
  cases s.enclosing <;> simp

/-- A candidate that is not required is kept or given up. -/
theorem exists_current (c : Cursor) {o : Option Candidate} (h : ∀ k ∈ o, k.required = false) :
    ∃ o', current c o = some o' ∧ (∀ k ∈ o', k.required = false) ∧
      ∀ k, o = some k → k.line = c.line → c.offset ≤ k.offset + keyLimit → o' = some k := by
  cases o with
  | none => exact ⟨none, rfl, nofun, nofun⟩
  | some k =>
    have hk : k.required = false := h k rfl
    by_cases hkept : k.line = c.line ∧ c.offset ≤ k.offset + keyLimit
    · refine ⟨some k, by simp [current, hkept], h, ?_⟩
      rintro j ⟨⟩ - -
      rfl
    · refine ⟨none, by simp [current, hkept, hk], nofun, ?_⟩
      rintro j ⟨⟩ hline hoffset
      exact absurd ⟨hline, hoffset⟩ hkept

/-- Giving up candidates leaves the state as it is otherwise, and a candidate that is near
enough stays. -/
theorem exists_expire {depth : Nat} {s : Layout} (h : Flow depth s) :
    ∃ candidate enclosing,
      s.expire = some { s with candidate := candidate, enclosing := enclosing } ∧
        Flow depth { s with candidate := candidate, enclosing := enclosing } ∧
          ∀ k, s.candidate = some k → k.line = s.cursor.line →
            s.cursor.offset ≤ k.offset + keyLimit → candidate = some k := by
  obtain ⟨candidate, hcandidate, hfree, hkept⟩ := exists_current s.cursor h.free
  have haround : ∀ os : List (Option Candidate), (∀ o ∈ os, ∀ k ∈ o, k.required = false) →
      ∃ os', os.mapM (current s.cursor) = some os' ∧ os'.length = os.length ∧
        ∀ o ∈ os', ∀ k ∈ o, k.required = false := by
    intro os
    induction os with
    | nil => exact fun _ => ⟨[], rfl, rfl, nofun⟩
    | cons o os ih =>
      intro hos
      obtain ⟨o', ho', hfree', -⟩ := exists_current s.cursor (hos o List.mem_cons_self)
      obtain ⟨os', hos', hlength, haround⟩ := ih fun p hp => hos p (List.mem_cons_of_mem o hp)
      refine ⟨o' :: os', by simp [ho', hos'], by simp [hlength], ?_⟩
      exact List.forall_mem_cons.mpr ⟨hfree', haround⟩
  obtain ⟨enclosing, henclosing, hlength, haround⟩ := haround s.enclosing h.around
  refine ⟨candidate, enclosing, ?_, ⟨h.columns, hlength.trans h.depth, hfree, haround⟩, hkept⟩
  simp [expire, hcandidate, henclosing]

/-- Scanning goes from one state to another, taking no more steps than characters. -/
def Reaches (s s' : Layout) : Prop :=
  ∃ n, n + s'.cursor.rest.length ≤ s.cursor.rest.length ∧
    ∀ fuel, readAll (fuel + n) s = readAll fuel s'

theorem Reaches.trans {r s t : Layout} (h : Reaches r s) (h' : Reaches s t) : Reaches r t := by
  obtain ⟨m, hm, hrs⟩ := h
  obtain ⟨n, hn, hst⟩ := h'
  refine ⟨n + m, by omega, fun fuel => ?_⟩
  rw [← Nat.add_assoc, hrs, hst]

/-- No block collection is there to end. -/
theorem endBlocks_eq {s : Layout} (h : s.columns = []) (test : Nat → Bool) :
    s.endBlocks test = s := by
  obtain ⟨cursor, tokens, columns, candidate, enclosing, keyAllowed⟩ := s
  subst h
  simp [endBlocks]

/-- **One step passes over blanks and reads a token.** -/
theorem exists_token {depth : Nat} {s : Layout} (h : Flow depth s) {b more : List Char} {x : Char}
    (hrest : s.cursor.rest = b ++ x :: more)
    (hb : passes s.inFlow (s.inFlow || !s.keyAllowed) b = true) (hx : IsGraphic x ∧ x ≠ '#') :
    ∃ r : Layout, Flow depth r ∧ r.cursor = s.cursor.skip b.length ∧ r.cursor.rest = x :: more ∧
      r.tokens = s.tokens ∧ r.keyAllowed = (s.keyAllowed || (!s.inFlow && b.any isBreak)) ∧
      (∀ k, s.candidate = some k → k.line = r.cursor.line →
        r.cursor.offset ≤ k.offset + keyLimit → r.candidate = some k) ∧
      ∀ s', r.readToken x more = some s' → s'.cursor.rest.length ≤ more.length → Reaches s s' := by
  have hstops : Stops (x :: more) := by
    rintro y ⟨⟩
    exact hx
  have hlength : s.cursor.rest.length = b.length + (more.length + 1) := by
    rw [hrest, List.length_append, List.length_cons]
  have hskip : skipWhite (s.cursor.rest.length + 1) s = { s with
      cursor := s.cursor.skip b.length
      keyAllowed := s.keyAllowed || (!s.inFlow && b.any isBreak) } :=
    skipWhite_of_passes hstops hrest hb (by omega)
  have hflow : Flow depth { s with
      cursor := s.cursor.skip b.length
      keyAllowed := s.keyAllowed || (!s.inFlow && b.any isBreak) } :=
    ⟨h.columns, h.depth, h.free, h.around⟩
  obtain ⟨candidate, enclosing, hexpire, hflow', hkept⟩ := exists_expire hflow
  have hcursor : (s.cursor.skip b.length).rest = x :: more := by
    rw [Cursor.skip_rest, hrest, List.drop_left]
  refine ⟨_, hflow', rfl, hcursor, rfl, rfl, hkept,
    fun s' hread hs' => ⟨1, by omega, fun fuel => ?_⟩⟩
  rw [readAll, hskip, hexpire, Option.bind_eq_bind, Option.bind_some]
  simp only [endBlocks_eq hflow'.columns, hcursor, hread, Option.bind_some]

theorem dropCandidate_eq {depth : Nat} {s : Layout} (h : Flow depth s) :
    s.dropCandidate = some { s with candidate := none } := by
  have hfree : s.candidate.any (·.required) = false := by
    cases hk : s.candidate with
    | none => rfl
    | some k => exact h.free k hk
  simp [dropCandidate, hfree]

/-- The candidate that the next token is. -/
def here (s : Layout) : Candidate :=
  ⟨false, s.tokens.length, s.cursor.offset, s.cursor.line, s.cursor.column⟩

theorem markCandidate_eq {depth : Nat} {s : Layout} (h : Flow depth s) :
    s.markCandidate =
      some { s with candidate := if s.keyAllowed then some s.here else s.candidate } := by
  unfold markCandidate
  split
  · simp [dropCandidate_eq h, h.columns, here]
  · rfl

theorem Flow.marked {depth : Nat} {s : Layout} (h : Flow depth s) :
    ∀ k ∈ (if s.keyAllowed then some s.here else s.candidate), k.required = false := by
  intro k hk
  split at hk
  · cases hk
    rfl
  · exact h.free k hk

/-- Scanning goes from `s` to `s'`, which is `depth` flow collections deep, over a text that
stands for some tokens. -/
structure Scans (depth : Nat) (s s' : Layout) (added : List Token) (rest : List Char) : Prop where
  reaches : Reaches s s'
  flow : Flow depth s'
  tokens : s'.tokens = added.reverse ++ s.tokens
  rest : s'.cursor.rest = rest

theorem Scans.trans {d d' : Nat} {r s t : Layout} {a a' : List Token} {rest rest' : List Char}
    (h : Scans d r s a rest) (h' : Scans d' s t a' rest') : Scans d' r t (a ++ a') rest' := by
  refine ⟨h.reaches.trans h'.reaches, h'.flow, ?_, h'.rest⟩
  rw [h'.tokens, h.tokens, List.reverse_append, List.append_assoc]

/-- A mark, which is read in the same way wherever it stands in its line. -/
def IsMark (x : Char) : Prop := IsGraphic x ∧ x ≠ '#' ∧ x ≠ '-' ∧ x ≠ '.'

instance (x : Char) : Decidable (IsMark x) := inferInstanceAs (Decidable (_ ∧ _))

theorem IsMark.atMarker_eq {c : Cursor} {x : Char} {rest : List Char} (hx : IsMark x)
    (hrest : c.rest = x :: rest) : c.atMarker '-' = false ∧ c.atMarker '.' = false :=
  ⟨Cursor.atMarker_of_ne hrest (.inl hx.2.2.1), Cursor.atMarker_of_ne hrest (.inl hx.2.2.2)⟩

/-- The opening mark of a flow collection. -/
theorem exists_open {depth : Nat} {s : Layout} (h : Flow depth s) {b more : List Char} {x : Char}
    (hb : passes s.inFlow (s.inFlow || !s.keyAllowed) b = true)
    (hrest : s.cursor.rest = b ++ x :: more) {token : Token}
    (hx : x = '[' ∧ token = .flowSequenceStart ∨ x = '\x7b' ∧ token = .flowMappingStart) :
    ∃ s', Scans (depth + 1) s s' [token] more ∧ s'.keyAllowed = true := by
  have hmark : IsMark x := by
    rcases hx with ⟨rfl, -⟩ | ⟨rfl, -⟩ <;> decide
  obtain ⟨r, hr, -, hfront, htokens, -, -, hreaches⟩ :=
    exists_token h hrest hb ⟨hmark.1, hmark.2.1⟩
  have hread : r.readToken x more = r.openFlow token := by
    obtain ⟨hhyphen, hpoint⟩ := hmark.atMarker_eq hfront
    rcases hx with ⟨rfl, rfl⟩ | ⟨rfl, rfl⟩ <;> simp [readToken, hhyphen, hpoint]
  have hnext : r.cursor.next.rest = more := by
    rw [Cursor.next_rest, hfront]
    rfl
  rw [openFlow, markCandidate_eq hr, Option.bind_eq_bind, Option.bind_some] at hread
  refine ⟨_, ⟨hreaches _ hread (Nat.le_of_eq (congrArg _ hnext)), ⟨hr.columns, ?_, nofun, ?_⟩, ?_,
    hnext⟩, rfl⟩
  · exact congrArg (· + 1) hr.depth
  · exact List.forall_mem_cons.mpr ⟨hr.marked, hr.around⟩
  · exact congrArg (token :: ·) htokens

/-- The closing mark of a flow collection. -/
theorem exists_close {depth : Nat} {s : Layout} (h : Flow (depth + 1) s) {b more : List Char}
    {x : Char} (hb : passes s.inFlow (s.inFlow || !s.keyAllowed) b = true)
    (hrest : s.cursor.rest = b ++ x :: more) {token : Token}
    (hx : x = ']' ∧ token = .flowSequenceEnd ∨ x = '\x7d' ∧ token = .flowMappingEnd) :
    ∃ s', Scans depth s s' [token] more ∧ s'.keyAllowed = false := by
  have hmark : IsMark x := by
    rcases hx with ⟨rfl, -⟩ | ⟨rfl, -⟩ <;> decide
  obtain ⟨r, hr, -, hfront, htokens, -, -, hreaches⟩ :=
    exists_token h hrest hb ⟨hmark.1, hmark.2.1⟩
  have hread : r.readToken x more = r.closeFlow token := by
    obtain ⟨hhyphen, hpoint⟩ := hmark.atMarker_eq hfront
    rcases hx with ⟨rfl, rfl⟩ | ⟨rfl, rfl⟩ <;> simp [readToken, hhyphen, hpoint]
  have hnext : r.cursor.next.rest = more := by
    rw [Cursor.next_rest, hfront]
    rfl
  rw [closeFlow, dropCandidate_eq hr, Option.bind_eq_bind, Option.bind_some] at hread
  obtain ⟨o, os, hos⟩ : ∃ o os, r.enclosing = o :: os :=
    List.exists_cons_of_length_eq_add_one hr.depth
  have haround := hr.around
  rw [hos] at haround
  refine ⟨_, ⟨hreaches _ hread (Nat.le_of_eq (congrArg _ hnext)), ⟨hr.columns, ?_, ?_, ?_⟩,
    congrArg (token :: ·) htokens, hnext⟩, rfl⟩
  · have hdepth := hr.depth
    rw [hos, List.length_cons, Nat.add_right_cancel_iff] at hdepth
    simpa [hos] using hdepth
  · simpa [hos] using haround o List.mem_cons_self
  · simpa [hos] using fun p hp => haround p (List.mem_cons_of_mem o hp)

/-! ## Inside flow collections -/

section

variable {depth : Nat} {s : Layout} (h : Flow (depth + 1) s) {b more : List Char}
  (hb : ∀ y ∈ b, y = ' ' ∨ y = '\t' ∨ y = '\n')

theorem passes_of_flow {tabs : Bool} (htabs : tabs = true)
    (hb : ∀ y ∈ b, y = ' ' ∨ y = '\t' ∨ y = '\n') :
    passes true tabs b = true := by
  subst htabs
  induction b with
  | nil => rfl
  | cons y b ih =>
    have hrest := ih fun z hz => hb z (List.mem_cons_of_mem y hz)
    rcases hb y List.mem_cons_self with rfl | rfl | rfl <;> simp [passes, hrest]

include h hb

theorem passes_of_blank : passes s.inFlow (s.inFlow || !s.keyAllowed) b = true := by
  have hflow : s.inFlow = true := by
    rw [h.inFlow_eq]
    simp
  rw [hflow]
  exact passes_of_flow rfl hb

/-- The comma between items. -/
theorem exists_comma (hrest : s.cursor.rest = b ++ ',' :: more) :
    ∃ s', Scans (depth + 1) s s' [.comma] more ∧ s'.keyAllowed = true := by
  obtain ⟨r, hr, -, hfront, htokens, -, -, hreaches⟩ :=
    exists_token h hrest (passes_of_blank h hb) (by decide)
  have hread : r.readToken ',' more = r.readComma := by
    obtain ⟨hhyphen, hpoint⟩ := IsMark.atMarker_eq (by decide) hfront
    simp [readToken, hhyphen, hpoint]
  have hnext : r.cursor.next.rest = more := by
    rw [Cursor.next_rest, hfront]
    rfl
  rw [readComma, dropCandidate_eq hr, Option.bind_eq_bind, Option.bind_some] at hread
  exact ⟨_, ⟨hreaches _ hread (Nat.le_of_eq (congrArg _ hnext)),
    ⟨hr.columns, hr.depth, nofun, hr.around⟩, congrArg (_ :: ·) htokens, hnext⟩, rfl⟩

/-- A string, which is a candidate for a key if one may stand here. -/
theorem exists_quoted {k t : List Char} (ht : Json.StringSpelled portable k t)
    (hrest : s.cursor.rest = b ++ (Json.inMarks t ++ more)) :
    ∃ s', Scans (depth + 1) s s' [.scalar false k] more ∧
      (s.keyAllowed = true → ∃ o : Candidate, s'.candidate = some o ∧
        o.position = s.tokens.length ∧ o.line = s'.cursor.line ∧
        s'.cursor.offset = o.offset + Text.width (Json.inMarks t)) := by
  obtain ⟨r, hr, -, hfront, htokens, hkey, -, hreaches⟩ :=
    exists_token h hrest (passes_of_blank h hb) (by decide)
  have hmarks : r.cursor.rest = Json.inMarks t ++ more := hfront
  obtain ⟨hline, -, hoffset⟩ :=
    Cursor.skip_inside hmarks fun y hy => (allowed_of_spelled ht y hy).2.1
  have hread : r.readToken '"' (t ++ ['"'] ++ more) = r.readQuotedScalar '"' := by
    obtain ⟨hhyphen, hpoint⟩ := IsMark.atMarker_eq (by decide) hfront
    simp [readToken, hhyphen, hpoint]
  have hbehind : (r.cursor.skip (Json.inMarks t).length).rest = more := by
    rw [Cursor.skip_rest, hmarks, List.drop_left]
  rw [readQuotedScalar, readContent, markCandidate_eq hr, Option.bind_eq_bind, Option.bind_some,
    readQuoted_of_spelled ht hmarks] at hread
  refine ⟨_, ⟨hreaches _ hread ?_, ⟨hr.columns, hr.depth, hr.marked, hr.around⟩,
    congrArg (_ :: ·) htokens, hbehind⟩, fun hallowed => ?_⟩
  · show (r.cursor.skip (Json.inMarks t).length).rest.length ≤ _
    rw [hbehind]
    show more.length ≤ (t ++ ['"'] ++ more).length
    rw [List.length_append]
    omega
  · have hkey' : r.keyAllowed = true := by
      rw [hkey, hallowed]
      rfl
    refine ⟨r.here, if_pos hkey', ?_, hline.symm, hoffset⟩
    rw [← htokens]
    rfl

/-- A word and the blanks behind it. -/
theorem exists_word {w b' : List Char} {x : Char} (hw : IsWord w)
    (hb' : ∀ y ∈ b', y = ' ' ∨ y = '\t' ∨ y = '\n') (hx : isFlowMark x = true)
    (hrest : s.cursor.rest = b ++ (w ++ (b' ++ x :: more))) :
    ∃ s', Scans (depth + 1) s s' [.scalar true w] (x :: more) := by
  have hwhite : ∀ y ∈ b', isWhite y = true := by
    intro y hy
    rcases hb' y hy with rfl | rfl | rfl <;> rfl
  obtain ⟨y, ws, rfl, hy⟩ := hw.first
  have hgraphic := (hw.graphic y List.mem_cons_self).1
  obtain ⟨hne, hends_⟩ := hw.first_ne
  obtain ⟨r, hr, -, hfront, htokens, -, -, hreaches⟩ :=
    exists_token h hrest (passes_of_blank h hb) ⟨hgraphic, hne '#' (by decide) (by decide)⟩
  have hflow : r.inFlow = true := by
    rw [hr.inFlow_eq]
    simp
  have hcolumn : r.nestedColumn = 0 := by
    rw [nestedColumn, hr.columns]
  obtain ⟨hhyphen, hpoint, -, hstarts⟩ := hw.starts hfront
  obtain ⟨broken, hplain⟩ := readPlain_of_isWord hw hwhite hx hfront
  have hread : r.readToken y (ws ++ (b' ++ x :: more)) = r.readPlainScalar := by
    have hitem : ¬ (y = '-' ∧ endsWord (ws ++ (b' ++ x :: more)) = true) := by
      rintro ⟨rfl, hends⟩
      rw [hends_ _ rfl] at hends
      cases hends
    have hmarks : ∀ z ∈ ['%', '[', ']', '\x7b', '\x7d', ',', '?', ':', '*', '&', '!', '|', '>',
        '\'', '"'], y ≠ z := by
      intro z hz
      have hall : ∀ z ∈ ['%', '[', ']', '\x7b', '\x7d', ',', '?', ':', '*', '&', '!', '|', '>',
        '\'', '"'], z.isAlphanum = false ∧ z ≠ '-' := List.all_iff_forall_prop.mp (by decide)
      exact hne z (hall z hz).1 (hall z hz).2
    simp only [List.forall_mem_cons] at hmarks
    simp [readToken, hhyphen, hpoint, hitem, hmarks, hflow, hstarts]
  have hplain : readPlain r.inFlow r.nestedColumn r.cursor =
      some ⟨y :: ws, broken, r.cursor.skip ((y :: ws).length + b'.length)⟩ := by
    rw [hflow, hcolumn, hplain]
  have hscalar : r.readPlainScalar = some { r with
      candidate := if r.keyAllowed then some r.here else r.candidate
      tokens := .scalar true (y :: ws) :: r.tokens
      cursor := r.cursor.skip ((y :: ws).length + b'.length)
      keyAllowed := broken } := by
    rw [readPlainScalar, markCandidate_eq hr]
    show (readPlain r.inFlow r.nestedColumn r.cursor >>= _) = _
    rw [hplain]
    rfl
  have hbehind : (r.cursor.skip ((y :: ws).length + b'.length)).rest = x :: more := by
    rw [Cursor.skip_rest, hfront, ← List.drop_drop]
    show ((ws ++ (b' ++ x :: more)).drop ws.length).drop b'.length = x :: more
    rw [List.drop_left, List.drop_left]
  refine ⟨_, hreaches _ (hread.trans hscalar) ?_, ⟨hr.columns, hr.depth, hr.marked, hr.around⟩,
    congrArg (_ :: ·) htokens, hbehind⟩
  show (r.cursor.skip ((y :: ws).length + b'.length)).rest.length ≤ _
  rw [hbehind]
  show (x :: more).length ≤ (ws ++ (b' ++ x :: more)).length
  simp only [List.length_append]
  omega

/-- A key and its colon. -/
theorem exists_key {k t a : List Char} (hallowed : s.keyAllowed = true)
    (ht : Json.StringSpelled portable k t) (ha : ∀ y ∈ a, y = ' ' ∨ y = '\t')
    (hwidth : Text.width (Json.inMarks t ++ a) ≤ keyLimit)
    (hrest : s.cursor.rest = b ++ (Json.inMarks t ++ (a ++ ':' :: more))) :
    ∃ s', Scans (depth + 1) s s' [.key, .scalar false k, .value] more := by
  obtain ⟨q, hq, hcandidate⟩ := exists_quoted h hb ht hrest
  obtain ⟨o, ho, hposition, hline, hoffset⟩ := hcandidate hallowed
  have ha' : ∀ y ∈ a, y = ' ' ∨ y = '\t' ∨ y = '\n' := fun y hy => (ha y hy).imp_right .inl
  obtain ⟨r, hr, hcursor, hfront, htokens, -, hkept, hreaches⟩ :=
    exists_token hq.flow hq.rest (passes_of_blank hq.flow ha') (by decide)
  obtain ⟨hline', -, hoffset'⟩ := Cursor.skip_inside hq.rest fun y hy => by
    rcases ha y hy with rfl | rfl <;> rfl
  have ho' : r.candidate = some o := by
    refine hkept o ho ?_ ?_
    · rw [hcursor, hline', hline]
    · rw [hcursor, hoffset', hoffset]
      rw [Text.width_append] at hwidth
      omega
  have hflow : r.inFlow = true := by
    rw [hr.inFlow_eq]
    simp
  have hread : r.readToken ':' more = r.readColon := by
    obtain ⟨hhyphen, hpoint⟩ := IsMark.atMarker_eq (by decide) hfront
    simp [readToken, hhyphen, hpoint, hflow]
  have hcolon : r.readColon = some { r with
      candidate := none
      tokens := .value :: .scalar false k :: .key :: s.tokens
      cursor := r.cursor.next
      keyAllowed := false } := by
    -- the key goes in front of the scalar, which is the last token so far
    have hinsert : r.tokens.insertIdx (r.tokens.length - o.position) .key =
        .scalar false k :: .key :: s.tokens := by
      rw [htokens, hq.tokens, hposition]
      simp
    have hstart : (r.insertAt o.position .key).startBlock o.column o.position .mappingStart =
        r.insertAt o.position .key := by
      rw [startBlock, if_pos]
      show (r.inFlow || _) = true
      rw [hflow, Bool.true_or]
    rw [readColon, ho']
    simp only [hstart]
    rw [insertAt, hinsert]
    rfl
  have hnext : r.cursor.next.rest = more := by
    rw [Cursor.next_rest, hfront]
    rfl
  refine ⟨_, hq.reaches.trans (hreaches _ (hread.trans hcolon) (Nat.le_of_eq (congrArg _ hnext))),
    ⟨hr.columns, hr.depth, nofun, hr.around⟩, rfl, hnext⟩

end

end TextTemplate.Yaml.Layout
