import TextTemplate.Proofs.Yaml.Scanning
import TextTemplate.Proofs.Yaml.Tokens

/-! # JSON as a document

A text of JSON whose words are portable is a document of flow collections.  Scanning goes over
each item with the blanks around it and adds tokens that stand for it (`ScansAs`), whatever
surrounds it; so a mapping of portable words with blanks around it is read as that mapping
(`readValue?_of_document`). -/
namespace TextTemplate.Yaml

open Layout

/-! ## Line breaks -/

theorem unifyBreaks_cons {c : Char} {cs : List Char} (h : c ≠ '\r' ∨ cs.head? ≠ some '\n') :
    unifyBreaks (c :: cs) =
      (if c = '\r' ∨ c = '\u0085' then '\n' else c) :: unifyBreaks cs := by
  rw [unifyBreaks]
  rintro rest rfl rfl
  simp at h

/-- Where no line ends nothing changes. -/
theorem unifyBreaks_append {t : List Char} (h : ∀ y ∈ t, y ≠ '\r' ∧ y ≠ '\u0085')
    (rest : List Char) : unifyBreaks (t ++ rest) = t ++ unifyBreaks rest := by
  induction t with
  | nil => rfl
  | cons c t ih =>
    obtain ⟨hreturn, hnext⟩ := h c List.mem_cons_self
    rw [List.cons_append, unifyBreaks_cons (.inl hreturn), if_neg (by simp [hreturn, hnext]),
      ih fun y hy => h y (List.mem_cons_of_mem c hy)]
    rfl

/-- Blanks that end no line. -/
theorem spaces_of_blank {b : List Char} (h : Json.Blank b) (hbreak : '\n' ∉ b)
    (hreturn : '\r' ∉ b) : ∀ y ∈ b, y = ' ' ∨ y = '\t' := by
  intro y hy
  have hblank := h y hy
  simp only [Json.isBlank, Bool.or_eq_true, beq_iff_eq] at hblank
  rcases hblank with ((rfl | rfl) | rfl) | rfl
  · exact .inl rfl
  · exact absurd hy hbreak
  · exact .inr rfl
  · exact absurd hy hreturn

/-- Blanks stay blanks. -/
theorem exists_unifyBreaks {b : List Char} (h : Json.Blank b) {rest : List Char}
    (hrest : rest.head? ≠ some '\n') :
    ∃ b', unifyBreaks (b ++ rest) = b' ++ unifyBreaks rest ∧
      (∀ y ∈ b', y = ' ' ∨ y = '\t' ∨ y = '\n') ∧ ('\t' ∉ b → '\t' ∉ b') := by
  induction b using unifyBreaks.induct with
  | case1 => exact ⟨[], rfl, nofun, fun _ => nofun⟩
  | case2 cs ih =>
    obtain ⟨b', heq, hb', htab⟩ := ih fun y hy => h y (by simp [hy])
    refine ⟨'\n' :: b', ?_, by simpa using hb', by simpa using htab⟩
    rw [List.cons_append, List.cons_append, unifyBreaks, heq]
    rfl
  | case3 c cs hcs ih =>
    obtain ⟨b', heq, hb', htab⟩ := ih fun y hy => h y (List.mem_cons_of_mem c hy)
    have hc : c ≠ '\r' ∨ (cs ++ rest).head? ≠ some '\n' := by
      by_cases hreturn : c = '\r'
      · refine .inr ?_
        cases cs with
        | nil => exact hrest
        | cons d cs =>
          rintro ⟨⟩
          exact hcs cs hreturn rfl
      · exact .inl hreturn
    have hblank : c = ' ' ∨ c = '\t' ∨ c = '\n' ∨ c = '\r' := by
      have hblank := h c List.mem_cons_self
      simp only [Json.isBlank, Bool.or_eq_true, beq_iff_eq] at hblank
      rcases hblank with ((rfl | rfl) | rfl) | rfl <;> simp
    refine ⟨(if c = '\r' ∨ c = '\u0085' then '\n' else c) :: b', ?_, ?_, ?_⟩
    · rw [List.cons_append, unifyBreaks_cons hc, heq]
      rfl
    · refine List.forall_mem_cons.mpr ⟨?_, hb'⟩
      rcases hblank with rfl | rfl | rfl | rfl <;> decide
    · intro hnot
      rw [List.mem_cons, not_or] at hnot ⊢
      refine ⟨?_, htab hnot.2⟩
      rcases hblank with rfl | rfl | rfl | rfl <;> simp at hnot ⊢

/-! ## Items -/

/-- Scanning goes over a text with blanks around it, up to the next mark, and adds tokens that
stand for something; `keyed` says that a key must be allowed in front. -/
def ScansAs (keyed : Bool) (stands : List Token → Prop) (t : List Char) : Prop :=
  ∀ ⦃depth : Nat⦄ ⦃s : Layout⦄, Flow (depth + 1) s → (keyed = true → s.keyAllowed = true) →
    ∀ ⦃a b more : List Char⦄ ⦃x : Char⦄, Json.Blank a → Json.Blank b → isFlowMark x = true →
      s.cursor.rest = unifyBreaks (a ++ (t ++ (b ++ x :: more))) →
        ∃ tokens s' b', stands tokens ∧ Json.Blank b' ∧
          Scans (depth + 1) s s' tokens (unifyBreaks (b' ++ x :: more))

/-- Blanks in front of a word. -/
theorem exists_front {b w : List Char} (hb : Json.Blank b)
    (hw : ∀ y ∈ w, y ≠ '\r' ∧ y ≠ '\u0085') {x : Char} (hx : w.head? = some x) (hbreak : x ≠ '\n')
    (rest : List Char) :
    ∃ b', unifyBreaks (b ++ (w ++ rest)) = b' ++ (w ++ unifyBreaks rest) ∧
      (∀ y ∈ b', y = ' ' ∨ y = '\t' ∨ y = '\n') ∧ ('\t' ∉ b → '\t' ∉ b') := by
  have hhead : (w ++ rest).head? ≠ some '\n' := by
    rw [List.head?_append, hx]
    simpa using hbreak
  obtain ⟨b', heq, hb', htab⟩ := exists_unifyBreaks hb hhead
  exact ⟨b', by rw [heq, unifyBreaks_append hw], hb', htab⟩

theorem isGraphic_of_isFlowMark {x : Char} (h : isFlowMark x = true) : IsGraphic x := by
  rw [isFlowMark, List.contains_iff_mem] at h
  have hall : ∀ y ∈ ",[]\x7b\x7d".toList, IsGraphic y := List.all_iff_forall_prop.mp (by decide)
  exact hall x h

theorem IsGraphic.ne_break {x : Char} (h : IsGraphic x) :
    x ≠ '\r' ∧ x ≠ '\u0085' ∧ x ≠ '\n' := by
  refine ⟨?_, ?_, ?_⟩ <;>
  · rintro rfl
    exact absurd h (by decide)

theorem unifyBreaks_mark {x : Char} (h : IsGraphic x) (rest : List Char) :
    unifyBreaks (x :: rest) = x :: unifyBreaks rest :=
  unifyBreaks_append (t := [x]) (by simp [h.ne_break]) rest

/-- Blanks in front of a mark. -/
theorem exists_mark {b : List Char} (hb : Json.Blank b) {x : Char} (hx : IsGraphic x)
    (rest : List Char) :
    ∃ b', unifyBreaks (b ++ x :: rest) = b' ++ x :: unifyBreaks rest ∧
      (∀ y ∈ b', y = ' ' ∨ y = '\t' ∨ y = '\n') ∧ ('\t' ∉ b → '\t' ∉ b') := by
  obtain ⟨hreturn, hnext, hbreak⟩ := hx.ne_break
  exact @exists_front b [x] hb (by simp [hreturn, hnext]) x rfl hbreak rest

/-- A scalar. -/
theorem scansAs_scalar {v : Value} {t : List Char} (h : Json.ScalarSpelled portable v t) :
    ScansAs false (ScalarStands v) t := by
  intro depth s hs _ a b more x ha hb hx hrest
  rcases isWord_of_scalar h with ⟨k, u, rfl, rfl, hu⟩ | ⟨hw, hvalue⟩
  · -- a string ends with its mark
    obtain ⟨a', heq, ha', -⟩ := exists_front ha
      (fun y hy => (allowed_of_spelled hu y hy).2.2) rfl (by decide) (b ++ x :: more)
    obtain ⟨s', hscans, -⟩ := exists_quoted hs ha' hu (hrest.trans heq)
    exact ⟨_, s', b, .intro rfl, hb, hscans⟩
  · -- a word goes on to the next mark
    obtain ⟨y, w, rfl, -⟩ := hw.first
    have hgraphic : ∀ z ∈ y :: w, IsGraphic z := fun z hz => (hw.graphic z hz).1
    obtain ⟨a', heq, ha', -⟩ := exists_front ha
      (fun z hz => ⟨(hgraphic z hz).ne_break.1, (hgraphic z hz).ne_break.2.1⟩) rfl
      (hgraphic y List.mem_cons_self).ne_break.2.2 (b ++ x :: more)
    obtain ⟨b', heq', hb', -⟩ := exists_mark hb (isGraphic_of_isFlowMark hx) more
    rw [heq'] at heq
    obtain ⟨s', hscans⟩ := exists_word hs ha' hw hb' hx (hrest.trans heq)
    refine ⟨_, s', [], @ScalarStands.intro true _ _ hvalue, nofun, ?_⟩
    rwa [List.nil_append, unifyBreaks_mark (isGraphic_of_isFlowMark hx)]

section

variable {α : Type} {item : α → List Char → Prop} {stands : α → List Token → Prop} {keyed : Bool}
  (hitem : ∀ v t, item v t → ScansAs keyed (stands v) t)

include hitem

/-- Items with commas between them, and the closing mark. -/
theorem exists_separated {close : Char} {token : Token}
    (hclose : close = ']' ∧ token = .flowSequenceEnd ∨ close = '\x7d' ∧ token = .flowMappingEnd)
    {vs : List α} {u : List Char} (h : Json.Separated item close vs u) {depth : Nat} {s : Layout}
    (hs : Flow (depth + 1) s) (hkey : s.keyAllowed = true) {more : List Char}
    (hrest : s.cursor.rest = unifyBreaks (u ++ more)) :
    ∃ tokens s', Separated stands token vs tokens ∧ Scans depth s s' tokens (unifyBreaks more) ∧
      s'.keyAllowed = false := by
  have hgraphic : isFlowMark close = true ∧ IsGraphic close := by
    rcases hclose with ⟨rfl, -⟩ | ⟨rfl, -⟩ <;> decide
  induction h generalizing s with
  | @last v a t b ha ht hb =>
    simp only [List.append_assoc, List.singleton_append] at hrest
    obtain ⟨tokens, r, b', htokens, hb', hscans⟩ :=
      hitem v t ht hs (fun _ => hkey) ha hb hgraphic.1 hrest
    obtain ⟨b'', heq, hb'', -⟩ := exists_mark hb' hgraphic.2 more
    obtain ⟨s', hscans', hkey'⟩ := exists_close hscans.flow (passes_of_blank hscans.flow hb'')
      (hscans.rest.trans heq) hclose
    exact ⟨_, s', .last htokens, hscans.trans hscans', hkey'⟩
  | @cons v a t b vs u ha ht hb h ih =>
    simp only [List.append_assoc, List.cons_append] at hrest
    obtain ⟨tokens, r, b', htokens, hb', hscans⟩ :=
      hitem v t ht hs (fun _ => hkey) ha hb (by decide) hrest
    obtain ⟨b'', heq, hb'', -⟩ := exists_mark hb' (by decide : IsGraphic ',') (u ++ more)
    obtain ⟨q, hcomma, hq⟩ := exists_comma hscans.flow hb'' (hscans.rest.trans heq)
    obtain ⟨tokens', s', hseparated, hscans', hkey'⟩ := ih hcomma.flow hq hcomma.rest
    refine ⟨_, s', .cons htokens hseparated, ?_, hkey'⟩
    have hall := (hscans.trans hcomma).trans hscans'
    rwa [List.append_assoc] at hall

/-- Any number of items, and the closing mark. -/
theorem exists_listed {close : Char} {token : Token}
    (hclose : close = ']' ∧ token = .flowSequenceEnd ∨ close = '\x7d' ∧ token = .flowMappingEnd)
    {vs : List α} {u : List Char} (h : Json.Listed item close vs u) {depth : Nat} {s : Layout}
    (hs : Flow (depth + 1) s) (hkey : s.keyAllowed = true) {more : List Char}
    (hrest : s.cursor.rest = unifyBreaks (u ++ more)) :
    ∃ tokens s', Listed stands token vs tokens ∧ Scans depth s s' tokens (unifyBreaks more) ∧
      s'.keyAllowed = false := by
  have hgraphic : IsGraphic close := by
    rcases hclose with ⟨rfl, -⟩ | ⟨rfl, -⟩ <;> decide
  cases h with
  | @none a ha =>
    simp only [List.append_assoc, List.singleton_append] at hrest
    obtain ⟨a', heq, ha', -⟩ := exists_mark ha hgraphic more
    obtain ⟨s', hscans, hkey'⟩ := exists_close hs (passes_of_blank hs ha') (hrest.trans heq) hclose
    exact ⟨_, s', .none, hscans, hkey'⟩
  | some h =>
    obtain ⟨tokens, s', hseparated, hscans⟩ := exists_separated hitem hclose h hs hkey hrest
    exact ⟨tokens, s', .some hseparated, hscans⟩

end

/-- An entry. -/
theorem scansAs_entry {item : Value → List Char → Prop} {stands : Value → List Token → Prop}
    (hitem : ∀ v t, item v t → ScansAs false (stands v) t) {e : String × Value} {t : List Char}
    (h : Json.EntrySpelled portable item e t) : ScansAs true (EntryStands stands e) t := by
  intro depth s hs hkey a b more x ha hb hx hrest
  obtain @⟨k, u, a', b', w, v, hk, ha', hlimit, hb', hv⟩ := h
  obtain ⟨hbreak, hreturn, hwidth⟩ := hlimit
  have hspaces := spaces_of_blank ha' hbreak hreturn
  have hsame : ∀ y ∈ a' ++ [':'], y ≠ '\r' ∧ y ≠ '\u0085' := by
    intro y hy
    rcases List.mem_append.mp hy with hy | hy
    · rcases hspaces y hy with rfl | rfl <;> decide
    · rw [List.mem_singleton.mp hy]
      decide
  simp only [List.append_assoc, List.cons_append] at hrest
  obtain ⟨a'', heq, ha'', -⟩ := exists_front ha (fun y hy => (allowed_of_spelled hk y hy).2.2) rfl
    (by decide) (a' ++ ':' :: (b' ++ (w ++ (b ++ x :: more))))
  have hcolon := unifyBreaks_append hsame (b' ++ (w ++ (b ++ x :: more)))
  simp only [List.append_assoc, List.singleton_append] at hcolon
  rw [hcolon] at heq
  obtain ⟨r, hscans⟩ := exists_key hs ha'' (hkey rfl) hk hspaces hwidth (hrest.trans heq)
  obtain ⟨tokens, s', b'', htokens, hb'', hscans'⟩ :=
    hitem v w hv hscans.flow nofun hb' hb hx hscans.rest
  exact ⟨_, s', b'', .intro htokens, hb'', hscans.trans hscans'⟩

/-- **A value of portable words is scanned as tokens that stand for it.** -/
theorem scansAs_value {d : Nat} {v : Value} {t : List Char} (h : Json.Spelled portable d v t) :
    ScansAs false (Stands d v) t := by
  induction d generalizing v t with
  | zero => exact scansAs_scalar h
  | succ d ih =>
    have hitem : ∀ v t, Json.Spelled portable d v t → ScansAs false (Stands d v) t :=
      fun v t h => ih h
    have hentry : ∀ e t, Json.EntrySpelled portable (Json.Spelled portable d) e t →
        ScansAs true (EntryStands (Stands d) e) t := fun e t h => scansAs_entry hitem h
    rcases h with h | h
    · intro depth s hs hkey a b more x ha hb hx hrest
      obtain ⟨tokens, s', b', htokens, hall⟩ := scansAs_scalar h hs hkey ha hb hx hrest
      exact ⟨tokens, s', b', .inl htokens, hall⟩
    · intro depth s hs hkey a b more x ha hb hx hrest
      cases h with
      | @array vs u h =>
        obtain ⟨a', heq, ha', -⟩ :=
          exists_mark ha (by decide : IsGraphic '[') (u ++ (b ++ x :: more))
        obtain ⟨r, hopen, hr⟩ := exists_open hs (passes_of_blank hs ha') (hrest.trans heq)
          (.inl ⟨rfl, rfl⟩)
        obtain ⟨tokens, s', hlisted, hscans, -⟩ :=
          exists_listed hitem (.inl ⟨rfl, rfl⟩) h hopen.flow hr hopen.rest
        exact ⟨_, s', b, .inr (.sequence hlisted), hb, hopen.trans hscans⟩
      | @object es u h =>
        obtain ⟨a', heq, ha', -⟩ :=
          exists_mark ha (by decide : IsGraphic '\x7b') (u ++ (b ++ x :: more))
        obtain ⟨r, hopen, hr⟩ := exists_open hs (passes_of_blank hs ha') (hrest.trans heq)
          (.inr ⟨rfl, rfl⟩)
        obtain ⟨tokens, s', hlisted, hscans, -⟩ :=
          exists_listed hentry (.inr ⟨rfl, rfl⟩) h hopen.flow hr hopen.rest
        exact ⟨_, s', b, .inr (.mapping hlisted), hb, hopen.trans hscans⟩

/-! ## Documents -/

/-- A value of portable words with blanks around it.  In front of it no tab may stand, and
behind it none behind a line break. -/
inductive PortableDocument (depth : Nat) (v : Value) : List Char → Prop
  | intro {front t line more : List Char} (hfront : Json.Blank front) (hfrontTab : '\t' ∉ front)
      (ht : Json.Spelled portable depth v t) (hline : Json.Blank line)
      (hlineBreak : '\n' ∉ line ∧ '\r' ∉ line) (hmore : Json.Blank more)
      (hmoreTab : '\t' ∉ more) : PortableDocument depth v (front ++ (t ++ (line ++ more)))

theorem PortableDocument.mono {depth depth' : Nat} {v : Value} {text : List Char}
    (h : PortableDocument depth v text) (hd : depth ≤ depth') : PortableDocument depth' v text := by
  obtain ⟨hfront, hfrontTab, ht, hline, hlineBreak, hmore, hmoreTab⟩ := h
  exact .intro hfront hfrontTab (ht.mono .rfl hd) hline hlineBreak hmore hmoreTab

theorem PortableDocument.document {depth : Nat} {v : Value} {text : List Char}
    (h : PortableDocument depth v text) : Json.Document portable depth v text := by
  obtain ⟨hfront, -, ht, hline, -, hmore, -⟩ := h
  exact .intro hfront ht (hline.append hmore)

theorem passes_spaces {flow tabs : Bool} {b : List Char} (hb : ∀ y ∈ b, y = ' ' ∨ y = '\n') :
    passes flow tabs b = true := by
  induction b generalizing tabs with
  | nil => cases tabs <;> rfl
  | cons y b ih =>
    have hrest : ∀ tabs, passes flow tabs b = true :=
      fun tabs => ih fun z hz => hb z (List.mem_cons_of_mem y hz)
    rcases hb y List.mem_cons_self with rfl | rfl <;> simp [passes, hrest]

theorem passes_line {flow : Bool} {line b : List Char} (hline : ∀ y ∈ line, y = ' ' ∨ y = '\t')
    (hb : ∀ y ∈ b, y = ' ' ∨ y = '\n') : passes flow true (line ++ b) = true := by
  induction line with
  | nil => exact passes_spaces hb
  | cons y line ih =>
    have hrest := ih fun z hz => hline z (List.mem_cons_of_mem y hz)
    rcases hline y List.mem_cons_self with rfl | rfl <;> simp [passes, hrest]

/-- The end of a text behind blanks. -/
theorem exists_readAll_end {s : Layout} (h : Flow 0 s) (hkey : s.keyAllowed = false)
    (hrest : passes false true s.cursor.rest = true) (fuel : Nat) :
    ∃ s', readAll (fuel + 1) s = some s' ∧ s'.tokens = s.tokens := by
  have hflow : s.inFlow = false := by
    rw [h.inFlow_eq]
    rfl
  have hskip : skipWhite (s.cursor.rest.length + 1) s = { s with
      cursor := s.cursor.skip s.cursor.rest.length
      keyAllowed := s.keyAllowed || (!s.inFlow && s.cursor.rest.any isBreak) } := by
    refine @skipWhite_of_passes _ [] nofun _ _ (List.append_nil _).symm ?_ (Nat.lt_succ_self _)
    rw [hflow, hkey]
    exact hrest
  have hflow' : Flow 0 { s with
      cursor := s.cursor.skip s.cursor.rest.length
      keyAllowed := s.keyAllowed || (!s.inFlow && s.cursor.rest.any isBreak) } :=
    ⟨h.columns, h.depth, h.free, h.around⟩
  obtain ⟨candidate, enclosing, hexpire, hflow'', -⟩ := exists_expire hflow'
  have hend : (s.cursor.skip s.cursor.rest.length).rest = [] := by
    rw [Cursor.skip_rest, List.drop_length]
  rw [readAll, hskip, hexpire, Option.bind_eq_bind, Option.bind_some]
  simp only [endBlocks_eq hflow''.columns, hend, dropCandidate_eq hflow'']
  exact ⟨_, rfl, rfl⟩

theorem exists_entries_of_spelled {depth : Nat} {es : List (String × Value)} {t : List Char}
    (h : Json.Spelled portable depth (.object es) t) :
    ∃ d es' u, depth = d + 1 ∧ es = Entries.ofList es' ∧ t = '\x7b' :: u ∧
      Json.Listed (Json.EntrySpelled portable (Json.Spelled portable d)) '\x7d' es' u := by
  cases depth with
  | zero => cases h
  | succ d =>
    rcases h with h | h
    · cases h
    · cases h with
      | @object es' u h => exact ⟨d, es', u, rfl, rfl, rfl, h⟩

/-- **A mapping of portable words is a document of tokens that stand for it.** -/
theorem exists_tokens_of_document {depth : Nat} {es : List (String × Value)} {text : List Char}
    (h : PortableDocument depth (.object es) text) :
    ∃ tokens, tokens? (unifyBreaks text) = some tokens ∧ Stands depth (.object es) tokens := by
  obtain @⟨front, t, line, more, hfront, hfrontTab, ht, hline, hlineBreak, hmore, hmoreTab⟩ := h
  obtain ⟨d, es, u, rfl, rfl, rfl, hlisted⟩ := exists_entries_of_spelled ht
  have hentry : ∀ e t, Json.EntrySpelled portable (Json.Spelled portable d) e t →
      ScansAs true (EntryStands (Stands d) e) t :=
    fun e t h => scansAs_entry (fun v t h => scansAs_value h) h
  obtain ⟨front', heq, hfront', htab⟩ :=
    exists_mark hfront (by decide : IsGraphic '\x7b') (u ++ (line ++ more))
  obtain ⟨more', heq', hmore', htab'⟩ := @exists_unifyBreaks more hmore [] nofun
  have hspaces : ∀ {b : List Char}, (∀ y ∈ b, y = ' ' ∨ y = '\t' ∨ y = '\n') → '\t' ∉ b →
      ∀ y ∈ b, y = ' ' ∨ y = '\n' := by
    intro b hb htab y hy
    rcases hb y hy with rfl | rfl | rfl
    · exact .inl rfl
    · exact absurd hy htab
    · exact .inr rfl
  have hback := spaces_of_blank hline hlineBreak.1 hlineBreak.2
  have hstart : Flow 0 (.start (unifyBreaks (front ++ ('\x7b' :: u ++ (line ++ more))))) :=
    ⟨rfl, rfl, nofun, nofun⟩
  obtain ⟨r, hopen, hr⟩ := exists_open hstart
    (passes_spaces (hspaces hfront' (htab hfrontTab))) heq (.inr ⟨rfl, rfl⟩)
  obtain ⟨tokens, q, htokens, hscans, hq⟩ :=
    exists_listed hentry (.inr ⟨rfl, rfl⟩) hlisted hopen.flow hr hopen.rest
  have hrest : q.cursor.rest = line ++ more' := by
    rw [List.append_nil] at heq'
    rw [hscans.rest, unifyBreaks_append, heq']
    · exact congrArg _ (List.append_nil _)
    · intro y hy
      rcases hback y hy with rfl | rfl <;> decide
  have hall := hopen.trans hscans
  obtain ⟨n, hn, hreads⟩ := hall.reaches
  obtain ⟨s', hend, hs'⟩ := exists_readAll_end hall.flow hq
    (by rw [hrest]; exact passes_line hback (hspaces hmore' (htab' hmoreTab)))
    ((unifyBreaks (front ++ ('\x7b' :: u ++ (line ++ more)))).length - n)
  refine ⟨_, ?_, .inr (.mapping htokens)⟩
  have hfuel : (unifyBreaks (front ++ ('\x7b' :: u ++ (line ++ more)))).length + 1 =
      (unifyBreaks (front ++ ('\x7b' :: u ++ (line ++ more)))).length - n + 1 + n := by
    have hn : n ≤ (unifyBreaks (front ++ ('\x7b' :: u ++ (line ++ more)))).length :=
      Nat.le_trans (Nat.le_add_right _ _) hn
    omega
  rw [tokens?, hfuel, hreads, hend, Option.map_some, hs', hall.tokens, List.reverse_append,
    List.reverse_reverse]
  rfl

theorem allowed_of_mark {c : Char} (h : Json.isBlank c = true ∨ c ∈ ",:[]\x7b\x7d".toList) :
    isAllowed c = true := by
  rcases h with h | h
  · simp only [Json.isBlank, Bool.or_eq_true, beq_iff_eq] at h
    rcases h with ((rfl | rfl) | rfl) | rfl <;> decide
  · have hall : ∀ y ∈ ",:[]\x7b\x7d".toList, isAllowed y = true :=
      List.all_iff_forall_prop.mp (by decide)
    exact hall c h

/-- Portable words are made of characters that may stand in a document. -/
theorem allowed_of_scalar {v : Value} {t : List Char} (h : Json.ScalarSpelled portable v t) :
    ∀ c ∈ t, isAllowed c = true := by
  rcases isWord_of_scalar h with ⟨k, u, -, rfl, hu⟩ | ⟨hw, -⟩
  · exact fun c hc => (allowed_of_spelled hu c hc).1
  · exact fun c hc => (hw.graphic c hc).1.isAllowed_eq

theorem allowed_of_document {depth : Nat} {v : Value} {text : List Char}
    (h : PortableDocument depth v text) : ∀ c ∈ text, isAllowed c = true := by
  obtain ⟨hfront, -, ht, hline, -, hmore, -⟩ := h
  have hvalue := ht.forall_mem (fun c => allowed_of_mark) fun v t h => allowed_of_scalar h
  intro c hc
  simp only [List.mem_append] at hc
  rcases hc with hc | hc | hc | hc
  · exact allowed_of_mark (.inl (hfront c hc))
  · exact hvalue c hc
  · exact allowed_of_mark (.inl (hline c hc))
  · exact allowed_of_mark (.inl (hmore c hc))

/-- **A mapping of portable words is read from a document as that mapping.** -/
theorem readValue?_of_document {es : List (String × Value)} {text : String}
    (h : PortableDocument nestingLimit (.object es) text.toList) :
    readValue? text = some (.object es) := by
  obtain ⟨tokens, htokens, hstands⟩ := exists_tokens_of_document h
  obtain ⟨document, hfirst, hvalue⟩ := value?_of_stands hstands
  have hsource : sourceText? text.toList = some (unifyBreaks text.toList) :=
    if_pos (List.all_eq_true.mpr (allowed_of_document h))
  have hdocument : readDocument? text = some document := by
    simp [readDocument?, hsource, htokens, hfirst]
  rw [readValue?, hdocument, Option.bind_some, hvalue]

end TextTemplate.Yaml
