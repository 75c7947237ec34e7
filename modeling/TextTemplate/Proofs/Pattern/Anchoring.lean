import TextTemplate.Dialect.Standard
import TextTemplate.Proofs.Pattern.Marks

/-! # Where patterns of a dialect match

A pattern of a dialect gets an anchor, and a group around what the caller wrote.
Whether it then matches at the start of the text only hangs on where that group ends.
If the parenthesis behind the caller's text is the one that closes it, the whole
pattern is anchored (`anchored_of_enclosed`).  If the caller closes it, an alternative
behind it may match anywhere.

Both are told apart by where the pattern matches: `Pattern.Strays` says that it is
found behind a character, and a matcher keeps to the front of its text exactly if its
pattern does not stray (`Matcher.anchored_ofPattern_iff`). -/
namespace TextTemplate

namespace Pattern

/-! ## The first match -/

theorem matchHere_start {n : Node} {before : Option Char} {skipped : Nat} {rest : List Char}
    {m : Match} (h : matchHere n before skipped rest = some m) : m.start = skipped := by
  obtain ⟨e, -, rfl⟩ := Option.map_eq_some_iff.mp h
  rfl

/-- What is matched is a piece of the front of the text. -/
theorem matchHere_text {n : Node} {before : Option Char} {skipped : Nat} {rest : List Char}
    {m : Match} (h : matchHere n before skipped rest = some m) : m.text <+: rest := by
  obtain ⟨e, -, rfl⟩ := Option.map_eq_some_iff.mp h
  exact List.take_prefix _ _

/-- A pattern is tried here: behind `before`, of which only the last character counts,
and in front of `rest`. -/
def matchBehind (n : Node) (before rest : List Char) : Option Match :=
  matchHere n before.getLast? (Text.width before) rest

/-- The first match of a pattern in a text, of which `before` lies behind. -/
def FirstMatch (n : Node) (before text : List Char) (m : Match) : Prop :=
  ∃ skipped rest, text = skipped ++ rest ∧ matchBehind n (before ++ skipped) rest = some m ∧
    ∀ xs ys, text = xs ++ ys → xs.length < skipped.length → matchBehind n (before ++ xs) ys = none

/-- A match at the start is the first one. -/
theorem firstMatch_of_matchBehind {n : Node} {before text : List Char} {m m' : Match}
    (h : matchBehind n before text = some m) : FirstMatch n before text m' ↔ m = m' := by
  constructor
  · rintro ⟨skipped, rest, rfl, hhere, hfirst⟩
    cases skipped with
    | nil =>
      rw [List.append_nil] at hhere
      exact Option.some.inj (h.symm.trans hhere)
    | cons x xs =>
      have hnone := hfirst [] (x :: xs ++ rest) rfl (Nat.zero_lt_succ _)
      rw [List.append_nil, h] at hnone
      cases hnone
  · rintro rfl
    refine ⟨[], text, rfl, by rwa [List.append_nil], fun xs ys _ hlt => ?_⟩
    exact absurd hlt (Nat.not_lt_zero _)

/-- Without a match at the start the first one is that behind the next character. -/
theorem firstMatch_cons {n : Node} {before cs : List Char} {c : Char} {m : Match}
    (h : matchBehind n before (c :: cs) = none) :
    FirstMatch n before (c :: cs) m ↔ FirstMatch n (before ++ [c]) cs m := by
  constructor
  · rintro ⟨skipped, rest, htext, hhere, hfirst⟩
    cases skipped with
    | nil =>
      rw [List.nil_append] at htext
      rw [List.append_nil, ← htext, h] at hhere
      cases hhere
    | cons x skipped =>
      obtain ⟨rfl, rfl⟩ := List.cons_eq_cons.mp htext
      refine ⟨skipped, rest, rfl, by simpa using hhere, fun xs ys htail hlt => ?_⟩
      have hnone := hfirst (c :: xs) ys (by rw [htail]; rfl) (Nat.succ_lt_succ hlt)
      simpa using hnone
  · rintro ⟨skipped, rest, rfl, hhere, hfirst⟩
    refine ⟨c :: skipped, rest, rfl, by simpa using hhere, fun xs ys htext hlt => ?_⟩
    cases xs with
    | nil =>
      rw [List.nil_append] at htext
      rwa [List.append_nil, ← htext]
    | cons x xs =>
      obtain ⟨rfl, htail⟩ := List.cons_eq_cons.mp htext
      simpa using hfirst xs ys htail (Nat.lt_of_succ_lt_succ hlt)

/-- **A search finds the first match.** -/
theorem search_eq_some_iff {n : Node} {before text : List Char} {m : Match} :
    search n before.getLast? (Text.width before) text = some m ↔ FirstMatch n before text m := by
  induction text generalizing before with
  | nil =>
    rw [search_nil]
    constructor
    · intro h
      exact (firstMatch_of_matchBehind h).mpr rfl
    · rintro ⟨skipped, rest, htext, h, -⟩
      obtain ⟨rfl, rfl⟩ := List.append_eq_nil_iff.mp htext.symm
      rwa [List.append_nil] at h
  | cons c cs ih =>
    have hstep : search n (some c) (Text.width before + c.utf8Size) cs =
        search n (before ++ [c]).getLast? (Text.width (before ++ [c])) cs := by simp
    rw [search_cons]
    cases hhere : matchHere n before.getLast? (Text.width before) (c :: cs) with
    | some m' => rw [Option.some_or, Option.some_inj, firstMatch_of_matchBehind hhere]
    | none => rw [Option.none_or, hstep, ih, firstMatch_cons hhere]

/-- Trying an anchored pattern at the start alone is a search all the same. -/
theorem find?_eq_search (p : Pattern) (text : List Char) :
    p.find? text = search p.node none 0 text := by
  unfold find?
  split
  · rename_i h
    exact (search_eq_matchHere h text).symm
  · rfl

/-- What a pattern finds is its first match. -/
theorem find?_eq_some_iff {p : Pattern} {text : List Char} {m : Match} :
    p.find? text = some m ↔ FirstMatch p.node [] text m := by
  rw [find?_eq_search]
  exact @search_eq_some_iff p.node [] text m

/-- The pattern is found behind a character and matches text there. -/
def Strays (p : Pattern) : Prop :=
  ∃ skipped rest m, skipped ≠ [] ∧ m.text ≠ [] ∧ matchBehind p.node skipped rest = some m ∧
    ∀ xs ys, skipped ++ rest = xs ++ ys → xs.length < skipped.length →
      matchBehind p.node xs ys = none

/-- A pattern that does not stray is found at the front of a text, if it is found there
with text at all. -/
theorem not_strays_iff {p : Pattern} :
    ¬ p.Strays ↔ ∀ text m, p.find? text = some m → m.text ≠ [] → m.start = 0 := by
  constructor
  · intro hp text m hm hne
    obtain ⟨skipped, rest, rfl, hhere, hfirst⟩ := find?_eq_some_iff.mp hm
    rw [matchHere_start hhere]
    by_cases hskipped : skipped = []
    · rw [hskipped]
      rfl
    · exact absurd ⟨skipped, rest, m, hskipped, hne, hhere, hfirst⟩ hp
  · rintro h ⟨skipped, rest, m, hskipped, hne, hhere, hfirst⟩
    have hm : p.find? (skipped ++ rest) = some m :=
      find?_eq_some_iff.mpr ⟨skipped, rest, rfl, hhere, hfirst⟩
    have hzero : Text.width skipped = 0 := by rw [← matchHere_start hhere]; exact h _ m hm hne
    have hpos := List.length_pos_iff.mpr hskipped
    have hle := Text.length_le_width skipped
    omega

/-- A pattern that is anchored throughout does not stray. -/
theorem not_strays_of_anchored {p : Pattern} (h : p.node.anchored = true) : ¬ p.Strays := by
  refine not_strays_iff.mpr fun text m hm _ => ?_
  rw [find?, if_pos h] at hm
  exact matchHere_start hm

/-- What a pattern finds is where it says. -/
theorem text_of_find? {p : Pattern} {text : List Char} {m : Match} (h : p.find? text = some m)
    (hstart : m.start = 0) : Text.cut? m.length text = some (m.text, text.drop m.text.length) := by
  obtain ⟨skipped, rest, rfl, hhere, -⟩ := find?_eq_some_iff.mp h
  have hle := Text.length_le_width skipped
  have hzero : Text.width skipped = 0 := (matchHere_start hhere).symm.trans hstart
  obtain rfl : skipped = [] := List.length_eq_zero_iff.mp (by omega)
  obtain ⟨after, rfl⟩ := matchHere_text hhere
  rw [List.nil_append, List.drop_left]
  exact Text.cut?_width_append m.text after

/-! ## The group around a pattern -/

/-- Whether the group around a pattern is closed by the parenthesis that is put behind
the text of the caller: read as what the group holds, the text and the parenthesis are
read up to the parenthesis. -/
def enclosed (text : String) : Bool :=
  match readChoice (text.toList.length + 4) [] [] ⟨text.toList ++ [')'], {}, 1, []⟩ with
  | .ok (_, s) => s.rest == [')']
  | .error _ => false

section reading
variable {fuel : Nat} {done : List (Node × Nat)} {items : List Item} {s : ReadState}
  {rest : List Char}

theorem skip_of_options (ho : s.options = {}) : s.skip = s := by simp [ReadState.skip, ho]

theorem readChoice_caret (hs : s.rest = '^' :: rest) (ho : s.options = {}) :
    readChoice (fuel + 1) done items s =
      readChoice fuel done (⟨.mark .textStart, 0, true⟩ :: items) (s.withRest rest) := by
  rw [readChoice]
  simp only [skip_of_options ho, hs, ho, startMark]
  rfl

theorem readOpening_plain (hs : s.rest = '?' :: ':' :: rest) (ho : s.options = {}) :
    readOpening s = .ok (.plain {}, s.withRest rest) := by
  simp only [readOpening, skip_of_options ho, hs, ho]
  rfl

/-- A group is read by reading what it holds, up to a parenthesis. -/
theorem readChoice_group (hs : s.rest = '(' :: '?' :: ':' :: rest) (ho : s.options = {}) :
    readChoice (fuel + 1) done items s = (do
      let ((node, depth), inner) ← readChoice fuel [] [] (s.withRest rest)
      match inner.rest with
      | [] => .error .unclosedGroup
      | _ :: rest =>
        readChoice fuel done (⟨node, depth + 1, true⟩ :: items)
          { inner with options := s.options, rest := rest }) := by
  rw [readChoice]
  have hopen : readOpening (s.withRest ('?' :: ':' :: rest)) =
      .ok (.plain {}, (s.withRest ('?' :: ':' :: rest)).withRest rest) := readOpening_plain rfl ho
  simp only [skip_of_options ho, hs]
  rw [hopen]
  simp only [ReadState.withRest]
  rw [← ho]
  rfl

theorem readChoice_nil (hs : s.rest = []) (ho : s.options = {}) :
    readChoice (fuel + 1) done items s = .ok (choiceOf (sequenceOf items :: done), s) := by
  rw [readChoice]
  simp only [skip_of_options ho, hs]

end reading

/-- A sequence that starts with a mark is anchored if the mark is. -/
theorem anchored_choice_sequence (inner : Node) :
    (Node.choice [.sequence [.mark .textStart, inner]]).anchored = true := by
  cases inner <;> rfl

/-- The tree of a pattern is what its text is read into. -/
theorem readChoice_of_read {source : String} {p : Pattern} (h : read source = .ok p) :
    ∃ depth s, readChoice (source.toList.length + 1) [] [] ⟨source.toList, {}, 1, []⟩ =
      .ok ((p.node, depth), s) := by
  unfold read readPattern at h
  cases hr : readChoice (source.toList.length + 1) [] [] ⟨source.toList, {}, 1, []⟩ with
  | error e => rw [hr] at h; cases h
  | ok r =>
    obtain ⟨⟨node, depth⟩, s⟩ := r
    rw [hr] at h
    simp only [bind, Except.bind] at h
    refine ⟨depth, s, ?_⟩
    split at h
    · cases h
    · split at h
      · cases h
      · split at h <;> cases h
        rfl

/-- **A pattern whose group is closed by its own parenthesis is anchored.** -/
theorem anchored_of_enclosed {text : String} {p : Pattern} (h : readAnchored text = .ok p)
    (he : enclosed text = true) : p.node.anchored = true := by
  have htext : (anchoredText text).toList = '^' :: '(' :: '?' :: ':' :: (text.toList ++ [')']) := by
    simp [anchoredText]
  have hlength : (anchoredText text).toList.length + 1 = text.toList.length + 4 + 1 + 1 := by
    simp [htext]
  obtain ⟨depth, s, hread⟩ := readChoice_of_read h
  rw [hlength, htext, readChoice_caret rfl rfl, readChoice_group rfl rfl] at hread
  unfold enclosed at he
  cases hbody : readChoice (text.toList.length + 4) [] [] ⟨text.toList ++ [')'], {}, 1, []⟩ with
  | error e => rw [hbody] at he; cases he
  | ok r =>
    obtain ⟨⟨inner, innerDepth⟩, t⟩ := r
    rw [hbody] at he
    have hrest : t.rest = [')'] := by simpa using he
    have hlast : text.toList.length + 4 = text.toList.length + 3 + 1 := rfl
    -- behind the group nothing is left, and it stands alone behind the anchor
    simp only [ReadState.withRest, hbody, hrest, bind, Except.bind] at hread
    rw [hlast, readChoice_nil rfl rfl] at hread
    have hnode : Node.choice [.sequence [.mark .textStart, inner]] = p.node := by
      have hpair := congrArg Prod.fst (Except.ok.inj hread)
      exact congrArg Prod.fst hpair
    rw [← hnode]
    exact anchored_choice_sequence inner

end Pattern

/-- **A matcher keeps to the front of its text exactly if its pattern does not stray.** -/
theorem Matcher.anchored_ofPattern_iff {p : Pattern} :
    (Matcher.ofPattern p).Anchored ↔ ¬ p.Strays := by
  rw [Pattern.not_strays_iff]
  constructor
  · intro h text m hm hne
    have hpos : 0 < m.length := by
      have hlen := List.length_pos_iff.mpr hne
      have hle := Text.length_le_width m.text
      unfold Pattern.Match.length
      omega
    exact (h text ⟨m.start, m.length⟩ (by simp [ofPattern, hm]) hpos).1
  · intro h text found hfound hpos
    obtain ⟨m, hm, rfl⟩ := Option.map_eq_some_iff.mp hfound
    have hne : m.text ≠ [] := by
      intro hnil
      simp [Pattern.Match.length, hnil] at hpos
    have hstart := h text m hm hne
    exact ⟨hstart, _, _, Pattern.text_of_find? hm hstart⟩

theorem Matcher.anchored_ofPattern {p : Pattern} (h : p.node.anchored = true) :
    (Matcher.ofPattern p).Anchored :=
  anchored_ofPattern_iff.mpr (Pattern.not_strays_of_anchored h)

/-- The patterns of the standard dialect are anchored throughout. -/
theorem Dialect.anchored_standard : Dialect.standard.Anchored := by
  refine ⟨Matcher.anchored_ofPattern rfl, fun δ => ?_⟩
  cases δ <;> exact Matcher.anchored_ofPattern rfl

end TextTemplate
