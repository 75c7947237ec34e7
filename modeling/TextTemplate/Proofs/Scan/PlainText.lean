import TextTemplate.Proofs.Dialect.StandardSpans
import TextTemplate.Proofs.Scan.Layout
import TextTemplate.Proofs.Scan.Tiling
import TextTemplate.Render.Evaluate

/-! # Plain text

Which texts hold no placeholder can be told without reading them from the left.  A dollar
sign and a brace start a placeholder if the backslashes right in front of them, all of them
together, are even in number (`HasStart`); an odd one would escape the dollar sign.  Text
without such a start is one literal, which is the text without the backslashes that escape
something (`unescaped`), and it is rendered as that literal (`Dialect.parse_plain`). -/
namespace TextTemplate

/-- The text without its escaping backslashes.  Each goes with the character behind it, and
that character stays, whatever it is; a backslash with nothing behind it goes as well. -/
def unescaped : List Char → List Char
  | [] => []
  | c :: cs =>
    if c = '\\' then
      match cs with
      | [] => []
      | d :: ds => d :: unescaped ds
    else c :: unescaped cs

theorem unescaped_of_notMem {text : List Char} (h : '\\' ∉ text) : unescaped text = text := by
  induction text with
  | nil => rfl
  | cons c cs ih =>
    rw [List.mem_cons, not_or] at h
    rw [unescaped.eq_def]
    simp only [if_neg (Ne.symm h.1), ih h.2]

/-- Somewhere a dollar sign and a brace stand behind an even number of backslashes, and in
front of these there is no other. -/
def HasStart (text : List Char) : Prop :=
  ∃ front n more, text = front ++ List.replicate (2 * n) '\\' ++ '$' :: '{' :: more ∧
    front.getLast? ≠ some '\\'

namespace HasStart

variable {c : Char} {cs text : List Char}

/-- A character in front keeps the last character of a text, if there is one. -/
theorem getLast?_cons_ne {front : List Char} (hfront : front.getLast? ≠ some '\\')
    (hc : front = [] → c ≠ '\\') : (c :: front).getLast? ≠ some '\\' := by
  cases front with
  | nil => simpa using hc rfl
  | cons d front => rwa [List.getLast?_cons_cons]

theorem getLast?_ne_of_cons {front : List Char} (h : (c :: front).getLast? ≠ some '\\') :
    front.getLast? ≠ some '\\' := by
  cases front with
  | nil => exact nofun
  | cons d front => rwa [List.getLast?_cons_cons] at h

theorem start (more : List Char) : HasStart ('$' :: '{' :: more) := ⟨[], 0, more, rfl, nofun⟩

theorem dollar_brace_within (h : HasStart text) : ['$', '{'] <:+: text := by
  obtain ⟨front, n, more, rfl, -⟩ := h
  exact ⟨front ++ List.replicate (2 * n) '\\', more, by simp⟩

theorem replicate_two_mul_succ (n : Nat) :
    List.replicate (2 * (n + 1)) '\\' = '\\' :: '\\' :: List.replicate (2 * n) '\\' := rfl

/-- A backslash and the character behind it start nothing, and they are counted both or
neither. -/
theorem escaped_iff : HasStart ('\\' :: c :: cs) ↔ HasStart cs := by
  constructor
  · rintro ⟨front, n, more, htext, hfront⟩
    -- both are among the counted backslashes, or both are in front of them: a front of one
    -- character would be the backslash
    match front, n with
    | [], 0 => simp at htext
    | [], n + 1 =>
      rw [replicate_two_mul_succ] at htext
      simp only [List.nil_append, List.cons_append, List.cons.injEq, true_and] at htext
      exact ⟨[], n, more, by simpa using htext.2, nofun⟩
    | [b], n =>
      obtain rfl : '\\' = b := (List.cons.inj htext).1
      exact absurd rfl hfront
    | b :: d :: front, n =>
      simp only [List.cons_append, List.cons.injEq] at htext
      exact ⟨front, n, more, htext.2.2, getLast?_ne_of_cons (getLast?_ne_of_cons hfront)⟩
  · rintro ⟨front, n, more, rfl, hfront⟩
    by_cases hc : front = [] ∧ c = '\\'
    · obtain ⟨rfl, rfl⟩ := hc
      exact ⟨[], n + 1, more, by simp [replicate_two_mul_succ], nofun⟩
    · refine ⟨'\\' :: c :: front, n, more, by simp, ?_⟩
      exact getLast?_cons_ne (getLast?_cons_ne hfront fun hnil he => hc ⟨hnil, he⟩) nofun

/-- A character that neither escapes nor starts anything might as well be left out. -/
theorem cons_iff (hescape : c ≠ '\\') (hstart : ¬ ['$', '{'] <+: c :: cs) :
    HasStart (c :: cs) ↔ HasStart cs := by
  constructor
  · rintro ⟨front, n, more, htext, hfront⟩
    match front, n with
    | [], 0 => exact absurd ⟨more, htext.symm⟩ hstart
    | [], n + 1 => exact absurd (List.cons.inj htext).1 hescape
    | b :: front, n =>
      exact ⟨front, n, more, (List.cons.inj htext).2, getLast?_ne_of_cons hfront⟩
  · rintro ⟨front, n, more, rfl, hfront⟩
    exact ⟨c :: front, n, more, by simp, getLast?_cons_ne hfront fun _ => hescape⟩

theorem not_nil : ¬ HasStart [] := by
  rintro ⟨front, n, more, htext, -⟩
  simp at htext

theorem not_backslash : ¬ HasStart ['\\'] := by
  intro h
  have hinside := dollar_brace_within h
  exact absurd hinside.length_le (by decide)

end HasStart

namespace Dialect

/-! ## Reading plain text -/

/-- A backslash at the end of the text escapes nothing. -/
theorem next_last_escape (level : Level) :
    standard.next level '\\' [] = .ok (.escaped ['\\'] none, []) :=
  standardSpan_iff.mp (.escaped [])

/-- A span of text in front of a text that is laid out. -/
theorem exists_takes_cons {c : Char} {cs rest content : List Char} {span : Span}
    (hnext : standard.next .literal c cs = .ok (span, rest)) (hspan : span.IsText)
    (hafter : Level.literal.after span = .literal)
    (h : ∃ spans, standard.Takes .literal rest spans [] ∧ LaidText content spans) :
    ∃ spans, standard.Takes .literal (c :: cs) spans [] ∧
      LaidText (span.content ++ content) spans := by
  obtain ⟨spans, htakes, hlaid⟩ := h
  refine ⟨span :: spans, .next hnext (by rwa [hafter]), ?_⟩
  have hone : LaidText span.content [span] := ⟨by simpa using hspan, by simp⟩
  exact hone.append hlaid

/-- **Without a start of a placeholder all of the text is literal**, and its spans add up to
the text without the backslashes that escape. -/
theorem exists_takes_unescaped {text : List Char} (h : ¬ HasStart text) :
    ∃ spans, standard.Takes .literal text spans [] ∧ LaidText (unescaped text) spans := by
  -- outside a placeholder the dialect takes text just as `unescaped` does
  fun_induction unescaped text with
  | case1 => exact ⟨[], .none _ _, by simp [LaidText]⟩
  | case2 =>
    exact exists_takes_cons (next_last_escape .literal) trivial rfl
      ⟨[], .none _ _, by simp [LaidText]⟩
  | case3 d ds ih =>
    rw [HasStart.escaped_iff] at h
    exact exists_takes_cons (next_escape .literal d ds) trivial rfl (ih h)
  | case4 c cs hc ih =>
    have hstart : ¬ ['$', '{'] <+: c :: cs := by
      rintro ⟨more, hmore⟩
      exact h (hmore ▸ HasStart.start more)
    have hnext : standard.next .literal c cs = .ok (.plain c, cs) :=
      next_literal_of_not_prefix hc hstart
    rw [HasStart.cons_iff hc hstart] at h
    exact exists_takes_cons hnext trivial rfl (ih h)

/-- **A start of a placeholder is read as one.** -/
theorem exists_takes_start {text : List Char} (h : HasStart text) :
    ∃ spans rest, standard.Takes .literal text spans rest ∧
      0 < Delimiter.variableStart.count spans := by
  fun_induction unescaped text with
  | case1 => exact absurd h HasStart.not_nil
  | case2 => exact absurd h HasStart.not_backslash
  | case3 d ds ih =>
    obtain ⟨spans, rest, htakes, hcount⟩ := ih (HasStart.escaped_iff.mp h)
    refine ⟨_, rest, .next (next_escape .literal d ds) htakes, ?_⟩
    rw [Delimiter.count_cons]
    omega
  | case4 c cs hc ih =>
    by_cases hstart : ['$', '{'] <+: c :: cs
    · obtain ⟨more, hmore⟩ := hstart
      rw [← hmore]
      exact ⟨_, _, .single (standardSpan_iff.mp (.of_start more)), Nat.one_pos⟩
    · have hnext : standard.next .literal c cs = .ok (.plain c, cs) :=
        next_literal_of_not_prefix hc hstart
      obtain ⟨spans, rest, htakes, hcount⟩ := ih ((HasStart.cons_iff hc hstart).mp h)
      refine ⟨_, rest, .next hnext htakes, ?_⟩
      rw [Delimiter.count_cons]
      omega

/-- A tree has variables if any start of a placeholder was read. -/
theorem hasVariables_ofSpans {spans : List Span} (hfit : Span.FitFrom .literal spans) :
    (Template.ofSpans spans).hasVariables = true ↔ 0 < Delimiter.variableStart.count spans := by
  rw [← Template.size_ofSpans (δ := .variableStart) hfit nofun]
  simp [Template.hasVariables, Template.size, List.length_pos_iff]

end Dialect

/-- One literal is rendered as it is. -/
theorem Template.render_literal (l : String) (vars : Variables) (registry : Registry) :
    (Template.mk [l] []).render vars registry = l := by
  simp [Template.render, Template.renderWith, Template.parts, Template.interleave, Part.render]

/-- **Which templates are plain text.**  Every text has a tree in the standard dialect, and the
tree has variables just where a dollar sign and a brace stand behind an even number of
backslashes.  Without variables it is one literal, the text without the backslashes that
escape, and it is rendered as that literal whatever the variables and the pipes are.  A text
with neither a backslash nor a dollar sign in front of a brace is rendered as itself. -/
theorem Dialect.parse_plain (text : String) :
    ∃ t, standard.parse text = .ok t ∧
      (t.hasVariables = true ↔ HasStart text.toList) ∧
      (t.hasVariables = false →
        t = ⟨[String.ofList (unescaped text.toList)], []⟩ ∧
        ∀ vars registry, standard.render text vars registry =
          .ok (String.ofList (unescaped text.toList))) ∧
      ('\\' ∉ text.toList → ¬ ['$', '{'] <:+: text.toList →
        ∀ vars registry, standard.render text vars registry = .ok text) := by
  by_cases h : HasStart text.toList
  · obtain ⟨xs, rest, hxs, hcount⟩ := exists_takes_start h
    obtain ⟨ys, hys⟩ := exists_takes exists_standard_next (Level.literal.afterAll xs) rest
    have hwhole := hxs.trans hys
    have hvariables : (Template.ofSpans (xs ++ ys)).hasVariables = true := by
      rw [hasVariables_ofSpans hwhole.fitFrom, Delimiter.count, List.countP_append]
      exact Nat.add_pos_left hcount _
    refine ⟨_, hwhole.parse_eq, iff_of_true hvariables h, fun hnone => ?_, fun _ hplain => ?_⟩
    · rw [hvariables] at hnone
      cases hnone
    · exact absurd h.dollar_brace_within hplain
  · obtain ⟨spans, htakes, hlaid⟩ := exists_takes_unescaped h
    have htree : Template.ofSpans spans = ⟨[String.ofList (unescaped text.toList)], []⟩ := by
      refine (Template.Laid.last ?_).ofSpans_eq
      rwa [String.toList_ofList]
    have hparse := htakes.parse_eq
    rw [htree] at hparse
    have hrender : ∀ vars registry, standard.render text vars registry =
        .ok (String.ofList (unescaped text.toList)) := by
      intro vars registry
      rw [Dialect.render, hparse]
      exact congrArg Except.ok (Template.render_literal _ vars registry)
    refine ⟨_, hparse, iff_of_false Bool.false_ne_true h, fun _ => ⟨rfl, hrender⟩,
      fun hplain _ => ?_⟩
    rwa [unescaped_of_notMem hplain, String.ofList_toList] at hrender

/-- An escaped start, a quotation mark and two more backslashes, one of them at the end; a
start behind two backslashes; and signs that start nothing. -/
theorem Dialect.parse_plain_escaped :
    (standard.parse "\\$\x7ba\x7d|'\\\\x\\" = .ok ⟨["$\x7ba\x7d|'\\x"], []⟩ ∧
      ∀ vars registry, standard.render "\\$\x7ba\x7d|'\\\\x\\" vars registry =
        .ok "$\x7ba\x7d|'\\x") ∧
    (HasStart "x\\\\$\x7ba".toList ∧
      ∃ t, standard.parse "x\\\\$\x7ba" = .ok t ∧ t.hasVariables = true) ∧
    ∀ vars registry, standard.render "$a\x7d : 'b" vars registry = .ok "$a\x7d : 'b" := by
  refine ⟨?_, ?_, ?_⟩
  · have ht : standard.parse "\\$\x7ba\x7d|'\\\\x\\" = .ok ⟨["$\x7ba\x7d|'\\x"], []⟩ :=
      parse_eq_ok (by decide +kernel)
    obtain ⟨t, hparse, -, hplain, -⟩ := parse_plain "\\$\x7ba\x7d|'\\\\x\\"
    cases ht.symm.trans hparse
    obtain ⟨htree, hrender⟩ := hplain rfl
    rw [← (List.cons.inj (congrArg Template.literals htree)).1] at hrender
    exact ⟨hparse, hrender⟩
  · have hstart : HasStart "x\\\\$\x7ba".toList := ⟨['x'], 1, ['a'], by decide +kernel, by decide⟩
    obtain ⟨t, hparse, hvariables, -⟩ := parse_plain "x\\\\$\x7ba"
    exact ⟨hstart, t, hparse, hvariables.mpr hstart⟩
  · obtain ⟨t, -, -, -, hitself⟩ := parse_plain "$a\x7d : 'b"
    refine hitself (by decide +kernel) fun hstart => ?_
    obtain ⟨front, more, htext⟩ := hstart
    have hmem : '{' ∈ "$a\x7d : 'b".toList := by simp [← htext]
    exact absurd hmem (by decide +kernel)

end TextTemplate
