import TextTemplate.Proofs.Scan.Enclosed
import TextTemplate.Render.Evaluate

/-! # Texts chosen by a count

The plural pipe chooses one of its parameters by the count that the value is, and writes the
count for each number sign of the parameter (`Pipes.fillCount_eq_withCount`).  With braces
around the parameters, any balanced text can be one, so the placeholder is rendered as the
chosen text with the count in it (`Dialect.render_plural`). -/
namespace TextTemplate

/-! ## Counts -/

/-- The count that a value is: its text, and zero if it has none. -/
def Value.count (v : Value) : String :=
  if v.toText = "" then "0" else v.toText

/-- A text with a count between the pieces that its number signs separate. -/
def withCount (count text : String) : String :=
  String.ofList (count.toList.intercalate (text.toList.splitOn '#'))

/-- Writing a text for each sign is writing it between the pieces that the sign separates. -/
theorem flatMap_eq_intercalate_splitOn (sign : Char) (insert cs : List Char) :
    (cs.flatMap fun c => if c = sign then insert else [c]) =
      insert.intercalate (cs.splitOn sign) := by
  induction cs with
  | nil => rfl
  | cons c cs ih =>
    rw [List.flatMap_cons, ih, List.splitOn_cons_eq_if_modifyHead]
    by_cases hc : c = sign
    · rw [if_pos hc, if_pos (by simpa using hc),
        List.intercalate_cons_of_ne_nil (List.splitOn_ne_nil sign cs), List.nil_append]
    · obtain ⟨piece, pieces, hpieces⟩ :=
        List.exists_cons_of_ne_nil (List.splitOn_ne_nil sign cs)
      rw [if_neg hc, if_neg (by simpa using hc), hpieces, List.modifyHead_cons,
        List.intercalate_cons_cons_left, List.singleton_append]

namespace Pipes

/-- **All number signs are replaced at once.** -/
theorem fillCount_eq_withCount (count text : String) :
    fillCount count text = withCount count text := by
  rw [fillCount, withCount, flatMap_eq_intercalate_splitOn]

/-- The plural pipe writes the count of the value into the parameter that the count selects. -/
theorem plural_toText (v : Value) {parameters : List String} {branch : String}
    (h : branch? v.count parameters = some branch) :
    plural v.toText parameters = withCount v.count branch := by
  have hcount : (if v.toText.isEmpty then "0" else v.toText) = v.count := by
    simp [Value.count]
  rw [plural, hcount, h]
  exact fillCount_eq_withCount _ _

end Pipes

/-! ## Placeholders -/

namespace Dialect

/-- The parameters of a pipe, each in braces behind its delimiter. -/
def braced (parameters : List String) : List Char :=
  parameters.flatMap fun p => ':' :: '{' :: (p.toList ++ ['}'])

/-- A placeholder with balanced parameters in braces is read as it looks. -/
theorem parse_braced {name pipe text : String} {parameters : List String}
    (hname : ∀ c ∈ name.toList, Plain c) (hpipe : ∀ c ∈ pipe.toList, Plain c)
    (hparameters : ∀ p ∈ parameters, Quoting.Balanced '{' '}' p.toList)
    (htext : text.toList =
      '$' :: '{' :: (name.toList ++ '|' :: (pipe.toList ++ (braced parameters ++ ['}'])))) :
    (standard.quotedBy .standard .standardBraces).parse text =
      .ok ⟨["", ""], [⟨name, [⟨pipe, parameters⟩]⟩]⟩ := by
  have henclosed : ∀ p ∈ parameters.map fun p => (p, "\x7b" ++ p ++ "\x7d"),
      Enclosed .standardBraces p.1.toList p.2.toList := by
    intro p hp
    obtain ⟨content, hcontent, rfl⟩ := List.mem_map.mp hp
    have hbraces : ("\x7b" ++ content ++ "\x7d").toList = '{' :: (content.toList ++ ['}']) := by
      simp [String.toList_append]
    rw [hbraces]
    exact .braces (hparameters content hcontent)
  have hwhole : (parameters.map fun p => (p, "\x7b" ++ p ++ "\x7d")).flatMap
      (fun p => ':' :: p.2.toList) = braced parameters := by
    simp [braced, List.flatMap_map, String.toList_append]
  have hcontents : (parameters.map fun p => (p, "\x7b" ++ p ++ "\x7d")).map (·.1) = parameters := by
    simp [Function.comp_def]
  have hparse := parse_of_enclosed (.inl rfl) (fun c hc => (hname c hc).bare)
    (fun c hc => (hpipe c hc).bare) henclosed (by rw [hwhole]; exact htext)
  rwa [hcontents] at hparse

/-- A placeholder with the plural pipe is rendered as the parameter that the count of the
variable selects. -/
theorem render_plural_of_branch {name text : String} {parameters : List String} {vars : Variables}
    {n : Value} {branch : String} (hname : ∀ c ∈ name.toList, Plain c)
    (hbound : vars.resolve name = n)
    (hparameters : ∀ p ∈ parameters, Quoting.Balanced '{' '}' p.toList)
    (htext : text.toList =
      '$' :: '{' :: (name.toList ++ '|' :: ("plural".toList ++ (braced parameters ++ ['}']))))
    (hbranch : Pipes.branch? n.count parameters = some branch) :
    (standard.quotedBy .standard .standardBraces).render text vars .builtins =
      .ok (withCount n.count branch) := by
  have hpipe : ∀ c ∈ "plural".toList, Plain c := by
    intro c hc
    exact .of_isAlphanum (List.all_eq_true.mp (by decide +kernel) c hc)
  have hplural : Registry.builtins.get? "plural" = some Pipes.plural := rfl
  have hrender : Variable.render .builtins vars.resolve ⟨name, [⟨"plural", parameters⟩]⟩ =
      withCount n.count branch := by
    simp only [Variable.render, applyPipes, List.foldl_cons, List.foldl_nil, hplural, hbound]
    exact Pipes.plural_toText n hbranch
  rw [Dialect.render, parse_braced hname hpipe hparameters htext, Except.map, Template.render,
    Template.renderWith]
  simp [Template.parts, Template.interleave, Part.render, hrender]

/-- **Texts for one, for other counts and for zero, from the template to the output.**  The name
may hold any characters that need no quotes.  The texts stand in braces and may be any balanced
ones, with delimiters and placeholders in them.  The count is the text of the value that the name
stands for, or zero if that is empty.  It chooses one of the texts, zero the last one only if
there are three of them, and stands in it for every number sign; the rest of the text is kept,
and so are number signs of the count. -/
theorem render_plural {name : String} {vars : Variables} {n : Value} {one other : String}
    (hname : ∀ c ∈ name.toList, Plain c) (hbound : vars.resolve name = n)
    (hone : Quoting.Balanced '{' '}' one.toList) (hother : Quoting.Balanced '{' '}' other.toList) :
    (∀ zero : String, Quoting.Balanced '{' '}' zero.toList →
      (standard.quotedBy .standard .standardBraces).render
          ("$\x7b" ++ name ++ "|plural:\x7b" ++ one ++ "\x7d:\x7b" ++ other ++ "\x7d:\x7b" ++ zero ++
            "\x7d\x7d") vars .builtins =
        .ok (withCount n.count
          (if n.count = "1" then one else if n.count = "0" then zero else other))) ∧
    (standard.quotedBy .standard .standardBraces).render
        ("$\x7b" ++ name ++ "|plural:\x7b" ++ one ++ "\x7d:\x7b" ++ other ++ "\x7d\x7d") vars
        .builtins =
      .ok (withCount n.count (if n.count = "1" then one else other)) := by
  refine ⟨fun zero hzero => ?_, ?_⟩
  · have hparameters : ∀ p ∈ [one, other, zero], Quoting.Balanced '{' '}' p.toList := by
      simp [hone, hother, hzero]
    refine render_plural_of_branch hname hbound hparameters ?_ rfl
    simp [braced, String.toList_append]
  · have hparameters : ∀ p ∈ [one, other], Quoting.Balanced '{' '}' p.toList := by
      simp [hone, hother]
    refine render_plural_of_branch hname hbound hparameters ?_ rfl
    simp [braced, String.toList_append]

/-- A count with a number sign in it, under a path, and texts with delimiters, a placeholder, and
a brace that does not count. -/
theorem render_plural_delimiters :
    Variables.resolve [("n", .object [("v", .string "1#")])] "n.v" = .string "1#" ∧
    Quoting.Balanced '{' '}' "$\x7bx|q:\x7b#\x7d\x7d:#".toList ∧
    Quoting.Balanced '{' '}' "\\\x7d|'".toList ∧
    (standard.quotedBy .standard .standardBraces).render
        "$\x7bn.v|plural:\x7b#\x7d:\x7b$\x7bx|q:\x7b#\x7d\x7d:#\x7d:\x7b\\\x7d|'\x7d\x7d"
        [("n", .object [("v", .string "1#")])] .builtins = .ok "$\x7bx|q:\x7b1#\x7d\x7d:1#" ∧
    (standard.quotedBy .standard .standardBraces).render
        "$\x7bn.v|plural:\x7b#\x7d:\x7b$\x7bx|q:\x7b#\x7d\x7d:#\x7d\x7d"
        [("n", .object [("v", .string "1#")])] .builtins = .ok "$\x7bx|q:\x7b1#\x7d\x7d:1#" := by
  have hone : Quoting.Balanced '{' '}' "#".toList :=
    (Quoting.balanced_iff_depthAfter (by decide)).mpr (by decide +kernel)
  have hother : Quoting.Balanced '{' '}' "$\x7bx|q:\x7b#\x7d\x7d:#".toList :=
    (Quoting.balanced_iff_depthAfter (by decide)).mpr (by decide +kernel)
  have hzero : Quoting.Balanced '{' '}' "\\\x7d|'".toList :=
    (Quoting.balanced_iff_depthAfter (by decide)).mpr (by decide +kernel)
  have hname : ∀ c ∈ "n.v".toList, Plain c := by
    have hchars : "n.v".toList = ['n', '.', 'v'] := by decide +kernel
    have hn : Plain 'n' := by decide
    have hdot : Plain '.' := by decide
    have hv : Plain 'v' := by decide
    rw [hchars]
    exact List.forall_mem_cons.mpr
      ⟨hn, List.forall_mem_cons.mpr ⟨hdot, List.forall_mem_singleton.mpr hv⟩⟩
  have hbound : Variables.resolve [("n", .object [("v", .string "1#")])] "n.v" = .string "1#" := by
    rfl
  obtain ⟨hthree, htwo⟩ := render_plural hname hbound hone hother
  have hthree := hthree "\\\x7d|'" hzero
  have hfilled : withCount (Value.string "1#").count "$\x7bx|q:\x7b#\x7d\x7d:#" =
      "$\x7bx|q:\x7b1#\x7d\x7d:1#" := by decide +kernel
  have hone_ne : (Value.string "1#").count ≠ "1" := by decide +kernel
  have hzero_ne : (Value.string "1#").count ≠ "0" := by decide +kernel
  rw [if_neg hone_ne, hfilled] at htwo
  rw [if_neg hone_ne, if_neg hzero_ne, hfilled] at hthree
  exact ⟨hbound, hother, hzero, hthree, htwo⟩

/-- Only the text counts: a list of one is one, and one as a fraction is another count. -/
example : (Value.array [.number (.int 1)]).count = "1" ∧ (Value.number (.int 0)).count = "0" ∧
    (Value.number (.float ⟨false, 1 <<< 52, -52⟩)).count = "1.0" := by decide +kernel

end Dialect
end TextTemplate
