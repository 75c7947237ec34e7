import TextTemplate.Proofs.Render.Interleaving
import TextTemplate.Proofs.Scan.Tiling

/-! # What a rendered text depends on

A template refers to variables by their names and to pipes by theirs.  A name is looked up as
a whole and, if that fails, from its first step on (`Variables.resolve_congr`); a pipe is
looked up in the registry, where its last registration counts (`Registry.get?_registerAll`).
Nothing else of the variables and of the registry has a part in the text
(`Template.render_congr`, `Dialect.render_of_sameReferences`). -/
namespace TextTemplate

/-! ## Names -/

/-- The part of a name before its first dot. -/
def firstStep (name : String) : String :=
  String.ofList (name.toList.takeWhile (· ≠ '.'))

/-- The first piece between dots is the text before the first dot. -/
theorem exists_splitDots (cs : List Char) :
    ∃ pieces, splitDots cs = cs.takeWhile (· ≠ '.') :: pieces := by
  induction cs with
  | nil => exact ⟨[], rfl⟩
  | cons c cs ih =>
    obtain ⟨pieces, hpieces⟩ := ih
    by_cases hc : c = '.'
    · exact ⟨splitDots cs, by simp [splitDots, hc]⟩
    · exact ⟨pieces, by simp [splitDots, hc, hpieces]⟩

/-- **A name depends on two variables only**, the one of that name and the one of its first
step. -/
theorem Variables.resolve_congr {vars vars' : Variables} {name : String}
    (hname : Entries.get? vars name = Entries.get? vars' name)
    (hstep : Entries.get? vars (firstStep name) = Entries.get? vars' (firstStep name)) :
    vars.resolve name = vars'.resolve name := by
  obtain ⟨pieces, hpieces⟩ := exists_splitDots name.toList
  have hwalk : vars.walk? (splitDots name.toList) = vars'.walk? (splitDots name.toList) := by
    rw [hpieces, walk?, walk?]
    exact congrArg (Option.bind · _) hstep
  rw [resolve, resolve, hname, hwalk]

/-! ## Pipes -/

/-- Pipes that are registered alike are applied alike. -/
theorem applyPipes_congr {registry registry' : Registry} {pipes : List Pipe}
    (h : ∀ p ∈ pipes, registry.get? p.name = registry'.get? p.name) (text : String) :
    applyPipes registry pipes text = applyPipes registry' pipes text := by
  induction pipes generalizing text with
  | nil => rfl
  | cons p ps ih =>
    rw [List.forall_mem_cons] at h
    have hstep : applyPipes registry [p] text = applyPipes registry' [p] text := by
      simp [applyPipes, h.1]
    exact (congrArg (applyPipes registry ps) hstep).trans (ih h.2 _)

namespace Registry

/-- Registers several pipes one after the other. -/
def registerAll (registry : Registry) (entries : List (String × PipeFunction)) : Registry :=
  entries.foldl (fun r entry => r.register entry.1 entry.2) registry

/-- A name has the pipe of its last registration. -/
theorem get?_registerAll (registry : Registry) (entries : List (String × PipeFunction))
    (name : String) :
    (registry.registerAll entries).get? name =
      ((entries.filter (·.1 == name)).getLast?.map (·.2)).or (registry.get? name) := by
  induction entries generalizing registry with
  | nil => rfl
  | cons entry entries ih =>
    have hmore := ih (registry.register entry.1 entry.2)
    rw [get?_register] at hmore
    refine hmore.trans ?_
    rw [List.filter_cons]
    -- a later registration of the name, if there is one, hides this one
    by_cases hname : entry.1 == name
    · rw [if_pos hname, if_pos hname, List.getLast?_cons]
      cases (entries.filter (·.1 == name)).getLast? <;> rfl
    · rw [if_neg hname, if_neg hname]

end Registry

/-! ## Templates -/

/-- What a template refers to is the same: the variables that its names depend on, and the
pipes that its variables are sent through. -/
structure Template.SameReferences (t : Template) (vars vars' : Variables)
    (registry registry' : Registry) : Prop where
  names : ∀ n ∈ t.variableNames, Entries.get? vars n = Entries.get? vars' n ∧
    Entries.get? vars (firstStep n) = Entries.get? vars' (firstStep n)
  pipes : ∀ v ∈ t.placeholders, ∀ p ∈ v.pipes, registry.get? p.name = registry'.get? p.name

namespace Template

variable {t : Template} {vars vars' : Variables} {registry registry' : Registry}

/-- The variables of the parts are variables of the tree. -/
theorem mem_placeholders_of_mem_parts {v : Variable} (h : .variable v ∈ t.parts) :
    v ∈ t.placeholders := by
  have hmem : v ∈ t.parts.filterMap Part.placeholder? := List.mem_filterMap.mpr ⟨_, h, rfl⟩
  rw [filterMap_placeholder_parts] at hmem
  exact List.mem_of_mem_take hmem

/-- **The text of a tree depends on what the tree refers to only.** -/
theorem render_congr (h : t.SameReferences vars vars' registry registry') :
    t.render vars registry = t.render vars' registry' := by
  refine congrArg String.join (List.map_congr_left fun part hpart => ?_)
  cases part with
  | literal text => rfl
  | «variable» v =>
    have hv := mem_placeholders_of_mem_parts hpart
    obtain ⟨hname, hstep⟩ := h.names v.name (List.mem_map_of_mem hv)
    have hvalue : vars.resolve v.name = vars'.resolve v.name := Variables.resolve_congr hname hstep
    rw [Part.render, Part.render, Variable.render, Variable.render, hvalue]
    exact applyPipes_congr (h.pipes v hv) _

end Template

namespace Dialect

/-- A text is rendered as its tree is. -/
theorem render_congr {d : Dialect} {text : String} {vars vars' : Variables}
    {registry registry' : Registry}
    (h : ∀ t, d.parse text = .ok t → t.SameReferences vars vars' registry registry') :
    d.render text vars registry = d.render text vars' registry' := by
  unfold render
  cases hparse : d.parse text with
  | error e => rfl
  | ok t => exact congrArg Except.ok (Template.render_congr (h t hparse))

/-- **A rendered text depends on what its template refers to only.**  In any dialect it is the
same from other variables and with another registry, if these agree on the names of the
template, on the first steps of the names, and on the pipes.  So it does not matter whether a
variable is set that no name depends on, nor which pipe is registered under a name that is not
used, nor in which order pipes of different names are registered.  If the dialect is anchored,
there always is a text. -/
theorem render_of_sameReferences (d : Dialect) (text : String) :
    (∀ vars vars' registry registry',
      (∀ t, d.parse text = .ok t → t.SameReferences vars vars' registry registry') →
      d.render text vars registry = d.render text vars' registry') ∧
    (∀ vars registry key value,
      (∀ t, d.parse text = .ok t → ∀ n ∈ t.variableNames, key ≠ n ∧ key ≠ firstStep n) →
      d.render text (Entries.insert key value vars) registry = d.render text vars registry ∧
        d.render text (Entries.erase key vars) registry = d.render text vars registry) ∧
    (∀ vars registry name pipe,
      (∀ t, d.parse text = .ok t → ∀ v ∈ t.placeholders, ∀ p ∈ v.pipes, name ≠ p.name) →
      d.render text vars (registry.register name pipe) = d.render text vars registry) ∧
    (∀ vars (registry : Registry) entries entries',
      (∀ name, entries.filter (·.1 == name) = entries'.filter (·.1 == name)) →
      d.render text vars (registry.registerAll entries) =
        d.render text vars (registry.registerAll entries')) ∧
    (d.Anchored → ∀ vars registry, ∃ out, d.render text vars registry = .ok out) := by
  refine ⟨fun vars vars' registry registry' => render_congr, fun vars registry key value hkey => ?_,
    fun vars registry name pipe hname => ?_, fun vars registry entries entries' hsame => ?_,
    fun hd vars registry => ?_⟩
  · constructor
    · refine render_congr fun t ht => ⟨fun n hn => ?_, fun _ _ _ _ => rfl⟩
      obtain ⟨hwhole, hstep⟩ := hkey t ht n hn
      simp [Entries.get?_insert, hwhole, hstep]
    · refine render_congr fun t ht => ⟨fun n hn => ?_, fun _ _ _ _ => rfl⟩
      obtain ⟨hwhole, hstep⟩ := hkey t ht n hn
      simp [Entries.get?_erase, hwhole, hstep]
  · refine render_congr fun t ht => ⟨fun _ _ => ⟨rfl, rfl⟩, fun v hv p hp => ?_⟩
    simp [Registry.get?_register, hname t ht v hv p hp]
  · refine render_congr fun t _ => ⟨fun _ _ => ⟨rfl, rfl⟩, fun v _ p _ => ?_⟩
    rw [Registry.get?_registerAll, Registry.get?_registerAll, hsame]
  · obtain ⟨t, ht⟩ := hd.exists_parse text
    exact ⟨_, by rw [render, ht]; rfl⟩

/-- A path into a variable, rendered with one more variable and one more pipe, and with a
pipe registered again before another one. -/
theorem render_of_sameReferences_path :
    (∀ t, standard.parse "Hi $\x7buser.name|upper\x7d!" = .ok t →
      t.SameReferences [("user", .object [("name", .string "x")])]
        [("name", .string "y"), ("user", .object [("name", .string "x")])]
        .builtins (Registry.builtins.register "trim" Pipes.encode)) ∧
    standard.render "Hi $\x7buser.name|upper\x7d!" [("user", .object [("name", .string "x")])]
        .builtins = .ok "Hi X!" ∧
    standard.render "Hi $\x7buser.name|upper\x7d!"
        [("name", .string "y"), ("user", .object [("name", .string "x")])]
        (Registry.builtins.register "trim" Pipes.encode) = .ok "Hi X!" ∧
    standard.render "Hi $\x7buser.name|upper\x7d!" [("user", .object [("name", .string "x")])]
        (Registry.empty.registerAll [("upper", Pipes.lower), ("trim", Pipes.trim),
          ("upper", Pipes.upper)]) =
      standard.render "Hi $\x7buser.name|upper\x7d!" [("user", .object [("name", .string "x")])]
        (Registry.empty.registerAll [("trim", Pipes.trim), ("upper", Pipes.lower),
          ("upper", Pipes.upper)]) := by
  have hparse : standard.parse "Hi $\x7buser.name|upper\x7d!" =
      .ok ⟨["Hi ", "!"], [⟨"user.name", [⟨"upper", []⟩]⟩]⟩ := parse_eq_ok (by decide +kernel)
  have hsame : ∀ t, standard.parse "Hi $\x7buser.name|upper\x7d!" = .ok t →
      t.SameReferences [("user", .object [("name", .string "x")])]
        [("name", .string "y"), ("user", .object [("name", .string "x")])]
        .builtins (Registry.builtins.register "trim" Pipes.encode) := by
    intro t ht
    cases hparse.symm.trans ht
    have hstep : firstStep "user.name" = "user" := by decide +kernel
    refine ⟨List.forall_mem_singleton.mpr ?_,
      List.forall_mem_singleton.mpr (List.forall_mem_singleton.mpr ?_)⟩
    · simp [hstep, Entries.get?_cons]
    · simp [Registry.get?_register]
  obtain ⟨hrender, -, -, horder, -⟩ :=
    render_of_sameReferences standard "Hi $\x7buser.name|upper\x7d!"
  have htext : standard.render "Hi $\x7buser.name|upper\x7d!"
      [("user", .object [("name", .string "x")])] .builtins = .ok "Hi X!" := by
    rw [render, hparse]
    exact congrArg Except.ok (by decide +kernel)
  refine ⟨hsame, htext, ?_, horder _ _ _ _ fun name => ?_⟩
  · rw [← hrender _ _ _ _ hsame, htext]
  · by_cases hupper : "upper" = name
    · subst hupper
      rfl
    · by_cases htrim : "trim" = name <;> simp [hupper, htrim]

end Dialect
end TextTemplate
