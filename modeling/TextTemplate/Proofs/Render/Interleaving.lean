import TextTemplate.Render.Evaluate

/-! # Literals and variables in turn

A tree may hold any numbers of literals and variables.  Its parts are all of its literals,
each but the first behind the next variable while there are any, and the variables that come
before some literal (`Template.filterMap_literal_parts`, `Template.filterMap_placeholder_parts`,
`Template.getElem?_parts`).  So the text of a tree is the text of its parts: a variable that
is missing adds nothing, and a variable without a literal behind it is left out
(`Template.renderWith_interleaves`).

The text of a variable is that of its value, sent through the stages that its registered
pipes are (`Variable.render_eq_foldl`).  Other pipes may as well not be there. -/
namespace TextTemplate

/-! ## Parts -/

namespace Part

/-- The text of a literal part. -/
def literal? : Part → Option String
  | .literal text => some text
  | .variable _ => none

/-- The variable of a part that is one. -/
def placeholder? : Part → Option Variable
  | .literal _ => none
  | .variable v => some v

@[simp] theorem literal?_literal (text : String) : literal? (.literal text) = some text := rfl

@[simp] theorem literal?_variable (v : Variable) : literal? (.variable v) = none := rfl

@[simp] theorem placeholder?_literal (text : String) : placeholder? (.literal text) = none := rfl

@[simp] theorem placeholder?_variable (v : Variable) : placeholder? (.variable v) = some v := rfl

end Part

namespace Template

theorem filterMap_literal_interleave (ls : List String) (vs : List Variable) :
    (interleave ls vs).filterMap Part.literal? = ls := by
  induction ls generalizing vs with
  | nil => rfl
  | cons l ls ih => cases vs <;> simp [interleave, List.filterMap_cons, ih]

theorem filterMap_placeholder_interleave (ls : List String) (vs : List Variable) :
    (interleave ls vs).filterMap Part.placeholder? = vs.take ls.length := by
  induction ls generalizing vs with
  | nil => rfl
  | cons l ls ih => cases vs <;> simp [interleave, List.filterMap_cons, ih]

/-- While there are variables, they take turns with literals. -/
theorem getElem?_interleave {ls : List String} {vs : List Variable} {i : Nat}
    (hl : i < ls.length) (hv : i < vs.length) :
    (interleave ls vs)[2 * i]? = some (.variable vs[i]) ∧
      (interleave ls vs)[2 * i + 1]? = some (.literal ls[i]) := by
  induction ls generalizing vs i with
  | nil => simp at hl
  | cons l ls ih =>
    cases vs with
    | nil => simp at hv
    | cons v vs =>
      cases i with
      | zero => exact ⟨rfl, rfl⟩
      | succ i => exact ih (Nat.lt_of_succ_lt_succ hl) (Nat.lt_of_succ_lt_succ hv)

/-- The literals of the parts are all the literals. -/
theorem filterMap_literal_parts (t : Template) :
    t.parts.filterMap Part.literal? = t.literals := by
  obtain ⟨_ | ⟨l, ls⟩, vs⟩ := t
  · rfl
  · simp [parts, filterMap_literal_interleave]

/-- The variables of the parts are those with a literal behind them. -/
theorem filterMap_placeholder_parts (t : Template) :
    t.parts.filterMap Part.placeholder? =
      t.placeholders.take (min (t.literals.length - 1) t.placeholders.length) := by
  obtain ⟨_ | ⟨l, ls⟩, vs⟩ := t
  · simp [parts]
  · simp [parts, List.filterMap_cons, filterMap_placeholder_interleave]

/-- A variable with a literal behind it stands right between that literal and the one of its
own number. -/
theorem getElem?_parts {t : Template} {i : Nat} (hl : i + 1 < t.literals.length)
    (hv : i < t.placeholders.length) :
    t.parts[2 * i]? = some (.literal t.literals[i]) ∧
      t.parts[2 * i + 1]? = some (.variable t.placeholders[i]) ∧
      t.parts[2 * i + 2]? = some (.literal t.literals[i + 1]) := by
  obtain ⟨_ | ⟨l, ls⟩, vs⟩ := t
  · simp at hl
  · have hls : i < ls.length := Nat.lt_of_succ_lt_succ hl
    obtain ⟨hvariable, hliteral⟩ := getElem?_interleave hls hv
    refine ⟨?_, hvariable, hliteral⟩
    cases i with
    | zero => rfl
    | succ i => exact (getElem?_interleave (Nat.lt_of_succ_lt hls) (Nat.lt_of_succ_lt hv)).2

end Template

/-! ## Pipes -/

namespace Variable

/-- What the registered pipes of a variable do to a text, one after the other. -/
def stages (registry : Registry) (v : Variable) : List (String → String) :=
  v.pipes.filterMap fun p => (registry.get? p.name).map fun f text => f text p.parameters

/-- The variable with its registered pipes only. -/
def registeredOnly (registry : Registry) (v : Variable) : Variable :=
  { v with pipes := v.pipes.filter fun p => registry.contains p.name }

variable (registry : Registry) (lookup : String → Value) (v : Variable)

/-- **The text of a variable is that of its value, sent through its stages.** -/
theorem render_eq_foldl :
    v.render registry lookup =
      (v.stages registry).foldl (fun text stage => stage text) (lookup v.name).toText := by
  unfold render stages applyPipes
  generalize (lookup v.name).toText = text
  induction v.pipes generalizing text with
  | nil => rfl
  | cons p ps ih =>
    rw [List.foldl_cons, ih]
    cases hp : registry.get? p.name with
    | none => simp [hp]
    | some f => simp [hp]

/-- Pipes that nobody registered are no stages. -/
theorem stages_registeredOnly : (v.registeredOnly registry).stages registry = v.stages registry := by
  unfold stages registeredOnly
  rw [List.filterMap_filter]
  congr 1
  funext p
  cases hp : registry.get? p.name <;> simp [Registry.contains, hp]

theorem render_registeredOnly :
    (v.registeredOnly registry).render registry lookup = v.render registry lookup := by
  rw [render_eq_foldl, render_eq_foldl, stages_registeredOnly]
  rfl

end Variable

/-! ## Text -/

namespace Template

/-- The tree with the registered pipes of its variables only. -/
def registeredOnly (registry : Registry) (t : Template) : Template :=
  { t with placeholders := t.placeholders.map (·.registeredOnly registry) }

variable (registry : Registry) (lookup : String → Value)

/-- The text of literals behind variables, some of which may be missing. -/
theorem join_render_interleave (ls : List String) (vs : List Variable) :
    String.join ((interleave ls vs).map (Part.render registry lookup)) =
      String.join (ls.mapIdx fun i l => (vs[i]?.elim "" (·.render registry lookup)) ++ l) := by
  induction ls generalizing vs with
  | nil => rfl
  | cons l ls ih =>
    cases vs with
    | nil => simp [interleave, Part.render, ih]
    | cons v vs => simp [interleave, Part.render, ih, String.append_assoc]

theorem interleave_registeredOnly (ls : List String) (vs : List Variable) :
    (interleave ls (vs.map (·.registeredOnly registry))).map (Part.render registry lookup) =
      (interleave ls vs).map (Part.render registry lookup) := by
  induction ls generalizing vs with
  | nil => rfl
  | cons l ls ih =>
    cases vs with
    | nil => rfl
    | cons v vs => simp [interleave, Part.render, ih, Variable.render_registeredOnly]

/-- **The text of a tree, whatever numbers of literals and variables it has.**  Without
literals it is empty.  Otherwise it is the first literal and then the others, each behind the
text of the variable whose turn it is, if there is one; that text is the text of the value,
sent from left to right through the registered pipes with their parameters.  So pipes that
nobody registered may be taken out.  The parts of the tree are in that order: all literals,
and the variables that have a literal behind them, each between its two literals. -/
theorem renderWith_interleaves :
    (∀ vs, (Template.mk [] vs).renderWith registry lookup = "") ∧
    (∀ l ls vs, (Template.mk (l :: ls) vs).renderWith registry lookup =
      l ++ String.join (ls.mapIdx fun i m => (vs[i]?.elim "" fun v =>
        (v.stages registry).foldl (fun text stage => stage text) (lookup v.name).toText) ++ m)) ∧
    (∀ t : Template, (t.registeredOnly registry).renderWith registry lookup =
      t.renderWith registry lookup) ∧
    ∀ t : Template,
      t.parts.filterMap Part.literal? = t.literals ∧
      t.parts.filterMap Part.placeholder? =
        t.placeholders.take (min (t.literals.length - 1) t.placeholders.length) ∧
      ∀ (i : Nat) (hl : i + 1 < t.literals.length) (hv : i < t.placeholders.length),
        t.parts[2 * i]? = some (.literal t.literals[i]) ∧
          t.parts[2 * i + 1]? = some (.variable t.placeholders[i]) ∧
          t.parts[2 * i + 2]? = some (.literal t.literals[i + 1]) := by
  refine ⟨fun vs => rfl, fun l ls vs => ?_, fun t => ?_, fun t =>
    ⟨t.filterMap_literal_parts, t.filterMap_placeholder_parts, fun i => getElem?_parts⟩⟩
  · simp only [← Variable.render_eq_foldl]
    rw [← join_render_interleave]
    simp [renderWith, parts, Part.render]
  · obtain ⟨_ | ⟨l, ls⟩, vs⟩ := t
    · rfl
    · simp only [renderWith, parts, registeredOnly, List.map_cons, interleave_registeredOnly]

/-- Two places for variables and one variable, with a pipe that is not registered before two
that are. -/
theorem renderWith_interleaves_missing :
    (Template.mk ["<", "|", ">"] [⟨"x", [⟨"nope", []⟩, ⟨"default", ["y"]⟩, ⟨"upper", []⟩]⟩]).renderWith
        .builtins (fun _ => .null) = "<Y|>" ∧
      (Template.mk ["<", "|", ">"] [⟨"x", []⟩]).parts[0]? = some (.literal "<") ∧
      (Template.mk ["<", "|", ">"] [⟨"x", []⟩]).parts[1]? = some (.variable ⟨"x", []⟩) ∧
      (Template.mk ["<", "|", ">"] [⟨"x", []⟩]).parts[2]? = some (.literal "|") := by
  obtain ⟨-, htext, -, hparts⟩ := renderWith_interleaves .builtins fun _ => .null
  refine ⟨?_, (hparts ⟨["<", "|", ">"], [⟨"x", []⟩]⟩).2.2 0 (by decide) (by decide)⟩
  rw [htext]
  decide +kernel

end Template
end TextTemplate
