import TextTemplate.CommandLine.Run
import TextTemplate.Proofs.CommandLine.Arguments
import TextTemplate.Proofs.Json.Writing

/-! # Reading a printed tree back

A run that is asked for the tree prints it instead of rendering it.  Nothing is lost by that:
the printed text describes the tree it was printed from and no other, so the tree that is read
back renders as the template itself does. -/
namespace TextTemplate.CommandLine.Arguments

/-- The tree that a printed text describes. -/
def readDumped? (text : String) : Option Template := (Json.read? text).bind Json.toTemplate?

theorem document_dumped (t : Template) :
    Json.Document .json Json.nestingLimit t.toValue (Json.prettyTemplate t ++ ['\n']) := by
  have ht : Json.Spelled .json Json.nestingLimit t.toValue (Json.prettyTemplate t) :=
    (Json.prettyTemplate_spelled t).mono .rfl (by decide)
  exact .intro (a := []) nofun ht (Json.blank_newline 0)

/-- A printed tree is read back. -/
theorem readDumped?_dumped (t : Template) : readDumped? (dumped t) = some t := by
  rw [readDumped?, dumped, Json.read?_of_document (document_dumped t)]
  exact Json.toTemplate?_toValue t

/-- No two trees are printed alike. -/
theorem dumped_inj {s t : Template} : dumped s = dumped t ↔ s = t := by
  constructor
  · intro h
    have hs := readDumped?_dumped s
    rw [h, readDumped?_dumped t] at hs
    exact (Option.some.inj hs).symm
  · rintro rfl
    rfl

/-- **Rendering the tree that is read back is rendering the template.**  That holds for every
tree, for every text in every dialect with any variables and pipes, and between the two runs
that command-line arguments ask for with and without the flag for the tree: where either run
fails, so does the other, and with the same error. -/
theorem renders_alike_read_back :
    (∀ t : Template, readDumped? (dumped t) = some t) ∧
    (∀ (d : Dialect) (text : String) (vars : Variables) (registry : Registry),
      (d.parse text).map (fun t => (readDumped? (dumped t)).map (·.render vars registry)) =
        (d.render text vars registry).map some) ∧
    ∀ (a : Arguments) (inputs : Inputs),
      (do
        let printed ← { a with dump := true }.run inputs
        let vars ← a.bindings inputs
        return (readDumped? printed).map (·.render vars .builtins)) =
        ({ a with dump := false }.run inputs).map some := by
  refine ⟨readDumped?_dumped, fun d text vars registry => ?_, fun a inputs => ?_⟩
  · simp only [readDumped?_dumped, Option.map_some, Dialect.render]
    cases d.parse text <;> rfl
  · -- whether the tree is asked for matters to no stage before the last
    have htext : ∀ dump, { a with dump := dump }.templateText inputs = a.templateText inputs :=
      fun _ => rfl
    have hdialect : ∀ dump, { a with dump := dump }.dialect inputs = a.dialect inputs :=
      fun _ => rfl
    have hvars : ∀ dump, { a with dump := dump }.bindings inputs = a.bindings inputs :=
      fun _ => rfl
    simp only [run, htext, hdialect, hvars]
    cases a.templateText inputs with
    | error e => rfl
    | ok text =>
      cases a.dialect inputs with
      | error e => rfl
      | ok d =>
        rw [ok_bind, ok_bind, ok_bind, ok_bind]
        cases d.parse text with
        | error e => rfl
        | ok t =>
          cases a.bindings inputs with
          | error e => rfl
          | ok vars =>
            show Except.ok ((readDumped? (dumped t)).map (·.render vars .builtins)) =
              Except.ok (some (t.render vars .builtins))
            rw [readDumped?_dumped, Option.map_some]

end TextTemplate.CommandLine.Arguments
