import TextTemplate.CommandLine.Run
import TextTemplate.Proofs.CommandLine.Arguments
import TextTemplate.Proofs.Dialect.Settings
import TextTemplate.Proofs.Render.Dependence
import TextTemplate.Proofs.Settings.Assignment

/-! # The stages of a run

A run of a command line goes through stages: the text of the template, the dialect, the tree,
and then either its dump or the variables, the assignments and the rendered text.  `Outcome`
says what a run comes to, one rule for each stage that can fail and one for each way to
succeed; a rule asks that the stages before it succeed and says nothing about those behind it.
`Arguments.run_eq_iff_outcome` says that runs follow these rules.

A variable that is assigned has the value of its last assignment, and is found under its
whole name whatever else is bound (`Arguments.resolve_of_bindings`).  All of it is stated of a
command line in `Arguments.run_decided_by_stages`. -/
namespace TextTemplate.CommandLine

/-! ## Assignments -/

/-- The variable and the value of an assignment. -/
def assigned? (text : String) : Option (String × Value) := (readAssignment text).toOption

/-- The value of the last assignment to a variable. -/
def lastAssigned? (assignments : List String) (key : String) : Option Value :=
  (((assignments.filterMap assigned?).filter (·.1 == key)).getLast?).map (·.2)

/-- The error of the first text that is no assignment, having no equals sign. -/
inductive FirstMalformed : List String → Error → Prop
  | here {text : String} {texts : List String} (h : '=' ∉ text.toList) :
      FirstMalformed (text :: texts) (.bindings (.notAssignment text))
  | later {text : String} {texts : List String} {e : Error} (ht : '=' ∈ text.toList)
      (h : FirstMalformed texts e) : FirstMalformed (text :: texts) e

theorem exists_firstMalformed_or (texts : List String) :
    (∃ e, FirstMalformed texts e) ∨ ∀ text ∈ texts, '=' ∈ text.toList := by
  induction texts with
  | nil => exact .inr fun text ht => absurd ht List.not_mem_nil
  | cons text texts ih =>
    by_cases ht : '=' ∈ text.toList
    · rcases ih with ⟨e, he⟩ | hall
      · exact .inl ⟨e, .later ht he⟩
      · exact .inr (List.forall_mem_cons.mpr ⟨ht, hall⟩)
    · exact .inl ⟨_, .here ht⟩

theorem lastAssigned?_cons {text key : String} {value : Value}
    (h : readAssignment text = .ok (key, value)) (texts : List String) (other : String) :
    lastAssigned? (text :: texts) other =
      (lastAssigned? texts other).or (if key == other then some value else none) := by
  have htext : assigned? text = some (key, value) := by rw [assigned?, h]; rfl
  unfold lastAssigned?
  rw [List.filterMap_cons_some htext, List.filter_cons]
  by_cases hkey : key == other
  · rw [if_pos hkey, if_pos hkey, List.getLast?_cons]
    cases ((texts.filterMap assigned?).filter (·.1 == other)).getLast? <;> rfl
  · rw [if_neg hkey, if_neg hkey, Option.or_none]

namespace Arguments

theorem assignAll_cons_ok {text key : String} {value : Value}
    (h : readAssignment text = .ok (key, value)) (vars : Variables) (texts : List String) :
    assignAll vars (text :: texts) = assignAll (Entries.insert key value vars) texts := by
  rw [assignAll, List.foldlM_cons, Variables.assign, h]
  rfl

/-- Assignments fail at the first text that is none. -/
theorem assignAll_of_firstMalformed {texts : List String} {e : Error}
    (h : FirstMalformed texts e) (vars : Variables) :
    assignAll vars texts = .error (.assignment e) := by
  induction h generalizing vars with
  | here h =>
    rw [assignAll, List.foldlM_cons, Variables.assign, readAssignment_eq_error h]
    rfl
  | later ht h ih =>
    obtain ⟨key, value, hread⟩ := exists_readAssignment ht
    rw [assignAll_cons_ok hread]
    exact ih _

/-- **A variable holds the value of its last assignment**, or what it held before if there is
none. -/
theorem exists_assignAll {texts : List String} (h : ∀ text ∈ texts, '=' ∈ text.toList)
    (vars : Variables) :
    ∃ vars', assignAll vars texts = .ok vars' ∧
      ∀ key, Entries.get? vars' key = (lastAssigned? texts key).or (Entries.get? vars key) := by
  induction texts generalizing vars with
  | nil => exact ⟨vars, rfl, fun key => rfl⟩
  | cons text texts ih =>
    obtain ⟨htext, htexts⟩ := List.forall_mem_cons.mp h
    obtain ⟨key, value, hread⟩ := exists_readAssignment htext
    obtain ⟨vars', hvars', hget⟩ := ih htexts (Entries.insert key value vars)
    refine ⟨vars', by rw [assignAll_cons_ok hread, hvars'], fun other => ?_⟩
    rw [hget, lastAssigned?_cons hread, Entries.get?_insert]
    cases lastAssigned? texts other with
    | some v => rfl
    | none => split <;> rfl

end Arguments

/-! ## Stages -/

/-- What the text of the template comes to: the argument, or else what the file holds, or else
what the standard input holds. -/
inductive TemplateStage (a : Arguments) (inputs : Inputs) : Except Failure String → Prop
  | argument {text : String} (h : a.template = some text) : TemplateStage a inputs (.ok text)
  | file {path text : String} (ht : a.template = none) (hf : a.file = some path)
      (h : inputs.read path = .ok text) : TemplateStage a inputs (.ok text)
  | noFile {path : String} {cause : FileError} (ht : a.template = none) (hf : a.file = some path)
      (h : inputs.read path = .error cause) :
      TemplateStage a inputs (.error (.templateFile path cause))
  | standardInput {text : String} (ht : a.template = none) (hf : a.file = none)
      (h : decode inputs.standardInput = .ok text) : TemplateStage a inputs (.ok text)
  | noStandardInput {cause : FileError} (ht : a.template = none) (hf : a.file = none)
      (h : decode inputs.standardInput = .error cause) :
      TemplateStage a inputs (.error (.standardInput cause))

/-- What the dialect comes to: the standard one, or what a file of settings describes.  The
file is read, the settings are taken from its text, and then their patterns are read. -/
inductive DialectStage (a : Arguments) (inputs : Inputs) : Except Failure Dialect → Prop
  | standard (hc : a.config = none) : DialectStage a inputs (.ok .standard)
  | noFile {path : String} {cause : FileError} (hc : a.config = some path)
      (h : inputs.read path = .error cause) :
      DialectStage a inputs (.error (.settings path (.file path cause)))
  | noSettings {path text : String} {e : Error} (hc : a.config = some path)
      (ht : inputs.read path = .ok text) (h : DialectSettings.ofText text = .error e) :
      DialectStage a inputs (.error (.settings path e))
  | noPattern {path text : String} {s : DialectSettings} {e : Error} (hc : a.config = some path)
      (ht : inputs.read path = .ok text) (hs : DialectSettings.ofText text = .ok s)
      (h : FirstUnreadable s.patterns e) : DialectStage a inputs (.error (.settings path e))
  | described {path text : String} {s : DialectSettings} {d : Dialect} (hc : a.config = some path)
      (ht : inputs.read path = .ok text) (hs : DialectSettings.ofText text = .ok s)
      (h : s.toDialect = .ok d) : DialectStage a inputs (.ok d)

/-- What the variables that are loaded come to. -/
inductive VariablesStage (a : Arguments) (inputs : Inputs) : Except Failure Variables → Prop
  | nothing (hv : a.vars = none) : VariablesStage a inputs (.ok [])
  | noFile {path : String} {cause : FileError} (hv : a.vars = some path)
      (h : inputs.read path = .error cause) :
      VariablesStage a inputs (.error (.bindings path (.file path cause)))
  | noVariables {path text : String} {e : Error} (hv : a.vars = some path)
      (ht : inputs.read path = .ok text) (h : Variables.ofText text = .error e) :
      VariablesStage a inputs (.error (.bindings path e))
  | loaded {path text : String} {vars : Variables} (hv : a.vars = some path)
      (ht : inputs.read path = .ok text) (h : Variables.ofText text = .ok vars) :
      VariablesStage a inputs (.ok vars)

/-- What a run comes to. -/
inductive Outcome (a : Arguments) (inputs : Inputs) : Except Failure String → Prop
  | noTemplate {f : Failure} (h : TemplateStage a inputs (.error f)) : Outcome a inputs (.error f)
  | noDialect {text : String} {f : Failure} (ht : TemplateStage a inputs (.ok text))
      (h : DialectStage a inputs (.error f)) : Outcome a inputs (.error f)
  | noTree {text : String} {d : Dialect} {cause : ScanError}
      (ht : TemplateStage a inputs (.ok text)) (hd : DialectStage a inputs (.ok d))
      (h : d.parse text = .error cause) : Outcome a inputs (.error (.scan cause))
  | dumped {text : String} {d : Dialect} {t : Template} (ht : TemplateStage a inputs (.ok text))
      (hd : DialectStage a inputs (.ok d)) (h : d.parse text = .ok t) (hdump : a.dump = true) :
      Outcome a inputs (.ok (Arguments.dumped t))
  | noVariables {text : String} {d : Dialect} {t : Template} {f : Failure}
      (ht : TemplateStage a inputs (.ok text)) (hd : DialectStage a inputs (.ok d))
      (hp : d.parse text = .ok t) (hdump : a.dump = false)
      (h : VariablesStage a inputs (.error f)) : Outcome a inputs (.error f)
  | noAssignment {text : String} {d : Dialect} {t : Template} {loaded : Variables} {e : Error}
      (ht : TemplateStage a inputs (.ok text)) (hd : DialectStage a inputs (.ok d))
      (hp : d.parse text = .ok t) (hdump : a.dump = false)
      (hv : VariablesStage a inputs (.ok loaded)) (h : FirstMalformed a.assignments e) :
      Outcome a inputs (.error (.assignment e))
  | rendered {text : String} {d : Dialect} {t : Template} {loaded vars : Variables}
      (ht : TemplateStage a inputs (.ok text)) (hd : DialectStage a inputs (.ok d))
      (hp : d.parse text = .ok t) (hdump : a.dump = false)
      (hv : VariablesStage a inputs (.ok loaded)) (ha : ∀ x ∈ a.assignments, '=' ∈ x.toList)
      (hvars : ∀ key, Entries.get? vars key =
        (lastAssigned? a.assignments key).or (Entries.get? loaded key)) :
      Outcome a inputs (.ok (t.render vars .builtins))

variable {a : Arguments} {inputs : Inputs}

theorem templateStage_iff {r : Except Failure String} :
    TemplateStage a inputs r ↔ a.templateText inputs = r := by
  constructor
  · intro h
    cases h with
    | argument h => simp only [Arguments.templateText, h]
    | file ht hf h => simp only [Arguments.templateText, ht, hf, h]; rfl
    | noFile ht hf h => simp only [Arguments.templateText, ht, hf, h]; rfl
    | standardInput ht hf h => simp only [Arguments.templateText, ht, hf, h]; rfl
    | noStandardInput ht hf h => simp only [Arguments.templateText, ht, hf, h]; rfl
  · rintro rfl
    cases ht : a.template with
    | some text => simpa only [Arguments.templateText, ht] using .argument ht
    | none =>
      cases hf : a.file with
      | some path =>
        cases h : inputs.read path with
        | ok text => simpa only [Arguments.templateText, ht, hf, h] using .file ht hf h
        | error cause => simpa only [Arguments.templateText, ht, hf, h] using .noFile ht hf h
      | none =>
        cases h : decode inputs.standardInput with
        | ok text => simpa only [Arguments.templateText, ht, hf, h] using .standardInput ht hf h
        | error cause =>
          simpa only [Arguments.templateText, ht, hf, h] using .noStandardInput ht hf h

namespace Arguments

/-- A file that cannot be read describes no dialect. -/
theorem loadDialect_of_no_file {path : String} {cause : FileError}
    (h : inputs.read path = .error cause) :
    loadDialect inputs path = .error (.file path cause) := by
  rw [loadDialect, h]
  rfl

/-- The dialect of a file is that of the settings in its text. -/
theorem loadDialect_of_file {path text : String} (h : inputs.read path = .ok text) :
    loadDialect inputs path = (DialectSettings.ofText text).bind (·.toDialect) := by
  rw [loadDialect, h]
  rfl

/-- A file that cannot be read binds no variables. -/
theorem loadVariables_of_no_file {path : String} {cause : FileError}
    (h : inputs.read path = .error cause) :
    loadVariables inputs path = .error (.file path cause) := by
  rw [loadVariables, h]
  rfl

/-- The variables of a file are those that its text binds. -/
theorem loadVariables_of_file {path text : String} (h : inputs.read path = .ok text) :
    loadVariables inputs path = Variables.ofText text := by
  rw [loadVariables, h]
  rfl

end Arguments

theorem dialectStage_iff {r : Except Failure Dialect} :
    DialectStage a inputs r ↔ a.dialect inputs = r := by
  constructor
  · intro h
    cases h with
    | standard hc => simp only [Arguments.dialect, hc]
    | noFile hc h =>
      simp only [Arguments.dialect, hc, Arguments.loadDialect_of_no_file h]
      rfl
    | noSettings hc ht h =>
      simp only [Arguments.dialect, hc, Arguments.loadDialect_of_file ht, h, Except.bind]
      rfl
    | noPattern hc ht hs h =>
      simp only [Arguments.dialect, hc, Arguments.loadDialect_of_file ht, hs, Except.bind,
        DialectSettings.toDialect_of_firstUnreadable h]
      rfl
    | described hc ht hs h =>
      simp only [Arguments.dialect, hc, Arguments.loadDialect_of_file ht, hs, h, Except.bind]
      rfl
  · rintro rfl
    cases hc : a.config with
    | none => simpa only [Arguments.dialect, hc] using .standard hc
    | some path =>
      simp only [Arguments.dialect, hc]
      cases ht : inputs.read path with
      | error cause =>
        rw [Arguments.loadDialect_of_no_file ht]
        exact .noFile hc ht
      | ok text =>
        rw [Arguments.loadDialect_of_file ht]
        cases hs : DialectSettings.ofText text with
        | error e => exact .noSettings hc ht hs
        | ok s =>
          simp only [Except.bind]
          cases hd : s.toDialect with
          | error e => exact .noPattern hc ht hs (DialectSettings.toDialect_eq_error_iff.mp hd)
          | ok d => exact .described hc ht hs hd

theorem variablesStage_iff {r : Except Failure Variables} :
    VariablesStage a inputs r ↔ a.loaded inputs = r := by
  constructor
  · intro h
    cases h with
    | nothing hv => simp only [Arguments.loaded, hv]
    | noFile hv h =>
      simp only [Arguments.loaded, hv, Arguments.loadVariables_of_no_file h]
      rfl
    | noVariables hv ht h =>
      simp only [Arguments.loaded, hv, Arguments.loadVariables_of_file ht, h]
      rfl
    | loaded hv ht h =>
      simp only [Arguments.loaded, hv, Arguments.loadVariables_of_file ht, h]
      rfl
  · rintro rfl
    cases hv : a.vars with
    | none => simpa only [Arguments.loaded, hv] using .nothing hv
    | some path =>
      simp only [Arguments.loaded, hv]
      cases ht : inputs.read path with
      | error cause =>
        rw [Arguments.loadVariables_of_no_file ht]
        exact .noFile hv ht
      | ok text =>
        rw [Arguments.loadVariables_of_file ht]
        cases h : Variables.ofText text with
        | error e => exact .noVariables hv ht h
        | ok vars => exact .loaded hv ht h

/-! ## Runs -/

namespace Arguments

/-- A run that has its template and its dialect goes on with the tree. -/
theorem run_of_dialect {text : String} {d : Dialect} (ht : a.templateText inputs = .ok text)
    (hd : a.dialect inputs = .ok d) :
    a.run inputs = (d.parse text).mapError .scan >>= fun t =>
      if a.dump then .ok (dumped t) else (a.bindings inputs).map (t.render · .builtins) := by
  rw [run, ht, hd]
  rfl

/-- A run that has its tree prints it, or renders it with what is bound. -/
theorem run_of_tree {text : String} {d : Dialect} {t : Template}
    (ht : a.templateText inputs = .ok text) (hd : a.dialect inputs = .ok d)
    (hp : d.parse text = .ok t) :
    a.run inputs =
      if a.dump then .ok (dumped t) else (a.bindings inputs).map (t.render · .builtins) := by
  rw [run_of_dialect ht hd, hp]
  rfl

/-- Variables that are bound alike render alike. -/
theorem render_eq_of_get? {vars vars' : Variables}
    (h : ∀ key, Entries.get? vars key = Entries.get? vars' key) (t : Template)
    (registry : Registry) : t.render vars registry = t.render vars' registry :=
  Template.render_congr ⟨fun n _ => ⟨h n, h (firstStep n)⟩, fun _ _ _ _ => rfl⟩

/-- What is bound once the variables are loaded. -/
theorem bindings_of_loaded {loaded : Variables} (h : a.loaded inputs = .ok loaded) :
    a.bindings inputs = assignAll loaded a.assignments := by
  rw [bindings, h]
  rfl

/-- **Runs follow the stages.**  What a run gives is what the rules of the stages say, and they
say one thing. -/
theorem run_eq_iff_outcome {r : Except Failure String} :
    a.run inputs = r ↔ Outcome a inputs r := by
  constructor
  · rintro rfl
    cases ht : a.templateText inputs with
    | error f =>
      have hr : a.run inputs = .error f := by rw [run, ht]; rfl
      exact hr ▸ .noTemplate (templateStage_iff.mpr ht)
    | ok text =>
      have ht' := templateStage_iff.mpr ht
      cases hd : a.dialect inputs with
      | error f =>
        have hr : a.run inputs = .error f := by rw [run, ht, hd]; rfl
        exact hr ▸ .noDialect ht' (dialectStage_iff.mpr hd)
      | ok d =>
        have hd' := dialectStage_iff.mpr hd
        cases hp : d.parse text with
        | error cause =>
          have hr : a.run inputs = .error (.scan cause) := by
            rw [run_of_dialect ht hd, hp]
            rfl
          exact hr ▸ .noTree ht' hd' hp
        | ok t =>
          rw [run_of_tree ht hd hp]
          cases hdump : a.dump with
          | true => exact .dumped ht' hd' hp hdump
          | false =>
            cases hv : a.loaded inputs with
            | error f =>
              have hb : a.bindings inputs = .error f := by rw [bindings, hv]; rfl
              rw [hb]
              exact .noVariables ht' hd' hp hdump (variablesStage_iff.mpr hv)
            | ok loaded =>
              have hv' := variablesStage_iff.mpr hv
              rw [bindings_of_loaded hv]
              rcases exists_firstMalformed_or a.assignments with ⟨e, he⟩ | hall
              · rw [assignAll_of_firstMalformed he]
                exact .noAssignment ht' hd' hp hdump hv' he
              · obtain ⟨vars, hvars, hget⟩ := exists_assignAll hall loaded
                rw [hvars]
                exact .rendered ht' hd' hp hdump hv' hall hget
  · intro h
    cases h with
    | noTemplate h =>
      rw [run, templateStage_iff.mp h]
      rfl
    | noDialect ht h =>
      rw [run, templateStage_iff.mp ht, dialectStage_iff.mp h]
      rfl
    | noTree ht hd h =>
      rw [run_of_dialect (templateStage_iff.mp ht) (dialectStage_iff.mp hd), h]
      rfl
    | dumped ht hd h hdump =>
      rw [run_of_tree (templateStage_iff.mp ht) (dialectStage_iff.mp hd) h, hdump]
      rfl
    | noVariables ht hd hp hdump h =>
      rw [run_of_tree (templateStage_iff.mp ht) (dialectStage_iff.mp hd) hp, hdump, bindings,
        variablesStage_iff.mp h]
      rfl
    | noAssignment ht hd hp hdump hv h =>
      rw [run_of_tree (templateStage_iff.mp ht) (dialectStage_iff.mp hd) hp, hdump,
        bindings_of_loaded (variablesStage_iff.mp hv), assignAll_of_firstMalformed h]
      rfl
    | rendered ht hd hp hdump hv ha hvars =>
      obtain ⟨vars', hassign, hget⟩ := exists_assignAll ha _
      rw [run_of_tree (templateStage_iff.mp ht) (dialectStage_iff.mp hd) hp, hdump,
        bindings_of_loaded (variablesStage_iff.mp hv), hassign]
      exact congrArg Except.ok (render_eq_of_get? (fun key => (hget key).trans (hvars key).symm) _ _)

/-! ## What decides a run -/

/-- What is bound once the assignments have been made, if all of them are assignments. -/
theorem get?_of_bindings {vars : Variables} (h : a.bindings inputs = .ok vars) :
    ∃ loaded, a.loaded inputs = .ok loaded ∧ ∀ key, Entries.get? vars key =
      (lastAssigned? a.assignments key).or (Entries.get? loaded key) := by
  cases hv : a.loaded inputs with
  | error f =>
    rw [bindings, hv] at h
    cases h
  | ok loaded =>
    rw [bindings_of_loaded hv] at h
    rcases exists_firstMalformed_or a.assignments with ⟨e, he⟩ | hall
    · cases (assignAll_of_firstMalformed he loaded).symm.trans h
    · obtain ⟨vars', hvars', hget⟩ := exists_assignAll hall loaded
      cases hvars'.symm.trans h
      exact ⟨loaded, rfl, hget⟩

/-- **An assigned variable is found under its whole name**, with the value of its last
assignment, whatever is loaded. -/
theorem resolve_of_bindings {vars : Variables} {key : String} {value : Value}
    (h : a.bindings inputs = .ok vars) (hkey : lastAssigned? a.assignments key = some value) :
    vars.resolve key = value := by
  obtain ⟨loaded, -, hget⟩ := get?_of_bindings h
  rw [Variables.resolve, hget, hkey]
  rfl

/-- A template that is one variable renders as what is assigned to the variable. -/
theorem run_eq_of_assigned {text key out : String} {d : Dialect} {pipes : List Pipe}
    {value : Value} (ht : a.templateText inputs = .ok text) (hd : a.dialect inputs = .ok d)
    (hp : d.parse text = .ok ⟨["", ""], [⟨key, pipes⟩]⟩) (hdump : a.dump = false)
    (hkey : lastAssigned? a.assignments key = some value) (hrun : a.run inputs = .ok out) :
    out = applyPipes .builtins pipes value.toText := by
  rw [run_of_tree ht hd hp, hdump] at hrun
  cases hb : a.bindings inputs with
  | error f =>
    rw [hb] at hrun
    cases hrun
  | ok vars =>
    rw [hb] at hrun
    cases hrun
    rw [← resolve_of_bindings hb hkey]
    change String.join ["", applyPipes .builtins pipes (vars.resolve key).toText, ""] = _
    simp [String.join]

/-- A run that asks for the tree reads the template and the settings and nothing else. -/
theorem run_congr_of_dump {a' : Arguments} {inputs' : Inputs} (hdump : a.dump = true)
    (hdump' : a'.dump = true) (ht : a'.templateText inputs' = a.templateText inputs)
    (hd : a'.dialect inputs' = a.dialect inputs) : a'.run inputs' = a.run inputs := by
  rw [run, run, ht, hd, hdump, hdump']
  rfl

/-- A run fails for want of a tree only in a dialect some of whose patterns stray. -/
theorem not_anchored_of_run {cause : ScanError} (h : a.run inputs = .error (.scan cause)) :
    ∃ d, a.dialect inputs = .ok d ∧ ¬ d.Anchored := by
  have houtcome := run_eq_iff_outcome.mp h
  cases houtcome with
  | noTemplate h => cases h
  | noDialect ht h => cases h
  | noTree ht hd h =>
    refine ⟨_, dialectStage_iff.mp hd, fun hanchored => ?_⟩
    obtain ⟨t, hparse⟩ := hanchored.exists_parse _
    cases hparse.symm.trans h
  | noVariables ht hd hp hdump h => cases h

/-- A command line does not name two templates. -/
theorem one_template {args : List String} (h : readArguments args = .ok a) :
    a.template = .none ∨ a.file = .none := by
  rw [readArguments] at h
  cases hp : args.foldlM Progress.read .start >>= Progress.settle with
  | error e =>
    rw [← bind_assoc, hp] at h
    cases h
  | ok p =>
    rw [← bind_assoc, hp, ok_bind] at h
    by_cases hboth : p.arguments.template.isSome && p.arguments.file.isSome
    · rw [if_pos hboth] at h
      cases h
    · rw [if_neg hboth] at h
      cases h
      cases ht : p.arguments.template with
      | none => exact .inl rfl
      | some text =>
        cases hf : p.arguments.file with
        | none => exact .inr rfl
        | some path => simp [ht, hf] at hboth

/-- The template is the same where its sources are. -/
theorem templateText_congr {a' : Arguments} {inputs' : Inputs} (ht : a'.template = a.template)
    (hf : a'.file = a.file) (hs : inputs'.standardInput = inputs.standardInput)
    (hfile : ∀ path, a.file = some path → inputs'.file? path = inputs.file? path) :
    a'.templateText inputs' = a.templateText inputs := by
  rw [templateText, templateText, ht, hf, hs]
  cases a.template with
  | some text => rfl
  | none =>
    cases hpath : a.file with
    | none => rfl
    | some path => simp only [Inputs.read, hfile path hpath]

/-- The dialect is the same where the file of settings is. -/
theorem dialect_congr {a' : Arguments} {inputs' : Inputs} (hc : a'.config = a.config)
    (hfile : ∀ path, a.config = some path → inputs'.file? path = inputs.file? path) :
    a'.dialect inputs' = a.dialect inputs := by
  rw [dialect, dialect, hc]
  cases hpath : a.config with
  | none => rfl
  | some path => simp only [loadDialect, Inputs.read, hfile path hpath]

/-- Runs that differ in the source of their template alone give the same where the template is
the same. -/
theorem run_congr_of_templateText {a' : Arguments} (hc : a'.config = a.config)
    (hv : a'.vars = a.vars) (ha : a'.assignments = a.assignments) (hdump : a'.dump = a.dump)
    (ht : a'.templateText inputs = a.templateText inputs) : a'.run inputs = a.run inputs := by
  rw [run, run, ht, hdump, dialect, hc, bindings, loaded, hv, ha]
  rfl

end Arguments

/-- **The stages decide a run.**  A command line that is accepted asks for a run in which the
first stage that fails decides the error, and which otherwise prints the tree or renders it
with what is assigned last, or else loaded.  A run that asks for the tree depends on the
template and the settings alone.  A variable that is assigned is found under its whole name,
with the value of its last assignment, whatever is loaded.  The text of the template gives the
same result wherever it comes from.  For want of a tree a run fails only in a dialect some of
whose patterns stray.  What is asked for can be asked for in words, with the assignments in
their order. -/
theorem run_decided_by_stages {args : List String} {a : Arguments}
    (h : readArguments args = .ok a) (inputs : Inputs) :
    (∀ r, a.run inputs = r ↔ Outcome a inputs r) ∧
    (a.dump = true → ∀ (a' : Arguments) (inputs' : Inputs), a'.dump = true →
      a'.template = a.template → a'.file = a.file → a'.config = a.config →
      inputs'.standardInput = inputs.standardInput →
      (∀ path, a.file = some path ∨ a.config = some path →
        inputs'.file? path = inputs.file? path) →
      a'.run inputs' = a.run inputs) ∧
    (∀ key value, lastAssigned? a.assignments key = some value →
      (∀ vars, a.bindings inputs = .ok vars → vars.resolve key = value) ∧
      ∀ text d pipes out, a.templateText inputs = .ok text → a.dialect inputs = .ok d →
        d.parse text = .ok ⟨["", ""], [⟨key, pipes⟩]⟩ → a.dump = false →
        a.run inputs = .ok out → out = applyPipes .builtins pipes value.toText) ∧
    (∀ text path, inputs.read path = .ok text → decode inputs.standardInput = .ok text →
      Arguments.run { a with template := none, file := some path } inputs =
        Arguments.run { a with template := some text, file := none } inputs ∧
      Arguments.run { a with template := none, file := none } inputs =
        Arguments.run { a with template := some text, file := none } inputs) ∧
    (∀ cause, a.run inputs = .error (.scan cause) →
      ∃ d, a.dialect inputs = .ok d ∧ ¬ d.Anchored) ∧
    readArguments a.words = .ok a := by
  refine ⟨fun r => Arguments.run_eq_iff_outcome, fun hdump a' inputs' hdump' ht hf hc hs hfiles => ?_,
    fun key value hkey => ⟨fun vars hvars => Arguments.resolve_of_bindings hvars hkey,
      fun text d pipes out ht hd hp hdump hrun =>
        Arguments.run_eq_of_assigned ht hd hp hdump hkey hrun⟩,
    fun text path hpath hinput => ?_, fun cause => Arguments.not_anchored_of_run,
    readArguments_words (Arguments.one_template h)⟩
  · exact Arguments.run_congr_of_dump hdump hdump'
      (Arguments.templateText_congr ht hf hs fun path hpath => hfiles path (.inl hpath))
      (Arguments.dialect_congr hc fun path hpath => hfiles path (.inr hpath))
  · constructor
    · refine Arguments.run_congr_of_templateText rfl rfl rfl rfl ?_
      simp only [Arguments.templateText, hpath]
      rfl
    · refine Arguments.run_congr_of_templateText rfl rfl rfl rfl ?_
      simp only [Arguments.templateText, hinput]
      rfl

/-- A dotted name that a file binds as a path, assigned twice: the last assignment counts. -/
theorem run_decided_by_stages_assigned :
    ∃ (a : Arguments) (inputs : Inputs),
      readArguments ["$\x7ba.b|upper\x7d", "-v", "v.yml", "-s", "a.b=1", "--set=a.b=x"] = .ok a ∧
      (inputs.read "v.yml").toOption = some "a: \x7bb: 2\x7d" ∧
      lastAssigned? a.assignments "a.b" = some (.string "x") ∧ a.run inputs = .ok "X" := by
  obtain ⟨a, ha⟩ : ∃ a : Arguments, a =
    ⟨some "$\x7ba.b|upper\x7d", none, none, some "v.yml", ["a.b=1", "a.b=x"], false⟩ := ⟨_, rfl⟩
  obtain ⟨inputs, hinputs⟩ : ∃ inputs : Inputs, inputs =
    ⟨"".toUTF8, fun path => if path = "v.yml" then some "a: \x7bb: 2\x7d".toUTF8 else none⟩ :=
    ⟨_, rfl⟩
  have hargs : readArguments
      ["$\x7ba.b|upper\x7d", "-v", "v.yml", "-s", "a.b=1", "--set=a.b=x"] = .ok a := by
    subst ha
    rfl
  have hfile : (inputs.read "v.yml").toOption = some "a: \x7bb: 2\x7d" := by
    subst hinputs
    decide +kernel
  have hfirst : readAssignment "a.b=1" = .ok ("a.b", assignedValue "1") := rfl
  have hlast : readAssignment "a.b=x" = .ok ("a.b", .string "x") := by
    have hnone : Json.read? "x" = none := Option.isNone_iff_eq_none.mp (by decide +kernel)
    have hvalue : assignedValue "x" = .string "x" := by
      rw [assignedValue, hnone]
      rfl
    rw [← hvalue]
    rfl
  have hkey : lastAssigned? a.assignments "a.b" = some (.string "x") := by
    subst ha
    rw [lastAssigned?_cons hfirst, lastAssigned?_cons hlast]
    rfl
  have hok : (a.run inputs).isOk = true := by
    subst ha hinputs
    decide +kernel
  obtain ⟨-, -, hassigned, -⟩ := run_decided_by_stages hargs inputs
  cases hrun : a.run inputs with
  | error f =>
    rw [hrun] at hok
    cases hok
  | ok out =>
    have hout : out = applyPipes .builtins [⟨"upper", []⟩] (Value.string "x").toText :=
      (hassigned "a.b" _ hkey).2 _ _ _ out (by subst ha; rfl) (by subst ha; rfl)
        (Dialect.parse_eq_ok (by decide +kernel)) (by subst ha; rfl) hrun
    have hupper : applyPipes .builtins [⟨"upper", []⟩] (Value.string "x").toText = "X" := by
      decide +kernel
    exact ⟨a, inputs, hargs, hfile, hkey, by rw [hrun, hout, hupper]⟩

end TextTemplate.CommandLine
