import TextTemplate.CommandLine.Arguments

/-! # Arguments in words

Whatever is asked for can be asked for in words: each option by its word with its value behind
an equals sign, the assignments in their order, and the template behind a double hyphen
(`Arguments.words`).  The arguments are read back from their words (`readArguments_words`), so
every choice of template, files and assignments is that of a command line, unless it names
two templates. -/
namespace TextTemplate.CommandLine

/-- The word of an option, up to its value. -/
def ValueOption.word : ValueOption → String
  | .file => "--file="
  | .config => "--config="
  | .vars => "--vars="
  | .set => "--set="

/-- Arguments in words. -/
def Arguments.words (a : Arguments) : List String :=
  a.file.toList.map (ValueOption.file.word ++ ·) ++
    a.config.toList.map (ValueOption.config.word ++ ·) ++
    a.vars.toList.map (ValueOption.vars.word ++ ·) ++
    a.assignments.map (ValueOption.set.word ++ ·) ++
    (if a.dump then ["--ast"] else []) ++
    a.template.toList.flatMap fun text => ["--", text]

namespace Progress

/-- Nothing is left open, and options have not ended. -/
def reading (a : Arguments) : Progress := ⟨a, .nothing, false, false⟩

/-- An option in words gives its value. -/
theorem read_word (a : Arguments) (option : ValueOption) (value : String) :
    (reading a).read (option.word ++ value) = (a.give option value).map reading := by
  have hact : ∀ (a : Arguments) (option : ValueOption), (reading a).act (.take option)
      (some value.toList) = (a.give option value).map reading := by
    intro a option
    rw [act, settle, reading, String.ofList_toList]
    cases hgive : a.give option value with
    | error e => simp [bind, Except.bind, hgive, Except.map]
    | ok a' => simp [bind, Except.bind, hgive, Except.map, pure, Except.pure, reading]
  have hread : (reading a).read (option.word ++ value) =
      (reading a).readWord ((option.word ++ value).toList.drop 2) := by
    cases option <;> simp [read, reading, ValueOption.word]
  rw [hread, ← hact a option]
  cases option <;> simp [readWord, ValueOption.word, splitAssignment] <;> rfl

/-- Assignments in words are added in their order. -/
theorem foldlM_read_assignments (a : Arguments) (assignments : List String) :
    (assignments.map (ValueOption.set.word ++ ·)).foldlM read (reading a) =
      .ok (reading { a with assignments := a.assignments ++ assignments }) := by
  induction assignments generalizing a with
  | nil => rw [List.append_nil]; rfl
  | cons text assignments ih =>
    rw [List.map_cons, List.foldlM_cons, read_word]
    refine (ih _).trans ?_
    simp

/-- An option that takes one value is given the value that is asked for, if any is. -/
theorem foldlM_read_option {a a' : Arguments} {option : ValueOption} {value : Option String}
    (h : ∀ v, value = some v → a.give option v = .ok a') (hnone : value = none → a = a') :
    (value.toList.map (option.word ++ ·)).foldlM read (reading a) = .ok (reading a') := by
  cases value with
  | none => rw [hnone rfl]; rfl
  | some v =>
    have hread := read_word a option v
    rw [h v rfl] at hread
    simp only [Option.toList_some, List.map_cons, List.map_nil, List.foldlM_cons, hread]
    rfl

/-- The flag for the tree is read. -/
theorem foldlM_read_dump {a : Arguments} (h : a.dump = false) (dump : Bool) :
    (if dump then ["--ast"] else []).foldlM read (reading a) =
      .ok (reading { a with dump := dump }) := by
  obtain ⟨template, file, config, vars, assignments, asked⟩ := a
  subst h
  cases dump <;> rfl

/-- The template behind a double hyphen is read, whatever it looks like. -/
theorem foldlM_read_template {a : Arguments} (h : a.template = none) (template : Option String) :
    (template.toList.flatMap fun text => ["--", text]).foldlM read (reading a) >>= settle =
      .ok ⟨{ a with template := template }, .nothing, template.isSome, template.isSome⟩ := by
  obtain ⟨none', file, config, vars, assignments, dump⟩ := a
  subst h
  cases template <;> rfl

end Progress

theorem ok_bind {ε α β : Type} (a : α) (f : α → Except ε β) : Except.ok a >>= f = f a := rfl

/-- **Arguments are read back from their words**, unless they name two templates. -/
theorem readArguments_words {a : Arguments} (h : a.template = none ∨ a.file = none) :
    readArguments a.words = .ok a := by
  obtain ⟨template, file, config, vars, assignments, dump⟩ := a
  have hfile : (file.toList.map (ValueOption.file.word ++ ·)).foldlM Progress.read .start =
      .ok (.reading ⟨none, file, none, none, [], false⟩) :=
    Progress.foldlM_read_option (fun v hv => by subst hv; rfl) (fun hv => by subst hv; rfl)
  have hconfig : (config.toList.map (ValueOption.config.word ++ ·)).foldlM Progress.read
      (.reading ⟨none, file, none, none, [], false⟩) =
      .ok (.reading ⟨none, file, config, none, [], false⟩) :=
    Progress.foldlM_read_option (fun v hv => by subst hv; rfl) (fun hv => by subst hv; rfl)
  have hvars : (vars.toList.map (ValueOption.vars.word ++ ·)).foldlM Progress.read
      (.reading ⟨none, file, config, none, [], false⟩) =
      .ok (.reading ⟨none, file, config, vars, [], false⟩) :=
    Progress.foldlM_read_option (fun v hv => by subst hv; rfl) (fun hv => by subst hv; rfl)
  have hset := Progress.foldlM_read_assignments ⟨none, file, config, vars, [], false⟩ assignments
  have hdump := Progress.foldlM_read_dump (a := ⟨none, file, config, vars, assignments, false⟩)
    rfl dump
  have htemplate := Progress.foldlM_read_template
    (a := ⟨none, file, config, vars, assignments, dump⟩) rfl template
  have hconflict : (template.isSome && file.isSome) = false := by
    rcases h with h | h <;> cases h <;> simp
  have hread : (Arguments.words ⟨template, file, config, vars, assignments, dump⟩).foldlM
      Progress.read .start = (template.toList.flatMap fun text => ["--", text]).foldlM
        Progress.read (.reading ⟨none, file, config, vars, assignments, dump⟩) := by
    simp only [Arguments.words, List.foldlM_append, hfile, ok_bind, hconfig, hvars, hset,
      List.nil_append, hdump]
  have hsettled : readArguments (Arguments.words ⟨template, file, config, vars, assignments, dump⟩) =
      ((template.toList.flatMap fun text => ["--", text]).foldlM Progress.read
        (.reading ⟨none, file, config, vars, assignments, dump⟩) >>= Progress.settle) >>= fun p =>
          if p.arguments.template.isSome && p.arguments.file.isSome then .error .conflict
          else .ok p.arguments := by
    rw [readArguments, hread, bind_assoc]
    rfl
  rw [hsettled, htemplate, ok_bind]
  exact if_neg (by simp [hconflict])

end TextTemplate.CommandLine
