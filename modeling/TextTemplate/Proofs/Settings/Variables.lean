import TextTemplate.Proofs.Json.Exactness
import TextTemplate.Proofs.Json.Writing
import TextTemplate.Proofs.Settings.Assignment
import TextTemplate.Proofs.Yaml.Decimals
import TextTemplate.Proofs.Yaml.Portable
import TextTemplate.Settings.Variables

/-! # Variables from JSON

A file of variables may be JSON, and the right-hand side of an assignment is read as JSON; but
files are read as documents.  A text of portable words binds the same variables either way
(`loads_as_json`).  Other texts of JSON may not be loaded at all, or bind something else
(`exists_apart`). -/
namespace TextTemplate.Variables

/-! ## Portable texts -/

/-- A text of JSON in portable words that can be loaded by itself. -/
def Portable (o : String) : Prop :=
  ∃ v, Yaml.PortableDocument Json.nestingLimit v o.toList

/-- A text of JSON in portable words that can be loaded inside a mapping. -/
def PortableInside (j : String) : Prop :=
  ∃ v, Json.Document Yaml.portable Json.nestingLimit v j.toList

/-- A key that can be loaded as JSON writes it. -/
def PortableKey (k : String) : Prop :=
  (∀ c ∈ k.toList, 0x20 ≤ c.toNat →
    Yaml.isAllowed c = true ∧ c ≠ '\u0085' ∧ Yaml.isBreak c = false) ∧
  Text.width (Json.quoted k.toList) ≤ Yaml.keyLimit

theorem read?_of_portableInside {v : Value} {j : String}
    (h : Json.Document Yaml.portable Json.nestingLimit v j.toList) : Json.read? j = some v :=
  Json.read?_iff_document.mpr (h.mono Yaml.portable_within (Nat.le_refl _))

theorem read?_of_portable {v : Value} {o : String}
    (h : Yaml.PortableDocument Json.nestingLimit v o.toList) : Json.read? o = some v :=
  read?_of_portableInside h.document

/-- A text with a brace in it is not blank. -/
theorem isBlankText_of_mem {text : List Char} (h : '\x7b' ∈ text) : isBlankText text = false := by
  rw [isBlankText, List.all_eq_false]
  exact ⟨'\x7b', h, by decide +kernel⟩

theorem mem_of_portable {depth : Nat} {es : List (String × Value)} {text : List Char}
    (h : Yaml.PortableDocument depth (.object es) text) : '\x7b' ∈ text := by
  obtain ⟨-, -, ht, -⟩ := h
  obtain ⟨d, es', u, -, -, rfl, -⟩ := Yaml.exists_entries_of_spelled ht
  simp

theorem ofText_of_portable {es : List (String × Value)} {o : String}
    (h : Yaml.PortableDocument Yaml.nestingLimit (.object es) o.toList) : ofText o = .ok es := by
  rw [ofText, isBlankText_of_mem (mem_of_portable h), Yaml.readValue?_of_document h]
  rfl

/-! ## Assignments -/

/-- The document that binds a key to a value, `{"k": j}`. -/
def entryText (k j : String) : String :=
  String.ofList ('\x7b' :: (Json.quoted k.toList ++ (':' :: ' ' :: j.toList ++ ['\x7d'])))

theorem assign_of_read? {k j : String} {v : Value} (hk : '=' ∉ k.toList)
    (hj : Json.read? j = some v) : assign [] (k ++ "=" ++ j) = .ok [(k, v)] := by
  have hread : readAssignment (k ++ "=" ++ j) = .ok (k, v) := by
    rw [readAssignment_append hk, assignedValue, hj, Option.getD_some]
  rw [assign, hread]
  rfl

theorem spelled_of_portableKey {k : String} (h : PortableKey k) :
    ∃ t, Json.quoted k.toList = Json.inMarks t ∧
      Json.StringSpelled Yaml.portable k.toList t :=
  Json.quoted_spelled (fun c hc hplain => ⟨hplain, h.1 c hc hplain.2.2⟩)
    fun _ _ he hlength => ⟨he, hlength⟩

/-- The document of one entry is portable if its key and its value are. -/
theorem portable_entryText {k j : String} {v : Value} {depth : Nat} (hk : PortableKey k)
    (hj : Json.Document Yaml.portable depth v j.toList) :
    Yaml.PortableDocument (depth + 1) (.object [(k, v)]) (entryText k j).toList := by
  obtain ⟨t, heq, ht⟩ := spelled_of_portableKey hk
  have hwidth := hk.2
  rw [heq] at hwidth
  rw [entryText, String.toList_ofList, heq]
  generalize j.toList = text at hj
  obtain @⟨front, u, back, hfront, hu, hback⟩ := hj
  have hentry : Json.EntrySpelled Yaml.portable (Json.Spelled Yaml.portable depth)
      (k, v) (Json.inMarks t ++ ':' :: ' ' :: (front ++ u)) := by
    have h := Json.EntrySpelled.intro (a := []) (b := ' ' :: front) ht nofun
      ⟨nofun, nofun, by rwa [List.append_nil]⟩ (List.forall_mem_cons.mpr ⟨rfl, hfront⟩) hu
    rwa [String.ofList_toList] at h
  have hvalue : Json.Spelled Yaml.portable (depth + 1) (.object [(k, v)])
      ('\x7b' :: (Json.inMarks t ++ (':' :: ' ' :: (front ++ (u ++ back)) ++ ['\x7d']))) := by
    have h := @Json.Separated.last _ _ '\x7d' (k, v) [] _ _ nofun hentry hback
    refine .inr (@Json.CollectionSpelled.object _ _ [(k, v)] _ (.some ?_))
    simpa using h
  have h := @Yaml.PortableDocument.intro (depth + 1) _ [] _ [] [] nofun nofun hvalue
    nofun ⟨nofun, nofun⟩ nofun nofun
  simpa using h

/-! ## Loading -/

/-- **Portable JSON is loaded as JSON.**  A portable text that is JSON for a mapping binds the
entries of that mapping.  So a key and a value bind the same in a document of their own and in
an assignment. -/
theorem loads_as_json (o k j : String) (es : List (String × Value)) (v : Value) :
    (Json.read? o = some (.object es) → Portable o → ofText o = .ok es) ∧
      ('=' ∉ k.toList → PortableKey k → Json.read? j = some v → PortableInside j →
        ofText (entryText k j) = .ok [(k, v)] ∧ assign [] (k ++ "=" ++ j) = .ok [(k, v)]) := by
  refine ⟨fun hread hportable => ?_, fun hequals hk hread hportable => ?_⟩
  · obtain ⟨v, h⟩ := hportable
    have hv : v = .object es := Option.some.inj ((read?_of_portable h).symm.trans hread)
    subst hv
    exact ofText_of_portable (h.mono (by decide))
  · obtain ⟨w, h⟩ := hportable
    have hw : w = v := Option.some.inj ((read?_of_portableInside h).symm.trans hread)
    subst hw
    exact ⟨ofText_of_portable (portable_entryText hk h), assign_of_read? hequals hread⟩

/-- The number 2.5. -/
def twoAndAHalf : Binary64 := ⟨false, 5 * 2 ^ 50, -51⟩

/-- A list under a key, in a document and in an assignment. -/
theorem loads_as_json_list :
    ofText "\x7b\"a\": [1, 2.5]\x7d" =
        .ok [("a", .array [.number (.int 1), .number (.float twoAndAHalf)])] ∧
      assign [] "a=[1, 2.5]" =
        .ok [("a", .array [.number (.int 1), .number (.float twoAndAHalf)])] := by
  have hone : Yaml.portable.number (.int 1) ['1'] :=
    Yaml.portable_whole ⟨List.all_iff_forall_prop.mp (by decide), by decide⟩
  have hfloat : Yaml.portable.number (.float twoAndAHalf) ['2', '.', '5'] :=
    Yaml.portable_short ⟨List.all_iff_forall_prop.mp (by decide), by decide +kernel⟩
      ⟨by decide, ['2', '5'], -1, by decide, by decide, by decide⟩
  have hlist : Json.Separated (Json.Spelled Yaml.portable 0) ']'
      [.number (.int 1), .number (.float twoAndAHalf)] ['1', ',', ' ', '2', '.', '5', ']'] :=
    Json.Separated.cons (a := []) (b := []) nofun (Json.ScalarSpelled.number hone) nofun
      (.last (a := [' ']) (b := []) (by simp [Json.Blank, Json.isBlank])
        (Json.ScalarSpelled.number hfloat) nofun)
  have hspelled : Json.Spelled Yaml.portable 1
      (.array [.number (.int 1), .number (.float twoAndAHalf)])
      ['[', '1', ',', ' ', '2', '.', '5', ']'] := .inr (.array (.some hlist))
  have hj : Json.Document Yaml.portable 1 (.array [.number (.int 1), .number (.float twoAndAHalf)])
      "[1, 2.5]".toList := .intro (a := []) (b := []) nofun hspelled nofun
  have hk : PortableKey "a" := ⟨List.all_iff_forall_prop.mp (by decide), by decide⟩
  have ho : Yaml.PortableDocument Json.nestingLimit _ (entryText "a" "[1, 2.5]").toList :=
    (portable_entryText hk hj).mono (by decide)
  have hinside : Json.Document Yaml.portable Json.nestingLimit _ "[1, 2.5]".toList :=
    hj.mono .rfl (by decide)
  have hboth := loads_as_json (entryText "a" "[1, 2.5]") "a" "[1, 2.5]"
    [("a", .array [.number (.int 1), .number (.float twoAndAHalf)])]
    (.array [.number (.int 1), .number (.float twoAndAHalf)])
  exact ⟨hboth.1 (read?_of_portable ho) ⟨_, ho⟩,
    (hboth.2 (by decide) hk (read?_of_portableInside hinside) ⟨_, hinside⟩).2⟩

/-! ## Texts that are not loaded as JSON -/

/-- The text is JSON for a mapping, but binds something else, or cannot be loaded. -/
def Apart (o : String) : Prop :=
  ∃ es, Json.read? o = some (.object es) ∧ ofText o ≠ .ok es

/-- The entries that a text of JSON binds, as they are written out. -/
def jsonText? (o : String) : Option String :=
  match Json.read? o with
  | some (.object es) => some (Json.text (.object es))
  | _ => none

/-- The entries that a document binds, as they are written out. -/
def loadedText? (o : String) : Option String :=
  (ofText o).toOption.map fun es => Json.text (.object es)

theorem apart_of_texts {o : String} (h : (jsonText? o).isSome = true)
    (hne : loadedText? o ≠ jsonText? o) : Apart o := by
  unfold jsonText? at h hne
  split at h
  · rename_i es hread
    refine ⟨es, hread, fun hload => ?_⟩
    rw [loadedText?, hload, hread] at hne
    exact hne rfl
  · cases h

/-- **Not all JSON is loaded as JSON.**  A whole number of more than 64 bits is a double-precision
number in JSON, and cannot be loaded. -/
theorem exists_apart : Apart "\x7b\"n\":18446744073709551616\x7d" :=
  apart_of_texts (by decide +kernel) (by decide +kernel)

/-- Texts of JSON with something that portable texts leave out: a number that is rounded
differently and negative zero, an escape for a pair of surrogates, characters that may not stand
in a document or end a line there, a line break in front of a colon, and tabs in front of the
mapping and in a line behind it. -/
def unportable : List String :=
  ["\x7b\"n\":2.2250738585072011e-308\x7d", "\x7b\"n\":-0\x7d",
    "\x7b\"s\":\"\\ud83d\\ude00\"\x7d", "\x7b\"s\":\"\u007f\"\x7d",
    "\x7b\"s\":\"a\u0085b\"\x7d", "\x7b\"s\":\"a \u2028b\"\x7d", "\x7b\"n\"\n:1\x7d",
    "\t\x7b\"n\":1\x7d", "\x7b\"n\":1\x7d\n\t"]

/-- Nothing of this can be let in. -/
theorem apart_of_mem_unportable : ∀ o ∈ unportable, Apart o := by
  have htexts : ∀ o ∈ unportable,
      (jsonText? o).isSome = true ∧ loadedText? o ≠ jsonText? o := by decide +kernel
  exact fun o ho => apart_of_texts (htexts o ho).1 (htexts o ho).2

end TextTemplate.Variables
