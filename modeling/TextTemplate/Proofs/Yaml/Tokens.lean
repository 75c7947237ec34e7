import TextTemplate.Yaml.Content

/-! # What tokens stand for

`Stands depth v tokens` says that tokens stand for a value with at most `depth` collections
inside one another: scalars, and flow collections whose keys are quoted.  The reader of nodes
takes such tokens for a node without properties and aliases, and the value of that node is the
one they stand for (`exists_node_of_stands`). -/
namespace TextTemplate.Yaml

/-! ## The grammar -/

section

variable {α : Type}

/-- Items with commas between them, up to a closing token. -/
inductive Separated (item : α → List Token → Prop) (close : Token) : List α → List Token → Prop
  | last {x : α} {t : List Token} (ht : item x t) : Separated item close [x] (t ++ [close])
  | cons {x : α} {t : List Token} {xs : List α} {u : List Token} (ht : item x t)
      (h : Separated item close xs u) : Separated item close (x :: xs) (t ++ .comma :: u)

/-- Any number of items up to a closing token. -/
inductive Listed (item : α → List Token → Prop) (close : Token) : List α → List Token → Prop
  | none : Listed item close [] [close]
  | some {xs : List α} {u : List Token} (h : Separated item close xs u) : Listed item close xs u

end

/-- An entry of a mapping with a quoted key. -/
inductive EntryStands (item : Value → List Token → Prop) : String × Value → List Token → Prop
  | intro {k : List Char} {v : Value} {t : List Token} (hv : item v t) :
      EntryStands item (String.ofList k, v) (.key :: .scalar false k :: .value :: t)

/-- A scalar without a tag. -/
inductive ScalarStands : Value → List Token → Prop
  | intro {plain : Bool} {text : List Char} {v : Value}
      (h : scalarValue? none plain (String.ofList text) = some v) :
      ScalarStands v [.scalar plain text]

/-- A flow collection. -/
inductive CollectionStands (item : Value → List Token → Prop) : Value → List Token → Prop
  | sequence {vs : List Value} {u : List Token} (h : Listed item .flowSequenceEnd vs u) :
      CollectionStands item (.array vs) (.flowSequenceStart :: u)
  | mapping {es : List (String × Value)} {u : List Token}
      (h : Listed (EntryStands item) .flowMappingEnd es u) :
      CollectionStands item (.object (Entries.ofList es)) (.flowMappingStart :: u)

/-- A value with at most `depth` collections inside one another. -/
def Stands : Nat → Value → List Token → Prop
  | 0, v, t => ScalarStands v t
  | depth + 1, v, t => ScalarStands v t ∨ CollectionStands (Stands depth) v t

/-! ## Nodes -/

/-- Tokens that are read as a node wherever they stand. -/
def ReadAs (tokens : List Token) (n : Node) : Prop :=
  ∀ shorthands fuel place anchors rest, tokens.length ≤ fuel →
    readNode shorthands fuel place ⟨tokens ++ rest, anchors⟩ = some (n, ⟨rest, anchors⟩)

/-- A node with a value that no alias bears on. -/
def Node.Means (n : Node) (depth : Nat) (v : Value) : Prop :=
  ∀ targets room, depth ≤ room → n.value targets room = pure v

/-- A token that begins a scalar or a flow collection. -/
def Token.isContent : Token → Bool
  | .scalar _ _ | .flowSequenceStart | .flowMappingStart => true
  | _ => false

/-- Tokens that begin with content. -/
def Opens (t : List Token) : Prop := ∃ x more, t = x :: more ∧ x.isContent = true

/-- No mark comes next where content does. -/
theorem isAt_content {t : List Token} (h : Opens t) {rest : List Token}
    {anchors : List (List Char × Nat)} {marks : List Token}
    (hmarks : ∀ x ∈ marks, x.isContent = false) :
    Reading.isAt ⟨t ++ rest, anchors⟩ marks = false := by
  obtain ⟨x, more, rfl, hx⟩ := h
  have hnot : ¬ marks.contains x := by
    intro hmem
    have hmark := hmarks x (List.contains_iff_mem.mp hmem)
    simp [hx] at hmark
  simpa [Reading.isAt] using hnot

theorem Stands.opens {depth : Nat} {v : Value} {t : List Token} (h : Stands depth v t) :
    Opens t := by
  have hscalar : ∀ {t}, ScalarStands v t → Opens t := by
    rintro t ⟨h⟩
    exact ⟨_, _, rfl, rfl⟩
  cases depth with
  | zero => exact hscalar h
  | succ depth =>
    rcases h with h | h
    · exact hscalar h
    · cases h with
      | sequence h => exact ⟨_, _, rfl, rfl⟩
      | mapping h => exact ⟨_, _, rfl, rfl⟩

section

variable {node : NodeReader} {fuel : Nat} {anchors : List (List Char × Nat)} {t more : List Token}
  {r : Reading}

/-- An item is read both where it is the first and behind a comma. -/
theorem readFlowItems_item {n : Node} {ns : List Node} (ht : Opens t)
    (hread : node ⟨t ++ more, anchors⟩ = some (n, ⟨more, anchors⟩))
    (hmore : readFlowItems node fuel false ⟨more, anchors⟩ = some (ns, r)) :
    readFlowItems node (fuel + 1) true ⟨t ++ more, anchors⟩ = some (n :: ns, r) ∧
      readFlowItems node (fuel + 1) false ⟨.comma :: (t ++ more), anchors⟩ =
        some (n :: ns, r) := by
  have hend : Reading.isAt ⟨t ++ more, anchors⟩ [.flowSequenceEnd] = false :=
    isAt_content ht (by decide)
  have hkey : Reading.isAt ⟨t ++ more, anchors⟩ [.key] = false := isAt_content ht (by decide)
  have hcomma : Reading.isAt ⟨.comma :: (t ++ more), anchors⟩ [.flowSequenceEnd] = false ∧
      Reading.isAt ⟨.comma :: (t ++ more), anchors⟩ [.comma] = true := ⟨rfl, rfl⟩
  have hnext : Reading.next ⟨.comma :: (t ++ more), anchors⟩ = ⟨t ++ more, anchors⟩ := rfl
  constructor
  · simp [readFlowItems, hend, hkey, hread, hmore]
  · simp [readFlowItems, hend, hkey, hread, hcomma, hnext, hmore]

/-- An entry is read both where it is the first and behind a comma. -/
theorem readFlowEntries_entry {k : List Char} {key v : Node} {es : List (Node × Node)}
    (ht : Opens t)
    (hkey : ∀ rest, node ⟨.scalar false k :: rest, anchors⟩ = some (key, ⟨rest, anchors⟩))
    (hread : node ⟨t ++ more, anchors⟩ = some (v, ⟨more, anchors⟩))
    (hmore : readFlowEntries node fuel false ⟨more, anchors⟩ = some (es, r)) :
    readFlowEntries node (fuel + 1) true
        ⟨.key :: .scalar false k :: .value :: (t ++ more), anchors⟩ = some ((key, v) :: es, r) ∧
      readFlowEntries node (fuel + 1) false
        ⟨.comma :: .key :: .scalar false k :: .value :: (t ++ more), anchors⟩ =
          some ((key, v) :: es, r) := by
  have hend : Reading.isAt ⟨t ++ more, anchors⟩ [.comma, .flowMappingEnd] = false :=
    isAt_content ht (by decide)
  have hscalar : Reading.isAt ⟨.scalar false k :: .value :: (t ++ more), anchors⟩
      [.value, .comma, .flowMappingEnd] = false :=
    isAt_content (t := [.scalar false k]) ⟨_, _, rfl, rfl⟩ (by decide)
  have hpair : readUnless [.value, .comma, .flowMappingEnd] node
      ⟨.scalar false k :: .value :: (t ++ more), anchors⟩ =
        some (key, ⟨.value :: (t ++ more), anchors⟩) := by
    simp [readUnless, hscalar, hkey]
  have hvalue : readValue [.comma, .flowMappingEnd] node ⟨.value :: (t ++ more), anchors⟩ =
      some (v, ⟨more, anchors⟩) := by
    have hat : Reading.isAt ⟨.value :: (t ++ more), anchors⟩ [.value] = true := rfl
    have hnext : Reading.next ⟨.value :: (t ++ more), anchors⟩ = ⟨t ++ more, anchors⟩ := rfl
    simp [readValue, hat, hnext, readUnless, hend, hread]
  constructor
  · simp [readFlowEntries, Reading.isAt, Reading.next, hpair, hvalue, hmore]
  · simp [readFlowEntries, Reading.isAt, Reading.next, hpair, hvalue, hmore]

end

theorem readFlowItems_end {node : NodeReader} {fuel : Nat} {first : Bool}
    {anchors : List (List Char × Nat)} {rest : List Token} :
    readFlowItems node (fuel + 1) first ⟨.flowSequenceEnd :: rest, anchors⟩ =
      some ([], ⟨rest, anchors⟩) := rfl

theorem readFlowEntries_end {node : NodeReader} {fuel : Nat} {first : Bool}
    {anchors : List (List Char × Nat)} {rest : List Token} :
    readFlowEntries node (fuel + 1) first ⟨.flowMappingEnd :: rest, anchors⟩ =
      some ([], ⟨rest, anchors⟩) := rfl

section

variable {shorthands : Shorthands} {fuel : Nat} {place : Place} {rest : List Token}
  {anchors : List (List Char × Nat)}

theorem readNode_scalar {plain : Bool} {text : List Char} :
    readNode shorthands (fuel + 1) place ⟨.scalar plain text :: rest, anchors⟩ =
      some (.scalar .none plain (String.ofList text), ⟨rest, anchors⟩) := by
  cases place <;> rfl

theorem readNode_flowSequence :
    readNode shorthands (fuel + 1) place ⟨.flowSequenceStart :: rest, anchors⟩ =
      (readFlowItems (readNode shorthands fuel .inFlow) (rest.length + 1) true
        ⟨rest, anchors⟩).map fun (ns, r) => (.sequence .none ns, r) := by
  cases place <;> rfl

theorem readNode_flowMapping :
    readNode shorthands (fuel + 1) place ⟨.flowMappingStart :: rest, anchors⟩ =
      (readFlowEntries (readNode shorthands fuel .inFlow) (rest.length + 1) true
        ⟨rest, anchors⟩).map fun (es, r) => (.mapping .none es, r) := by
  cases place <;> rfl

end

section

variable {item : Value → List Token → Prop} {d : Nat}
  (hopens : ∀ v t, item v t → Opens t)
  (hitem : ∀ v t, item v t → ∃ n, ReadAs t n ∧ n.Means d v)

include hopens hitem

/-- The items of a flow sequence are read up to its end, both where its first item comes and
behind a comma. -/
theorem exists_items {vs : List Value} {u : List Token}
    (h : Separated item .flowSequenceEnd vs u) :
    ∃ ns, (∀ shorthands depth fuel anchors rest, u.length ≤ depth → u.length ≤ fuel →
        readFlowItems (readNode shorthands depth .inFlow) fuel true ⟨u ++ rest, anchors⟩ =
          some (ns, ⟨rest, anchors⟩) ∧
        readFlowItems (readNode shorthands depth .inFlow) fuel false
          ⟨.comma :: (u ++ rest), anchors⟩ = some (ns, ⟨rest, anchors⟩)) ∧
      ∀ targets room, d ≤ room → ns.mapM (Node.value targets room) = pure vs := by
  induction h with
  | @last v t ht =>
    obtain ⟨n, hread, hvalue⟩ := hitem v t ht
    refine ⟨[n], fun shorthands depth fuel anchors rest hdepth hfuel => ?_,
      fun targets room hroom => ?_⟩
    · simp only [List.length_append, List.length_singleton] at hdepth hfuel
      obtain ⟨x, more, rfl, -⟩ := hopens v t ht
      obtain ⟨fuel, rfl⟩ : ∃ k, fuel = k + 2 := ⟨fuel - 2, by simp at hfuel; omega⟩
      rw [List.append_assoc]
      exact readFlowItems_item (hopens v _ ht) (hread _ _ _ _ _ (by omega)) readFlowItems_end
    · simp [hvalue targets room hroom]
  | @cons v t vs u ht h ih =>
    obtain ⟨n, hread, hvalue⟩ := hitem v t ht
    obtain ⟨ns, hreads, hvalues⟩ := ih
    refine ⟨n :: ns, fun shorthands depth fuel anchors rest hdepth hfuel => ?_,
      fun targets room hroom => ?_⟩
    · simp only [List.length_append, List.length_cons] at hdepth hfuel
      obtain ⟨fuel, rfl⟩ : ∃ k, fuel = k + 1 := ⟨fuel - 1, by omega⟩
      rw [List.append_assoc]
      exact readFlowItems_item (hopens v _ ht) (hread _ _ _ _ _ (by omega))
        (hreads _ _ _ _ _ (by omega) (by omega)).2
    · simp [hvalue targets room hroom, hvalues targets room hroom]

/-- The same for the entries of a flow mapping. -/
theorem exists_entries {es : List (String × Value)} {u : List Token}
    (h : Separated (EntryStands item) .flowMappingEnd es u) :
    ∃ ns, (∀ shorthands depth fuel anchors rest, u.length ≤ depth → u.length ≤ fuel →
        readFlowEntries (readNode shorthands depth .inFlow) fuel true ⟨u ++ rest, anchors⟩ =
          some (ns, ⟨rest, anchors⟩) ∧
        readFlowEntries (readNode shorthands depth .inFlow) fuel false
          ⟨.comma :: (u ++ rest), anchors⟩ = some (ns, ⟨rest, anchors⟩)) ∧
      ∀ targets room, d ≤ room → (ns.mapM fun (k, v) => do
        return (← k.keyText targets, ← v.value targets room)) = pure es := by
  have hkeyText : ∀ targets text, (Node.scalar .none false text).keyText targets = pure text := by
    intro targets text
    simp [Node.keyText, Node.follow]
  induction h with
  | @last e t he =>
    obtain @⟨k, v, t, ht⟩ := he
    obtain ⟨n, hread, hvalue⟩ := hitem v t ht
    refine ⟨[(.scalar .none false (String.ofList k), n)],
      fun shorthands depth fuel anchors rest hdepth hfuel => ?_, fun targets room hroom => ?_⟩
    · simp only [List.length_append, List.length_cons] at hdepth hfuel
      obtain ⟨depth, rfl⟩ : ∃ j, depth = j + 1 := ⟨depth - 1, by omega⟩
      obtain ⟨fuel, rfl⟩ : ∃ j, fuel = j + 2 := ⟨fuel - 2, by omega⟩
      simp only [List.append_assoc, List.cons_append]
      exact readFlowEntries_entry (hopens v _ ht) (fun _ => readNode_scalar)
        (hread _ _ _ _ _ (by omega)) readFlowEntries_end
    · simp only [List.mapM_cons, List.mapM_nil, hkeyText, pure_bind, hvalue targets room hroom]
  | @cons e t es u he h ih =>
    obtain @⟨k, v, t, ht⟩ := he
    obtain ⟨n, hread, hvalue⟩ := hitem v t ht
    obtain ⟨ns, hreads, hvalues⟩ := ih
    refine ⟨(.scalar .none false (String.ofList k), n) :: ns,
      fun shorthands depth fuel anchors rest hdepth hfuel => ?_, fun targets room hroom => ?_⟩
    · simp only [List.length_append, List.length_cons] at hdepth hfuel
      obtain ⟨depth, rfl⟩ : ∃ j, depth = j + 1 := ⟨depth - 1, by omega⟩
      obtain ⟨fuel, rfl⟩ : ∃ j, fuel = j + 1 := ⟨fuel - 1, by omega⟩
      simp only [List.append_assoc, List.cons_append]
      exact readFlowEntries_entry (hopens v _ ht) (fun _ => readNode_scalar)
        (hread _ _ _ _ _ (by omega)) (hreads _ _ _ _ _ (by omega) (by omega)).2
    · simp only [List.mapM_cons, hkeyText, pure_bind, hvalue targets room hroom,
        hvalues targets room hroom]

end

section

variable {targets : Targets} {room : Nat}

theorem value_scalar {p : Properties} {plain : Bool} {text : String} :
    (Node.scalar p plain text).value targets room =
      StateT.lift (scalarValue? p.tag plain text) := by
  delta Node.value
  cases room <;> rfl

theorem value_sequence {items : List Node} :
    (Node.sequence .none items).value targets (room + 1) =
      items.mapM (Node.value targets room) >>= fun vs => pure (.array vs) := by
  delta Node.value
  rfl

theorem value_mapping {entries : List (Node × Node)} :
    (Node.mapping .none entries).value targets (room + 1) =
      (entries.mapM fun (k, v) => do
        return (← k.keyText targets, ← v.value targets room)) >>=
          fun es => pure (.object (Entries.ofList es)) := by
  delta Node.value
  rfl

end

theorem exists_node_of_scalar {depth : Nat} {v : Value} {t : List Token} (h : ScalarStands v t) :
    ∃ n, ReadAs t n ∧ n.Means depth v := by
  obtain @⟨plain, text, v, h⟩ := h
  refine ⟨.scalar .none plain (String.ofList text), ?_, fun targets room _ => ?_⟩
  · intro shorthands fuel place anchors rest hfuel
    obtain ⟨fuel, rfl⟩ : ∃ k, fuel = k + 1 :=
      ⟨fuel - 1, by simp only [List.length_singleton] at hfuel; omega⟩
    exact readNode_scalar
  · rw [value_scalar, Properties.none, h]
    rfl

theorem exists_node_of_collection {item : Value → List Token → Prop} {depth : Nat}
    (hopens : ∀ v t, item v t → Opens t)
    (hitem : ∀ v t, item v t → ∃ n, ReadAs t n ∧ n.Means depth v) {v : Value} {t : List Token}
    (h : CollectionStands item v t) : ∃ n, ReadAs t n ∧ n.Means (depth + 1) v := by
  cases h with
  | @sequence vs u h =>
    obtain ⟨ns, hreads, hvalues⟩ : ∃ ns, (∀ shorthands fuel anchors rest, u.length ≤ fuel →
          readFlowItems (readNode shorthands fuel .inFlow) ((u ++ rest).length + 1) true
            ⟨u ++ rest, anchors⟩ = some (ns, ⟨rest, anchors⟩)) ∧
        ∀ targets room, depth ≤ room → ns.mapM (Node.value targets room) = pure vs := by
      cases h with
      | none => exact ⟨[], fun _ _ _ _ _ => readFlowItems_end, fun _ _ _ => rfl⟩
      | some h =>
        obtain ⟨ns, hreads, hvalues⟩ := exists_items hopens hitem h
        refine ⟨ns, fun _ _ _ _ hfuel => (hreads _ _ _ _ _ hfuel ?_).1, hvalues⟩
        rw [List.length_append]
        omega
    refine ⟨.sequence .none ns, fun shorthands fuel place anchors rest hfuel => ?_,
      fun targets room hroom => ?_⟩
    · obtain ⟨fuel, rfl⟩ : ∃ k, fuel = k + 1 :=
        ⟨fuel - 1, by simp only [List.length_cons] at hfuel; omega⟩
      rw [List.cons_append, readNode_flowSequence,
        hreads _ _ _ _ (by simpa only [List.length_cons, Nat.add_le_add_iff_right] using hfuel)]
      rfl
    · obtain ⟨room, rfl⟩ : ∃ k, room = k + 1 := ⟨room - 1, by omega⟩
      rw [value_sequence, hvalues _ _ (by omega), pure_bind]
  | @mapping es u h =>
    obtain ⟨ns, hreads, hvalues⟩ : ∃ ns, (∀ shorthands fuel anchors rest, u.length ≤ fuel →
          readFlowEntries (readNode shorthands fuel .inFlow) ((u ++ rest).length + 1) true
            ⟨u ++ rest, anchors⟩ = some (ns, ⟨rest, anchors⟩)) ∧
        ∀ targets room, depth ≤ room → (ns.mapM fun (k, v) => do
          return (← k.keyText targets, ← v.value targets room)) = pure es := by
      cases h with
      | none => exact ⟨[], fun _ _ _ _ _ => readFlowEntries_end, fun _ _ _ => rfl⟩
      | some h =>
        obtain ⟨ns, hreads, hvalues⟩ := exists_entries hopens hitem h
        refine ⟨ns, fun _ _ _ _ hfuel => (hreads _ _ _ _ _ hfuel ?_).1, hvalues⟩
        rw [List.length_append]
        omega
    refine ⟨.mapping .none ns, fun shorthands fuel place anchors rest hfuel => ?_,
      fun targets room hroom => ?_⟩
    · obtain ⟨fuel, rfl⟩ : ∃ k, fuel = k + 1 :=
        ⟨fuel - 1, by simp only [List.length_cons] at hfuel; omega⟩
      rw [List.cons_append, readNode_flowMapping,
        hreads _ _ _ _ (by simpa only [List.length_cons, Nat.add_le_add_iff_right] using hfuel)]
      rfl
    · obtain ⟨room, rfl⟩ : ∃ k, room = k + 1 := ⟨room - 1, by omega⟩
      rw [value_mapping, hvalues _ _ (by omega), pure_bind]

/-- **Tokens are read as a node with the value they stand for.** -/
theorem exists_node_of_stands {depth : Nat} {v : Value} {t : List Token}
    (h : Stands depth v t) : ∃ n, ReadAs t n ∧ n.Means depth v := by
  induction depth generalizing v t with
  | zero => exact exists_node_of_scalar h
  | succ depth ih =>
    rcases h with h | h
    · exact exists_node_of_scalar h
    · exact exists_node_of_collection (fun v t h => h.opens) (fun v t h => ih h) h

/-- **A document of such tokens holds the value they stand for.** -/
theorem value?_of_stands {v : Value} {t : List Token} (h : Stands nestingLimit v t) :
    ∃ document, readFirst t = some (document, []) ∧ document.value? = some v := by
  obtain ⟨n, hread, hvalue⟩ := exists_node_of_stands h
  refine ⟨.root n, ?_, ?_⟩
  · have hroot := hread standardShorthands (t.length + 1) .inBlock [] [] (by omega)
    rw [List.append_nil] at hroot
    obtain ⟨x, more, rfl, hx⟩ := h.opens
    cases x <;> cases hx
    all_goals simp only [readFirst, readRoot, hroot, Option.map_some]
  · rw [Document.value?, hvalue _ _ (Nat.le_refl _)]
    rfl

end TextTemplate.Yaml
