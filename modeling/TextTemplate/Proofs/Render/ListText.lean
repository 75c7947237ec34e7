import TextTemplate.Render.Lookup

/-! # The text of lists

A list is written as the texts of its items with commas in between, and so is a list inside
it.  So two parts of a list that have the same text can stand for each other, if there is
something in both (`Value.toText_array_congr`).  In particular items may stand in a list of
their own, and a list whose inner lists all hold something has the text of its leaves
(`Value.toText_array_opened`). -/
namespace TextTemplate.Value

/-! ## Joining -/

theorem itemText_array (items : List Value) :
    (array items).itemText = ",".intercalate (items.map itemText) := by
  rw [itemText, itemTexts_eq_map]

/-- A list has the same text on its own and inside a list. -/
theorem toText_array (items : List Value) :
    (array items).toText = ",".intercalate (items.map itemText) :=
  itemText_array items

theorem toText_array_singleton (v : Value) : (array [v]).toText = v.itemText := by
  simp [toText_array]

/-- The text of two lists in a row has a comma in the middle. -/
theorem toText_array_append {xs ys : List Value} (hx : xs ≠ []) (hy : ys ≠ []) :
    (array (xs ++ ys)).toText = (array xs).toText ++ "," ++ (array ys).toText := by
  have hxtexts : xs.map itemText ≠ [] := by simpa using hx
  have hytexts : ys.map itemText ≠ [] := by simpa using hy
  rw [toText_array, toText_array, toText_array, List.map_append,
    String.intercalate_append_of_ne_nil hxtexts hytexts]

/-- **Parts with the same text can stand for each other**, unless one of them is empty. -/
theorem toText_array_congr {part part' : List Value} (hne : part ≠ []) (hne' : part' ≠ [])
    (h : (array part).toText = (array part').toText) (xs ys : List Value) :
    (array (xs ++ part ++ ys)).toText = (array (xs ++ part' ++ ys)).toText := by
  have hfront : (array (xs ++ part)).toText = (array (xs ++ part')).toText := by
    by_cases hx : xs = []
    · rw [hx, List.nil_append, List.nil_append, h]
    · rw [toText_array_append hx hne, toText_array_append hx hne', h]
  by_cases hy : ys = []
  · rw [hy, List.append_nil, List.append_nil, hfront]
  · have hfilled : xs ++ part ≠ [] := List.append_ne_nil_of_right_ne_nil xs hne
    have hfilled' : xs ++ part' ≠ [] := List.append_ne_nil_of_right_ne_nil xs hne'
    rw [toText_array_append hfilled hy, toText_array_append hfilled' hy, hfront]

/-! ## Leaves -/

/-- The value is no list. -/
def IsLeaf (v : Value) : Prop := ∀ items, v ≠ .array items

mutual

/-- What a value is made of when the lists in it are opened, at any depth. -/
def leaves : Value → List Value
  | .array items => leavesOf items
  | v => [v]

/-- What the items of a list are made of. -/
def leavesOf : List Value → List Value
  | [] => []
  | v :: vs => leaves v ++ leavesOf vs

end

/-- A value in which no list is empty, at any depth. -/
inductive Filled : Value → Prop where
  | leaf {v : Value} : v.IsLeaf → Filled v
  | array {items : List Value} : items ≠ [] → (∀ v ∈ items, Filled v) → Filled (.array items)

theorem leavesOf_eq_flatMap (items : List Value) : leavesOf items = items.flatMap leaves := by
  induction items with
  | nil => rfl
  | cons v vs ih => rw [leavesOf, ih, List.flatMap_cons]

theorem IsLeaf.leaves_eq {v : Value} (h : v.IsLeaf) : v.leaves = [v] := by
  cases v with
  | array items => exact absurd rfl (h items)
  | _ => rfl

/-- A property of lists that have it if their items do, and of everything that is no list. -/
@[elab_as_elim]
theorem induction_items {motive : Value → Prop} (leaf : ∀ v, v.IsLeaf → motive v)
    (array : ∀ items, (∀ v ∈ items, motive v) → motive (.array items)) : ∀ v, motive v
  | .array items => array items fun v _ => induction_items leaf array v
  | .null => leaf _ nofun
  | .bool _ => leaf _ nofun
  | .number _ => leaf _ nofun
  | .string _ => leaf _ nofun
  | .object _ => leaf _ nofun

/-- Opened lists leave no list behind. -/
theorem isLeaf_of_mem_leaves {v w : Value} (h : w ∈ v.leaves) : w.IsLeaf := by
  induction v using induction_items with
  | leaf v hv =>
    rw [hv.leaves_eq, List.mem_singleton] at h
    rwa [h]
  | array items ih =>
    rw [leaves, leavesOf_eq_flatMap, List.mem_flatMap] at h
    obtain ⟨v, hv, hw⟩ := h
    exact ih v hv hw

/-- If opening keeps the text of each item, it keeps that of the list. -/
theorem toText_array_flatMap_leaves {items : List Value}
    (h : ∀ v ∈ items, v.leaves ≠ [] ∧ (array v.leaves).toText = v.itemText) :
    (array (items.flatMap leaves)).toText = (array items).toText := by
  induction items with
  | nil => rfl
  | cons v vs ih =>
    rw [List.forall_mem_cons] at h
    obtain ⟨⟨hne, htext⟩, hmore⟩ := h
    have hhead : (array v.leaves).toText = (array [v]).toText := by
      rw [htext, toText_array_singleton]
    have hopened : (array (v.leaves ++ vs)).toText = (array (v :: vs)).toText :=
      toText_array_congr hne (List.cons_ne_nil v []) hhead [] vs
    rw [List.flatMap_cons, ← hopened]
    -- an empty rest is no part that could be exchanged
    cases vs with
    | nil => rfl
    | cons w ws =>
      have hrest : (w :: ws).flatMap leaves ≠ [] := by
        rw [List.flatMap_cons]
        exact List.append_ne_nil_of_left_ne_nil (hmore w List.mem_cons_self).1 _
      rw [toText_array_append hne hrest, toText_array_append hne (List.cons_ne_nil w ws), ih hmore]

/-- A value without empty lists has the text of its leaves. -/
theorem Filled.toText_leaves {v : Value} (h : v.Filled) :
    v.leaves ≠ [] ∧ (Value.array v.leaves).toText = v.itemText := by
  induction h with
  | leaf hleaf =>
    rw [hleaf.leaves_eq]
    exact ⟨List.cons_ne_nil _ _, toText_array_singleton _⟩
  | @array items hne _ ih =>
    rw [leaves, leavesOf_eq_flatMap, toText_array_flatMap_leaves ih]
    refine ⟨?_, (toText_array items).trans (itemText_array items).symm⟩
    obtain ⟨v, vs, rfl⟩ := List.exists_cons_of_ne_nil hne
    exact List.append_ne_nil_of_left_ne_nil (ih v List.mem_cons_self).1 _

/-- **Lists inside lists are not seen.**  Items may as well stand in a list of their own, if
there are any; the text of two lists in a row is their texts with a comma in the middle.  So a
list has the text of its leaves, in their order, if the lists inside it are not empty, however
deep they lie. -/
theorem toText_array_opened :
    (∀ xs zs ys : List Value, zs ≠ [] →
      (array (xs ++ [array zs] ++ ys)).toText = (array (xs ++ zs ++ ys)).toText) ∧
    (∀ xs ys : List Value, xs ≠ [] → ys ≠ [] →
      (array (xs ++ ys)).toText = (array xs).toText ++ "," ++ (array ys).toText) ∧
    ∀ items : List Value, (∀ v ∈ items, v.Filled) →
      (array items).toText = (array (items.flatMap leaves)).toText ∧
        ∀ v ∈ items.flatMap leaves, v.IsLeaf := by
  refine ⟨fun xs zs ys hz => ?_, fun xs ys => toText_array_append, fun items hitems => ⟨?_, ?_⟩⟩
  · have hsame : (array [array zs]).toText = (array zs).toText := toText_array_singleton _
    exact toText_array_congr (List.cons_ne_nil _ []) hz hsame xs ys
  · exact (toText_array_flatMap_leaves fun v hv => (hitems v hv).toText_leaves).symm
  · intro v hv
    obtain ⟨w, -, hw⟩ := List.mem_flatMap.mp hv
    exact isLeaf_of_mem_leaves hw

/-- A list two levels down, with values in it that have no text of their own. -/
theorem toText_array_opened_deep :
    (array [.array [.array [.bool false, .null], .string "a"], .null]).toText = "false,,a," ∧
      (array ([.bool false] ++ [.array [.null, .string "a"]] ++ [.null])).toText =
        (array ([.bool false] ++ [.null, .string "a"] ++ [.null])).toText ∧
      (array ([.bool false] ++ [.null])).toText =
        (array [.bool false]).toText ++ "," ++ (array [.null]).toText ∧
      (array [.array [.array [.bool false, .null], .string "a"], .null]).toText =
        (array [.bool false, .null, .string "a", .null]).toText := by
  obtain ⟨hlist, happend, hleaves⟩ := toText_array_opened
  have hfilled : ∀ v ∈ [Value.array [.array [.bool false, .null], .string "a"], .null],
      v.Filled := by
    have hinner : ∀ v ∈ [Value.bool false, .null], v.Filled :=
      List.forall_mem_cons.mpr ⟨.leaf nofun, List.forall_mem_singleton.mpr (.leaf nofun)⟩
    have houter : ∀ v ∈ [Value.array [.bool false, .null], .string "a"], v.Filled :=
      List.forall_mem_cons.mpr
        ⟨.array nofun hinner, List.forall_mem_singleton.mpr (.leaf nofun)⟩
    exact List.forall_mem_cons.mpr
      ⟨.array nofun houter, List.forall_mem_singleton.mpr (.leaf nofun)⟩
  exact ⟨by decide +kernel, hlist _ _ _ nofun, happend _ _ nofun nofun, (hleaves _ hfilled).1⟩

/-- An empty list inside a list is seen: it has a place, though no text. -/
example : (array [.array [], .bool true]).toText = ",true" := by decide +kernel

end TextTemplate.Value
