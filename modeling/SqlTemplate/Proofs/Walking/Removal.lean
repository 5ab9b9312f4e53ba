import SqlTemplate.Proofs.Walking.Rewriting

/-
  Walks that remove nodes.  A walk that removes the nodes with a
  property on leaving them takes the topmost ones out of the
  tree, with all that lies below them, and leaves everything
  else as it was.

  Correctness is proven by:
    * `Node.without_eq`
    * `Node.clear_eq`
    * `Node.fragments_without`
    * `remover_rewrites`
    * `removal_takes_topmost_fragments`
-/

------------------------------------------------------------
-- What Is Left of a Tree
------------------------------------------------------------

namespace SqlTemplate

variable {P : Node → Bool}

theorem Node.slotWithout_eq
    (slot : Slot Node) :
    Node.slotWithout P slot = slot.placed (Node.without P) := by
  cases slot with
  | vacant => rfl
  | one n => rfl
  | many members =>
      rw [Node.slotWithout, Slot.placed]
      congr 1
      induction members with
      | nil => rfl
      | cons member members ih =>
          cases member with
          | none =>
              rw [Node.listWithout, ih]
              rfl
          | some n =>
              rw [Node.listWithout, ih]
              cases hLeft : n.without P with
              | none => simp [Slot.placedMember, hLeft]
              | some r => simp [Slot.placedMember, hLeft]

/-
  Nothing is left of a node with the property, and of any other
  node the node itself with what is left in its slots.
-/
theorem Node.without_eq (n : Node) :
    n.without P =
      if P n then
        none
      else
        some (n.withSlots (n.slots.map (Slot.placed (Node.without P)))) := by
  rw [Node.without.eq_def]
  simp only [Node.slotWithout_eq]
  cases n with
  | select query =>
      rcases query with ⟨columns, source, filter, groups, having, order,
        limit, offset, distinct, options⟩
      simp only [Node.queryWithout, Node.slotWithout_eq]
      rfl
  | _ => rfl

theorem Node.slotClear_eq
    (slot : Slot Node) :
    Node.slotClear P slot = slot.nodes.flatMap (Node.clear P) := by
  cases slot with
  | vacant => rfl
  | one n => exact (List.append_nil _).symm
  | many members =>
      change Node.listClear P members =
        (members.filterMap id).flatMap (Node.clear P)
      induction members with
      | nil => rfl
      | cons member members ih =>
          cases member with
          | none => exact ih
          | some n =>
              rw [Node.listClear, ih]
              rfl

/-
  Without the property the fragments of a tree are the root and
  those of the trees below it.
-/
theorem Node.clear_eq (n : Node) :
    n.clear P =
      if P n then [] else n :: n.children.flatMap (Node.clear P) := by
  rw [Node.clear.eq_def, Node.children, List.flatMap_assoc]
  simp only [← Node.slotClear_eq]
  cases n with
  | select query =>
      rcases query with ⟨columns, source, filter, groups, having, order,
        limit, offset, distinct, options⟩
      simp [Node.slots, Node.queryClear]
  | _ => simp [Node.slots]

/-
  What is left of a tree are its fragments that are clear of the
  property, each without the nodes below it that are not.
-/
theorem Node.fragments_without (n : Node) :
    ((n.without P).toList.flatMap Node.fragments).map some =
      (n.clear P).map (Node.without P) := by
  induction n using Node.induction_of_children id (fun _ => rfl) with
  | hStep n ih =>
      rw [n.without_eq, n.clear_eq]
      cases hHolds : P n with
      | true => rfl
      | false =>
          have hRoot : n.without P =
              some (n.withSlots (n.slots.map
                (Slot.placed (Node.without P)))) := by
            rw [n.without_eq, hHolds]
            rfl
          have hBelow :
              ((n.children.filterMap (Node.without P)).flatMap
                  Node.fragments).map some =
                (n.children.flatMap (Node.clear P)).map
                  (Node.without P) := by
            rw [List.filterMap_eq_flatMap_toList, List.flatMap_assoc,
              List.map_flatMap, List.map_flatMap]
            exact List.flatMap_congr ih
          simp only [Bool.false_eq_true, if_false, Option.toList_some,
            List.flatMap_cons, List.flatMap_nil, List.append_nil]
          rw [Node.fragments_eq, Node.children_placed, List.map_cons,
            List.map_cons, hBelow, hRoot]

theorem Node.not_of_mem_clear
    {n m : Node}
    (hMem : m ∈ n.clear P) :
    P m = false := by
  induction n using Node.induction_of_children id (fun _ => rfl) with
  | hStep n ih =>
      rw [n.clear_eq] at hMem
      cases hHolds : P n with
      | true =>
          rw [hHolds] at hMem
          cases hMem
      | false =>
          rw [hHolds] at hMem
          rcases List.mem_cons.mp hMem with rfl | hBelow
          · exact hHolds
          · rcases List.mem_flatMap.mp hBelow with ⟨c, hChild, hClear⟩
            exact ih c hChild hClear

section

variable (hP : Node.IgnoresSlots P)

include hP

/- Nothing that is left has the property. -/
theorem Node.not_of_without
    {n r m : Node}
    (hLeft : n.without P = some r)
    (hMem : m ∈ r.fragments) :
    P m = false := by
  have hMap : some m ∈ (n.clear P).map (Node.without P) := by
    rw [← n.fragments_without, hLeft]
    exact List.mem_map_of_mem (by simpa using hMem)
  rcases List.mem_map.mp hMap with ⟨c, hClear, hFrom⟩
  have hNot := Node.not_of_mem_clear hClear
  rw [c.without_eq, hNot] at hFrom
  rw [← Option.some.inj hFrom, hP, hNot]

------------------------------------------------------------
-- Correctness
------------------------------------------------------------

theorem remover_rewrites :
    (remover P).RewritesBy id (Node.without P) (fun s _ => s) where
  enters _ _ := rfl
  leaves n s := by
    have hSame := hP n (n.slots.map (Slot.placed (Node.without P)))
    simp only [remover, id, hSame, n.without_eq]
    cases P n with
    | true => exact ⟨rfl, rfl, trivial⟩
    | false => exact ⟨rfl, rfl, trivial⟩

/-
  A walk that removes the nodes with a property does not fail.
  It takes out the topmost ones: a list loses such members and
  keeps the others and its empty places in their order, a slot
  that holds one such node becomes vacant, and nothing is left
  of a tree with such a root.  No node with the property is left,
  and each fragment that is not at or below one is.
-/
theorem removal_takes_topmost_fragments
    (n : Node)
    (levels : Nat)
    (hLevels : 2 * n.height ≤ levels) :
    let walk := n.walkFrom (remover P) levels ()
    walk.2.failure = none ∧
      walk.1.result = n.without P ∧
        (∀ m : Node,
          m.without P =
            if P m then
              none
            else
              some (m.withSlots
                (m.slots.map (Slot.placed (Node.without P))))) ∧
          ∀ r, walk.1.result = some r →
            r.fragments.map some = (n.clear P).map (Node.without P) ∧
              ∀ m ∈ r.fragments, P m = false := by
  intro walk
  have hEnough : n.walkLevels ≤ levels :=
    Nat.le_trans n.walkLevels_le hLevels
  rcases Node.walkEditing_rewrites (remover_rewrites hP) (fun _ => rfl)
    levels n hEnough () with ⟨edited, hWalk⟩
  have hOutcome : walk = (⟨edited, n.without P⟩, ⟨(), none⟩) := hWalk
  rw [hOutcome]
  refine ⟨rfl, rfl, Node.without_eq, fun r hLeft => ⟨?_, ?_⟩⟩
  · have hFragments := n.fragments_without (P := P)
    rw [show n.without P = some r from hLeft] at hFragments
    simpa using hFragments
  · exact fun m hMem => Node.not_of_without hP hLeft hMem

end

/- The columns of a name are removed from a list and from a slot. -/
theorem removal_takes_topmost_fragments_of_columns :
    let isColumn : Node → Bool
      | .column name _ _ => name = "b"
      | _ => false
    let column name := Node.column name none none
    let tree := Node.connective .and
      (.many [some (column "b"), none, some (column "a"),
        some (.unary .not (.one (column "b")))])
    Node.IgnoresSlots isColumn ∧ 2 * tree.height ≤ 6 ∧
      (tree.walkFrom (remover isColumn) 6 ()).1.result =
        some (.connective .and
          (.many [none, some (column "a"), some (.unary .not .vacant)])) := by
  intro isColumn column tree
  have hIgnores : Node.IgnoresSlots isColumn := by
    intro n slots
    unfold Node.withSlots
    split <;> rfl
  have hLevels : 2 * tree.height ≤ 6 := by decide
  rcases removal_takes_topmost_fragments hIgnores tree 6 hLevels with
    ⟨_, hResult, _⟩
  exact ⟨hIgnores, hLevels, hResult⟩

end SqlTemplate
