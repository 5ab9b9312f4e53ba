import Mathlib.Data.List.Basic
import SqlTemplate.Node.Fragments
import SqlTemplate.Node.Rewriting
import SqlTemplate.Rendering.Height

/-
  The nodes right below a node.  A tree is the root and the
  trees below it, slot by slot, so what holds of a node if it
  holds of those right below it holds of every tree.

  Key definitions include:
    * `Node.walkLevels`

  Correctness is proven by:
    * `Node.fragments_eq`
    * `Node.children_placed`
    * `Node.walkLevels_lt_of_child`
    * `Node.walkLevels_bracketList`
    * `Node.induction_of_children`
-/

------------------------------------------------------------
-- Slots with Other Contents
------------------------------------------------------------

namespace SqlTemplate

@[simp]
theorem Node.slots_placed
    (n : Node)
    (f : Slot Node → Slot Node) :
    (n.withSlots (n.slots.map f)).slots = n.slots.map f := by
  cases n <;> rfl

@[simp]
theorem Node.withSlots_placed
    (n : Node)
    (f g : Slot Node → Slot Node) :
    (n.withSlots (n.slots.map f)).withSlots ((n.slots.map f).map g) =
      n.withSlots (n.slots.map (g ∘ f)) := by
  cases n <;> rfl

section

variable (place : Node → Option Node)

theorem Slot.nodes_placed
    (slot : Slot Node) :
    (slot.placed place).nodes = slot.nodes.filterMap place := by
  cases slot with
  | vacant => rfl
  | one n =>
      rw [Slot.placed, Slot.nodes]
      cases hPlace : place n with
      | none => simp [Slot.nodes, Slot.ofOption, hPlace]
      | some r => simp [Slot.nodes, Slot.ofOption, hPlace]
  | many members =>
      simp only [Slot.placed, Slot.nodes, List.filterMap_filterMap]
      congr 1
      funext member
      cases member with
      | none => rfl
      | some n => cases hPlace : place n <;> simp [Slot.placedMember, hPlace]

/- What is right below a node whose slots are rewritten. -/
theorem Node.children_placed
    (n : Node) :
    (n.withSlots (n.slots.map (Slot.placed place))).children =
      n.children.filterMap place := by
  rw [Node.children, Node.slots_placed, List.flatMap_map, Node.children,
    List.filterMap_flatMap]
  congr 1
  funext slot
  exact slot.nodes_placed place

end

@[simp]
theorem Slot.placed_some (slot : Slot Node) : slot.placed some = slot := by
  cases slot with
  | vacant => rfl
  | one n => rfl
  | many members =>
      have hSame : Slot.placedMember some = some := by
        funext member
        cases member <;> rfl
      rw [Slot.placed, hSame, List.filterMap_some]

/- Two rewritings of a slot are one, one after the other. -/
theorem Slot.placed_placed
    (slot : Slot Node)
    (first second : Node → Option Node) :
    (slot.placed first).placed second =
      slot.placed fun n => (first n).bind second := by
  cases slot with
  | vacant => rfl
  | one n =>
      rw [Slot.placed, Slot.placed]
      cases first n <;> rfl
  | many members =>
      rw [Slot.placed, Slot.placed, Slot.placed, List.filterMap_filterMap]
      congr 2
      funext member
      cases member with
      | none => rfl
      | some n =>
          simp only [Slot.placedMember]
          cases first n <;> rfl

/- Two rewritings that agree on the nodes of a slot rewrite it alike. -/
theorem Slot.placed_congr
    {slot : Slot Node}
    {place place' : Node → Option Node}
    (hAgree : ∀ n ∈ slot.nodes, place n = place' n) :
    slot.placed place = slot.placed place' := by
  cases slot with
  | vacant => rfl
  | one n =>
      rw [Slot.placed, hAgree n (List.mem_singleton_self n)]
      rfl
  | many members =>
      rw [Slot.placed, Slot.placed]
      congr 1
      apply List.filterMap_congr
      intro member hMember
      cases member with
      | none => rfl
      | some n =>
          rw [Slot.placedMember, Slot.placedMember,
            hAgree n (List.mem_filterMap.mpr ⟨_, hMember, rfl⟩)]

------------------------------------------------------------
-- Fragments
------------------------------------------------------------

theorem Slot.fragments_eq
    (slot : Slot Node) :
    Node.slotFragments slot = slot.nodes.flatMap Node.fragments := by
  cases slot with
  | vacant => rfl
  | one n => exact (List.append_nil _).symm
  | many members =>
      change Node.listFragments members =
        (members.filterMap id).flatMap Node.fragments
      induction members with
      | nil => rfl
      | cons member members ih =>
          cases member with
          | none => exact ih
          | some n =>
              rw [Node.listFragments, ih]
              rfl

/- The fragments of a tree are the root and those of the trees below. -/
theorem Node.fragments_eq (n : Node) :
    n.fragments = n :: n.children.flatMap Node.fragments := by
  rw [Node.fragments.eq_def, Node.children, List.flatMap_assoc]
  simp only [← Slot.fragments_eq]
  cases n with
  | select query =>
      rcases query with ⟨columns, source, filter, groups, having, order,
        limit, offset, distinct, options⟩
      simp [Node.slots, Node.queryFragments]
  | _ => simp [Node.slots]

------------------------------------------------------------
-- Levels
------------------------------------------------------------

/-
  The levels that a walk goes down from a node.  The SELECT of a
  subquery lies on the level of the subquery, but a walk goes
  down to it.
-/
def Node.walkLevels (n : Node) : Nat :=
  match n with
  | .subquery _ _ => 2 * n.height
  | _ => 2 * n.height - 1

theorem Node.walkLevels_le (n : Node) :
    n.walkLevels ≤ 2 * n.height := by
  unfold Node.walkLevels
  split <;> omega

theorem Node.lt_walkLevels
    {n : Node}
    {height : Nat}
    (hHeight : height < n.height) :
    2 * height < n.walkLevels := by
  unfold Node.walkLevels
  split <;> omega

/- No node in a slot is higher than the slot. -/
theorem Slot.height_le_of_mem
    {slot : Slot Node}
    {n : Node}
    (hNode : n ∈ slot.nodes) :
    n.height ≤ Node.slotHeight slot := by
  cases slot with
  | vacant => cases hNode
  | one m =>
      rw [List.mem_singleton.mp hNode]
      exact Nat.le_refl _
  | many members =>
      change n ∈ members.filterMap id at hNode
      change n.height ≤ Node.listHeight members
      induction members with
      | nil => cases hNode
      | cons member members ih =>
          cases member with
          | none => exact ih hNode
          | some m =>
              rw [Node.listHeight]
              rcases List.mem_cons.mp hNode with rfl | hOther
              · exact Nat.le_max_left _ _
              · exact Nat.le_trans (ih hOther) (Nat.le_max_right _ _)

theorem BinaryOp.le_rightHeight
    (op : BinaryOp)
    (right : Slot Node)
    (content : Nat) :
    content ≤ op.rightHeight right content := by
  unfold BinaryOp.rightHeight
  split <;> omega

/- The slots of a node are lower than the node, except for subqueries. -/
theorem Node.slotHeight_lt
    {n : Node}
    {slot : Slot Node}
    (hSlot : slot ∈ n.slots) :
    Node.slotHeight slot < n.height ∨
      ∃ query label, n = .subquery (.one (.select query)) label := by
  cases n with
  | subquery inner label =>
      rw [List.mem_singleton.mp hSlot]
      rcases inner with _ | m | members
      · exact .inl (Nat.lt_succ_self _)
      · cases m with
        | select query => exact .inr ⟨query, label, rfl⟩
        | _ => exact .inl (Nat.lt_succ_self _)
      · exact .inl (Nat.lt_succ_self _)
  | binary op left right =>
      have hRight := op.le_rightHeight right (Node.slotHeight right)
      simp only [Node.slots, List.mem_cons, List.not_mem_nil, or_false]
        at hSlot
      refine .inl ?_
      rw [Node.height]
      rcases hSlot with rfl | rfl <;> omega
  | between operand low high =>
      simp only [Node.slots, List.mem_cons, List.not_mem_nil, or_false]
        at hSlot
      refine .inl ?_
      rw [Node.height]
      rcases hSlot with rfl | rfl | rfl <;> omega
  | select query =>
      simp only [Node.slots, List.mem_cons, List.not_mem_nil, or_false]
        at hSlot
      refine .inl ?_
      rw [Node.height, Node.queryHeight]
      rcases hSlot with rfl | rfl | rfl | rfl | rfl | rfl | rfl | rfl <;>
        omega
  | column name owner database => cases hSlot
  | literal value => cases hSlot
  | raw text => cases hSlot
  | parameter name => cases hSlot
  | numeral name => cases hSlot
  | foreign typeName => cases hSlot
  | _ =>
      rw [List.mem_singleton.mp hSlot]
      exact .inl (Nat.lt_succ_self _)

/- A walk goes down fewer levels from what lies below a node. -/
theorem Node.walkLevels_lt_of_child
    {n m : Node}
    (hChild : m ∈ n.children) :
    m.walkLevels < n.walkLevels := by
  rcases List.mem_flatMap.mp hChild with ⟨slot, hSlot, hNode⟩
  rcases Node.slotHeight_lt hSlot with hLower | ⟨query, label, rfl⟩
  · have hHeight := Slot.height_le_of_mem hNode
    exact Nat.lt_of_le_of_lt m.walkLevels_le
      (Node.lt_walkLevels (Nat.lt_of_le_of_lt hHeight hLower))
  · -- The SELECT is as high as the subquery that holds it.
    rw [List.mem_singleton.mp hSlot] at hNode
    rw [List.mem_singleton.mp hNode]
    have hQuery := (Node.select query).height_pos
    change 2 * (Node.select query).height - 1 <
      2 * (Node.select query).height
    omega

/- A parameter on its own is as high as its brackets make it. -/
theorem BinaryOp.slotHeight_bracketBare
    (op : BinaryOp)
    (right : Slot Node) :
    Node.slotHeight
        (if op.isMembership then right.bracketBare else right) =
      op.rightHeight right (Node.slotHeight right) := by
  unfold BinaryOp.rightHeight RenderContext.standsBare
  cases hMembership : op.isMembership with
  | false => rfl
  | true =>
      cases right with
      | vacant => rfl
      | many members => rfl
      | one n =>
          cases n with
          | parameter name => rfl
          | numeral name => rfl
          | _ => rfl

theorem Slot.bareParameter?_bracketBare
    (slot : Slot Node) :
    slot.bracketBare.bareParameter? = none := by
  cases slot with
  | vacant => rfl
  | many members => rfl
  | one n => cases n <;> rfl

/- No parameter stands on its own in a test whose list is in brackets. -/
theorem BinaryOp.not_standsBare_bracketBare
    (op : BinaryOp)
    (right : Slot Node) :
    RenderContext.standsBare op
      (if op.isMembership then right.bracketBare else right) = false := by
  unfold RenderContext.standsBare
  cases hMembership : op.isMembership with
  | false => rfl
  | true =>
      rw [if_pos rfl, right.bareParameter?_bracketBare]
      rfl

/- Brackets around a single parameter do not make a test higher. -/
theorem Node.walkLevels_bracketList (n : Node) :
    n.bracketList.walkLevels = n.walkLevels := by
  cases n with
  | binary op left right =>
      simp only [Node.bracketList, Node.walkLevels, Node.height,
        op.slotHeight_bracketBare right]
      rw [BinaryOp.rightHeight, op.not_standsBare_bracketBare right]
      rfl
  | _ => rfl

------------------------------------------------------------
-- Induction
------------------------------------------------------------

/-
  What holds of a node if it holds of all nodes right below it
  holds of every tree, also if nodes are edited on the way down.
-/
theorem Node.induction_of_children
    {P : Node → Prop}
    (edit : Node → Node)
    (hEdit : ∀ n : Node, (edit n).walkLevels = n.walkLevels)
    (hStep : ∀ n : Node, (∀ m ∈ (edit n).children, P m) → P n)
    (n : Node) :
    P n := by
  induction hLevels : n.walkLevels using Nat.strongRecOn generalizing n with
  | ind levels ih =>
      apply hStep
      intro m hChild
      have hLower := Node.walkLevels_lt_of_child hChild
      rw [hEdit n, hLevels] at hLower
      exact ih m.walkLevels hLower m rfl

/- What is right below a fragment of a tree is one as well. -/
theorem Node.mem_fragments_of_child
    {n m c : Node}
    (hFragment : m ∈ n.fragments)
    (hChild : c ∈ m.children) :
    c ∈ n.fragments := by
  induction n using Node.induction_of_children id (fun _ => rfl) with
  | hStep n ih =>
      rw [n.fragments_eq] at hFragment ⊢
      rcases List.mem_cons.mp hFragment with rfl | hBelow
      · exact List.mem_cons_of_mem _
          (List.mem_flatMap.mpr ⟨c, hChild, c.mem_fragments⟩)
      · rcases List.mem_flatMap.mp hBelow with ⟨top, hTop, hInner⟩
        exact List.mem_cons_of_mem _
          (List.mem_flatMap.mpr ⟨top, hTop, ih top hTop hInner⟩)

end SqlTemplate
