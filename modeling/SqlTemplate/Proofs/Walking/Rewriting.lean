import SqlTemplate.Proofs.Walking.Children
import SqlTemplate.Proofs.Walking.Tours

/-
  Walks that rewrite trees.  If a visitor never stops a walk, and
  what it puts in the place of a node depends on the node alone,
  then a walk of enough levels rewrites the tree from the leaves
  upward, and the visitor passes through the nodes in their order.

  Key definitions include:
    * `WalkStep.Rewrites`
    * `Visitor.RewritesBy`

  Correctness is proven by:
    * `Node.walkChildren_rewrites`
    * `Node.walkEditing_rewrites`
-/

------------------------------------------------------------
-- Steps that Rewrite
------------------------------------------------------------

namespace SqlTemplate

section

variable {σ : Type}

/-
  The walk of a node does not fail.  Something takes the place of
  the node, or nothing, and the visitor passes to another state.
-/
def WalkStep.Rewrites
    (step : WalkStep σ)
    (place : Node → Option Node)
    (pass : σ → Node → σ)
    (n : Node) : Prop :=
  ∀ visitor, ∃ edited,
    step n ⟨visitor, none⟩ = (⟨edited, place n⟩, ⟨pass visitor n, none⟩)

variable {step : WalkStep σ} {place : Node → Option Node}
variable {pass : σ → Node → σ}

/- Members are rewritten one after the other. -/
theorem walkMembers_rewrites
    (members : List (Option Node))
    (hStep : ∀ n ∈ members.filterMap id, step.Rewrites place pass n)
    (visitor : σ) :
    ∃ edited,
      walkMembers step members ⟨visitor, none⟩ =
        ((edited, members.filterMap (Slot.placedMember place)),
          ⟨(members.filterMap id).foldl pass visitor, none⟩) := by
  induction members generalizing visitor with
  | nil => exact ⟨[], rfl⟩
  | cons member members ih =>
      cases member with
      | none =>
          rcases ih hStep visitor with ⟨edited, hRest⟩
          refine ⟨none :: edited, ?_⟩
          simp only [walkMembers, hRest]
          rfl
      | some n =>
          have hMembers := List.forall_mem_cons.mp hStep
          rcases hMembers.1 visitor with ⟨first, hFirst⟩
          rcases ih hMembers.2 (pass visitor n) with ⟨edited, hRest⟩
          refine ⟨some first :: edited, ?_⟩
          simp only [walkMembers, hFirst, hRest]
          cases hPlace : place n with
          | none => simp [Slot.placedMember, hPlace]
          | some r => simp [Slot.placedMember, hPlace]

theorem walkSlot_rewrites
    (slot : Slot Node)
    (hStep : ∀ n ∈ slot.nodes, step.Rewrites place pass n)
    (visitor : σ) :
    walkSlot step slot ⟨visitor, none⟩ =
      (slot.placed place, ⟨slot.nodes.foldl pass visitor, none⟩) := by
  cases slot with
  | vacant => rfl
  | one n =>
      rcases hStep n (List.mem_singleton_self n) visitor with
        ⟨edited, hNode⟩
      simp only [walkSlot, hNode]
      rfl
  | many members =>
      rcases walkMembers_rewrites members hStep visitor with
        ⟨edited, hMembers⟩
      simp only [walkSlot, hMembers]
      rfl

/- Slots are rewritten one after the other. -/
theorem walkSlots_rewrites
    (slots : List (Slot Node))
    (hStep : ∀ n ∈ slots.flatMap Slot.nodes, step.Rewrites place pass n)
    (visitor : σ) :
    walkSlots step slots ⟨visitor, none⟩ =
      (slots.map (Slot.placed place),
        ⟨(slots.flatMap Slot.nodes).foldl pass visitor, none⟩) := by
  induction slots generalizing visitor with
  | nil => rfl
  | cons slot slots ih =>
      rw [List.flatMap_cons, List.forall_mem_append] at hStep
      have hFirst := walkSlot_rewrites slot hStep.1 visitor
      have hRest := ih hStep.2 (slot.nodes.foldl pass visitor)
      simp only [walkSlots, bind, StateT.bind, hFirst, hRest]
      rw [List.flatMap_cons, List.foldl_append]
      rfl

/- The nodes below a node are rewritten slot by slot. -/
theorem Node.walkChildren_rewrites
    (n : Node)
    (hStep : ∀ m ∈ n.children, step.Rewrites place pass m)
    (visitor : σ) :
    n.walkChildren step ⟨visitor, none⟩ =
      (n.withSlots (n.slots.map (Slot.placed place)),
        ⟨n.children.foldl pass visitor, none⟩) := by
  have hSlots := walkSlots_rewrites n.slots hStep visitor
  simp only [n.walkChildren_eq, bind, StateT.bind, hSlots]
  rfl

end

------------------------------------------------------------
-- Walks of Whole Trees
------------------------------------------------------------

section

variable {σ : Type}

/-
  A visitor enters every node.  On leaving a node whose slots are
  rewritten it puts something in the place of the node, or
  nothing, and has passed through the node and those below it.
-/
structure Visitor.RewritesBy
    (v : Visitor σ)
    (edit : Node → Node)
    (place : Node → Option Node)
    (pass : σ → Node → σ) : Prop where
  enters :
    ∀ n s, (v.enter (edit n) s).1 = .keep
  leaves :
    ∀ n s,
      let left := (edit n).withSlots ((edit n).slots.map (Slot.placed place))
      let answer := v.leave left
        ((edit n).children.foldl pass (v.enter (edit n) s).2)
      answer.1.concludes = true ∧
        answer.1.placed left = place n ∧ answer.2 = pass s n

theorem Node.finish_concludes
    {v : Visitor σ}
    {n : Node}
    {visitor : σ}
    (hConcludes : (v.leave n visitor).1.concludes = true) :
    n.finish v ⟨visitor, none⟩ =
      ((v.leave n visitor).1.placed n, ⟨(v.leave n visitor).2, none⟩) := by
  unfold Node.finish Node.leaveWith
  rcases hLeave : v.leave n visitor with ⟨answer, visitor'⟩
  rw [hLeave] at hConcludes
  cases answer with
  | keep | remove | replace r => rfl
  | skipChildren | foreign x => cases hConcludes

/-
  A visitor that rewrites nodes rewrites whole trees, if a walk
  may go down the levels of the tree.
-/
theorem Node.walkEditing_rewrites
    {v : Visitor σ}
    {edit : Node → Node}
    {place : Node → Option Node}
    {pass : σ → Node → σ}
    (hRewrites : v.RewritesBy edit place pass)
    (hEdit : ∀ n : Node, (edit n).walkLevels = n.walkLevels)
    (levels : Nat)
    (n : Node)
    (hLevels : n.walkLevels ≤ levels) :
    (Node.walkEditing edit v levels).Rewrites place pass n := by
  induction levels generalizing n with
  | zero =>
      have hSome : 0 < n.walkLevels := Node.lt_walkLevels n.height_pos
      omega
  | succ levels ih =>
      intro visitor
      have hBelow : ∀ m ∈ (edit n).children,
          (Node.walkEditing edit v levels).Rewrites place pass m := by
        intro m hChild
        have hLower := Node.walkLevels_lt_of_child hChild
        rw [hEdit n] at hLower
        exact ih m (by omega)
      have hEnter := hRewrites.enters n visitor
      rcases hRewrites.leaves n visitor with ⟨hConcludes, hPlaced, hPassed⟩
      rw [Node.walkEditing]
      rcases hAnswer : v.enter (edit n) visitor with ⟨answer, entered⟩
      rw [hAnswer] at hEnter hConcludes hPlaced hPassed
      cases hEnter
      simp only [(edit n).walkChildren_rewrites hBelow entered,
        Node.finish_concludes hConcludes]
      exact ⟨_, by rw [hPlaced, hPassed]⟩

end

end SqlTemplate
