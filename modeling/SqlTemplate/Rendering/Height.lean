import SqlTemplate.Rendering

/-
  The height of a tree: the number of levels that its nodes lie
  on.  A node lies one level below the one that holds it, but the
  SELECT of a subquery lies on the level of the subquery, and a
  parameter that stands alone as a list of values lies in the
  brackets that it is written in.

  Key definitions include:
    * `BinaryOp.rightHeight`
    * `Node.height`
    * `Node.slotHeight`
    * `Node.queryHeight`
    * `RenderError.blamesDepth`

  Correctness is proven by:
    * `Node.height_pos`
-/

------------------------------------------------------------
-- Levels of a Tree
------------------------------------------------------------

namespace SqlTemplate

/-
  The levels of a right operand, given those of its content: one
  more if it is put in brackets.
-/
def BinaryOp.rightHeight
    (op : BinaryOp)
    (right : Slot Node)
    (content : Nat) : Nat :=
  if RenderContext.standsBare op right then content + 1 else content

namespace Node

mutual

/- The number of levels from a node downward. -/
def height : Node → Nat
| .group members _ _ => slotHeight members + 1
| .binary op left right =>
    max (slotHeight left) (op.rightHeight right (slotHeight right)) + 1
| .connective _ operands => slotHeight operands + 1
| .unary _ operand => slotHeight operand + 1
| .between operand low high =>
    max (slotHeight operand) (max (slotHeight low) (slotHeight high)) + 1
| .call _ args _ => slotHeight args + 1
| .alias node _ => slotHeight node + 1
| .orderBy node _ => slotHeight node + 1
| .table _ _ _ _ condition => slotHeight condition + 1
| .select query => queryHeight query + 1
| .subquery (.one (.select query)) _ => queryHeight query + 1
| .subquery slot _ => slotHeight slot + 1
| _ => 1

/- The number of levels in a slot. -/
def slotHeight : Slot Node → Nat
| .vacant => 0
| .one n => n.height
| .many members => listHeight members

/- The number of levels of the members of a list. -/
def listHeight : List (Option Node) → Nat
| [] => 0
| none :: members => listHeight members
| some n :: members => max n.height (listHeight members)

/- The number of levels in the slots of a query. -/
def queryHeight : Query Node → Nat
| ⟨columns, source, filter, groups, having, order, limit, offset, _, _⟩ =>
    max (slotHeight columns) (max (slotHeight source)
      (max (slotHeight filter) (max (slotHeight groups)
        (max (slotHeight having) (max (slotHeight order)
          (max (slotHeight limit) (slotHeight offset)))))))

end

end Node

theorem Node.height_pos (n : Node) : 0 < n.height := by
  rw [Node.height.eq_def]
  split <;> exact Nat.succ_pos _

------------------------------------------------------------
-- Errors about the Depth
------------------------------------------------------------

/- An error is that a node lies too deep. -/
def RenderError.blamesDepth : RenderError → Bool
| .tooDeep _ _ => true
| _ => false

end SqlTemplate
