import SqlTemplate.Node.Tour
import SqlTemplate.Rendering.Pruned

/-
  The places in a tree and the texts that stand there.  A place
  is found from the root downward, by a slot and a member of its
  content at each step.  The node in a place is present if it and
  all nodes above it are written with a text.

  Key definitions include:
    * `Place`
    * `Node.child?`
    * `Node.outlet?`
    * `Node.textAt?`
-/

------------------------------------------------------------
-- Places
------------------------------------------------------------

namespace SqlTemplate

/-
  The way from a node down to one below it: the number of a slot
  and of a member of its content, for each level.
-/
abbrev Place :=
  List (Nat × Nat)

/- A member of the content of a slot; a single node is the first. -/
def Slot.member?
    {α : Type}
    (slot : Slot α)
    (member : Nat) : Option α :=
  match slot with
  | .vacant => none
  | .one n => if member = 0 then some n else none
  | .many members => members[member]?.join

namespace Node

/- A node right below another one. -/
def child?
    (n : Node)
    (slot member : Nat) : Option Node :=
  n.slots[slot]?.bind (·.member? member)

------------------------------------------------------------
-- Texts
------------------------------------------------------------

/- The text that a node has in a slot of its own. -/
def ownText?
    (ctx : RenderContext)
    (depth : Nat)
    (indent : Int)
    (n : Node) : Option String :=
  match renderSlot ctx depth indent " " (.one n) with
  | .ok text => text
  | .error _ => none

/-
  The depth and the indent that the content of a slot is written
  with, if it is written.  A null test leaves out the right
  operand, and a membership test in an empty collection both.
-/
def outlet?
    (ctx : RenderContext)
    (depth : Nat)
    (indent : Int)
    (slot : Nat) : Node → Option (Nat × Int)
| .binary op _ right =>
    if op.isNullLenient && ctx.bindings.leavesOpen right then
      if slot = 0 then some (depth + 1, indent) else none
    else if op.isMembership && ctx.bindings.empties right then
      none
    else if RenderContext.standsBare op right && slot = 1 then
      some (depth + 2, indent)
    else
      some (depth + 1, indent)
| .subquery _ _ => some (depth, indent + indentWidth)
| _ => some (depth + 1, indent)

/-
  The node in a place and its text, if it is present there and
  all nodes on the way down to it are.
-/
def textAt?
    (ctx : RenderContext) :
    Place → Nat → Int → Node → Option (Node × String)
| [], depth, indent, n => (n.ownText? ctx depth indent).map (n, ·)
| (slot, member) :: place, depth, indent, n => do
    let _ ← n.ownText? ctx depth indent
    let (depth, indent) ← n.outlet? ctx depth indent slot
    let m ← n.child? slot member
    m.textAt? ctx place depth indent

end Node

end SqlTemplate
