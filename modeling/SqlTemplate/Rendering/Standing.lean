import SqlTemplate.Rendering.Pruned

/-
  The fragments of a statement that its text has to account for
  when values are supplied.  A membership test in an empty
  collection is written as a whole, so nothing below it has a
  text of its own; all other fragments do.

  Key definitions include:
    * `Bindings.supplies`
    * `Node.standing`
-/

------------------------------------------------------------
-- Supplied Parameters
------------------------------------------------------------

namespace SqlTemplate

/- A node is no parameter, or one that has a value to be written. -/
def Bindings.supplies
    (b : Bindings)
    (n : Node) : Bool :=
  match n.parameterName? with
  | some name => b.fills name
  | none => true

------------------------------------------------------------
-- Standing Fragments
------------------------------------------------------------

namespace Node

mutual

/-
  A node and all nodes below it, except for those below a
  membership test in an empty collection.
-/
def standing
    (b : Bindings)
    (n : Node) : List Node :=
  n ::
    match n with
    | .group members _ _ => slotStanding b members
    | .binary op left right =>
        if op.isMembership && b.empties right then
          []
        else
          slotStanding b left ++ slotStanding b right
    | .connective _ operands => slotStanding b operands
    | .unary _ operand => slotStanding b operand
    | .between operand low high =>
        slotStanding b operand ++ slotStanding b low ++ slotStanding b high
    | .call _ args _ => slotStanding b args
    | .alias node _ => slotStanding b node
    | .orderBy node _ => slotStanding b node
    | .table _ _ _ _ condition => slotStanding b condition
    | .select query => queryStanding b query
    | .subquery query _ => slotStanding b query
    | _ => []

/- The standing fragments in a slot. -/
def slotStanding
    (b : Bindings) : Slot Node → List Node
| .vacant => []
| .one n => n.standing b
| .many members => listStanding b members

/- The standing fragments of the members of a list. -/
def listStanding
    (b : Bindings) : List (Option Node) → List Node
| [] => []
| none :: members => listStanding b members
| some n :: members => n.standing b ++ listStanding b members

/- The standing fragments of a query. -/
def queryStanding
    (b : Bindings) : Query Node → List Node
| ⟨columns, source, filter, groups, having, order, limit, offset, _, _⟩ =>
    slotStanding b columns ++ slotStanding b source ++
      slotStanding b filter ++ slotStanding b groups ++
        slotStanding b having ++ slotStanding b order ++
          slotStanding b limit ++ slotStanding b offset

end

end Node

end SqlTemplate
