import SqlTemplate.Bindings
import SqlTemplate.Node

/-
  Bound values in place of parameters.  Quoted parameters that
  are bound to scalars become literals; all others stay, and
  so do numeral parameters.

  Key definitions include:
    * `Bindings.scalar?`
    * `Node.bracketList`
    * `Node.substitute`
-/

------------------------------------------------------------
-- Substitution
------------------------------------------------------------

namespace SqlTemplate

/- The value of a name that is bound to no collection. -/
def Bindings.scalar?
    (b : Bindings)
    (name : String) : Option Value :=
  (b.value? name).filter fun v => !v.isCollection

namespace Node

/-
  A node whose list of values is in brackets, if it is a test
  for membership in such a list.
-/
def bracketList : Node → Node
| .binary op left right =>
    .binary op left (if op.isMembership then right.bracketBare else right)
| n => n

mutual

/-
  A tree with the values of bound parameters written into it.
  A parameter that stands alone after IN is put in brackets.
-/
def substitute (b : Bindings) : Node → Node
| .parameter name =>
    match b.scalar? name with
    | some v => .literal v
    | none => .parameter name
| .group members brackets delimiter =>
    .group (substituteSlot b members) brackets delimiter
| .binary op left right =>
    .binary op (substituteSlot b left)
      (substituteOperand b op.isMembership right)
| .connective op operands =>
    .connective op (substituteSlot b operands)
| .unary op operand => .unary op (substituteSlot b operand)
| .between operand low high =>
    .between (substituteSlot b operand) (substituteSlot b low)
      (substituteSlot b high)
| .call name args distinct =>
    .call name (substituteSlot b args) distinct
| .alias node label => .alias (substituteSlot b node) label
| .orderBy node direction =>
    .orderBy (substituteSlot b node) direction
| .table name label database join condition =>
    .table name label database join (substituteSlot b condition)
| .select query => .select (substituteQuery b query)
| .subquery query label => .subquery (substituteSlot b query) label
| n => n

/- Substitution in a slot. -/
def substituteSlot (b : Bindings) : Slot Node → Slot Node
| .vacant => .vacant
| .one n => .one (n.substitute b)
| .many members => .many (substituteList b members)

/- Substitution in an operand that may be a list of values. -/
def substituteOperand
    (b : Bindings)
    (isList : Bool) : Slot Node → Slot Node
| .vacant => .vacant
| .one n =>
    if isList && n.isParameter then
      .one (n.substitute b).bracketed
    else
      .one (n.substitute b)
| .many members => .many (substituteList b members)

/- Substitution in the members of a list. -/
def substituteList
    (b : Bindings) : List (Option Node) → List (Option Node)
| [] => []
| none :: members => none :: substituteList b members
| some n :: members =>
    some (n.substitute b) :: substituteList b members

/- Substitution in a query. -/
def substituteQuery (b : Bindings) : Query Node → Query Node
| ⟨columns, source, filter, groups, having, order, limit, offset,
    distinct, options⟩ =>
    ⟨substituteSlot b columns, substituteSlot b source,
      substituteSlot b filter, substituteSlot b groups,
      substituteSlot b having, substituteSlot b order,
      substituteSlot b limit, substituteSlot b offset,
      distinct, options⟩

end

end Node

end SqlTemplate
