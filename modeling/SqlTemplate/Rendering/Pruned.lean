import SqlTemplate.Rendering

/-
  The tree that is left of a statement when what depends on
  parameters without a value is taken out of it.

  A parameter is absent if it is unbound or bound to an empty
  collection.  A list loses its absent members and is absent
  when none is left; most other fragments are absent as soon as
  a part of them is.  An equality with an unbound parameter
  becomes a null test, a membership test in an empty collection
  is false, and a range test with one bound is a comparison.

  Key definitions include:
    * `Bindings.fills`
    * `Node.pruned`
    * `Node.prunedSlot`
    * `Node.prunedQuery`
-/

------------------------------------------------------------
-- Parameters with a Value
------------------------------------------------------------

namespace SqlTemplate

namespace Bindings

/- A parameter is bound to something that can be written. -/
def fills
    (b : Bindings)
    (name : String) : Bool :=
  match b.value? name with
  | some v => !v.isEmptyCollection
  | none => false

/- A slot holds an unbound parameter on its own. -/
def leavesOpen
    (b : Bindings)
    (slot : Slot Node) : Bool :=
  match slot.bareParameter? with
  | some name => !b.isBound name
  | none => false

/- The parameter that decides about a list is bound to none. -/
def empties
    (b : Bindings)
    (list : Slot Node) : Bool :=
  match RenderContext.leadingParameter? list with
  | some name => (b name).isEmptyCollection
  | none => false

end Bindings

------------------------------------------------------------
-- Fragments with Absent Parts
------------------------------------------------------------

/- A slot, unless nothing is in it. -/
def Slot.given?
    {α : Type}
    (slot : Slot α) : Option (Slot α) :=
  if slot.isVacant then none else some slot

/- A slot for a list; an empty list is nothing. -/
def Slot.ofPresent
    {α : Type} : List α → Slot α
| [] => .vacant
| items => .ofList items

namespace Node

/- The null test of an operand, as a sequence of its parts. -/
def nullTested (operand : Slot Node) : Node :=
  .group (operand.append (.raw "IS null")) false " "

/-
  A range test of an operand that is present, as a comparison
  if one of its bounds is absent.
-/
def ranged
    (operand : Slot Node) : Slot Node → Slot Node → Option Node
| .vacant, .vacant => none
| low, .vacant => some (.binary .greaterOrEqual operand low)
| .vacant, high => some (.binary .lessOrEqual operand high)
| low, high => some (.between operand low high)

------------------------------------------------------------
-- Pruned Trees
------------------------------------------------------------

mutual

/- What is left of a node, unless it is absent. -/
def pruned
    (b : Bindings) : Node → Option Node
| .parameter name => if b.fills name then some (.parameter name) else none
| .numeral name => if b.fills name then some (.numeral name) else none
| .group members brackets delimiter =>
    (prunedSlot b members).given?.map fun members =>
      .group members brackets delimiter
| .binary op left right =>
    if op.isNullLenient && b.leavesOpen right then
      (prunedSlot b left).given?.map nullTested
    else if op.isMembership && b.empties right then
      some (.raw emptyListResult)
    else do
      let left ← (prunedSlot b left).given?
      let right ← (prunedSlot b right).given?
      return .binary op left right
| .connective op operands =>
    (prunedSlot b operands).given?.map (.connective op)
| .unary op operand => (prunedSlot b operand).given?.map (.unary op)
| .between operand low high =>
    (prunedSlot b operand).given?.bind fun operand =>
      ranged operand (prunedSlot b low) (prunedSlot b high)
| .call name (.many args) distinct =>
    (prunedArgs b args).map fun args => .call name (.ofList args) distinct
| .call name (.one arg) distinct =>
    (arg.pruned b).map fun arg => .call name (.one arg) distinct
| .alias node label =>
    (prunedSlot b node).given?.map fun node => .alias node label
| .orderBy node direction =>
    (prunedSlot b node).given?.map fun node => .orderBy node direction
| .table name label database join condition =>
    some (.table name label database join (prunedSlot b condition))
| .select query => some (.select (prunedQuery b query))
| .subquery query label => some (.subquery (prunedSlot b query) label)
| n => some n

/- What is left in a slot. -/
def prunedSlot
    (b : Bindings) : Slot Node → Slot Node
| .vacant => .vacant
| .one n => .ofOption (n.pruned b)
| .many members => .ofPresent (prunedMembers b members)

/- The members of a list that are left. -/
def prunedMembers
    (b : Bindings) : List (Option Node) → List Node
| [] => []
| none :: members => prunedMembers b members
| some n :: members => (n.pruned b).toList ++ prunedMembers b members

/- The arguments of a function, unless one of them is absent. -/
def prunedArgs
    (b : Bindings) : List (Option Node) → Option (List Node)
| [] => some []
| none :: _ => none
| some n :: args => do
    let n ← n.pruned b
    let args ← prunedArgs b args
    return n :: args

/- A query, pruned slot by slot. -/
def prunedQuery
    (b : Bindings) : Query Node → Query Node
| ⟨columns, source, filter, groups, having, order, limit, offset,
    distinct, options⟩ =>
    { columns := prunedSlot b columns
      source := prunedSlot b source
      filter := prunedSlot b filter
      groups := prunedSlot b groups
      having := prunedSlot b having
      order := prunedSlot b order
      limit := prunedSlot b limit
      offset := prunedSlot b offset
      distinct
      options }

end

end Node

end SqlTemplate
