import SqlTemplate.Node

/-
  Properties of every node of a tree.

  Key definitions include:
    * `Node.Everywhere`
    * `Slot.Everywhere`
    * `Query.Everywhere`
    * `Node.decideEverywhere`
-/

------------------------------------------------------------
-- Trees
------------------------------------------------------------

namespace SqlTemplate

mutual

/- A node and all nodes below it have a property. -/
def Node.Everywhere
    (P : Node → Prop) : Node → Prop
| .column name owner database => P (.column name owner database)
| .literal v => P (.literal v)
| .raw text => P (.raw text)
| .parameter name => P (.parameter name)
| .numeral name => P (.numeral name)
| .group members brackets delimiter =>
    P (.group members brackets delimiter) ∧ members.Everywhere P
| .binary op left right =>
    P (.binary op left right) ∧ left.Everywhere P ∧ right.Everywhere P
| .connective op operands =>
    P (.connective op operands) ∧ operands.Everywhere P
| .unary op operand => P (.unary op operand) ∧ operand.Everywhere P
| .between operand low high =>
    P (.between operand low high) ∧ operand.Everywhere P ∧
      low.Everywhere P ∧ high.Everywhere P
| .call name args distinct =>
    P (.call name args distinct) ∧ args.Everywhere P
| .alias node name => P (.alias node name) ∧ node.Everywhere P
| .orderBy node direction =>
    P (.orderBy node direction) ∧ node.Everywhere P
| .table name label database join condition =>
    P (.table name label database join condition) ∧
      condition.Everywhere P
| .select query => P (.select query) ∧ query.Everywhere P
| .subquery query label =>
    P (.subquery query label) ∧ query.Everywhere P
| .foreign typeName => P (.foreign typeName)

/- All nodes in a slot have a property. -/
def Slot.Everywhere
    (P : Node → Prop) : Slot Node → Prop
| .vacant => True
| .one n => n.Everywhere P
| .many members => Members.Everywhere P members

/- All nodes of a list have a property. -/
def Members.Everywhere
    (P : Node → Prop) : List (Option Node) → Prop
| [] => True
| none :: members => Members.Everywhere P members
| some n :: members => n.Everywhere P ∧ Members.Everywhere P members

/- All nodes of a query have a property. -/
def Query.Everywhere
    (P : Node → Prop) : Query Node → Prop
| ⟨columns, source, filter, groups, having, order, limit, offset, _, _⟩ =>
    columns.Everywhere P ∧ source.Everywhere P ∧ filter.Everywhere P ∧
      groups.Everywhere P ∧ having.Everywhere P ∧ order.Everywhere P ∧
        limit.Everywhere P ∧ offset.Everywhere P

end

------------------------------------------------------------
-- Decisions
------------------------------------------------------------

section

variable {P : Node → Prop} [DecidablePred P]

mutual

/- A property that can be decided can be decided everywhere. -/
def Node.decideEverywhere : (n : Node) → Decidable (n.Everywhere P)
| .column .. => inferInstanceAs (Decidable (P _))
| .literal _ => inferInstanceAs (Decidable (P _))
| .raw _ => inferInstanceAs (Decidable (P _))
| .parameter _ => inferInstanceAs (Decidable (P _))
| .numeral _ => inferInstanceAs (Decidable (P _))
| .foreign _ => inferInstanceAs (Decidable (P _))
| .group members _ _ =>
    let := members.decideEverywhere
    inferInstanceAs (Decidable (P _ ∧ members.Everywhere P))
| .binary _ left right =>
    let := left.decideEverywhere
    let := right.decideEverywhere
    inferInstanceAs
      (Decidable (P _ ∧ left.Everywhere P ∧ right.Everywhere P))
| .connective _ operands =>
    let := operands.decideEverywhere
    inferInstanceAs (Decidable (P _ ∧ operands.Everywhere P))
| .unary _ operand =>
    let := operand.decideEverywhere
    inferInstanceAs (Decidable (P _ ∧ operand.Everywhere P))
| .between operand low high =>
    let := operand.decideEverywhere
    let := low.decideEverywhere
    let := high.decideEverywhere
    inferInstanceAs
      (Decidable (P _ ∧ operand.Everywhere P ∧ low.Everywhere P ∧
        high.Everywhere P))
| .call _ args _ =>
    let := args.decideEverywhere
    inferInstanceAs (Decidable (P _ ∧ args.Everywhere P))
| .alias node _ =>
    let := node.decideEverywhere
    inferInstanceAs (Decidable (P _ ∧ node.Everywhere P))
| .orderBy node _ =>
    let := node.decideEverywhere
    inferInstanceAs (Decidable (P _ ∧ node.Everywhere P))
| .table _ _ _ _ condition =>
    let := condition.decideEverywhere
    inferInstanceAs (Decidable (P _ ∧ condition.Everywhere P))
| .select query =>
    let := query.decideEverywhere
    inferInstanceAs (Decidable (P _ ∧ query.Everywhere P))
| .subquery query _ =>
    let := query.decideEverywhere
    inferInstanceAs (Decidable (P _ ∧ query.Everywhere P))

/- The same in a slot. -/
def Slot.decideEverywhere :
    (slot : Slot Node) → Decidable (slot.Everywhere P)
| .vacant => .isTrue trivial
| .one n => n.decideEverywhere
| .many members => Members.decideEverywhere members

/- The same in a list. -/
def Members.decideEverywhere :
    (members : List (Option Node)) → Decidable (Members.Everywhere P members)
| [] => .isTrue trivial
| none :: members => Members.decideEverywhere members
| some n :: members =>
    let := n.decideEverywhere
    let := Members.decideEverywhere members
    inferInstanceAs
      (Decidable (n.Everywhere P ∧ Members.Everywhere P members))

/- The same in a query. -/
def Query.decideEverywhere :
    (query : Query Node) → Decidable (query.Everywhere P)
| ⟨columns, source, filter, groups, having, order, limit, offset, _, _⟩ =>
    let := columns.decideEverywhere
    let := source.decideEverywhere
    let := filter.decideEverywhere
    let := groups.decideEverywhere
    let := having.decideEverywhere
    let := order.decideEverywhere
    let := limit.decideEverywhere
    let := offset.decideEverywhere
    inferInstanceAs
      (Decidable
        (columns.Everywhere P ∧ source.Everywhere P ∧
          filter.Everywhere P ∧ groups.Everywhere P ∧
            having.Everywhere P ∧ order.Everywhere P ∧
              limit.Everywhere P ∧ offset.Everywhere P))

end

instance (n : Node) : Decidable (n.Everywhere P) :=
  n.decideEverywhere

end

end SqlTemplate
