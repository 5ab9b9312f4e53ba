import SqlTemplate.Node.Everywhere
import SqlTemplate.Node.Shape

/-
  Well-formed trees.  No place of a tree is left empty, each
  holds a node of a kind that can be written there, and an
  operand that is not in brackets binds tighter than the
  operator it belongs to, so that its text needs no brackets.

  Key definitions include:
    * `Node.strength`
    * `Node.Binds`
    * `Slot.Holds`
    * `Slot.Lists`
    * `Node.WellFormed`
    * `Query.WellFormed`

  Correctness is proven by:
    * `Node.WellFormed.everywhere`
-/

------------------------------------------------------------
-- Binding Strength
------------------------------------------------------------

namespace SqlTemplate

/- How tightly a connective binds its operands. -/
def ConnectiveOp.strength : ConnectiveOp → Nat
| .or => 1
| .xor => 2
| .and => 3

/- How tightly an operator binds its only operand. -/
def UnaryOp.strength : UnaryOp → Nat
| .not => 4
| .isNull | .isNotNull => 5
| .negate => 11

/- How tightly an operator binds its two operands. -/
def BinaryOp.strength : BinaryOp → Nat
| .equal | .different | .notEqual | .less | .lessOrEqual | .greater
  | .greaterOrEqual | .nullSafeEqual | .like | .notLike | .isIn
  | .notIn => 5
| .bitwiseOr => 6
| .bitwiseXor => 7
| .bitwiseAnd => 8
| .plus | .minus => 9
| .multiply | .divide | .modulo => 10

/- Several of these operators in a row are grouped from the left. -/
def BinaryOp.isLeftAssociative : BinaryOp → Bool
| .bitwiseOr | .bitwiseXor | .bitwiseAnd | .plus | .minus | .multiply
  | .divide | .modulo => true
| _ => false

/-
  How tightly a node binds its operands.  One that has none, or
  has them in brackets, binds tightest, and a node that cannot
  be an operand does not bind at all.
-/
def Node.strength : Node → Nat
| .connective op _ => op.strength
| .binary op _ _ => op.strength
| .unary op _ => op.strength
| .between _ _ _ => 5
| .column .. | .literal _ | .parameter _ | .group .. | .call ..
  | .subquery _ none => 12
| _ => 0

/- A node is an operand that binds at least as tightly as given. -/
def Node.Binds
    (least : Nat)
    (n : Node) : Prop :=
  least ≤ n.strength

/- The least strength of the operand before an operator. -/
def BinaryOp.leftStrength (op : BinaryOp) : Nat :=
  if op.isLeftAssociative then op.strength else op.strength + 1

/- The least strength of the only operand of an operator. -/
def UnaryOp.operandStrength (op : UnaryOp) : Nat :=
  if op.isPostfix then op.strength + 1 else op.strength

/- The least strength of any operand. -/
def anyStrength : Nat := 1

/- The least strength of the operands of a range test. -/
def rangeStrength : Nat := 6

------------------------------------------------------------
-- Contents of Slots
------------------------------------------------------------

/- A slot holds a single node with a property. -/
def Slot.Holds
    (P : Node → Prop) : Slot Node → Prop
| .one n => P n
| _ => False

/- A slot holds a list, not too short, of nodes with a property. -/
def Slot.Lists
    (P : Node → Prop)
    (least : Nat) : Slot Node → Prop
| .many members =>
    least ≤ members.length ∧ ∀ member ∈ members, ∃ n ∈ member, P n
| _ => False

namespace Node

/- What a list of values after a membership operator can be. -/
def IsValueList : Node → Prop
| .parameter _ => True
| .group _ brackets _ => brackets = true
| .subquery _ none => True
| _ => False

/- A node is not a literal number or truth value. -/
def IsNotNumber : Node → Prop
| .literal (.int _) => False
| .literal (.bool _) => False
| .literal (.decimal _) => False
| _ => True

/- What a column of a query can be. -/
def IsColumn : Node → Prop
| .alias _ _ => True
| n => n.Binds anyStrength

/- What a sort key of a query can be. -/
def IsSortKey : Node → Prop
| .orderBy _ _ => True
| _ => False

/- What can be selected from first. -/
def StartsSource : Node → Prop
| .table _ _ _ join condition => join = none ∧ condition.isVacant = true
| .subquery _ (some _) => True
| _ => False

/- What can be joined to the tables before it. -/
def IsJoined : Node → Prop
| .table _ _ _ join _ => ∃ words ∈ join, words ∈ joinKinds
| _ => False

/- A query without the statement around it. -/
def IsSelect : Node → Prop
| .select _ => True
| _ => False

end Node

/- What a query can select from. -/
def Slot.IsSource : Slot Node → Prop
| .vacant => True
| .many (some first :: joined) =>
    first.StartsSource ∧ ∀ member ∈ joined, ∃ n ∈ member, n.IsJoined
| _ => False

/- A slot is left out or has a property. -/
def Slot.Optional
    (P : Slot Node → Prop)
    (slot : Slot Node) : Prop :=
  slot.isVacant = true ∨ P slot

/- A name is given, or there is none, but it is not empty. -/
def IsGiven (name : Option String) : Prop :=
  ∀ s ∈ name, s ≠ ""

------------------------------------------------------------
-- Well-Formed Trees
------------------------------------------------------------

mutual

/- A tree is well formed, apart from the limits of its queries. -/
def Node.WellFormed : Node → Prop
| .column name owner database =>
    name ≠ "" ∧ IsGiven owner ∧ IsGiven database
| .literal _ => True
| .raw _ => False
| .parameter _ => True
| .numeral _ => False
| .group members brackets _ =>
    brackets = true ∧ members.Lists (Node.Binds anyStrength) 1 ∧
      members.WellFormed
| .binary op left right =>
    left.Holds (Node.Binds op.leftStrength) ∧
      right.Holds (fun n => if op.isMembership then n.IsValueList else
        n.Binds (op.strength + 1)) ∧
        left.WellFormed ∧ right.WellFormed
| .connective op operands =>
    operands.Lists (Node.Binds (op.strength + 1)) 2 ∧
      operands.WellFormed
| .unary op operand =>
    operand.Holds (fun n => n.Binds op.operandStrength ∧
      (op = .negate → n.IsNotNumber)) ∧
      operand.WellFormed
| .between operand low high =>
    operand.Holds (Node.Binds rangeStrength) ∧
      low.Holds (Node.Binds rangeStrength) ∧
        high.Holds (Node.Binds rangeStrength) ∧
          operand.WellFormed ∧ low.WellFormed ∧ high.WellFormed
| .call _ args _ =>
    args.Lists (Node.Binds anyStrength) 0 ∧ args.WellFormed
| .alias node name =>
    name ≠ "" ∧ node.Holds (Node.Binds anyStrength) ∧ node.WellFormed
| .orderBy node _ =>
    node.Holds (Node.Binds anyStrength) ∧ node.WellFormed
| .table name label database _ condition =>
    name ≠ "" ∧ IsGiven label ∧ IsGiven database ∧
      condition.Optional (Slot.Holds (Node.Binds anyStrength)) ∧
        condition.WellFormed
| .select query => query.WellFormed
| .subquery query label =>
    IsGiven label ∧ query.Holds Node.IsSelect ∧ query.WellFormed
| .foreign _ => False

/- The same of the content of a slot. -/
def Slot.WellFormed : Slot Node → Prop
| .vacant => True
| .one n => n.WellFormed
| .many members => Members.WellFormed members

/- The same of the members of a list that are there. -/
def Members.WellFormed : List (Option Node) → Prop
| [] => True
| none :: members => Members.WellFormed members
| some n :: members => n.WellFormed ∧ Members.WellFormed members

/-
  The same of a query.  Its limit and offset are whole numbers
  or numeral parameters, and there is no offset without a limit.
-/
def Query.WellFormed : Query Node → Prop
| ⟨columns, source, filter, groups, having, order, limit, offset, _, _⟩ =>
    columns.Lists Node.IsColumn 1 ∧ source.IsSource ∧
      filter.Optional (Slot.Holds (Node.Binds anyStrength)) ∧
        groups.Optional (Slot.Lists (Node.Binds anyStrength) 1) ∧
          having.Optional (Slot.Holds (Node.Binds anyStrength)) ∧
            order.Optional (Slot.Lists Node.IsSortKey 1) ∧
              limit.IsLimit ∧ offset.IsLimit ∧
                (offset.isVacant = true ∨ limit.isVacant = false) ∧
    columns.WellFormed ∧ source.WellFormed ∧ filter.WellFormed ∧
      groups.WellFormed ∧ having.WellFormed ∧ order.WellFormed

end

------------------------------------------------------------
-- Properties of Well-Formed Nodes
------------------------------------------------------------

section

variable {P : Node → Prop}

theorem Slot.IsLimit.everywhere
    {slot : Slot Node}
    (hLimit : slot.IsLimit)
    (hNode : ∀ n : Node, n.WellFormed → n.Shaped → P n)
    (hNumeral : ∀ name, P (.numeral name)) :
    slot.Everywhere P := by
  unfold Slot.IsLimit at hLimit
  split at hLimit
  next => trivial
  next => exact hNode _ trivial trivial
  next => exact hNumeral _
  next => cases hLimit

mutual

/-
  What well-formed nodes and the parameters of limits have in
  common holds everywhere in a well-formed tree.
-/
theorem Node.WellFormed.everywhere
    (hNode : ∀ n : Node, n.WellFormed → n.Shaped → P n)
    (hNumeral : ∀ name, P (.numeral name)) :
    ∀ n : Node, n.WellFormed → n.Shaped → n.Everywhere P
| .column .., hOwn, hShaped | .literal _, hOwn, hShaped
| .parameter _, hOwn, hShaped => hNode _ hOwn hShaped
| .raw _, hOwn, _ | .numeral _, hOwn, _ | .foreign _, hOwn, _ => hOwn.elim
| .group members _ _, hOwn, hShaped =>
    ⟨hNode _ hOwn hShaped,
      Slot.WellFormed.everywhere hNode hNumeral members hOwn.2.2 hShaped.2⟩
| .binary _ left right, hOwn, hShaped =>
    ⟨hNode _ hOwn hShaped,
      Slot.WellFormed.everywhere hNode hNumeral left hOwn.2.2.1 hShaped.1,
      Slot.WellFormed.everywhere hNode hNumeral right hOwn.2.2.2
        hShaped.2⟩
| .connective _ operands, hOwn, hShaped =>
    ⟨hNode _ hOwn hShaped,
      Slot.WellFormed.everywhere hNode hNumeral operands hOwn.2 hShaped⟩
| .unary _ operand, hOwn, hShaped =>
    ⟨hNode _ hOwn hShaped,
      Slot.WellFormed.everywhere hNode hNumeral operand hOwn.2 hShaped⟩
| .between operand low high, hOwn, hShaped =>
    ⟨hNode _ hOwn hShaped,
      Slot.WellFormed.everywhere hNode hNumeral operand hOwn.2.2.2.1
        hShaped.1,
      Slot.WellFormed.everywhere hNode hNumeral low hOwn.2.2.2.2.1
        hShaped.2.1,
      Slot.WellFormed.everywhere hNode hNumeral high hOwn.2.2.2.2.2
        hShaped.2.2⟩
| .call _ args _, hOwn, hShaped =>
    ⟨hNode _ hOwn hShaped,
      Slot.WellFormed.everywhere hNode hNumeral args hOwn.2 hShaped⟩
| .alias node _, hOwn, hShaped =>
    ⟨hNode _ hOwn hShaped,
      Slot.WellFormed.everywhere hNode hNumeral node hOwn.2.2 hShaped⟩
| .orderBy node _, hOwn, hShaped =>
    ⟨hNode _ hOwn hShaped,
      Slot.WellFormed.everywhere hNode hNumeral node hOwn.2 hShaped.2⟩
| .table _ _ _ _ condition, hOwn, hShaped =>
    ⟨hNode _ hOwn hShaped,
      Slot.WellFormed.everywhere hNode hNumeral condition hOwn.2.2.2.2
        hShaped.2⟩
| .select query, hOwn, hShaped =>
    ⟨hNode _ hOwn hShaped,
      Query.WellFormed.everywhere hNode hNumeral query hOwn hShaped⟩
| .subquery query _, hOwn, hShaped =>
    ⟨hNode _ hOwn hShaped,
      Slot.WellFormed.everywhere hNode hNumeral query hOwn.2.2 hShaped⟩
termination_by structural n => n

theorem Slot.WellFormed.everywhere
    (hNode : ∀ n : Node, n.WellFormed → n.Shaped → P n)
    (hNumeral : ∀ name, P (.numeral name)) :
    ∀ slot : Slot Node, slot.WellFormed → slot.Shaped → slot.Everywhere P
| .vacant, _, _ => trivial
| .one n, hOwn, hShaped =>
    Node.WellFormed.everywhere hNode hNumeral n hOwn hShaped
| .many members, hOwn, hShaped =>
    Members.WellFormed.everywhere hNode hNumeral members hOwn hShaped
termination_by structural slot => slot

theorem Members.WellFormed.everywhere
    (hNode : ∀ n : Node, n.WellFormed → n.Shaped → P n)
    (hNumeral : ∀ name, P (.numeral name)) :
    ∀ members : List (Option Node),
      Members.WellFormed members → Members.Shaped members →
        Members.Everywhere P members
| [], _, _ => trivial
| none :: members, hOwn, hShaped =>
    Members.WellFormed.everywhere hNode hNumeral members hOwn hShaped
| some n :: members, hOwn, hShaped =>
    ⟨Node.WellFormed.everywhere hNode hNumeral n hOwn.1 hShaped.1,
      Members.WellFormed.everywhere hNode hNumeral members hOwn.2
        hShaped.2⟩
termination_by structural members => members

theorem Query.WellFormed.everywhere
    (hNode : ∀ n : Node, n.WellFormed → n.Shaped → P n)
    (hNumeral : ∀ name, P (.numeral name)) :
    ∀ query : Query Node, query.WellFormed → query.Shaped →
      query.Everywhere P
| ⟨columns, source, filter, groups, having, order, _, _, _, _⟩,
    hOwn, hShaped => by
    rcases hOwn with ⟨_, _, _, _, _, _, hLimit, hOffset, _, hColumns,
      hSource, hFilter, hGroups, hHaving, hOrder⟩
    rcases hShaped with ⟨hColumnShape, hSourceShape, hFilterShape,
      hGroupShape, hHavingShape, hOrderShape, _⟩
    exact
      ⟨Slot.WellFormed.everywhere hNode hNumeral columns hColumns
        hColumnShape,
      Slot.WellFormed.everywhere hNode hNumeral source hSource
        hSourceShape,
      Slot.WellFormed.everywhere hNode hNumeral filter hFilter
        hFilterShape,
      Slot.WellFormed.everywhere hNode hNumeral groups hGroups
        hGroupShape,
      Slot.WellFormed.everywhere hNode hNumeral having hHaving
        hHavingShape,
      Slot.WellFormed.everywhere hNode hNumeral order hOrder hOrderShape,
      hLimit.everywhere hNode hNumeral, hOffset.everywhere hNode hNumeral⟩
termination_by structural query => query

end

end

end SqlTemplate
