import SqlTemplate.Operator
import SqlTemplate.Value

/-
  Statement trees.  Every fragment of a statement is a node;
  each slot below a node holds one node, a list of nodes, or
  nothing, since fragments can be taken out of a tree.

  Key definitions include:
    * `Slot`
    * `Query`
    * `Node`
    * `Node.typeName`
    * `Node.parameterName?`
    * `Node.bracketed`
    * `Slot.bracketBare`
    * `Node.binaryOf`
    * `Node.connectiveOf`
    * `Node.unaryOf`
-/

------------------------------------------------------------
-- Slots
------------------------------------------------------------

namespace SqlTemplate

/-
  The content of a slot: nothing, a single item, or a list
  whose places can be empty.
-/
inductive Slot (α : Type) where
| vacant
| one (item : α)
| many (items : List (Option α))
deriving Inhabited

namespace Slot

variable {α : Type}

/- A slot that holds the items of a list, all places filled. -/
def ofList (items : List α) : Slot α :=
  .many (items.map some)

/- A slot that holds one item or nothing. -/
def ofOption : Option α → Slot α
| none => .vacant
| some item => .one item

/- A slot with one more item at its end. -/
def append
    (s : Slot α)
    (item : α) : Slot α :=
  match s with
  | .vacant => .one item
  | .one first => .many [some first, some item]
  | .many items => .many (items ++ [some item])

/- A slot holds neither an item nor a list. -/
def isVacant : Slot α → Bool
| .vacant => true
| _ => false

/- A slot has no place for an item. -/
def isEmpty : Slot α → Bool
| .vacant => true
| .one _ => false
| .many items => items.isEmpty

/- The single item that a slot holds. -/
def item? : Slot α → Option α
| .one item => some item
| _ => none

end Slot

------------------------------------------------------------
-- Queries
------------------------------------------------------------

/-
  A SELECT statement over items of any type.  An offset without
  a limit can be held but not written.
-/
structure Query (α : Type) where
  columns : Slot α
  source : Slot α
  filter : Slot α
  groups : Slot α
  having : Slot α
  order : Slot α
  limit : Slot α
  offset : Slot α
  distinct : Bool
  options : List String
deriving Inhabited

------------------------------------------------------------
-- Nodes
------------------------------------------------------------

/-
  A fragment of a statement.

  A parameter is written as a quoted literal, a numeral
  parameter as a bare number.  A group is a sequence of
  members with a delimiter between them, in brackets or not.
  A table can be joined to the ones before it.  A foreign node
  is one of a type that statements do not have.
-/
inductive Node where
| column (name : String) (owner database : Option String)
| literal (value : Value)
| raw (text : String)
| parameter (name : String)
| numeral (name : String)
| group (members : Slot Node) (brackets : Bool) (delimiter : String)
| binary (op : BinaryOp) (left right : Slot Node)
| connective (op : ConnectiveOp) (operands : Slot Node)
| unary (op : UnaryOp) (operand : Slot Node)
| between (operand low high : Slot Node)
| call (name : String) (args : Slot Node) (distinct : Bool)
| alias (node : Slot Node) (name : String)
| orderBy (node : Slot Node) (direction : Option String)
| table (name : String) (label database join : Option String)
    (condition : Slot Node)
| select (query : Query Node)
| subquery (query : Slot Node) (label : Option String)
| foreign (typeName : String)
deriving Inhabited

namespace Node

/- The name of a node's type, as messages give it. -/
def typeName : Node → String
| .column .. => "ColRef"
| .literal _ => "ConstNode"
| .raw _ => "Reserved"
| .parameter _ => "Parameter"
| .numeral _ => "UnquotedParameter"
| .group .. => "Expression"
| .binary .. => "BinaryOperator"
| .connective .. => "Connective"
| .unary .. => "UnaryOperator"
| .between .. => "Between"
| .call .. => "Function"
| .alias .. => "Alias"
| .orderBy .. => "OrderBy"
| .table .. => "Table"
| .select _ => "Select"
| .subquery .. => "SubQuery"
| .foreign name => name

/- The name of the parameter that a node is. -/
def parameterName? : Node → Option String
| .parameter name => some name
| .numeral name => some name
| _ => none

/- A node is a parameter. -/
def isParameter (n : Node) : Bool :=
  n.parameterName?.isSome

/- A node as the only member of a list in brackets. -/
def bracketed (n : Node) : Node :=
  .group (.many [some n]) true " "

------------------------------------------------------------
-- Expressions over Any Operator
------------------------------------------------------------

/- Apply an operator to two operands, if it takes two. -/
def binaryOf
    (op : Operator)
    (left right : Slot Node) : Except OperatorError Node :=
  op.asBinary.map fun op => .binary op left right

/- Join operands by an operator, if it is a connective. -/
def connectiveOf
    (op : Operator)
    (operands : Slot Node) : Except OperatorError Node :=
  op.asConnective.map fun op => .connective op operands

/- Apply an operator to one operand, if it takes one. -/
def unaryOf
    (op : Operator)
    (operand : Slot Node) : Except OperatorError Node :=
  op.asUnary.map fun op => .unary op operand

end Node

------------------------------------------------------------
-- Lists of Values
------------------------------------------------------------

namespace Slot

/- The name of the parameter that a slot holds on its own. -/
def bareParameter? (s : Slot Node) : Option String :=
  s.item?.bind Node.parameterName?

/-
  A list of values.  A parameter that stands alone in place of
  the list becomes the only member of a list in brackets.
-/
def bracketBare : Slot Node → Slot Node
| .one n => .one (if n.isParameter then n.bracketed else n)
| s => s

end Slot

end SqlTemplate
