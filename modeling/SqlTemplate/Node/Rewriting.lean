import SqlTemplate.Node.Substitution
import SqlTemplate.Node.Tour

/-
  Trees that are rewritten from the leaves upward.  Something is
  put in the place of every node, or nothing: a list loses the
  members that nothing takes the place of, and a single node
  leaves its slot vacant.

  Key definitions include:
    * `Slot.nodes`
    * `Node.children`
    * `Slot.placed`
    * `Node.IgnoresSlots`
    * `remover`
    * `Node.without`
    * `Node.clear`
    * `Bindings.before`
    * `Node.scalar?`
    * `Node.isLeftOpen`
    * `substitutor`
    * `collector`
-/

------------------------------------------------------------
-- Contents of Slots
------------------------------------------------------------

namespace SqlTemplate

namespace Slot

/- The nodes that a slot holds, without the empty places. -/
def nodes : Slot Node → List Node
| .vacant => []
| .one n => [n]
| .many members => members.filterMap id

/-
  The member of a list that takes the place of another one, if
  there is one.  An empty place stays as it is.
-/
def placedMember
    (place : Node → Option Node) : Option Node → Option (Option Node)
| none => some none
| some n => (place n).map some

/- A slot with other nodes in the places of those it holds. -/
def placed
    (place : Node → Option Node) : Slot Node → Slot Node
| .vacant => .vacant
| .one n => .ofOption (place n)
| .many members => .many (members.filterMap (placedMember place))

end Slot

/- The nodes right below a node, slot by slot. -/
def Node.children (n : Node) : List Node :=
  n.slots.flatMap Slot.nodes

------------------------------------------------------------
-- Removal
------------------------------------------------------------

/-
  A property of nodes that depends on the kind of a node and on
  its own fields, but not on the contents of its slots.
-/
def Node.IgnoresSlots (P : Node → Bool) : Prop :=
  ∀ (n : Node) (slots : List (Slot Node)), P (n.withSlots slots) = P n

/-
  A visitor that removes the nodes with a property when it leaves
  them, and keeps all others.
-/
def remover (P : Node → Bool) : Visitor Unit where
  enter _ s := (.keep, s)
  leave n s := (if P n then .remove else .keep, s)

namespace Node

mutual

/-
  A tree without its topmost fragments that have a property;
  nothing is left of it if the root has the property.
-/
def without (P : Node → Bool) (n : Node) : Option Node :=
  if P n then
    none
  else
    some (match n with
    | .group members brackets delimiter =>
        .group (slotWithout P members) brackets delimiter
    | .binary op left right =>
        .binary op (slotWithout P left) (slotWithout P right)
    | .connective op operands =>
        .connective op (slotWithout P operands)
    | .unary op operand => .unary op (slotWithout P operand)
    | .between operand low high =>
        .between (slotWithout P operand) (slotWithout P low)
          (slotWithout P high)
    | .call name args distinct =>
        .call name (slotWithout P args) distinct
    | .alias node label => .alias (slotWithout P node) label
    | .orderBy node direction => .orderBy (slotWithout P node) direction
    | .table name label database join condition =>
        .table name label database join (slotWithout P condition)
    | .select query => .select (queryWithout P query)
    | .subquery query label => .subquery (slotWithout P query) label
    | n => n)

/- What is left in a slot. -/
def slotWithout (P : Node → Bool) : Slot Node → Slot Node
| .vacant => .vacant
| .one n => .ofOption (n.without P)
| .many members => .many (listWithout P members)

/- What is left of the members of a list, with its empty places. -/
def listWithout
    (P : Node → Bool) : List (Option Node) → List (Option Node)
| [] => []
| none :: members => none :: listWithout P members
| some n :: members =>
    ((n.without P).map some).toList ++ listWithout P members

/- What is left of a query. -/
def queryWithout (P : Node → Bool) : Query Node → Query Node
| ⟨columns, source, filter, groups, having, order, limit, offset,
    distinct, options⟩ =>
    ⟨slotWithout P columns, slotWithout P source, slotWithout P filter,
      slotWithout P groups, slotWithout P having, slotWithout P order,
      slotWithout P limit, slotWithout P offset, distinct, options⟩

end

mutual

/-
  The fragments of a tree that are neither at nor below a node
  with a property, in the order of the slots that hold them.
-/
def clear (P : Node → Bool) (n : Node) : List Node :=
  if P n then
    []
  else
    n ::
      match n with
      | .group members _ _ => slotClear P members
      | .binary _ left right => slotClear P left ++ slotClear P right
      | .connective _ operands => slotClear P operands
      | .unary _ operand => slotClear P operand
      | .between operand low high =>
          slotClear P operand ++ slotClear P low ++ slotClear P high
      | .call _ args _ => slotClear P args
      | .alias node _ => slotClear P node
      | .orderBy node _ => slotClear P node
      | .table _ _ _ _ condition => slotClear P condition
      | .select query => queryClear P query
      | .subquery query _ => slotClear P query
      | _ => []

/- Such fragments in a slot. -/
def slotClear (P : Node → Bool) : Slot Node → List Node
| .vacant => []
| .one n => n.clear P
| .many members => listClear P members

/- Such fragments of the members of a list. -/
def listClear (P : Node → Bool) : List (Option Node) → List Node
| [] => []
| none :: members => listClear P members
| some n :: members => n.clear P ++ listClear P members

/- Such fragments of a query. -/
def queryClear (P : Node → Bool) : Query Node → List Node
| ⟨columns, source, filter, groups, having, order, limit, offset, _, _⟩ =>
    slotClear P columns ++ slotClear P source ++ slotClear P filter ++
      slotClear P groups ++ slotClear P having ++ slotClear P order ++
        slotClear P limit ++ slotClear P offset

end

end Node

------------------------------------------------------------
-- Substitution
------------------------------------------------------------

/- Bindings that come before others, which bind what they leave open. -/
def Bindings.before (first other : Bindings) : Bindings :=
  fun name => if (first.scalar? name).isSome then first name else other name

/- The scalar that a node is a parameter for. -/
def Node.scalar? (b : Bindings) : Node → Option Value
| .parameter name => b.scalar? name
| _ => none

/- A node is a parameter that substitution leaves in its place. -/
def Node.isLeftOpen (b : Bindings) (n : Node) : Bool :=
  n.isParameter && (n.scalar? b).isNone

/- A node is a numeral parameter. -/
def Node.isNumeral : Node → Bool
| .numeral _ => true
| _ => false

/-
  A visitor that puts the values of parameters that are bound to
  scalars in their places when it leaves them.
-/
def substitutor (b : Bindings) : Visitor Unit where
  enter _ s := (.keep, s)
  leave n s :=
    match n.scalar? b with
    | some v => (.replace (.literal v), s)
    | none => (.keep, s)

------------------------------------------------------------
-- Parameters
------------------------------------------------------------

/- A name is noted down behind others unless it is among them. -/
def noted (names : List String) (name : String) : List String :=
  if name ∈ names then names else names ++ [name]

/- A visitor that notes down the names of the parameters it enters. -/
def collector : Visitor (List String) where
  enter n names :=
    (.keep, (n.parameterName?.map (noted names)).getD names)
  leave _ names := (.keep, names)

end SqlTemplate
