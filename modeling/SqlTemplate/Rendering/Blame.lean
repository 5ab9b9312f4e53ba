import SqlTemplate.Node.Fragments
import SqlTemplate.Rendering

/-
  Where errors come from.  Each node can raise some errors of
  its own, from its names, values and parameters and from what
  its slots hold; every other error of it is one of a node
  below.

  Key definitions include:
    * `Slot.isList`
    * `Slot.query?`
    * `Node.HoldsLists`
    * `Node.ListsInPlace`
    * `Node.misplacement?`
    * `Node.Raises`
-/

------------------------------------------------------------
-- Contents of Slots
------------------------------------------------------------

namespace SqlTemplate

namespace Slot

/- A slot holds a list. -/
def isList
    {α : Type}
    (slot : Slot α) : Bool :=
  match slot with
  | .many _ => true
  | _ => false

/- The query that a slot holds. -/
def query? : Slot Node → Option (Query Node)
| .one (.select query) => some query
| _ => none

end Slot

namespace Node

/-
  The slots of a node that are for lists hold lists.  Any other
  slot can hold anything.
-/
def HoldsLists : Node → Prop
| .group members _ _ => members.isList = true
| .connective _ operands => operands.isList = true
| .call _ args _ => args.isList = true
| _ => True

instance : DecidablePred HoldsLists := fun n => by
  cases n <;> unfold HoldsLists <;> infer_instance

/- All nodes of a tree hold lists where they should. -/
def ListsInPlace (n : Node) : Prop :=
  n.Everywhere HoldsLists

instance (n : Node) : Decidable n.ListsInPlace :=
  inferInstanceAs (Decidable (n.Everywhere HoldsLists))

/-
  The error of a node in one of whose slots something has the
  wrong shape: a subquery without a SELECT, and arguments or
  the group after IN without a list.
-/
def misplacement? : Node → Option RenderError
| .binary op _ (.one (.group (.one _) _ _)) =>
    if op.isMembership then some .membersNotListed else none
| .call _ args _ => if args.isList then none else some .argumentsNotListed
| .subquery slot _ => if slot.query?.isSome then none else some .noSelect
| _ => none

------------------------------------------------------------
-- Errors of Single Nodes
------------------------------------------------------------

/- The errors that a node raises itself, apart from its depth. -/
def Raises
    (ctx : RenderContext)
    (e : RenderError) : Node → Prop
| .column name owner database =>
    ctx.qualified [database, owner, some name] = .error e
| .literal v => ctx.literal v = .error e
| .raw _ => False
| .parameter name => ctx.parameter name = .error e
| .numeral name => ctx.numeral name = .error e
| .group _ _ _ => False
| .binary op left right =>
    ((left.isVacant || right.isVacant) = true ∧
        e = .emptyOperand op.symbol) ∨
      (op.isMembership = true ∧ ctx.judgeList op right = .error e)
| .connective _ _ => False
| .unary op operand =>
    operand.isVacant = true ∧ e = .emptyOperand op.symbol
| .between operand _ _ => operand.isVacant = true ∧ e = .emptyBetween
| .call _ args _ => args.isList = false ∧ e = .argumentsNotListed
| .alias node label =>
    (node.isVacant = true ∧ e = .emptyAlias label) ∨
      ctx.name label = .error e
| .orderBy _ _ => False
| .table name label database _ _ =>
    ctx.qualified [database, some name] = .error e ∨
      ctx.name? label = .error e
| .select query =>
    ((query.limit.isVacant && !query.offset.isVacant) = true ∧
        e = .offsetAlone) ∨
      ∃ offset, e = .offsetKept offset
| .subquery slot label =>
    ctx.name? label = .error e ∨ (slot.query? = none ∧ e = .noSelect)
| .foreign typeName => e = .foreignNode typeName

end Node

end SqlTemplate
