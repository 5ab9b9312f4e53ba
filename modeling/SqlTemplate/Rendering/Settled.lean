import SqlTemplate.Rendering.Notice

/-
  The tree that is left after it has been written.  A parameter
  that stands alone after IN is put in brackets for good when
  its operator is reached, so writing the tree again finds the
  brackets in place.

  Key definitions include:
    * `Node.settled`
    * `RenderContext.settled`
-/

------------------------------------------------------------
-- Settled Trees
------------------------------------------------------------

namespace SqlTemplate

namespace Node

mutual

/- A node at the given depth after it has been written. -/
def settled
    (ctx : RenderContext)
    (depth : Nat)
    (indent : Int)
    (n : Node) : Node :=
  if ctx.isTooDeep depth then
    n
  else
    match n with
    | .group members brackets delimiter =>
        .group (settledSlot ctx (depth + 1) indent members)
          brackets delimiter
    | .binary op left right =>
        if left.isVacant || right.isVacant then
          n
        else if op.isNullLenient && ctx.isUnbound right then
          .binary op (settledSlot ctx (depth + 1) indent left) right
        else if ctx.writesOperands op right then
          .binary op (settledSlot ctx (depth + 1) indent left)
            (if RenderContext.standsBare op right then
              right.bracketBare
            else if
                (renderSlot ctx (depth + 1) indent " " left).isPresent then
              settledSlot ctx (depth + 1) indent right
            else
              right)
        else
          .binary op left right.bracketBare
    | .connective op operands =>
        .connective op (settledSlot ctx (depth + 1) indent operands)
    | .unary op operand =>
        .unary op (settledSlot ctx (depth + 1) indent operand)
    | .between operand low high =>
        let text := renderSlot ctx (depth + 1) indent " " operand
        let lowText := renderSlot ctx (depth + 1) indent " " low
        .between (settledSlot ctx (depth + 1) indent operand)
          (if text.isPresent then
            settledSlot ctx (depth + 1) indent low
          else
            low)
          (if text.isPresent && Rendered.succeeds lowText then
            settledSlot ctx (depth + 1) indent high
          else
            high)
    | .call name (.many args) distinct =>
        .call name (.many (settledArgs ctx (depth + 1) indent args))
          distinct
    | .alias node label =>
        .alias (settledSlot ctx (depth + 1) indent node) label
    | .orderBy node direction =>
        .orderBy (settledSlot ctx (depth + 1) indent node) direction
    | .table name label database join condition =>
        .table name label database join
          (if Rendered.succeeds (ctx.qualified [database, some name]) &&
              Rendered.succeeds (ctx.name? label) then
            settledSlot ctx (depth + 1) indent condition
          else
            condition)
    | .select query => .select (settledQuery ctx depth indent query)
    | .subquery (.one (.select query)) label =>
        .subquery
          (.one (.select
            (settledQuery ctx depth (indent + indentWidth) query)))
          label
    | _ => n

/- A slot after its content has been written. -/
def settledSlot
    (ctx : RenderContext)
    (depth : Nat)
    (indent : Int) : Slot Node → Slot Node
| .vacant => .vacant
| .one n => .one (n.settled ctx depth indent)
| .many members => .many (settledMembers ctx depth indent members)

/- A list after its members have been written. -/
def settledMembers
    (ctx : RenderContext)
    (depth : Nat)
    (indent : Int) : List (Option Node) → List (Option Node)
| [] => []
| none :: members => none :: settledMembers ctx depth indent members
| some n :: members =>
    some (n.settled ctx depth indent) ::
      if Rendered.succeeds (n.render ctx depth indent) then
        settledMembers ctx depth indent members
      else
        members

/- Arguments after they have been written, up to an absent one. -/
def settledArgs
    (ctx : RenderContext)
    (depth : Nat)
    (indent : Int) : List (Option Node) → List (Option Node)
| [] => []
| none :: args => none :: args
| some n :: args =>
    some (n.settled ctx depth indent) ::
      if (renderSlot ctx depth indent " " (.one n)).isPresent then
        settledArgs ctx depth indent args
      else
        args

/- A query after it has been written. -/
def settledQuery
    (ctx : RenderContext)
    (depth : Nat)
    (indent : Int) : Query Node → Query Node
| ⟨columns, source, filter, groups, having, order, limit, offset,
    distinct, options⟩ =>
    let written (slot : Slot Node) : Bool :=
      Rendered.succeeds (renderSlot ctx (depth + 1) indent " " slot)
    let starts := !limit.isVacant || offset.isVacant
    let toSource := starts && written columns
    let toFilter := toSource && written source
    let toGroups := toFilter && written filter
    let toHaving := toGroups && written groups
    let toOrder := toHaving && written having
    let toLimit := toOrder && written order
    let toOffset := toLimit && written limit
    { columns :=
        if starts then
          settledSlot ctx (depth + 1) indent columns
        else
          columns
      source :=
        if toSource then
          settledSlot ctx (depth + 1) indent source
        else
          source
      filter :=
        if toFilter then
          settledSlot ctx (depth + 1) indent filter
        else
          filter
      groups :=
        if toGroups then
          settledSlot ctx (depth + 1) indent groups
        else
          groups
      having :=
        if toHaving then
          settledSlot ctx (depth + 1) indent having
        else
          having
      order :=
        if toOrder then
          settledSlot ctx (depth + 1) indent order
        else
          order
      limit :=
        if toLimit then
          settledSlot ctx (depth + 1) indent limit
        else
          limit
      offset :=
        if toOffset then
          settledSlot ctx (depth + 1) indent offset
        else
          offset
      distinct
      options }

end

end Node

/- A tree after it has been written. -/
def RenderContext.settled
    (ctx : RenderContext)
    (n : Node) : Node :=
  n.settled ctx 1 0

end SqlTemplate
