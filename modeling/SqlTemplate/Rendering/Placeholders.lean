import SqlTemplate.Rendering.Notice

/-
  The placeholders that are left in the text of a tree.  A
  parameter that is not written into the text leaves one where
  it stands, unless the part of the tree around it is absent or
  replaced by another text.

  Key definitions include:
    * `Node.placeholders`
    * `RenderContext.placeholders`
  Correctness is proven by:
    * `Node.placeholders_of_absent`
-/

------------------------------------------------------------
-- Placeholders of Parts
------------------------------------------------------------

namespace SqlTemplate

namespace RenderContext

variable (ctx : RenderContext)

/- What a quoted parameter leaves. -/
def parameterPlaceholders (name : String) : List String :=
  if ctx.inline then [] else [name]

/- What a numeral parameter leaves, whose value is always written. -/
def numeralPlaceholders (name : String) : List String :=
  if ctx.inline || ctx.bindings.isBound name then [] else [name]

/- What is left by a limit or an offset, if it comes to anything. -/
def limitPlaceholders
    (slot : Slot Node)
    (text : Rendered)
    (names : List String) : List String :=
  match text with
  | .ok text => if (ctx.resolve slot text).isSome then names else []
  | .error _ => []

end RenderContext

------------------------------------------------------------
-- Placeholders of Trees
------------------------------------------------------------

namespace Node

mutual

/-
  The names of the parameters whose placeholders are in the text
  of a node at the given depth; an absent node has none.
-/
def placeholders
    (ctx : RenderContext)
    (depth : Nat)
    (indent : Int)
    (n : Node) : List String :=
  if (n.render ctx depth indent).isPresent then
    match n with
    | .parameter name => ctx.parameterPlaceholders name
    | .numeral name => ctx.numeralPlaceholders name
    | .group members _ _ => slotPlaceholders ctx (depth + 1) indent members
    | .binary op left right =>
        if op.isNullLenient && ctx.isUnbound right then
          slotPlaceholders ctx (depth + 1) indent left
        else if ctx.writesOperands op right then
          slotPlaceholders ctx (depth + 1) indent left ++
            if RenderContext.standsBare op right then
              slotPlaceholders ctx (depth + 2) indent right
            else
              slotPlaceholders ctx (depth + 1) indent right
        else
          []
    | .connective _ operands =>
        slotPlaceholders ctx (depth + 1) indent operands
    | .unary _ operand => slotPlaceholders ctx (depth + 1) indent operand
    | .between operand low high =>
        slotPlaceholders ctx (depth + 1) indent operand ++
          slotPlaceholders ctx (depth + 1) indent low ++
            slotPlaceholders ctx (depth + 1) indent high
    | .call _ args _ => slotPlaceholders ctx (depth + 1) indent args
    | .alias node _ => slotPlaceholders ctx (depth + 1) indent node
    | .orderBy node _ => slotPlaceholders ctx (depth + 1) indent node
    | .table _ _ _ _ condition =>
        slotPlaceholders ctx (depth + 1) indent condition
    | .select query => queryPlaceholders ctx depth indent query
    | .subquery (.one (.select query)) _ =>
        queryPlaceholders ctx depth (indent + indentWidth) query
    | _ => []
  else
    []

/- The placeholders in the text of a slot. -/
def slotPlaceholders
    (ctx : RenderContext)
    (depth : Nat)
    (indent : Int) : Slot Node → List String
| .vacant => []
| .one n => n.placeholders ctx depth indent
| .many members => memberPlaceholders ctx depth indent members

/- The placeholders in the texts of the members of a list. -/
def memberPlaceholders
    (ctx : RenderContext)
    (depth : Nat)
    (indent : Int) : List (Option Node) → List String
| [] => []
| none :: members => memberPlaceholders ctx depth indent members
| some n :: members =>
    n.placeholders ctx depth indent ++
      memberPlaceholders ctx depth indent members

/- The placeholders in the text of a query. -/
def queryPlaceholders
    (ctx : RenderContext)
    (depth : Nat)
    (indent : Int) : Query Node → List String
| ⟨columns, source, filter, groups, having, order, limit, offset, _, _⟩ =>
    slotPlaceholders ctx (depth + 1) indent columns ++
      slotPlaceholders ctx (depth + 1) indent source ++
        slotPlaceholders ctx (depth + 1) indent filter ++
          slotPlaceholders ctx (depth + 1) indent groups ++
            slotPlaceholders ctx (depth + 1) indent having ++
              slotPlaceholders ctx (depth + 1) indent order ++
    ctx.limitPlaceholders limit
        (renderSlot ctx (depth + 1) indent " " limit)
        (slotPlaceholders ctx (depth + 1) indent limit) ++
      ctx.limitPlaceholders offset
        (renderSlot ctx (depth + 1) indent " " offset)
        (slotPlaceholders ctx (depth + 1) indent offset)

end

/- An absent node has no placeholders. -/
theorem placeholders_of_absent
    {ctx : RenderContext}
    {depth : Nat}
    {indent : Int}
    {n : Node}
    (hAbsent : (n.render ctx depth indent).isPresent = false) :
    n.placeholders ctx depth indent = [] := by
  rw [placeholders.eq_def, hAbsent, if_neg Bool.false_ne_true]

end Node

/-
  The names of the parameters whose placeholders are in the text
  of a tree, as often as they are there.
-/
def RenderContext.placeholders
    (ctx : RenderContext)
    (n : Node) : List String :=
  n.placeholders ctx 1 0

end SqlTemplate
