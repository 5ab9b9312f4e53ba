import SqlTemplate.Rendering

/-
  Notices for the log: what was left out or changed while a
  tree was written, in the order in which it happened.  Where
  writing stops at an error, the notices stop as well.

  Key definitions include:
    * `Notice`
    * `Notice.message`
    * `Node.notices`
    * `RenderContext.notices`
-/

------------------------------------------------------------
-- Notices
------------------------------------------------------------

namespace SqlTemplate

/- Something that happened to a fragment. -/
inductive Notice where
| pruned (typeName name : String)
| nullTest (operand name : String)
| bracketed (symbol name : String)
| omitted (keyword : String)
| limitDropped
deriving DecidableEq, Repr, Inhabited

/- The line in the log about a notice. -/
def Notice.message : Notice → String
| .pruned typeName name =>
    "pruning " ++ typeName ++ ": parameter '" ++ name ++
      "' is not bound"
| .nullTest operand name =>
    "comparing " ++ operand ++ " against unbound parameter '" ++
      name ++ "' as a null test"
| .bracketed symbol name =>
    "wrapping " ++ symbol ++ " operand '" ++ name ++ "' in brackets"
| .omitted keyword => "omitting empty " ++ keyword ++ " clause"
| .limitDropped => "dropping unresolved LIMIT"

------------------------------------------------------------
-- Order of Events
------------------------------------------------------------

/- Writing went on after a fragment, whether present or absent. -/
def Rendered.succeeds {α : Type} : Except RenderError α → Bool
| .ok _ => true
| .error _ => false

/- A fragment was written and is present. -/
def Rendered.isPresent : Rendered → Bool
| .ok (some _) => true
| _ => false

/- Notices that come only if writing got that far. -/
def noticesIf
    (reached : Bool)
    (notices : List Notice) : List Notice :=
  if reached then notices else []

namespace RenderContext

variable (ctx : RenderContext)

/- The notice about an unbound parameter that is pruned. -/
def parameterNotices
    (typeName name : String) : List Notice :=
  noticesIf (ctx.inline && !ctx.bindings.isBound name)
    [.pruned typeName name]

/- The notice about a comparison that became a null test. -/
def nullTestNotices
    (left : Rendered)
    (right : Slot Node) : List Notice :=
  match left, right.bareParameter? with
  | .ok (some operand), some name => [.nullTest operand name]
  | _, _ => []

/- The notice about a parameter that is put in brackets. -/
def bracketNotices
    (op : BinaryOp)
    (right : Slot Node) : List Notice :=
  match right.bareParameter? with
  | some name => noticesIf op.isMembership [.bracketed op.symbol name]
  | none => []

/- Both operands of a binary operator are written. -/
def writesOperands
    (op : BinaryOp)
    (right : Slot Node) : Bool :=
  !op.isMembership ||
    match ctx.judgeList op right with
    | .ok isEmpty => !isEmpty
    | .error _ => false

/- The notice about a clause whose content is absent. -/
def omittedNotices
    (keyword : String)
    (clause : Slot Node)
    (text : Rendered) : List Notice :=
  match text with
  | .ok none => noticesIf (!clause.isEmpty) [.omitted keyword]
  | _ => []

/- The notice about a limit that comes to nothing. -/
def limitNotices
    (limit offset : Slot Node)
    (limitText offsetText : Rendered) : List Notice :=
  match limitText, offsetText with
  | .ok limitText, .ok offsetText =>
      noticesIf
        (!limit.isVacant && (ctx.resolve limit limitText).isNone &&
          (ctx.resolve offset offsetText).isNone)
        [.limitDropped]
  | _, _ => []

end RenderContext

------------------------------------------------------------
-- Notices about Trees
------------------------------------------------------------

namespace Node

mutual

/- The notices about a node at the given depth. -/
def notices
    (ctx : RenderContext)
    (depth : Nat)
    (indent : Int)
    (n : Node) : List Notice :=
  if ctx.isTooDeep depth then
    []
  else
    match n with
    | .parameter name => ctx.parameterNotices n.typeName name
    | .numeral name => ctx.parameterNotices n.typeName name
    | .group members _ _ => slotNotices ctx (depth + 1) indent members
    | .binary op left right =>
        if left.isVacant || right.isVacant then
          []
        else if op.isNullLenient && ctx.isUnbound right then
          slotNotices ctx (depth + 1) indent left ++
            RenderContext.nullTestNotices
              (renderSlot ctx (depth + 1) indent " " left) right
        else
          RenderContext.bracketNotices op right ++
            noticesIf (ctx.writesOperands op right)
              (slotNotices ctx (depth + 1) indent left ++
                noticesIf
                  (renderSlot ctx (depth + 1) indent " " left).isPresent
                  (if RenderContext.standsBare op right then
                    noticesIf (!ctx.isTooDeep (depth + 1))
                      (slotNotices ctx (depth + 2) indent right)
                  else
                    slotNotices ctx (depth + 1) indent right))
    | .connective _ operands =>
        slotNotices ctx (depth + 1) indent operands
    | .unary _ operand => slotNotices ctx (depth + 1) indent operand
    | .between operand low high =>
        slotNotices ctx (depth + 1) indent operand ++
          noticesIf
            (renderSlot ctx (depth + 1) indent " " operand).isPresent
            (slotNotices ctx (depth + 1) indent low ++
              noticesIf
                (Rendered.succeeds
                  (renderSlot ctx (depth + 1) indent " " low))
                (slotNotices ctx (depth + 1) indent high))
    | .call _ (.many args) _ => argNotices ctx (depth + 1) indent args
    | .alias node _ => slotNotices ctx (depth + 1) indent node
    | .orderBy node _ => slotNotices ctx (depth + 1) indent node
    | .table name label database _ condition =>
        noticesIf
          (Rendered.succeeds (ctx.qualified [database, some name]) &&
            Rendered.succeeds (ctx.name? label))
          (slotNotices ctx (depth + 1) indent condition)
    | .select query => queryNotices ctx depth indent query
    | .subquery (.one (.select query)) _ =>
        queryNotices ctx depth (indent + indentWidth) query
    | _ => []

/- The notices about the content of a slot. -/
def slotNotices
    (ctx : RenderContext)
    (depth : Nat)
    (indent : Int) : Slot Node → List Notice
| .vacant => []
| .one n => n.notices ctx depth indent
| .many members => memberNotices ctx depth indent members

/- The notices about the members of a list. -/
def memberNotices
    (ctx : RenderContext)
    (depth : Nat)
    (indent : Int) : List (Option Node) → List Notice
| [] => []
| none :: members => memberNotices ctx depth indent members
| some n :: members =>
    n.notices ctx depth indent ++
      noticesIf (Rendered.succeeds (n.render ctx depth indent))
        (memberNotices ctx depth indent members)

/- The notices about arguments, up to the first absent one. -/
def argNotices
    (ctx : RenderContext)
    (depth : Nat)
    (indent : Int) : List (Option Node) → List Notice
| [] => []
| none :: _ => []
| some n :: args =>
    n.notices ctx depth indent ++
      noticesIf
        (renderSlot ctx depth indent " " (.one n)).isPresent
        (argNotices ctx depth indent args)

/- The notices about a query. -/
def queryNotices
    (ctx : RenderContext)
    (depth : Nat)
    (indent : Int) : Query Node → List Notice
| ⟨columns, source, filter, groups, having, order, limit, offset, _, _⟩ =>
    let text (slot : Slot Node) : Rendered :=
      renderSlot ctx (depth + 1) indent " " slot
    let sourceText := text source
    let filterText := text filter
    let groupsText := text groups
    let havingText := text having
    let orderText := text order
    let limitText := text limit
    noticesIf (!limit.isVacant || offset.isVacant)
      (slotNotices ctx (depth + 1) indent columns ++
      noticesIf (Rendered.succeeds (text columns))
      (slotNotices ctx (depth + 1) indent source ++
      RenderContext.omittedNotices "FROM" source sourceText ++
      noticesIf (Rendered.succeeds sourceText)
      (slotNotices ctx (depth + 1) indent filter ++
      RenderContext.omittedNotices "WHERE" filter filterText ++
      noticesIf (Rendered.succeeds filterText)
      (slotNotices ctx (depth + 1) indent groups ++
      RenderContext.omittedNotices "GROUP BY" groups groupsText ++
      noticesIf (Rendered.succeeds groupsText)
      (slotNotices ctx (depth + 1) indent having ++
      RenderContext.omittedNotices "HAVING" having havingText ++
      noticesIf (Rendered.succeeds havingText)
      (slotNotices ctx (depth + 1) indent order ++
      RenderContext.omittedNotices "ORDER BY" order orderText ++
      noticesIf (Rendered.succeeds orderText)
      (slotNotices ctx (depth + 1) indent limit ++
      noticesIf (Rendered.succeeds limitText)
      (slotNotices ctx (depth + 1) indent offset ++
      ctx.limitNotices limit offset limitText (text offset)))))))))

end

end Node

/- The notices about a tree. -/
def RenderContext.notices
    (ctx : RenderContext)
    (n : Node) : List Notice :=
  n.notices ctx 1 0

end SqlTemplate
