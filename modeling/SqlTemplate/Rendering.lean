import SqlTemplate.Bindings
import SqlTemplate.Node
import SqlTemplate.Rendering.Failure
import SqlTemplate.Text.Uppercase

/-
  The written form of a statement tree under bindings.

  A fragment that depends on an unbound parameter is absent,
  and absence travels upward: a list loses its absent members
  and is absent when none is left, most other fragments are
  absent as soon as a part of them is, and a clause without
  content is left out together with its keyword.  A comparison
  for equality with an unbound parameter becomes a null test
  instead, and a list after IN insists on its parameter.

  Key definitions include:
    * `RenderContext`
    * `Rendered`
    * `Rendered.pair`
    * `Rendered.range`
    * `queryLines`
    * `RenderContext.parameter`
    * `RenderContext.numeral`
    * `RenderContext.judgeList`
    * `RenderContext.resolve`
    * `Node.render`
    * `Node.renderSlot`
    * `Node.renderMembers`
    * `Node.renderArgs`
    * `Node.renderQuery`
    * `RenderContext.render`
    * `RenderContext.renderSlot`
-/

------------------------------------------------------------
-- Contexts
------------------------------------------------------------

namespace SqlTemplate

/-
  What the written form of a tree depends on besides the tree.
  Values are written into the text when `inline` is set;
  otherwise placeholders are left for them.  No node may lie
  deeper than `maxDepth` levels.
-/
structure RenderContext where
  dialect : Dialect
  bindings : Bindings
  inline : Bool
  maxDepth : Int

/- The text of a fragment, unless it is absent. -/
abbrev Rendered :=
  Except RenderError (Option String)

/- The indentation that each level of subqueries adds. -/
def indentWidth : Int := 2

/- The greatest depth of a tree unless another one is asked for. -/
def defaultMaxDepth : Int := 100

/- The text written for a list that holds no value. -/
def emptyListResult : String := "FALSE"

/- A parameter as it stands in a prepared statement. -/
def placeholder (name : String) : String :=
  ":" ++ name

------------------------------------------------------------
-- Pieces of Text
------------------------------------------------------------

/- An empty text counts as absent. -/
def present (s : String) : Option String :=
  if s = "" then none else some s

/- Texts with a separator between them; absent if there are none. -/
def joined
    (separator : String)
    (texts : List String) : Option String :=
  if texts.isEmpty then none else some (separator.intercalate texts)

/- The test that replaces a comparison with an unbound parameter. -/
def nullTest (operand : String) : String :=
  operand ++ " IS null"

/- An operator between its two operands. -/
def binaryText
    (op : BinaryOp)
    (left right : String) : String :=
  left ++ " " ++ op.symbol ++ " " ++ right

/- A text in brackets, if brackets are asked for. -/
def enclose
    (brackets : Bool)
    (s : String) : String :=
  if brackets then "(" ++ s ++ ")" else s

/- A negated text; two minus signs in a row would be a comment. -/
def negated (operand : String) : String :=
  if operand.toList.head? = some '-' then
    "- " ++ operand
  else
    "-" ++ operand

/- An operator with one operand before or after the operand. -/
def unaryText
    (op : UnaryOp)
    (operand : String) : String :=
  if op.isPostfix then
    operand ++ " " ++ op.symbol
  else if op = .negate then
    negated operand
  else
    op.symbol ++ " " ++ operand

/-
  A range test.  With one bound absent it is a comparison with
  the other; with both absent it is absent.
-/
def betweenText
    (operand : String) :
    Option String → Option String → Option String
| some low, some high =>
    some (operand ++ " BETWEEN " ++ low ++ " AND " ++ high)
| some low, none => some (operand ++ " >= " ++ low)
| none, some high => some (operand ++ " <= " ++ high)
| none, none => none

/- A function call. -/
def callText
    (name : String)
    (args : List String)
    (distinct : Bool) : String :=
  name ++ "(" ++ (if distinct then "DISTINCT " else "") ++
    ", ".intercalate args ++ ")"

/- A sort key with its direction, if it has one. -/
def orderText
    (key : String)
    (direction : Option String) : String :=
  match direction.bind present with
  | some direction => key ++ " " ++ Text.upper direction
  | none => key

/- A table with the parts it has. -/
def tableText
    (join : Option String)
    (name : String)
    (label condition : Option String) : String :=
  " ".intercalate
    ((join.bind present).toList ++ [name] ++
      (label.map fun a => "AS " ++ a).toList ++
        (condition.map fun c => "ON " ++ c).toList)

/- A query in brackets, with its alias if it has one. -/
def subqueryText
    (query : String)
    (label : Option String) : String :=
  "(" ++ query ++ ")" ++ (label.map fun a => " AS " ++ a).getD ""

------------------------------------------------------------
-- Absence of Parts
------------------------------------------------------------

namespace Rendered

/-
  A fragment of two parts, looked at in order.  It is absent
  as soon as one of them is.
-/
def pair
    (first second : Rendered)
    (f : String → String → String) : Rendered :=
  match first, second with
  | .error e, _ => .error e
  | .ok none, _ => .ok none
  | .ok (some _), .error e => .error e
  | .ok (some _), .ok none => .ok none
  | .ok (some a), .ok (some b) => .ok (some (f a b))

/-
  A range test, its operand and bounds looked at in order.  It
  is absent when its operand is.
-/
def range
    (operand low high : Rendered) : Rendered :=
  match operand with
  | .error e => .error e
  | .ok none => .ok none
  | .ok (some text) => do
      let low ← low
      let high ← high
      return betweenText text low high

end Rendered

------------------------------------------------------------
-- Queries
------------------------------------------------------------

/-
  The lines of a query.  Options close its first line, and the
  columns then start the second one.
-/
def queryLines
    (distinct : Bool)
    (options : List String)
    (columns : Option String)
    (clauses : List (String × Option String))
    (limit : Option String) : List String :=
  let head := "SELECT" :: if distinct then ["DISTINCT"] else []
  let first :=
    if options.isEmpty then
      [" ".intercalate (head ++ columns.toList)]
    else
      " ".intercalate (head ++ options) :: columns.toList
  first ++
    clauses.filterMap
      (fun clause => clause.2.map fun s => clause.1 ++ " " ++ s) ++
      limit.toList

/- Lines one below the other, all but the first indented. -/
def layLines
    (indent : Int)
    (lines : List String) : String :=
  ("\n" ++ String.ofList (List.replicate indent.toNat ' ')).intercalate
    lines

------------------------------------------------------------
-- Names, Values and Parameters
------------------------------------------------------------

namespace RenderContext

variable (ctx : RenderContext)

/- The written form of a name. -/
def name (s : String) : Except RenderError String :=
  (ctx.dialect.identifier s).mapError .identifier

/- The written form of a name that is given and not empty. -/
def name? (s : Option String) : Rendered :=
  match s.bind present with
  | none => .ok none
  | some s => (ctx.name s).map some

/- The names that are given, with points between them. -/
def qualified
    (names : List (Option String)) : Except RenderError String :=
  ((names.filterMap id).mapM ctx.name).map ".".intercalate

/- The literal of a value. -/
def literal (v : Value) : Except RenderError String :=
  (ctx.dialect.literal v).mapError .literal

/- The literals of the items of a collection, or of one value. -/
def literals (v : Value) : Except RenderError String :=
  match v.items? with
  | some items => (items.mapM ctx.literal).map ", ".intercalate
  | none => ctx.literal v

/- A quoted parameter. -/
def parameter (name : String) : Rendered :=
  if ctx.inline then
    match ctx.bindings.value? name with
    | some v => (ctx.literals v).map some
    | none => .ok none
  else
    .ok (some (placeholder name))

/- A value of a numeral parameter. -/
def numeralOf
    (name : String)
    (v : Value) : Except RenderError String :=
  match v.numeral? with
  | some s => .ok s
  | none => .error (.notNumeral name v)

/- The numerals of the items of a collection, or of one value. -/
def numerals
    (name : String)
    (v : Value) : Except RenderError String :=
  match v.items? with
  | some items => (items.mapM (numeralOf name)).map ", ".intercalate
  | none => numeralOf name v

/- A numeral parameter; its value is written even in prepared text. -/
def numeral (name : String) : Rendered :=
  match ctx.bindings.value? name with
  | some v => (numerals name v).map some
  | none =>
      .ok (if ctx.inline then none else some (placeholder name))

------------------------------------------------------------
-- Rules for Parameters in Special Places
------------------------------------------------------------

/- A node lies deeper than allowed. -/
def isTooDeep (depth : Nat) : Bool :=
  ctx.maxDepth < depth

/- A text in the brackets of a group at the given depth. -/
def grouped
    (depth : Nat)
    (text : Rendered) : Rendered :=
  if ctx.isTooDeep depth then
    .error (.tooDeep depth ctx.maxDepth)
  else
    text.map (·.map (enclose true))

/- A slot holds an unbound parameter on its own. -/
def isUnbound (slot : Slot Node) : Bool :=
  match slot.bareParameter? with
  | some name => !ctx.bindings.isBound name
  | none => false

/-
  The parameter that decides about a list of values: the
  operand itself, or the first member of a group.
-/
def leadingParameter? : Slot Node → Option String
| .one (.group (.many (some n :: _)) _ _) => n.parameterName?
| .one n => n.parameterName?
| _ => none

/-
  Look at the list of values before it is written.  Its leading
  parameter has to be bound; the answer is whether it is bound
  to an empty collection.
-/
def judgeList
    (op : BinaryOp) : Slot Node → Except RenderError Bool
| .one (.group (.one _) _ _) => .error .membersNotListed
| list =>
    match leadingParameter? list with
    | none => .ok false
    | some name =>
        match ctx.bindings.value? name with
        | none => .error (.unboundMember op.symbol name)
        | some v => .ok v.isEmptyCollection

/-
  A membership test, given the text it has if its list is not
  bound to an empty collection.
-/
def unlessEmptyList
    (op : BinaryOp)
    (list : Slot Node)
    (text : Rendered) : Rendered :=
  if op.isMembership then
    match ctx.judgeList op list with
    | .error e => .error e
    | .ok true => .ok (some emptyListResult)
    | .ok false => text
  else
    text

/-
  A parameter that stands alone as a list of values is written
  in brackets, as the member of a group one level down.
-/
def standsBare
    (op : BinaryOp)
    (list : Slot Node) : Bool :=
  op.isMembership && list.bareParameter?.isSome

/-
  What a limit or an offset comes to.  A text that is still a
  placeholder leaves it unresolved.
-/
def resolve
    (slot : Slot Node)
    (text : Option String) : Option String :=
  text.bind fun s =>
    if ctx.inline then
      if (Text.trimStart s.toList).head? = some ':' then none else some s
    else
      match slot with
      | .one (.numeral name) =>
          if ctx.bindings.isBound name then some s else none
      | _ => some s

/- The last line of a query, from its limit and its offset. -/
def limitLine
    (limit offset : Option String) : Rendered :=
  match limit, offset with
  | some limit, offset =>
      .ok (some (ctx.dialect.limitLine limit offset))
  | none, some offset => .error (.offsetKept offset)
  | none, none => .ok none

end RenderContext

------------------------------------------------------------
-- Trees
------------------------------------------------------------

namespace Node

mutual

/-
  The written form of a node at the given depth, with the
  lines of queries indented by `indent`.
-/
def render
    (ctx : RenderContext)
    (depth : Nat)
    (indent : Int)
    (n : Node) : Rendered :=
  if ctx.isTooDeep depth then
    .error (.tooDeep depth ctx.maxDepth)
  else
    match n with
    | .column name owner database =>
        (ctx.qualified [database, owner, some name]).map some
    | .literal v => (ctx.literal v).map some
    | .raw text => .ok (some text)
    | .parameter name => ctx.parameter name
    | .numeral name => ctx.numeral name
    | .group members brackets delimiter =>
        (renderSlot ctx (depth + 1) indent delimiter members).map
          (·.map (enclose brackets))
    | .binary op left right =>
        if left.isVacant || right.isVacant then
          .error (.emptyOperand op.symbol)
        else if op.isNullLenient && ctx.isUnbound right then
          (renderSlot ctx (depth + 1) indent " " left).map
            (·.map nullTest)
        else
          ctx.unlessEmptyList op right
            (Rendered.pair
              (renderSlot ctx (depth + 1) indent " " left)
              (if RenderContext.standsBare op right then
                ctx.grouped (depth + 1)
                  (renderSlot ctx (depth + 2) indent " " right)
              else
                renderSlot ctx (depth + 1) indent " " right)
              (binaryText op))
    | .connective op operands =>
        renderSlot ctx (depth + 1) indent (" " ++ op.symbol ++ " ")
          operands
    | .unary op operand =>
        if operand.isVacant then
          .error (.emptyOperand op.symbol)
        else
          (renderSlot ctx (depth + 1) indent " " operand).map
            (·.map (unaryText op))
    | .between operand low high =>
        if operand.isVacant then
          .error .emptyBetween
        else
          Rendered.range
            (renderSlot ctx (depth + 1) indent " " operand)
            (renderSlot ctx (depth + 1) indent " " low)
            (renderSlot ctx (depth + 1) indent " " high)
    | .call name (.many args) distinct =>
        (renderArgs ctx (depth + 1) indent args).map
          (·.map fun texts => callText name texts distinct)
    | .call _ _ _ => .error .argumentsNotListed
    | .alias node label =>
        if node.isVacant then
          .error (.emptyAlias label)
        else
          Rendered.pair
            (renderSlot ctx (depth + 1) indent " " node)
            ((ctx.name label).map some)
            fun text label => text ++ " AS " ++ label
    | .orderBy node direction =>
        (renderSlot ctx (depth + 1) indent " " node).map
          (·.map (orderText · direction))
    | .table name label database join condition => do
        let name ← ctx.qualified [database, some name]
        let label ← ctx.name? label
        let condition ← renderSlot ctx (depth + 1) indent " " condition
        return some (tableText join name label condition)
    | .select query => (renderQuery ctx depth indent query).map some
    | .subquery (.one (.select query)) label => do
        let text ← renderQuery ctx depth (indent + indentWidth) query
        let label ← ctx.name? label
        return some (subqueryText text label)
    | .subquery _ _ => .error .noSelect
    | .foreign typeName => .error (.foreignNode typeName)

/-
  The text in a slot, with a separator between the members of a
  list; an empty text is none.
-/
def renderSlot
    (ctx : RenderContext)
    (depth : Nat)
    (indent : Int)
    (separator : String) : Slot Node → Rendered
| .vacant => .ok none
| .one n => (n.render ctx depth indent).map (·.bind present)
| .many members =>
    (renderMembers ctx depth indent members).map (joined separator)

/- The texts of the members of a list that are present. -/
def renderMembers
    (ctx : RenderContext)
    (depth : Nat)
    (indent : Int) :
    List (Option Node) → Except RenderError (List String)
| [] => .ok []
| none :: members => renderMembers ctx depth indent members
| some n :: members => do
    let text ← n.render ctx depth indent
    let texts ← renderMembers ctx depth indent members
    return (text.bind present).toList ++ texts

/- The texts of the members of a list if all are present. -/
def renderArgs
    (ctx : RenderContext)
    (depth : Nat)
    (indent : Int) :
    List (Option Node) → Except RenderError (Option (List String))
| [] => .ok (some [])
| none :: _ => .ok none
| some n :: args => do
    match (← n.render ctx depth indent).bind present with
    | none => return none
    | some text =>
        let texts ← renderArgs ctx depth indent args
        return texts.map (text :: ·)

/-
  The text of a query.  Its parts lie one level below the node
  that holds it.
-/
def renderQuery
    (ctx : RenderContext)
    (depth : Nat)
    (indent : Int) : Query Node → Except RenderError String
| ⟨columns, source, filter, groups, having, order, limit, offset,
    distinct, options⟩ =>
    if limit.isVacant && !offset.isVacant then
      .error .offsetAlone
    else do
      let columns ← renderSlot ctx (depth + 1) indent ", " columns
      let source ← renderSlot ctx (depth + 1) indent " " source
      let filter ← renderSlot ctx (depth + 1) indent " " filter
      let groups ← renderSlot ctx (depth + 1) indent ", " groups
      let having ← renderSlot ctx (depth + 1) indent " " having
      let order ← renderSlot ctx (depth + 1) indent ", " order
      let limitText ← renderSlot ctx (depth + 1) indent " " limit
      let offsetText ← renderSlot ctx (depth + 1) indent " " offset
      let line ← ctx.limitLine (ctx.resolve limit limitText)
        (ctx.resolve offset offsetText)
      return layLines indent
        (queryLines distinct options columns
          [("FROM", source), ("WHERE", filter), ("GROUP BY", groups),
            ("HAVING", having), ("ORDER BY", order)]
          line)

end

end Node

------------------------------------------------------------
-- Rendering
------------------------------------------------------------

namespace RenderContext

variable (ctx : RenderContext)

/- The text of a tree; a tree that is absent has the empty text. -/
def render (n : Node) : Except RenderError String :=
  (Node.renderSlot ctx 1 0 " " (.one n)).map (·.getD "")

/- The text of a slot on its own, in brackets if asked for. -/
def renderSlot
    (separator : String)
    (brackets : Bool)
    (indent : Int)
    (slot : Slot Node) : Rendered :=
  (Node.renderSlot ctx 1 indent separator slot).map
    (·.map (enclose brackets))

end RenderContext

end SqlTemplate
