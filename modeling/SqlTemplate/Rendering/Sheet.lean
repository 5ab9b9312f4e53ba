import SqlTemplate.Rendering

/-
  Written forms whose line breaks are marked.  A sheet tells the
  line breaks between the lines of a query from newlines that
  are part of a value, a name or a raw text.  It says what is
  written at every indentation, since only line breaks are
  followed by it.

  Key definitions include:
    * `Glyph`
    * `Sheet`
    * `Sheet.write`
    * `Sheet.padded`
    * `Sheet.lines`
    * `Laid`
    * `Node.lay`
    * `RenderContext.laySlot`
-/

------------------------------------------------------------
-- Sheets
------------------------------------------------------------

namespace SqlTemplate

/-
  A character as it stands, or the break before a line of a
  query, with the indentation that enclosing subqueries add.
-/
inductive Glyph where
| char (c : Char)
| lineBreak (level : Nat)
deriving DecidableEq, Repr, Inhabited

/- The glyphs of a text. -/
abbrev Sheet := List Glyph

/-
  What is written for a glyph at an indentation: characters,
  each with whether it is the newline of a line break.
-/
def Glyph.marked (indent : Nat) : Glyph → List (Char × Bool)
| .char c => [(c, false)]
| .lineBreak level =>
    ('\n', true) :: List.replicate (indent + level) (' ', false)

namespace Sheet

/- What is written for a sheet, with its line breaks marked. -/
def marked
    (indent : Nat)
    (sheet : Sheet) : List (Char × Bool) :=
  sheet.flatMap (Glyph.marked indent)

/- The text of a sheet at an indentation. -/
def write
    (indent : Nat)
    (sheet : Sheet) : String :=
  String.ofList ((sheet.marked indent).map Prod.fst)

/-
  The text of a sheet at an indentation, with more spaces put in
  right after each newline that breaks the lines of a query.
-/
def padded
    (indent extra : Nat)
    (sheet : Sheet) : String :=
  String.ofList ((sheet.marked indent).flatMap fun c =>
    c.1 :: if c.2 then List.replicate extra ' ' else [])

------------------------------------------------------------
-- Pieces of Sheets
------------------------------------------------------------

/- A text without line breaks; its newlines are characters of it. -/
def plain (s : String) : Sheet :=
  s.toList.map .char

/- An empty sheet counts as absent. -/
def present (sheet : Sheet) : Option Sheet :=
  if sheet.isEmpty then none else some sheet

/- Sheets with a text between them; absent if there are none. -/
def joined
    (separator : String)
    (sheets : List Sheet) : Option Sheet :=
  if sheets.isEmpty then
    none
  else
    some ((plain separator).intercalate sheets)

def nullTest (operand : Sheet) : Sheet :=
  operand ++ plain " IS null"

def binaryText
    (op : BinaryOp)
    (left right : Sheet) : Sheet :=
  left ++ plain " " ++ plain op.symbol ++ plain " " ++ right

def enclose
    (brackets : Bool)
    (sheet : Sheet) : Sheet :=
  if brackets then plain "(" ++ sheet ++ plain ")" else sheet

def negated (operand : Sheet) : Sheet :=
  if operand.head? = some (.char '-') then
    plain "- " ++ operand
  else
    plain "-" ++ operand

def unaryText
    (op : UnaryOp)
    (operand : Sheet) : Sheet :=
  if op.isPostfix then
    operand ++ plain " " ++ plain op.symbol
  else if op = .negate then
    negated operand
  else
    plain op.symbol ++ plain " " ++ operand

def betweenText
    (operand : Sheet) :
    Option Sheet → Option Sheet → Option Sheet
| some low, some high =>
    some (operand ++ plain " BETWEEN " ++ low ++ plain " AND " ++ high)
| some low, none => some (operand ++ plain " >= " ++ low)
| none, some high => some (operand ++ plain " <= " ++ high)
| none, none => none

def callText
    (name : String)
    (args : List Sheet)
    (distinct : Bool) : Sheet :=
  plain name ++ plain "(" ++ plain (if distinct then "DISTINCT " else "") ++
    (plain ", ").intercalate args ++ plain ")"

def orderText
    (key : Sheet)
    (direction : Option String) : Sheet :=
  match direction.bind SqlTemplate.present with
  | some direction => key ++ plain " " ++ plain (Text.upper direction)
  | none => key

def tableText
    (join : Option String)
    (name : String)
    (label : Option String)
    (condition : Option Sheet) : Sheet :=
  (plain " ").intercalate
    (((join.bind SqlTemplate.present).toList ++ [name] ++
        (label.map fun a => "AS " ++ a).toList).map plain ++
      (condition.map fun c => plain "ON " ++ c).toList)

def subqueryText
    (query : Sheet)
    (label : Option String) : Sheet :=
  plain "(" ++ query ++ plain ")" ++
    plain ((label.map fun a => " AS " ++ a).getD "")

def queryLines
    (distinct : Bool)
    (options : List String)
    (columns : Option Sheet)
    (clauses : List (String × Option Sheet))
    (limit : Option Sheet) : List Sheet :=
  let head := "SELECT" :: if distinct then ["DISTINCT"] else []
  let first :=
    if options.isEmpty then
      [(plain " ").intercalate (head.map plain ++ columns.toList)]
    else
      plain (" ".intercalate (head ++ options)) :: columns.toList
  first ++
    clauses.filterMap
      (fun clause => clause.2.map fun s =>
        plain clause.1 ++ plain " " ++ s) ++
      limit.toList

/- The lines of a query: what breaks the lines is nothing else. -/
def lines
    (level : Nat)
    (sheets : List Sheet) : Sheet :=
  List.intercalate [.lineBreak level] sheets

def limitLine
    (d : Dialect)
    (limit : Sheet)
    (offset : Option Sheet) : Sheet :=
  match d, offset with
  | _, none => plain "LIMIT " ++ limit
  | .mysql, some offset => plain "LIMIT " ++ offset ++ plain ", " ++ limit
  | .sqlite, some offset => plain "LIMIT " ++ offset ++ plain ", " ++ limit
  | .postgresql, some offset =>
      plain "LIMIT " ++ limit ++ plain " OFFSET " ++ offset
  | .duckdb, some offset =>
      plain "LIMIT " ++ limit ++ plain " OFFSET " ++ offset

end Sheet

------------------------------------------------------------
-- Absence of Parts
------------------------------------------------------------

/- The sheet of a fragment, unless it is absent. -/
abbrev Laid :=
  Except RenderError (Option Sheet)

namespace Laid

def pair
    (first second : Laid)
    (f : Sheet → Sheet → Sheet) : Laid :=
  match first, second with
  | .error e, _ => .error e
  | .ok none, _ => .ok none
  | .ok (some _), .error e => .error e
  | .ok (some _), .ok none => .ok none
  | .ok (some a), .ok (some b) => .ok (some (f a b))

def range
    (operand low high : Laid) : Laid :=
  match operand with
  | .error e => .error e
  | .ok none => .ok none
  | .ok (some sheet) => do
      let low ← low
      let high ← high
      return Sheet.betweenText sheet low high

end Laid

namespace RenderContext

variable (ctx : RenderContext)

def layGrouped
    (depth : Nat)
    (laid : Laid) : Laid :=
  if ctx.isTooDeep depth then
    .error (.tooDeep depth ctx.maxDepth)
  else
    laid.map (·.map (Sheet.enclose true))

def layUnlessEmptyList
    (op : BinaryOp)
    (list : Slot Node)
    (laid : Laid) : Laid :=
  if op.isMembership then
    match ctx.judgeList op list with
    | .error e => .error e
    | .ok true => .ok (some (Sheet.plain emptyListResult))
    | .ok false => laid
  else
    laid

/- Whether a limit comes to anything shows at any indentation. -/
def layResolved
    (slot : Slot Node)
    (sheet : Option Sheet) : Option Sheet :=
  if (ctx.resolve slot (sheet.map (Sheet.write 0))).isSome then
    sheet
  else
    none

/- The error about an offset leaves open how it is written. -/
def layLimitLine
    (limit offset : Option Sheet) : Laid :=
  match limit, offset with
  | some limit, offset =>
      .ok (some (Sheet.limitLine ctx.dialect limit offset))
  | none, some _ => .error (.offsetKept "")
  | none, none => .ok none

end RenderContext

------------------------------------------------------------
-- Trees
------------------------------------------------------------

namespace Node

mutual

/-
  The sheet of a node at the given depth, below subqueries that
  indent their lines by `level`.  Names, values, parameters and
  raw texts have no line breaks, whatever characters they hold.
-/
def lay
    (ctx : RenderContext)
    (depth level : Nat)
    (n : Node) : Laid :=
  if ctx.isTooDeep depth then
    .error (.tooDeep depth ctx.maxDepth)
  else
    match n with
    | .column name owner database =>
        (ctx.qualified [database, owner, some name]).map
          (some ∘ Sheet.plain)
    | .literal v => (ctx.literal v).map (some ∘ Sheet.plain)
    | .raw text => .ok (some (Sheet.plain text))
    | .parameter name => (ctx.parameter name).map (·.map Sheet.plain)
    | .numeral name => (ctx.numeral name).map (·.map Sheet.plain)
    | .group members brackets delimiter =>
        (laySlot ctx (depth + 1) level delimiter members).map
          (·.map (Sheet.enclose brackets))
    | .binary op left right =>
        if left.isVacant || right.isVacant then
          .error (.emptyOperand op.symbol)
        else if op.isNullLenient && ctx.isUnbound right then
          (laySlot ctx (depth + 1) level " " left).map
            (·.map Sheet.nullTest)
        else
          ctx.layUnlessEmptyList op right
            (Laid.pair
              (laySlot ctx (depth + 1) level " " left)
              (if RenderContext.standsBare op right then
                ctx.layGrouped (depth + 1)
                  (laySlot ctx (depth + 2) level " " right)
              else
                laySlot ctx (depth + 1) level " " right)
              (Sheet.binaryText op))
    | .connective op operands =>
        laySlot ctx (depth + 1) level (" " ++ op.symbol ++ " ") operands
    | .unary op operand =>
        if operand.isVacant then
          .error (.emptyOperand op.symbol)
        else
          (laySlot ctx (depth + 1) level " " operand).map
            (·.map (Sheet.unaryText op))
    | .between operand low high =>
        if operand.isVacant then
          .error .emptyBetween
        else
          Laid.range
            (laySlot ctx (depth + 1) level " " operand)
            (laySlot ctx (depth + 1) level " " low)
            (laySlot ctx (depth + 1) level " " high)
    | .call name (.many args) distinct =>
        (layArgs ctx (depth + 1) level args).map
          (·.map fun sheets => Sheet.callText name sheets distinct)
    | .call _ _ _ => .error .argumentsNotListed
    | .alias node label =>
        if node.isVacant then
          .error (.emptyAlias label)
        else
          Laid.pair
            (laySlot ctx (depth + 1) level " " node)
            ((ctx.name label).map (some ∘ Sheet.plain))
            fun sheet label => sheet ++ Sheet.plain " AS " ++ label
    | .orderBy node direction =>
        (laySlot ctx (depth + 1) level " " node).map
          (·.map (Sheet.orderText · direction))
    | .table name label database join condition => do
        let name ← ctx.qualified [database, some name]
        let label ← ctx.name? label
        let condition ← laySlot ctx (depth + 1) level " " condition
        return some (Sheet.tableText join name label condition)
    | .select query => (layQuery ctx depth level query).map some
    | .subquery (.one (.select query)) label => do
        let sheet ← layQuery ctx depth (level + indentWidth.toNat) query
        let label ← ctx.name? label
        return some (Sheet.subqueryText sheet label)
    | .subquery _ _ => .error .noSelect
    | .foreign typeName => .error (.foreignNode typeName)

/- The sheet of a slot. -/
def laySlot
    (ctx : RenderContext)
    (depth level : Nat)
    (separator : String) : Slot Node → Laid
| .vacant => .ok none
| .one n => (n.lay ctx depth level).map (·.bind Sheet.present)
| .many members =>
    (layMembers ctx depth level members).map (Sheet.joined separator)

/- The sheets of the members of a list that are present. -/
def layMembers
    (ctx : RenderContext)
    (depth level : Nat) :
    List (Option Node) → Except RenderError (List Sheet)
| [] => .ok []
| none :: members => layMembers ctx depth level members
| some n :: members => do
    let sheet ← n.lay ctx depth level
    let sheets ← layMembers ctx depth level members
    return (sheet.bind Sheet.present).toList ++ sheets

/- The sheets of the members of a list if all are present. -/
def layArgs
    (ctx : RenderContext)
    (depth level : Nat) :
    List (Option Node) → Except RenderError (Option (List Sheet))
| [] => .ok (some [])
| none :: _ => .ok none
| some n :: args => do
    match (← n.lay ctx depth level).bind Sheet.present with
    | none => return none
    | some sheet =>
        let sheets ← layArgs ctx depth level args
        return sheets.map (sheet :: ·)

/- The sheet of a query, whose lines are broken at its level. -/
def layQuery
    (ctx : RenderContext)
    (depth level : Nat) : Query Node → Except RenderError Sheet
| ⟨columns, source, filter, groups, having, order, limit, offset,
    distinct, options⟩ =>
    if limit.isVacant && !offset.isVacant then
      .error .offsetAlone
    else do
      let columns ← laySlot ctx (depth + 1) level ", " columns
      let source ← laySlot ctx (depth + 1) level " " source
      let filter ← laySlot ctx (depth + 1) level " " filter
      let groups ← laySlot ctx (depth + 1) level ", " groups
      let having ← laySlot ctx (depth + 1) level " " having
      let order ← laySlot ctx (depth + 1) level ", " order
      let limitSheet ← laySlot ctx (depth + 1) level " " limit
      let offsetSheet ← laySlot ctx (depth + 1) level " " offset
      let line ← ctx.layLimitLine (ctx.layResolved limit limitSheet)
        (ctx.layResolved offset offsetSheet)
      return Sheet.lines level
        (Sheet.queryLines distinct options columns
          [("FROM", source), ("WHERE", filter), ("GROUP BY", groups),
            ("HAVING", having), ("ORDER BY", order)]
          line)

end

end Node

/- The sheet of a slot on its own, in brackets if asked for. -/
def RenderContext.laySlot
    (ctx : RenderContext)
    (separator : String)
    (brackets : Bool)
    (slot : Slot Node) : Laid :=
  (Node.laySlot ctx 1 0 separator slot).map
    (·.map (Sheet.enclose brackets))

end SqlTemplate
