import SqlTemplate.Rendering.Settled

/-
  Writing as it happens step by step.  A writer counts the
  levels it has gone down, edits the tree while it goes through
  it, and stops at the first error; the counter and the edits
  outlive the call, whether it succeeds or not.

  Key definitions include:
    * `Written`
    * `RenderContext.descend`
    * `Node.write`
    * `Writer`
    * `Writer.write`
    * `RenderContext.writeFresh`
    * `writeInTurn`
    * `Writer.answerInTurn`
-/

------------------------------------------------------------
-- Steps of a Writer
------------------------------------------------------------

namespace SqlTemplate

/-
  The outcome of a step: the text or why there is none, and the
  fragment with the edits made in it, also on the way to an
  error.
-/
abbrev Written (τ α : Type) :=
  Except RenderError τ × α

/- A step starts at a level of the counter and leaves it at another. -/
abbrev WriteStep (τ α : Type) :=
  Nat → Written τ α × Nat

/- A step that leaves a fragment as it is. -/
def writeText
    {τ α : Type}
    (text : Except RenderError τ)
    (fragment : α) : WriteStep τ α :=
  fun level => ((text, fragment), level)

/- A step that is taken only if writing has got that far. -/
def writeIf
    {α : Type}
    (reached : Bool)
    (step : WriteStep (Option String) α)
    (fragment : α) : WriteStep (Option String) α :=
  if reached then step else writeText (.ok none) fragment

/-
  Go one level down, take a step there, and come back up, even
  when the step ends in an error.
-/
def RenderContext.descend
    {α : Type}
    (ctx : RenderContext)
    (fragment : α)
    (step : WriteStep (Option String) α) :
    WriteStep (Option String) α :=
  fun level =>
    if ctx.isTooDeep (level + 1) then
      ((.error (.tooDeep (level + 1) ctx.maxDepth), fragment), level)
    else
      let (outcome, below) := step (level + 1)
      (outcome, below - 1)

/-
  Write a query, given the steps that write its slots.  They
  are taken in order, up to the first error.
-/
def writeSlots
    (ctx : RenderContext)
    (indent : Int)
    (query : Query Node)
    (columns source filter groups having order limit offset :
      WriteStep (Option String) (Slot Node)) :
    WriteStep String (Query Node) :=
  if query.limit.isVacant && !query.offset.isVacant then
    writeText (.error .offsetAlone) query
  else fun level =>
    let ((columnsText, newColumns), level) := columns level
    let reached := Rendered.succeeds columnsText
    let ((sourceText, newSource), level) :=
      writeIf reached source query.source level
    let reached := reached && Rendered.succeeds sourceText
    let ((filterText, newFilter), level) :=
      writeIf reached filter query.filter level
    let reached := reached && Rendered.succeeds filterText
    let ((groupsText, newGroups), level) :=
      writeIf reached groups query.groups level
    let reached := reached && Rendered.succeeds groupsText
    let ((havingText, newHaving), level) :=
      writeIf reached having query.having level
    let reached := reached && Rendered.succeeds havingText
    let ((orderText, newOrder), level) :=
      writeIf reached order query.order level
    let reached := reached && Rendered.succeeds orderText
    let ((limitText, newLimit), level) :=
      writeIf reached limit query.limit level
    let reached := reached && Rendered.succeeds limitText
    let ((offsetText, newOffset), level) :=
      writeIf reached offset query.offset level
    ((do
      let columns ← columnsText
      let source ← sourceText
      let filter ← filterText
      let groups ← groupsText
      let having ← havingText
      let order ← orderText
      let limit ← limitText
      let offset ← offsetText
      let line ← ctx.limitLine (ctx.resolve query.limit limit)
        (ctx.resolve query.offset offset)
      return layLines indent
        (queryLines query.distinct query.options columns
          [("FROM", source), ("WHERE", filter), ("GROUP BY", groups),
            ("HAVING", having), ("ORDER BY", order)]
          line),
      ⟨newColumns, newSource, newFilter, newGroups, newHaving, newOrder,
        newLimit, newOffset, query.distinct, query.options⟩), level)

------------------------------------------------------------
-- Writing Trees
------------------------------------------------------------

namespace Node

mutual

/- Write a node one level below the one the counter is at. -/
def write
    (ctx : RenderContext)
    (indent : Int)
    (n : Node) : WriteStep (Option String) Node :=
  ctx.descend n fun level =>
    match n with
    | .column name owner database =>
        writeText
          ((ctx.qualified [database, owner, some name]).map some) n level
    | .literal v => writeText ((ctx.literal v).map some) n level
    | .raw text => writeText (.ok (some text)) n level
    | .parameter name => writeText (ctx.parameter name) n level
    | .numeral name => writeText (ctx.numeral name) n level
    | .group members brackets delimiter =>
        let ((text, members), level) :=
          writeSlot ctx indent delimiter members level
        ((text.map (·.map (enclose brackets)),
          .group members brackets delimiter), level)
    | .binary op left right =>
        if left.isVacant || right.isVacant then
          writeText (.error (.emptyOperand op.symbol)) n level
        else if op.isNullLenient && ctx.isUnbound right then
          let ((text, left), level) := writeSlot ctx indent " " left level
          ((text.map (·.map nullTest), .binary op left right), level)
        else
          let list := if op.isMembership then right.bracketBare else right
          if op.isMembership then
            match ctx.judgeList op right with
            | .error e =>
                writeText (.error e) (.binary op left list) level
            | .ok true =>
                writeText (.ok (some emptyListResult))
                  (.binary op left list) level
            | .ok false =>
                let ((first, left), level) :=
                  writeSlot ctx indent " " left level
                let ((second, list), level) :=
                  writeIf (Rendered.isPresent first)
                    (writeList ctx indent right) list level
                ((Rendered.pair first second (binaryText op),
                  .binary op left list), level)
          else
            let ((first, left), level) :=
              writeSlot ctx indent " " left level
            let ((second, right), level) :=
              writeIf (Rendered.isPresent first)
                (writeSlot ctx indent " " right) right level
            ((Rendered.pair first second (binaryText op),
              .binary op left right), level)
    | .connective op operands =>
        let ((text, operands), level) :=
          writeSlot ctx indent (" " ++ op.symbol ++ " ") operands level
        ((text, .connective op operands), level)
    | .unary op operand =>
        if operand.isVacant then
          writeText (.error (.emptyOperand op.symbol)) n level
        else
          let ((text, operand), level) :=
            writeSlot ctx indent " " operand level
          ((text.map (·.map (unaryText op)), .unary op operand), level)
    | .between operand low high =>
        if operand.isVacant then
          writeText (.error .emptyBetween) n level
        else
          let ((text, operand), level) :=
            writeSlot ctx indent " " operand level
          let ((lowText, low), level) :=
            writeIf (Rendered.isPresent text)
              (writeSlot ctx indent " " low) low level
          let ((highText, high), level) :=
            writeIf (Rendered.isPresent text && Rendered.succeeds lowText)
              (writeSlot ctx indent " " high) high level
          ((Rendered.range text lowText highText,
            .between operand low high), level)
    | .call name (.many args) distinct =>
        let ((texts, args), level) := writeArgs ctx indent args level
        ((texts.map (·.map fun texts => callText name texts distinct),
          .call name (.many args) distinct), level)
    | .call _ _ _ => writeText (.error .argumentsNotListed) n level
    | .alias node label =>
        if node.isVacant then
          writeText (.error (.emptyAlias label)) n level
        else
          let ((text, node), level) := writeSlot ctx indent " " node level
          ((Rendered.pair text ((ctx.name label).map some)
            fun text label => text ++ " AS " ++ label,
            .alias node label), level)
    | .orderBy node direction =>
        let ((text, node), level) := writeSlot ctx indent " " node level
        ((text.map (·.map (orderText · direction)),
          .orderBy node direction), level)
    | .table name label database join condition =>
        match ctx.qualified [database, some name], ctx.name? label with
        | .error e, _ => writeText (.error e) n level
        | .ok _, .error e => writeText (.error e) n level
        | .ok nameText, .ok labelText =>
            let ((text, condition), level) :=
              writeSlot ctx indent " " condition level
            ((text.map fun text =>
              some (tableText join nameText labelText text),
              .table name label database join condition), level)
    | .select query =>
        let ((text, query), level) := writeQuery ctx indent query level
        ((text.map some, .select query), level)
    | .subquery (.one (.select query)) label =>
        let ((text, query), level) :=
          writeQuery ctx (indent + indentWidth) query level
        ((do
          let text ← text
          let labelText ← ctx.name? label
          return some (subqueryText text labelText),
          .subquery (.one (.select query)) label), level)
    | .subquery _ _ => writeText (.error .noSelect) n level
    | .foreign typeName =>
        writeText (.error (.foreignNode typeName)) n level

/- Write the content of a slot. -/
def writeSlot
    (ctx : RenderContext)
    (indent : Int)
    (separator : String) :
    Slot Node → WriteStep (Option String) (Slot Node)
| .vacant => writeText (.ok none) .vacant
| .one n => fun level =>
    let ((text, n), level) := n.write ctx indent level
    ((text.map (·.bind present), .one n), level)
| .many members => fun level =>
    let ((texts, members), level) := writeMembers ctx indent members level
    ((texts.map (joined separator), .many members), level)

/-
  Write a list of values.  A parameter on its own becomes the
  only member of a group, and the group is written.
-/
def writeList
    (ctx : RenderContext)
    (indent : Int) :
    Slot Node → WriteStep (Option String) (Slot Node)
| .vacant => writeText (.ok none) .vacant
| .one n =>
    if n.isParameter then
      ctx.descend (.one n.bracketed) fun level =>
        let ((text, n), level) := n.write ctx indent level
        (((text.map (·.bind present)).map (·.map (enclose true)),
          .one n.bracketed), level)
    else fun level =>
      let ((text, n), level) := n.write ctx indent level
      ((text.map (·.bind present), .one n), level)
| .many members => fun level =>
    let ((texts, members), level) := writeMembers ctx indent members level
    ((texts.map (joined " "), .many members), level)

/- Write the members of a list up to the first error. -/
def writeMembers
    (ctx : RenderContext)
    (indent : Int) :
    List (Option Node) →
      WriteStep (List String) (List (Option Node))
| [] => writeText (.ok []) []
| none :: members => fun level =>
    let ((texts, members), level) := writeMembers ctx indent members level
    ((texts, none :: members), level)
| some n :: members => fun level =>
    let ((text, n), level) := n.write ctx indent level
    match text with
    | .error e => ((.error e, some n :: members), level)
    | .ok text =>
        let ((texts, members), level) :=
          writeMembers ctx indent members level
        ((texts.map ((text.bind present).toList ++ ·),
          some n :: members), level)

/- Write arguments up to the first error or absent one. -/
def writeArgs
    (ctx : RenderContext)
    (indent : Int) :
    List (Option Node) →
      WriteStep (Option (List String)) (List (Option Node))
| [] => writeText (.ok (some [])) []
| none :: args => writeText (.ok none) (none :: args)
| some n :: args => fun level =>
    let ((text, n), level) := n.write ctx indent level
    match text with
    | .error e => ((.error e, some n :: args), level)
    | .ok text =>
        match text.bind present with
        | none => ((.ok none, some n :: args), level)
        | some text =>
            let ((texts, args), level) := writeArgs ctx indent args level
            ((texts.map (·.map (text :: ·)), some n :: args), level)

/- Write a query, its slots from the first to the last. -/
def writeQuery
    (ctx : RenderContext)
    (indent : Int) : Query Node → WriteStep String (Query Node)
| ⟨columns, source, filter, groups, having, order, limit, offset,
    distinct, options⟩ =>
    writeSlots ctx indent
      ⟨columns, source, filter, groups, having, order, limit, offset,
        distinct, options⟩
      (writeSlot ctx indent ", " columns)
      (writeSlot ctx indent " " source)
      (writeSlot ctx indent " " filter)
      (writeSlot ctx indent ", " groups)
      (writeSlot ctx indent " " having)
      (writeSlot ctx indent ", " order)
      (writeSlot ctx indent " " limit)
      (writeSlot ctx indent " " offset)

end

end Node

------------------------------------------------------------
-- Writers
------------------------------------------------------------

/- A writer for a context, with the level its counter is at. -/
structure Writer where
  context : RenderContext
  level : Nat

namespace Writer

/- A writer that has written nothing yet. -/
def fresh (ctx : RenderContext) : Writer :=
  ⟨ctx, 0⟩

/-
  The text of a slot, the slot with the edits made in it, and
  the writer with its counter after the call.
-/
def write
    (w : Writer)
    (separator : String)
    (brackets : Bool)
    (indent : Int)
    (slot : Slot Node) :
    Written (Option String) (Slot Node) × Writer :=
  let ((text, slot), level) :=
    Node.writeSlot w.context indent separator slot w.level
  ((text.map (·.map (enclose brackets)), slot), { w with level })

end Writer

/-
  The text that a writer of its own gives a tree, and the tree
  with the edits made in it; an absent tree has the empty text.
-/
def RenderContext.writeFresh
    (ctx : RenderContext)
    (n : Node) : Except RenderError String × Node :=
  let ((text, n), _) := n.write ctx 0 (Writer.fresh ctx).level
  ((text.map (·.bind present)).map (·.getD ""), n)

------------------------------------------------------------
-- Calls in Turn
------------------------------------------------------------

/-
  Write a tree under one context after another, each time the
  tree that the call before has left.
-/
def writeInTurn :
    List RenderContext → Node → List (Except RenderError String) × Node
| [], n => ([], n)
| ctx :: ctxs, n =>
    let (text, n) := ctx.writeFresh n
    let (texts, n) := writeInTurn ctxs n
    (text :: texts, n)

/- A call of a writer on one of several slots. -/
structure WriteCall (κ : Type) where
  key : κ
  separator : String
  brackets : Bool
  indent : Int

namespace Writer

variable {κ : Type}

/- What a call is written to, given the slots it can be on. -/
def answer
    (w : Writer)
    (slots : κ → Slot Node)
    (call : WriteCall κ) :
    Written (Option String) (Slot Node) × Writer :=
  w.write call.separator call.brackets call.indent (slots call.key)

/-
  The texts of calls of one writer, one after another, with the
  slots and the writer that are left; a call finds its slot as
  the calls before have left it.
-/
def answerInTurn
    [DecidableEq κ]
    (w : Writer)
    (slots : κ → Slot Node) :
    List (WriteCall κ) → List Rendered × (κ → Slot Node) × Writer
| [] => ([], slots, w)
| call :: calls =>
    let ((text, slot), w) := w.answer slots call
    let (texts, left) :=
      answerInTurn w
        (fun key => if key = call.key then slot else slots key) calls
    (text :: texts, left)

end Writer

end SqlTemplate
