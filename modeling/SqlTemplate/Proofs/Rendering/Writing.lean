import SqlTemplate.Rendering.Writer

/-
  A writer gives the text that the rendering of the tree gives,
  leaves the tree settled, and ends at the level at which it
  started, whether it succeeds or not.

  Correctness is proven by:
    * `Node.write_eq`
    * `Writer.write_eq`
    * `RenderContext.writeFresh_eq`
-/

------------------------------------------------------------
-- Single Steps
------------------------------------------------------------

namespace SqlTemplate

/-
  A step one level down comes back to the level it started at
  if the step itself does.
-/
theorem descend_eq
    {α : Type}
    {ctx : RenderContext}
    {fragment edited : α}
    {step : WriteStep (Option String) α}
    {text : Rendered}
    {level : Nat}
    (hStep : step (level + 1) = ((text, edited), level + 1)) :
    ctx.descend fragment step level =
      ((if ctx.isTooDeep (level + 1) then
          .error (.tooDeep (level + 1) ctx.maxDepth)
        else
          text,
        if ctx.isTooDeep (level + 1) then fragment else edited),
        level) := by
  rw [RenderContext.descend]
  split
  · rfl
  · rw [hStep]
    rfl

/- A step that is skipped leaves its fragment as it is. -/
theorem writeIf_eq
    {α : Type}
    {step : WriteStep (Option String) α}
    {fragment edited : α}
    {text : Rendered}
    {level : Nat}
    (reached : Bool)
    (hStep : step level = ((text, edited), level)) :
    writeIf reached step fragment level =
      ((if reached then text else .ok none,
        if reached then edited else fragment), level) := by
  cases reached
  · rfl
  · exact hStep

/- A second part that is absent or not looked at is no matter. -/
theorem pair_writeIf
    (first second : Rendered)
    (f : String → String → String) :
    Rendered.pair first
        (if Rendered.isPresent first then second else .ok none) f =
      Rendered.pair first second f := by
  cases first with
  | error e => rfl
  | ok text => cases text <;> rfl


/- The bounds of a range test count only if they are looked at. -/
theorem range_writeIf
    (operand low high : Rendered) :
    Rendered.range operand
        (if Rendered.isPresent operand then low else .ok none)
        (if Rendered.isPresent operand &&
            Rendered.succeeds low then
          high
        else
          .ok none) =
      Rendered.range operand low high := by
  cases operand with
  | error e => rfl
  | ok text =>
      cases text with
      | none => rfl
      | some s => cases low <;> rfl

/- There is nothing to settle in a parameter. -/
theorem settled_of_isParameter
    {n : Node}
    (ctx : RenderContext)
    (depth : Nat)
    (indent : Int)
    (hParameter : n.isParameter = true) :
    n.settled ctx depth indent = n := by
  cases n with
  | parameter name => simp only [Node.settled, ite_self]
  | numeral name => simp only [Node.settled, ite_self]
  | _ => cases hParameter

/- Writing gets past a step only if it got to it. -/
theorem succeeds_writeIf
    (reached : Bool)
    (text : Rendered) :
    (reached &&
        Rendered.succeeds (if reached then text else .ok none)) =
      (reached && Rendered.succeeds text) := by
  cases reached <;> rfl

/-
  A list is put in brackets before its operator is looked at
  any further.
-/
theorem writeIf_bracketBare
    {step : WriteStep (Option String) (Slot Node)}
    {slot edited : Slot Node}
    {text : Rendered}
    {level : Nat}
    (reached : Bool)
    (hStep :
      step level =
        ((text,
          if slot.bareParameter?.isSome then
            slot.bracketBare
          else
            edited), level)) :
    writeIf reached step slot.bracketBare level =
      ((if reached then text else .ok none,
        if slot.bareParameter?.isSome then
          slot.bracketBare
        else if reached then
          edited
        else
          slot), level) := by
  cases reached with
  | true => exact hStep
  | false =>
      cases slot with
      | vacant => rfl
      | many members => rfl
      | one n =>
          have hName :
              (Slot.one n).bareParameter?.isSome = n.isParameter := rfl
          simp only [writeIf, writeText, hName, Slot.bracketBare,
            Bool.false_eq_true, if_false]
          split <;> rfl

/- Whether a slot is written does not hang on the separator. -/
theorem succeeds_renderSlot
    (ctx : RenderContext)
    (depth : Nat)
    (indent : Int)
    (separator other : String)
    (slot : Slot Node) :
    Rendered.succeeds (Node.renderSlot ctx depth indent separator slot) =
      Rendered.succeeds (Node.renderSlot ctx depth indent other slot) := by
  cases slot with
  | vacant => rfl
  | one n => rfl
  | many members =>
      simp only [Node.renderSlot]
      cases Node.renderMembers ctx depth indent members with
      | error e => rfl
      | ok texts =>
          by_cases hEmpty : texts.isEmpty <;>
            simp [Except.map, joined, hEmpty, Rendered.succeeds]

/- What follows a text counts only if there is one. -/
theorem bind_eq_of_succeeds
    {α β : Type}
    {text : Except RenderError α}
    {f g : α → Except RenderError β}
    (hRest : Rendered.succeeds text = true → ∀ a, f a = g a) :
    text >>= f = text >>= g := by
  cases text with
  | error e => rfl
  | ok a => exact hRest rfl a

------------------------------------------------------------
-- Slots that are Written as Rendered
------------------------------------------------------------

/-
  Writing a slot gives the text it is rendered to, settles it,
  and comes back to the level it started at.
-/
def Slot.WritesAsRendered
    (ctx : RenderContext)
    (slot : Slot Node) : Prop :=
  ∀ (indent : Int) (separator : String) (level : Nat),
    Node.writeSlot ctx indent separator slot level =
      ((Node.renderSlot ctx (level + 1) indent separator slot,
        Node.settledSlot ctx (level + 1) indent slot), level)

/-
  The same of a list of values, which is bracketed and written
  one level further down if it is a parameter on its own.
-/
def Slot.WritesAsList
    (ctx : RenderContext)
    (slot : Slot Node) : Prop :=
  ∀ (indent : Int) (level : Nat),
    Node.writeList ctx indent slot level =
      ((if slot.bareParameter?.isSome then
          ctx.grouped (level + 1)
            (Node.renderSlot ctx (level + 2) indent " " slot)
        else
          Node.renderSlot ctx (level + 1) indent " " slot,
        if slot.bareParameter?.isSome then
          slot.bracketBare
        else
          Node.settledSlot ctx (level + 1) indent slot), level)

/- An operator that is written operand by operand, or not at all. -/
theorem write_binary
    {ctx : RenderContext}
    {left right : Slot Node}
    (op : BinaryOp)
    (indent : Int)
    (level : Nat)
    (hLeft : left.WritesAsRendered ctx)
    (hRight : right.WritesAsRendered ctx)
    (hList : right.WritesAsList ctx) :
    (Node.binary op left right).write ctx indent level =
      (((Node.binary op left right).render ctx (level + 1) indent,
        (Node.binary op left right).settled ctx (level + 1) indent),
        level) := by
  simp only [Node.write, Node.render, Node.settled]
  apply descend_eq
  have hLeft := hLeft indent " " (level + 1)
  have hRight := hRight indent " " (level + 1)
  have hList := hList indent (level + 1)
  split
  · rfl
  · split
    · simp only [hLeft]
    · cases hOp : op.isMembership with
      | false =>
          simp [hLeft, writeIf_eq _ hRight, pair_writeIf,
            RenderContext.unlessEmptyList, RenderContext.standsBare,
            RenderContext.writesOperands, hOp]
      | true =>
          cases hJudged : ctx.judgeList op right with
          | error e =>
              simp [hJudged, RenderContext.unlessEmptyList,
                RenderContext.writesOperands, hOp, writeText]
          | ok isEmpty =>
              cases isEmpty with
              | true =>
                  simp [hJudged, RenderContext.unlessEmptyList,
                    RenderContext.writesOperands, hOp, writeText]
              | false =>
                  simp [hJudged, hLeft, writeIf_bracketBare _ hList,
                    pair_writeIf, RenderContext.unlessEmptyList,
                    RenderContext.standsBare,
                    RenderContext.writesOperands, hOp]

/- A range test is written up to the first part that fails. -/
theorem write_between
    {ctx : RenderContext}
    {operand low high : Slot Node}
    (indent : Int)
    (level : Nat)
    (hOperand : operand.WritesAsRendered ctx)
    (hLow : low.WritesAsRendered ctx)
    (hHigh : high.WritesAsRendered ctx) :
    (Node.between operand low high).write ctx indent level =
      (((Node.between operand low high).render ctx (level + 1) indent,
        (Node.between operand low high).settled ctx (level + 1) indent),
        level) := by
  simp only [Node.write, Node.render, Node.settled]
  apply descend_eq
  have hOperand := hOperand indent " " (level + 1)
  have hLow := hLow indent " " (level + 1)
  have hHigh := hHigh indent " " (level + 1)
  cases hVacant : operand.isVacant with
  | true =>
      cases operand with
      | vacant =>
          simp [Node.settledSlot, Node.renderSlot, writeText,
            Rendered.isPresent]
      | one => cases hVacant
      | many => cases hVacant
  | false =>
      simp only [hOperand, writeIf_eq _ hLow, writeIf_eq _ hHigh,
        succeeds_writeIf, range_writeIf, Bool.false_eq_true, if_false]

/-
  The slots of a query are written in order, as long as those
  before them succeed.
-/
theorem writeSlots_eq
    {ctx : RenderContext}
    {indent : Int}
    {query : Query Node}
    {columns source filter groups having order limit offset :
      WriteStep (Option String) (Slot Node)}
    {columnsText sourceText filterText groupsText havingText orderText
      limitText offsetText : Rendered}
    {newColumns newSource newFilter newGroups newHaving newOrder
      newLimit newOffset : Slot Node}
    {level : Nat}
    (hStarts : (!query.limit.isVacant || query.offset.isVacant) = true)
    (hColumns : columns level = ((columnsText, newColumns), level))
    (hSource : source level = ((sourceText, newSource), level))
    (hFilter : filter level = ((filterText, newFilter), level))
    (hGroups : groups level = ((groupsText, newGroups), level))
    (hHaving : having level = ((havingText, newHaving), level))
    (hOrder : order level = ((orderText, newOrder), level))
    (hLimit : limit level = ((limitText, newLimit), level))
    (hOffset : offset level = ((offsetText, newOffset), level)) :
    let toSource := Rendered.succeeds columnsText
    let toFilter := toSource && Rendered.succeeds sourceText
    let toGroups := toFilter && Rendered.succeeds filterText
    let toHaving := toGroups && Rendered.succeeds groupsText
    let toOrder := toHaving && Rendered.succeeds havingText
    let toLimit := toOrder && Rendered.succeeds orderText
    let toOffset := toLimit && Rendered.succeeds limitText
    writeSlots ctx indent query columns source filter groups having
        order limit offset level =
      ((do
        let columns ← columnsText
        let source ← sourceText
        let filter ← filterText
        let groups ← groupsText
        let having ← havingText
        let order ← orderText
        let limitText ← limitText
        let offsetText ← offsetText
        let line ← ctx.limitLine (ctx.resolve query.limit limitText)
          (ctx.resolve query.offset offsetText)
        return layLines indent
          (queryLines query.distinct query.options columns
            [("FROM", source), ("WHERE", filter), ("GROUP BY", groups),
              ("HAVING", having), ("ORDER BY", order)]
            line),
        { columns := newColumns
          source := if toSource then newSource else query.source
          filter := if toFilter then newFilter else query.filter
          groups := if toGroups then newGroups else query.groups
          having := if toHaving then newHaving else query.having
          order := if toOrder then newOrder else query.order
          limit := if toLimit then newLimit else query.limit
          offset := if toOffset then newOffset else query.offset
          distinct := query.distinct
          options := query.options }), level) := by
  have hAlone :
      (query.limit.isVacant && !query.offset.isVacant) = false := by
    rw [← Bool.not_eq_true', Bool.not_and, Bool.not_not, hStarts]
  simp only [writeSlots, hAlone, Bool.false_eq_true, if_false, hColumns,
    writeIf_eq _ hSource, writeIf_eq _ hFilter, writeIf_eq _ hGroups,
    writeIf_eq _ hHaving, writeIf_eq _ hOrder, writeIf_eq _ hLimit,
    writeIf_eq _ hOffset, succeeds_writeIf]
  refine congrArg (fun text => ((text, _), level)) ?_
  refine bind_eq_of_succeeds fun hReached _ => ?_
  simp only [hReached, Bool.true_and, if_true]
  refine bind_eq_of_succeeds fun hReached _ => ?_
  simp only [hReached, Bool.true_and, if_true]
  refine bind_eq_of_succeeds fun hReached _ => ?_
  simp only [hReached, Bool.true_and, if_true]
  refine bind_eq_of_succeeds fun hReached _ => ?_
  simp only [hReached, Bool.true_and, if_true]
  refine bind_eq_of_succeeds fun hReached _ => ?_
  simp only [hReached, Bool.true_and, if_true]
  refine bind_eq_of_succeeds fun hReached _ => ?_
  simp only [hReached, Bool.true_and, if_true]
  refine bind_eq_of_succeeds fun hReached _ => ?_
  simp only [hReached, if_true]

/- A query with an offset alone is not looked at. -/
theorem settledQuery_alone
    {ctx : RenderContext}
    {columns source filter groups having order limit offset : Slot Node}
    (distinct : Bool)
    (options : List String)
    (indent : Int)
    (depth : Nat)
    (hAlone : (!limit.isVacant || offset.isVacant) = false) :
    Node.settledQuery ctx depth indent
        ⟨columns, source, filter, groups, having, order, limit, offset,
          distinct, options⟩ =
      ⟨columns, source, filter, groups, having, order, limit, offset,
        distinct, options⟩ := by
  simp only [Node.settledQuery, hAlone, Bool.false_and, Bool.false_eq_true,
    if_false]

/-
  A query that is looked at is settled slot by slot, up to the
  first one that fails.
-/
theorem settledQuery_eq
    {ctx : RenderContext}
    {columns source filter groups having order limit offset : Slot Node}
    (distinct : Bool)
    (options : List String)
    (indent : Int)
    (depth : Nat)
    (hStarts : (!limit.isVacant || offset.isVacant) = true) :
    let written (separator : String) (slot : Slot Node) : Bool :=
      Rendered.succeeds
        (Node.renderSlot ctx (depth + 1) indent separator slot)
    let settled := Node.settledSlot ctx (depth + 1) indent
    let toSource := written ", " columns
    let toFilter := toSource && written " " source
    let toGroups := toFilter && written " " filter
    let toHaving := toGroups && written ", " groups
    let toOrder := toHaving && written " " having
    let toLimit := toOrder && written ", " order
    let toOffset := toLimit && written " " limit
    Node.settledQuery ctx depth indent
        ⟨columns, source, filter, groups, having, order, limit, offset,
          distinct, options⟩ =
      { columns := settled columns
        source := if toSource then settled source else source
        filter := if toFilter then settled filter else filter
        groups := if toGroups then settled groups else groups
        having := if toHaving then settled having else having
        order := if toOrder then settled order else order
        limit := if toLimit then settled limit else limit
        offset := if toOffset then settled offset else offset
        distinct
        options } := by
  simp only [Node.settledQuery, hStarts, Bool.true_and, if_true,
    succeeds_renderSlot ctx (depth + 1) indent " " ", " columns,
    succeeds_renderSlot ctx (depth + 1) indent " " ", " groups,
    succeeds_renderSlot ctx (depth + 1) indent " " ", " order]

/- A query whose slots are written as rendered is so itself. -/
theorem write_query
    {ctx : RenderContext}
    {columns source filter groups having order limit offset : Slot Node}
    (distinct : Bool)
    (options : List String)
    (indent : Int)
    (level : Nat)
    (hColumns : columns.WritesAsRendered ctx)
    (hSource : source.WritesAsRendered ctx)
    (hFilter : filter.WritesAsRendered ctx)
    (hGroups : groups.WritesAsRendered ctx)
    (hHaving : having.WritesAsRendered ctx)
    (hOrder : order.WritesAsRendered ctx)
    (hLimit : limit.WritesAsRendered ctx)
    (hOffset : offset.WritesAsRendered ctx) :
    Node.writeQuery ctx indent
        ⟨columns, source, filter, groups, having, order, limit, offset,
          distinct, options⟩ level =
      ((Node.renderQuery ctx level indent
          ⟨columns, source, filter, groups, having, order, limit, offset,
            distinct, options⟩,
        Node.settledQuery ctx level indent
          ⟨columns, source, filter, groups, having, order, limit, offset,
            distinct, options⟩), level) := by
  cases hStarts : !limit.isVacant || offset.isVacant with
  | false =>
      have hAlone : (limit.isVacant && !offset.isVacant) = true := by
        rw [← Bool.not_eq_false', Bool.not_and, Bool.not_not, hStarts]
      rw [Node.writeQuery, writeSlots, if_pos hAlone, Node.renderQuery,
        hAlone, settledQuery_alone distinct options indent level hStarts]
      rfl
  | true =>
      have hAlone : (limit.isVacant && !offset.isVacant) = false := by
        rw [← Bool.not_eq_true', Bool.not_and, Bool.not_not, hStarts]
      let query : Query Node :=
        ⟨columns, source, filter, groups, having, order, limit, offset,
          distinct, options⟩
      have hStarts' :
          (!query.limit.isVacant || query.offset.isVacant) = true :=
        hStarts
      rw [Node.writeQuery, Node.renderQuery, hAlone,
        settledQuery_eq distinct options indent level hStarts]
      exact writeSlots_eq hStarts' (hColumns _ _ _) (hSource _ _ _)
        (hFilter _ _ _) (hGroups _ _ _) (hHaving _ _ _) (hOrder _ _ _)
        (hLimit _ _ _) (hOffset _ _ _)

------------------------------------------------------------
-- Whole Trees
------------------------------------------------------------

mutual

/-
  A node is written as it is rendered one level below the
  counter, and is left settled.
-/
theorem Node.write_eq
    (ctx : RenderContext) :
    ∀ (n : Node) (indent : Int) (level : Nat),
      n.write ctx indent level =
        ((n.render ctx (level + 1) indent,
          n.settled ctx (level + 1) indent), level)
| .column .., _, _ => by
    simp only [Node.write, Node.render, Node.settled]
    exact descend_eq rfl
| .literal _, _, _ => by
    simp only [Node.write, Node.render, Node.settled]
    exact descend_eq rfl
| .raw _, _, _ => by
    simp only [Node.write, Node.render, Node.settled]
    exact descend_eq rfl
| .parameter _, _, _ => by
    simp only [Node.write, Node.render, Node.settled]
    exact descend_eq rfl
| .numeral _, _, _ => by
    simp only [Node.write, Node.render, Node.settled]
    exact descend_eq rfl
| .foreign _, _, _ => by
    simp only [Node.write, Node.render, Node.settled]
    exact descend_eq rfl
| .group members _ _, _, _ => by
    simp only [Node.write, Node.render, Node.settled]
    apply descend_eq
    simp only [members.write_eq ctx]
| .binary op left right, indent, level => by
    exact write_binary op indent level (left.write_eq ctx)
      (right.write_eq ctx) (right.writeList_eq ctx)
| .connective _ operands, _, _ => by
    simp only [Node.write, Node.render, Node.settled]
    apply descend_eq
    simp only [operands.write_eq ctx]
| .unary _ operand, _, _ => by
    simp only [Node.write, Node.render, Node.settled]
    apply descend_eq
    simp only [operand.write_eq ctx]
    cases operand <;> rfl
| .between operand low high, indent, level => by
    exact write_between indent level (operand.write_eq ctx)
      (low.write_eq ctx) (high.write_eq ctx)
| .call _ (.many args) _, _, _ => by
    simp only [Node.write, Node.render, Node.settled]
    apply descend_eq
    simp only [Node.writeArgs_eq ctx args]
| .call _ .vacant _, _, _ => by
    simp only [Node.write, Node.render, Node.settled]
    exact descend_eq rfl
| .call _ (.one _) _, _, _ => by
    simp only [Node.write, Node.render, Node.settled]
    exact descend_eq rfl
| .alias node _, _, _ => by
    simp only [Node.write, Node.render, Node.settled]
    apply descend_eq
    simp only [node.write_eq ctx]
    cases node <;> rfl
| .orderBy node _, _, _ => by
    simp only [Node.write, Node.render, Node.settled]
    apply descend_eq
    simp only [node.write_eq ctx]
| .table name label database join condition, indent, level => by
    simp only [Node.write, Node.render, Node.settled]
    apply descend_eq
    simp only [condition.write_eq ctx]
    cases ctx.qualified [database, some name] with
    | error e => rfl
    | ok nameText =>
        cases ctx.name? label with
        | error e => rfl
        | ok labelText =>
            cases Node.renderSlot ctx (level + 1 + 1) indent " "
              condition <;> rfl
| .select query, _, _ => by
    simp only [Node.write, Node.render, Node.settled]
    apply descend_eq
    simp only [query.write_eq ctx]
| .subquery .vacant _, _, _ => by
    simp only [Node.write, Node.render, Node.settled]
    exact descend_eq rfl
| .subquery (.many _) _, _, _ => by
    simp only [Node.write, Node.render, Node.settled]
    exact descend_eq rfl
| .subquery (.one n) label, _, _ => by
    cases n with
    | select query =>
        simp only [Node.write, Node.render, Node.settled]
        apply descend_eq
        simp only [query.write_eq ctx]
    | _ =>
        simp only [Node.write, Node.render, Node.settled]
        exact descend_eq rfl
termination_by structural n => n

theorem Slot.write_eq
    (ctx : RenderContext) :
    ∀ (slot : Slot Node) (indent : Int) (separator : String)
      (level : Nat),
      Node.writeSlot ctx indent separator slot level =
        ((Node.renderSlot ctx (level + 1) indent separator slot,
          Node.settledSlot ctx (level + 1) indent slot), level)
| .vacant, _, _, _ => rfl
| .one n, indent, separator, level => by
    simp only [Node.writeSlot, n.write_eq ctx, Node.renderSlot,
      Node.settledSlot]
| .many members, indent, separator, level => by
    simp only [Node.writeSlot, Node.writeMembers_eq ctx members,
      Node.renderSlot, Node.settledSlot]
termination_by structural slot => slot

theorem Slot.writeList_eq
    (ctx : RenderContext) :
    ∀ (slot : Slot Node) (indent : Int) (level : Nat),
      Node.writeList ctx indent slot level =
        ((if slot.bareParameter?.isSome then
            ctx.grouped (level + 1)
              (Node.renderSlot ctx (level + 2) indent " " slot)
          else
            Node.renderSlot ctx (level + 1) indent " " slot,
          if slot.bareParameter?.isSome then
            slot.bracketBare
          else
            Node.settledSlot ctx (level + 1) indent slot), level)
| .vacant, _, _ => rfl
| .one n, indent, level => by
    have hName : (Slot.one n).bareParameter?.isSome = n.isParameter := rfl
    simp only [Node.writeList, hName, Slot.bracketBare]
    split
    · rw [descend_eq (by simp only [n.write_eq ctx]; rfl)]
      simp [RenderContext.grouped, Node.renderSlot,
        settled_of_isParameter, *]
    · simp only [n.write_eq ctx, Node.renderSlot, Node.settledSlot]
| .many members, indent, level => by
    simp only [Node.writeList, Node.writeMembers_eq ctx members,
      Node.renderSlot, Node.settledSlot]
    rfl
termination_by structural slot => slot

theorem Node.writeMembers_eq
    (ctx : RenderContext) :
    ∀ (members : List (Option Node)) (indent : Int) (level : Nat),
      Node.writeMembers ctx indent members level =
        ((Node.renderMembers ctx (level + 1) indent members,
          Node.settledMembers ctx (level + 1) indent members), level)
| [], _, _ => rfl
| none :: members, indent, level => by
    simp only [Node.writeMembers, Node.writeMembers_eq ctx members,
      Node.renderMembers, Node.settledMembers]
| some n :: members, indent, level => by
    simp only [Node.writeMembers, n.write_eq ctx,
      Node.writeMembers_eq ctx members, Node.renderMembers,
      Node.settledMembers]
    cases n.render ctx (level + 1) indent with
    | error e => rfl
    | ok text =>
        cases Node.renderMembers ctx (level + 1) indent members <;> rfl
termination_by structural members => members

theorem Node.writeArgs_eq
    (ctx : RenderContext) :
    ∀ (args : List (Option Node)) (indent : Int) (level : Nat),
      Node.writeArgs ctx indent args level =
        ((Node.renderArgs ctx (level + 1) indent args,
          Node.settledArgs ctx (level + 1) indent args), level)
| [], _, _ => rfl
| none :: _, _, _ => rfl
| some n :: args, indent, level => by
    simp only [Node.writeArgs, n.write_eq ctx,
      Node.writeArgs_eq ctx args, Node.renderArgs, Node.settledArgs]
    rw [Node.renderSlot]
    cases n.render ctx (level + 1) indent with
    | error e => rfl
    | ok text =>
        have hMap :
            Except.map (Option.bind · present) (.ok text : Rendered) =
              .ok (text.bind present) := rfl
        rw [hMap]
        simp only [bind, Except.bind]
        generalize text.bind present = text
        cases text with
        | none => rfl
        | some s =>
            cases Node.renderArgs ctx (level + 1) indent args <;> rfl
termination_by structural args => args

theorem Query.write_eq
    (ctx : RenderContext) :
    ∀ (query : Query Node) (indent : Int) (level : Nat),
      Node.writeQuery ctx indent query level =
        ((Node.renderQuery ctx level indent query,
          Node.settledQuery ctx level indent query), level)
| ⟨columns, source, filter, groups, having, order, limit, offset,
    distinct, options⟩, indent, level => by
    exact write_query distinct options indent level (columns.write_eq ctx)
      (source.write_eq ctx) (filter.write_eq ctx) (groups.write_eq ctx)
      (having.write_eq ctx) (order.write_eq ctx) (limit.write_eq ctx)
      (offset.write_eq ctx)
termination_by structural query => query

end

------------------------------------------------------------
-- Writers
------------------------------------------------------------

/-
  A writer gives the text that a rendering at its level gives,
  and is at that level again afterwards.
-/
theorem Writer.write_eq
    (w : Writer)
    (separator : String)
    (brackets : Bool)
    (indent : Int)
    (slot : Slot Node) :
    w.write separator brackets indent slot =
      (((Node.renderSlot w.context (w.level + 1) indent separator slot).map
          (·.map (enclose brackets)),
        Node.settledSlot w.context (w.level + 1) indent slot), w) := by
  simp only [Writer.write, slot.write_eq w.context]

/- A fresh writer renders a tree and leaves it settled. -/
theorem RenderContext.writeFresh_eq
    (ctx : RenderContext)
    (n : Node) :
    ctx.writeFresh n = (ctx.render n, ctx.settled n) := by
  simp only [RenderContext.writeFresh, n.write_eq ctx]
  rfl

end SqlTemplate
