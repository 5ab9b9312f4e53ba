import SqlTemplate.Proofs.Grammar.Shape
import SqlTemplate.Proofs.Inlining.Agreement
import SqlTemplate.Proofs.Pruning.Filled
import SqlTemplate.Proofs.Template

/-
  Inlining agrees with binding.  The text with the values of
  all parameters has the tokens of the prepared text with each
  placeholder replaced by the tokens of its value, so no value
  ends its literal early, opens a comment or changes the
  structure of the statement.

  Key definitions include:
    * `Node.CallsPlainly`

  Correctness is proven by:
    * `Node.inlined`
    * `inlining_agrees_with_binding`
-/

------------------------------------------------------------
-- Names
------------------------------------------------------------

namespace SqlTemplate

/- A function is called by a word. -/
def Node.CallsPlainly : Node → Prop
| .call name _ _ => IsBareName name
| _ => True

instance : DecidablePred Node.CallsPlainly
| .call name _ _ => inferInstanceAs (Decidable (IsBareName name))
| .column .. | .literal _ | .raw _ | .parameter _ | .numeral _
| .group .. | .binary .. | .connective .. | .unary .. | .between ..
| .alias .. | .orderBy .. | .table .. | .select _ | .subquery ..
| .foreign _ => .isTrue trivial

variable {ctx : RenderContext}

theorem name_of_qualified
    {names : List (Option String)}
    {name s : String}
    (hMember : some name ∈ names)
    (hName : ctx.qualified names = .ok s) :
    ctx.dialect.IsName s := by
  rcases map_eq_ok.mp hName with ⟨texts, hTexts, rfl⟩
  have hNames : names.filterMap id ≠ [] :=
    List.ne_nil_of_mem (List.mem_filterMap.mpr ⟨_, hMember, rfl⟩)
  have hEach := forall_of_mapM (P := ctx.dialect.IsName)
    (fun _ _ hText =>
      Dialect.name_of_identifier (mapError_eq_ok.mp hText)) hTexts
  exact Dialect.name_of_points (hEach.1 hNames) hEach.2

theorem name_of_label
    {label : Option String}
    {text : Option String}
    (hLabel : ctx.name? label = .ok text) :
    ∀ s ∈ text, ctx.dialect.IsName s := by
  intro s hSome
  unfold RenderContext.name? at hLabel
  split at hLabel
  next =>
    cases hLabel
    cases hSome
  next =>
    rcases map_eq_ok.mp hLabel with ⟨t, hName, rfl⟩
    cases hSome
    exact Dialect.name_of_identifier (mapError_eq_ok.mp hName)

------------------------------------------------------------
-- Leaves
------------------------------------------------------------

theorem inlined_column
    (name : String)
    (owner database : Option String) :
    (Node.column name owner database).Inlined ctx := by
  apply inlined_of_allowed
  intro depth indent hDeep hStill
  simp only [Node.render, hDeep, hStill, Bool.false_eq_true, if_false]
  apply Rendered.inlines_constant
  intro text hText s hSome
  rcases map_eq_ok.mp hText with ⟨t, hName, rfl⟩
  cases hSome
  have hMember : some name ∈ [database, owner, some name] := by simp
  exact (name_of_qualified hMember hName).toIsConstant

theorem inlined_literal
    (v : Value) :
    (Node.literal v).Inlined ctx := by
  apply inlined_of_allowed
  intro depth indent hDeep hStill
  simp only [Node.render, hDeep, hStill, Bool.false_eq_true, if_false]
  apply Rendered.inlines_constant
  intro text hText s hSome
  rcases map_eq_ok.mp hText with ⟨t, hLiteral, rfl⟩
  cases hSome
  exact Dialect.constant_of_literal v (mapError_eq_ok.mp hLiteral)

theorem inlined_parameter
    {name : String}
    (hInline : ctx.inline = true)
    (hName : IsBareName name)
    (hFills : ctx.bindings.fills name = true) :
    (Node.parameter name).Inlined ctx := by
  rcases value_of_fills hFills with ⟨v, hValue, hSome⟩
  apply inlined_of_allowed
  intro depth indent hDeep hStill
  simp only [Node.render, hDeep, hStill, Bool.false_eq_true, if_false,
    RenderContext.parameter, if_pos hInline, hValue]
  intro text hText
  rcases map_eq_ok.mp hText with ⟨s, hLiterals, rfl⟩
  exact ⟨_, rfl, .some (inlines_literals hName hValue hSome hLiterals)⟩

------------------------------------------------------------
-- Expressions
------------------------------------------------------------

theorem inlined_group
    {members : Slot Node}
    {delimiter : String}
    (brackets : Bool)
    (hDelimiter : delimiter = " " ∨ delimiter = ", ")
    (hMembers : members.Inlined ctx) :
    (Node.group members brackets delimiter).Inlined ctx := by
  have hGlue : ctx.dialect.IsGlue delimiter := by
    rcases hDelimiter with rfl | rfl
    · exact Dialect.glue_space
    · exact Dialect.glue_comma
  apply inlined_of_allowed
  intro depth indent hDeep hStill
  simp only [Node.render, hDeep, hStill, Bool.false_eq_true, if_false]
  exact (hMembers (depth + 1) indent delimiter hGlue).map
    (Inlines.enclose brackets)

theorem inlined_connective
    {operands : Slot Node}
    (op : ConnectiveOp)
    (hOperands : operands.Inlined ctx) :
    (Node.connective op operands).Inlined ctx := by
  apply inlined_of_allowed
  intro depth indent hDeep hStill
  simp only [Node.render, hDeep, hStill, Bool.false_eq_true, if_false]
  exact hOperands (depth + 1) indent _ (Dialect.glue_connective op)

theorem inlined_unary
    {operand : Slot Node}
    (op : UnaryOp)
    (hOperand : operand.Inlined ctx) :
    (Node.unary op operand).Inlined ctx := by
  apply inlined_of_allowed
  intro depth indent hDeep hStill
  simp only [Node.render, hDeep, hStill, Bool.false_eq_true, if_false]
  split
  · exact Rendered.inlines_error _
  · exact (hOperand (depth + 1) indent " " Dialect.glue_space).map
      (Inlines.unaryText op)

theorem inlined_between
    {operand low high : Slot Node}
    (hOperand : operand.Inlined ctx)
    (hLow : low.Inlined ctx)
    (hHigh : high.Inlined ctx) :
    (Node.between operand low high).Inlined ctx := by
  apply inlined_of_allowed
  intro depth indent hDeep hStill
  simp only [Node.render, hDeep, hStill, Bool.false_eq_true, if_false]
  split
  · exact Rendered.inlines_error _
  · exact (hOperand (depth + 1) indent " " Dialect.glue_space).range
      (hLow (depth + 1) indent " " Dialect.glue_space)
      (hHigh (depth + 1) indent " " Dialect.glue_space)

/- A text in the brackets of a list is inlined if the text is. -/
theorem inlines_grouped
    {r r' : Rendered}
    (depth : Nat)
    (hText : Rendered.Inlines ctx.dialect ctx.bindings r r') :
    Rendered.Inlines ctx.dialect ctx.bindings (ctx.grouped depth r)
      (ctx.prepared.grouped depth r') := by
  have hSame : ctx.prepared.isTooDeep depth = ctx.isTooDeep depth := rfl
  unfold RenderContext.grouped
  rw [hSame]
  split
  · exact Rendered.inlines_error _
  · exact hText.map (Inlines.enclose true)

theorem inlined_binary
    {left right : Slot Node}
    (op : BinaryOp)
    (hLeft : left.Inlined ctx)
    (hRight : right.Inlined ctx) :
    (Node.binary op left right).Inlined ctx := by
  have hOpen : ctx.prepared.isUnbound right = ctx.isUnbound right := rfl
  have hJudge : ctx.prepared.judgeList op right = ctx.judgeList op right :=
    rfl
  apply inlined_of_allowed
  intro depth indent hDeep hStill
  simp only [Node.render, hDeep, hStill, Bool.false_eq_true, if_false,
    hOpen]
  split
  · exact Rendered.inlines_error _
  · split
    · exact (hLeft (depth + 1) indent " " Dialect.glue_space).map
        Inlines.nullTest
    · have hList :
          Rendered.Inlines ctx.dialect ctx.bindings
            (if RenderContext.standsBare op right then
              ctx.grouped (depth + 1)
                (Node.renderSlot ctx (depth + 2) indent " " right)
            else Node.renderSlot ctx (depth + 1) indent " " right)
            (if RenderContext.standsBare op right then
              ctx.prepared.grouped (depth + 1)
                (Node.renderSlot ctx.prepared (depth + 2) indent " " right)
            else
              Node.renderSlot ctx.prepared (depth + 1) indent " " right) := by
        split
        · exact inlines_grouped (depth + 1)
            (hRight (depth + 2) indent " " Dialect.glue_space)
        · exact hRight (depth + 1) indent " " Dialect.glue_space
      have hOperands :=
        (hLeft (depth + 1) indent " " Dialect.glue_space).pair hList
          (Inlines.binaryText op)
      unfold RenderContext.unlessEmptyList
      rw [hJudge]
      split
      · split
        · exact Rendered.inlines_error _
        · apply Rendered.inlines_constant
          intro text hText s hSome
          cases hText
          cases hSome
          exact Dialect.constant_of_check (by cases ctx.dialect <;> decide)
        · exact hOperands
      · exact hOperands

theorem inlined_call
    {name : String}
    {args : List (Option Node)}
    (distinct : Bool)
    (hName : IsBareName name)
    (hArgs : Arguments.Inlined ctx args) :
    (Node.call name (.many args) distinct).Inlined ctx := by
  apply inlined_of_allowed
  intro depth indent hDeep hStill
  simp only [Node.render, hDeep, hStill, Bool.false_eq_true, if_false]
  intro text hText
  rcases map_eq_ok.mp hText with ⟨texts, hTexts, rfl⟩
  rcases hArgs (depth + 1) indent texts hTexts with
    ⟨texts', hPrepared, hRel⟩
  rw [hPrepared]
  refine ⟨_, rfl, ?_⟩
  cases hRel with
  | none => exact .none
  | some hForall => exact .some (.call distinct hName hForall)

theorem inlined_alias
    {node : Slot Node}
    (label : String)
    (hNode : node.Inlined ctx) :
    (Node.alias node label).Inlined ctx := by
  have hName : ctx.prepared.name label = ctx.name label := rfl
  apply inlined_of_allowed
  intro depth indent hDeep hStill
  simp only [Node.render, hDeep, hStill, Bool.false_eq_true, if_false,
    hName]
  split
  · exact Rendered.inlines_error _
  · have hLabel :
        Rendered.Inlines ctx.dialect ctx.bindings
          ((ctx.name label).map some) ((ctx.name label).map some) := by
      apply Rendered.inlines_constant
      intro text hText s hSome
      rcases map_eq_ok.mp hText with ⟨t, hIdentifier, rfl⟩
      cases hSome
      exact (Dialect.name_of_identifier
        (mapError_eq_ok.mp hIdentifier)).toIsConstant
    apply (hNode (depth + 1) indent " " Dialect.glue_space).pair hLabel
    intro s s' t t' hText hLabel
    exact hText.glued (Dialect.glue_of_check
      (by cases ctx.dialect <;> decide) (by cases ctx.dialect <;> decide))
      hLabel

theorem inlined_orderBy
    {node : Slot Node}
    (direction : Option String)
    (hDirection : ∀ word ∈ direction, word ∈ sortDirections)
    (hNode : node.Inlined ctx) :
    (Node.orderBy node direction).Inlined ctx := by
  apply inlined_of_allowed
  intro depth indent hDeep hStill
  simp only [Node.render, hDeep, hStill, Bool.false_eq_true, if_false]
  exact (hNode (depth + 1) indent " " Dialect.glue_space).map
    (Inlines.orderText direction hDirection)

theorem inlined_table
    {condition : Slot Node}
    {join : Option String}
    (name : String)
    (label database : Option String)
    (hJoin : ∀ words ∈ join, words ∈ joinKinds)
    (hCondition : condition.Inlined ctx) :
    (Node.table name label database join condition).Inlined ctx := by
  have hSameName :
      ctx.prepared.qualified [database, some name] =
        ctx.qualified [database, some name] := rfl
  have hSameLabel : ctx.prepared.name? label = ctx.name? label := rfl
  apply inlined_of_allowed
  intro depth indent hDeep hStill
  simp only [Node.render, hDeep, hStill, Bool.false_eq_true, if_false,
    hSameName, hSameLabel]
  intro text hText
  rcases bind_eq_ok.mp hText with ⟨nameText, hName, hRest⟩
  rcases bind_eq_ok.mp hRest with ⟨labelText, hLabel, hRest⟩
  rcases bind_eq_ok.mp hRest with ⟨conditionText, hConditionText, hTable⟩
  cases hTable
  rcases hCondition (depth + 1) indent " " Dialect.glue_space _
    hConditionText with ⟨conditionText', hPrepared, hRel⟩
  rw [hName, hLabel, hPrepared]
  have hMember : some name ∈ [database, some name] := by simp
  exact ⟨_, rfl, .some (.tableText join hJoin
    (name_of_qualified hMember hName) (name_of_label hLabel) hRel)⟩

------------------------------------------------------------
-- Queries
------------------------------------------------------------

/-
  A limit is written alike with and without placeholders, since
  its parameter is bound.
-/
theorem prepared_limit
    {slot : Slot Node}
    {depth : Nat}
    {indent : Int}
    {separator : String}
    {text : Option String}
    (hLimit : slot.IsLimit)
    (hFills : ctx.bindings.Fills (Node.slotParameters slot))
    (hRender :
      Node.renderSlot ctx depth indent separator slot = .ok text) :
    Node.renderSlot ctx.prepared depth indent separator slot = .ok text ∧
      (∀ s ∈ text, ctx.dialect.IsConstant s) ∧
        ctx.prepared.resolve slot text = text := by
  unfold Slot.IsLimit at hLimit
  split at hLimit
  next =>
    cases hRender
    exact ⟨rfl, nofun, rfl⟩
  next n =>
    refine ⟨hRender, ?_, ?_⟩
    · intro s hSome
      rw [Option.mem_def.mp hSome] at hRender
      rw [eq_textInt_of_renderSlot hRender]
      exact Dialect.constant_of_literal (.int n) rfl
    · cases text <;> rfl
  next name =>
    rcases value_of_fills (hFills name (List.mem_singleton_self name)) with
      ⟨v, hValue, hSome⟩
    have hPrepared : ctx.prepared.bindings.value? name = some v := hValue
    have hBound : ctx.prepared.bindings.isBound name = true := by
      rw [Bindings.isBound, hPrepared]
      rfl
    rw [Node.renderSlot] at hRender ⊢
    rcases map_eq_ok.mp hRender with ⟨nodeText, hText, rfl⟩
    have hDeep := not_tooDeep_of_render hText
    have hStill : ctx.prepared.isTooDeep depth = false := hDeep
    simp only [Node.render, hDeep, Bool.false_eq_true, if_false,
      RenderContext.numeral, hValue] at hText
    simp only [Node.render, hStill, Bool.false_eq_true, if_false,
      RenderContext.numeral, hPrepared]
    rcases map_eq_ok.mp hText with ⟨t, hNumerals, rfl⟩
    rw [hNumerals]
    refine ⟨rfl, ?_, ?_⟩
    · intro s hPresent
      cases (eq_some_of_present hPresent).1
      exact constant_of_numerals hSome hNumerals
    · generalize (some t).bind present = text
      cases text with
      | none => rfl
      | some s =>
          simp only [RenderContext.resolve, hBound, if_true]
          rfl
  next => exact hLimit.elim

/- A query is inlined wherever it is written. -/
def Query.Inlined
    (ctx : RenderContext)
    (query : Query Node) : Prop :=
  ∀ (depth : Nat) (indent : Int) (s : String),
    Node.renderQuery ctx depth indent query = .ok s →
      ∃ s', Node.renderQuery ctx.prepared depth indent query = .ok s' ∧
        Inlines ctx.dialect ctx.bindings s s'

/- The last line of a query is constant if its numbers are. -/
theorem constant_of_limitLine
    {limit offset line : Option String}
    (hLimit : ∀ s ∈ limit, ctx.dialect.IsConstant s)
    (hOffset : ∀ s ∈ offset, ctx.dialect.IsConstant s)
    (hLine : ctx.limitLine limit offset = .ok line) :
    ∀ s ∈ line, ctx.dialect.IsConstant s := by
  unfold RenderContext.limitLine at hLine
  split at hLine
  next =>
    cases hLine
    rintro s ⟨⟩
    exact constant_limitLine (hLimit _ rfl) hOffset
  next => cases hLine
  next =>
    cases hLine
    exact nofun

theorem inlined_query
    {query : Query Node}
    (hInline : ctx.inline = true)
    (hColumns : query.columns.Inlined ctx)
    (hSource : query.source.Inlined ctx)
    (hFilter : query.filter.Inlined ctx)
    (hGroups : query.groups.Inlined ctx)
    (hHaving : query.having.Inlined ctx)
    (hOrder : query.order.Inlined ctx)
    (hLimit : query.limit.IsLimit)
    (hLimitFills :
      ctx.bindings.Fills (Node.slotParameters query.limit))
    (hOffset : query.offset.IsLimit)
    (hOffsetFills :
      ctx.bindings.Fills (Node.slotParameters query.offset))
    (hOptions : query.options = []) :
    query.Inlined ctx := by
  intro depth indent s hRender
  rcases renderQuery_eq_ok.mp hRender with
    ⟨hAlone, texts, line, hTexts, hLine, rfl⟩
  have hSpace := Dialect.glue_space (d := ctx.dialect)
  have hComma := Dialect.glue_comma (d := ctx.dialect)
  rcases hColumns _ _ _ hComma _ hTexts.columns with
    ⟨columns, hColumns, hColumnsRel⟩
  rcases hSource _ _ _ hSpace _ hTexts.source with
    ⟨source, hSource, hSourceRel⟩
  rcases hFilter _ _ _ hSpace _ hTexts.filter with
    ⟨filter, hFilter, hFilterRel⟩
  rcases hGroups _ _ _ hComma _ hTexts.groups with
    ⟨groups, hGroups, hGroupsRel⟩
  rcases hHaving _ _ _ hSpace _ hTexts.having with
    ⟨having, hHaving, hHavingRel⟩
  rcases hOrder _ _ _ hComma _ hTexts.order with
    ⟨order, hOrder, hOrderRel⟩
  have hLimitDigit :=
    startsWithDigit_of_limit hInline hLimit hTexts.limit
  have hOffsetDigit :=
    startsWithDigit_of_limit hInline hOffset hTexts.offset
  rcases prepared_limit hLimit hLimitFills hTexts.limit with
    ⟨hLimit, hLimitConstant, hLimitResolved⟩
  rcases prepared_limit hOffset hOffsetFills hTexts.offset with
    ⟨hOffset, hOffsetConstant, hOffsetResolved⟩
  rw [resolve_eq _ hInline hLimitDigit,
    resolve_eq _ hInline hOffsetDigit] at hLine
  have hConstant : ∀ s ∈ line, ctx.dialect.IsConstant s :=
    constant_of_limitLine hLimitConstant hOffsetConstant hLine
  let texts' : QueryTexts := ⟨columns, source, filter, groups, having,
    order, texts.limit, texts.offset⟩
  refine ⟨query.written indent texts' line, ?_, ?_⟩
  · apply renderQuery_eq_ok.mpr
    refine ⟨hAlone, texts', line, ⟨hColumns, hSource, hFilter, hGroups,
      hHaving, hOrder, hLimit, hOffset⟩, ?_, rfl⟩
    rw [hLimitResolved, hOffsetResolved]
    exact hLine
  · exact inlines_written indent hOptions ⟨hColumnsRel, hSourceRel,
      hFilterRel, hGroupsRel, hHavingRel, hOrderRel⟩ hConstant

theorem inlined_select
    {query : Query Node}
    (hQuery : query.Inlined ctx) :
    (Node.select query).Inlined ctx := by
  apply inlined_of_allowed
  intro depth indent hDeep hStill
  simp only [Node.render, hDeep, hStill, Bool.false_eq_true, if_false]
  intro text hText
  rcases map_eq_ok.mp hText with ⟨s, hWritten, rfl⟩
  rcases hQuery depth indent s hWritten with ⟨s', hPrepared, hSame⟩
  rw [hPrepared]
  exact ⟨_, rfl, .some hSame⟩

theorem inlined_subquery
    {slot : Slot Node}
    (label : Option String)
    (hSlot : slot.Inlined ctx) :
    (Node.subquery slot label).Inlined ctx := by
  have hSameLabel : ctx.prepared.name? label = ctx.name? label := rfl
  apply inlined_of_allowed
  intro depth indent hDeep hStill text hText
  cases slot with
  | vacant | many =>
      simp only [Node.render, hDeep, Bool.false_eq_true, if_false] at hText
      cases hText
  | one n =>
      cases n with
      | select query =>
          simp only [Node.render, hDeep, Bool.false_eq_true, if_false]
            at hText
          rcases bind_eq_ok.mp hText with ⟨s, hQuery, hRest⟩
          rcases bind_eq_ok.mp hRest with ⟨labelText, hLabel, hSubquery⟩
          cases hSubquery
          have hNotEmpty := renderQuery_ne_empty hQuery
          rcases hSlot depth (indent + indentWidth) " " Dialect.glue_space _
            ((renderSlot_select hDeep hNotEmpty).mpr hQuery) with
            ⟨text', hPrepared, hRel⟩
          cases hRel with
          | some hSame =>
              have hQuery := (renderSlot_select hStill
                hSame.prepared.present).mp hPrepared
              simp only [Node.render, hStill, Bool.false_eq_true, if_false,
                hQuery, hSameLabel, hLabel]
              exact ⟨_, rfl,
                .some (.subqueryText (name_of_label hLabel) hSame)⟩
      | _ =>
          simp only [Node.render, hDeep, Bool.false_eq_true, if_false]
            at hText
          cases hText

------------------------------------------------------------
-- Trees
------------------------------------------------------------

theorem inlined_call_of_slot
    {args : Slot Node}
    (name : String)
    (distinct : Bool)
    (hSlot : ∀ items, args ≠ .many items) :
    (Node.call name args distinct).Inlined ctx := by
  apply inlined_of_allowed
  intro depth indent hDeep hStill
  cases args with
  | many items => exact absurd rfl (hSlot items)
  | vacant | one =>
      simp only [Node.render, hDeep, Bool.false_eq_true, if_false]
      exact Rendered.inlines_error _

mutual

/-
  A tree as templates are parsed to is inlined if its functions
  are called by words and its parameters have values.
-/
theorem Node.inlined
    (hInline : ctx.inline = true) :
    ∀ n : Node, n.Shaped → n.Everywhere Node.CallsPlainly →
      ctx.bindings.Fills n.parameterList → n.Inlined ctx
| .column name owner database, _, _, _ =>
    inlined_column name owner database
| .literal v, _, _, _ => inlined_literal v
| .raw _, hShaped, _, _ => hShaped.elim
| .parameter name, hShaped, _, hFills =>
    inlined_parameter hInline hShaped
      (hFills name (List.mem_singleton_self name))
| .numeral _, hShaped, _, _ => hShaped.elim
| .group members brackets _, hShaped, hCalls, hFills =>
    inlined_group brackets hShaped.1
      (members.inlined hInline hShaped.2 hCalls.2 hFills)
| .binary op left right, hShaped, hCalls, hFills =>
    have hBoth := fills_append.mp hFills
    inlined_binary op (left.inlined hInline hShaped.1 hCalls.2.1 hBoth.1)
      (right.inlined hInline hShaped.2 hCalls.2.2 hBoth.2)
| .connective op operands, hShaped, hCalls, hFills =>
    inlined_connective op (operands.inlined hInline hShaped hCalls.2 hFills)
| .unary op operand, hShaped, hCalls, hFills =>
    inlined_unary op (operand.inlined hInline hShaped hCalls.2 hFills)
| .between operand low high, hShaped, hCalls, hFills =>
    have hAll := fills_append.mp hFills
    have hBoth := fills_append.mp hAll.1
    inlined_between (operand.inlined hInline hShaped.1 hCalls.2.1 hBoth.1)
      (low.inlined hInline hShaped.2.1 hCalls.2.2.1 hBoth.2)
      (high.inlined hInline hShaped.2.2 hCalls.2.2.2 hAll.2)
| .call _ (.many args) distinct, hShaped, hCalls, hFills =>
    inlined_call distinct hCalls.1
      (Arguments.inlined hInline args hShaped hCalls.2 hFills)
| .call name .vacant distinct, _, _, _ =>
    inlined_call_of_slot name distinct nofun
| .call name (.one _) distinct, _, _, _ =>
    inlined_call_of_slot name distinct nofun
| .alias node label, hShaped, hCalls, hFills =>
    inlined_alias label (node.inlined hInline hShaped hCalls.2 hFills)
| .orderBy node direction, hShaped, hCalls, hFills =>
    inlined_orderBy direction hShaped.1
      (node.inlined hInline hShaped.2 hCalls.2 hFills)
| .table name label database _ condition, hShaped, hCalls, hFills =>
    inlined_table name label database hShaped.1
      (condition.inlined hInline hShaped.2 hCalls.2 hFills)
| .select query, hShaped, hCalls, hFills =>
    inlined_select (query.inlined hInline hShaped hCalls.2 hFills)
| .subquery slot label, hShaped, hCalls, hFills =>
    inlined_subquery label (slot.inlined hInline hShaped hCalls.2 hFills)
| .foreign _, hShaped, _, _ => hShaped.elim
termination_by structural n => n

theorem Slot.inlined
    (hInline : ctx.inline = true) :
    ∀ slot : Slot Node, slot.Shaped → slot.Everywhere Node.CallsPlainly →
      ctx.bindings.Fills (Node.slotParameters slot) → slot.Inlined ctx
| .vacant, _, _, _ => inlined_vacant
| .one n, hShaped, hCalls, hFills =>
    inlined_one (n.inlined hInline hShaped hCalls hFills)
| .many members, hShaped, hCalls, hFills =>
    inlined_many (Members.inlined hInline members hShaped hCalls hFills)
termination_by structural slot => slot

theorem Members.inlined
    (hInline : ctx.inline = true) :
    ∀ members : List (Option Node), Members.Shaped members →
      Members.Everywhere Node.CallsPlainly members →
        ctx.bindings.Fills (Node.listParameters members) →
          Members.Inlined ctx members
| [], _, _, _ => inlined_nil
| none :: members, hShaped, hCalls, hFills =>
    Members.inlined hInline members hShaped hCalls hFills
| some n :: members, hShaped, hCalls, hFills =>
    have hBoth := fills_append.mp hFills
    inlined_cons (n.inlined hInline hShaped.1 hCalls.1 hBoth.1)
      (Members.inlined hInline members hShaped.2 hCalls.2 hBoth.2)
termination_by structural members => members

theorem Arguments.inlined
    (hInline : ctx.inline = true) :
    ∀ args : List (Option Node), Members.Shaped args →
      Members.Everywhere Node.CallsPlainly args →
        ctx.bindings.Fills (Node.listParameters args) →
          Arguments.Inlined ctx args
| [], _, _, _ => inlinedArgs_nil
| none :: args, _, _, _ => inlinedArgs_none args
| some n :: args, hShaped, hCalls, hFills =>
    have hBoth := fills_append.mp hFills
    inlinedArgs_cons (n.inlined hInline hShaped.1 hCalls.1 hBoth.1)
      (Arguments.inlined hInline args hShaped.2 hCalls.2 hBoth.2)
termination_by structural args => args

theorem Query.inlined
    (hInline : ctx.inline = true) :
    ∀ query : Query Node, query.Shaped →
      query.Everywhere Node.CallsPlainly →
        ctx.bindings.Fills (Node.queryParameters query) →
          query.Inlined ctx
| ⟨columns, source, filter, groups, having, order, _, _, _, _⟩,
    hShaped, hCalls, hFills => by
    rcases hShaped with ⟨hColumns, hSource, hFilter, hGroups, hHaving,
      hOrder, hLimit, hOffset, hOptions⟩
    rcases hCalls with ⟨hColumnCalls, hSourceCalls, hFilterCalls,
      hGroupCalls, hHavingCalls, hOrderCalls, _, _⟩
    simp only [Node.queryParameters, fills_append] at hFills
    rcases hFills with ⟨⟨⟨⟨⟨⟨⟨hColumnFills, hSourceFills⟩, hFilterFills⟩,
      hGroupFills⟩, hHavingFills⟩, hOrderFills⟩, hLimitFills⟩, hOffsetFills⟩
    exact inlined_query hInline
      (columns.inlined hInline hColumns hColumnCalls hColumnFills)
      (source.inlined hInline hSource hSourceCalls hSourceFills)
      (filter.inlined hInline hFilter hFilterCalls hFilterFills)
      (groups.inlined hInline hGroups hGroupCalls hGroupFills)
      (having.inlined hInline hHaving hHavingCalls hHavingFills)
      (order.inlined hInline hOrder hOrderCalls hOrderFills)
      hLimit hLimitFills hOffset hOffsetFills hOptions
termination_by structural query => query

end

------------------------------------------------------------
-- Templates
------------------------------------------------------------

/-
  A template whose functions are called by words and whose
  parameters have values can be prepared if it can be built.
  Its text with values has the tokens of the prepared text,
  with each placeholder replaced by the tokens of its value,
  and no comment is opened in it.
-/
theorem inlining_agrees_with_binding
    {d : Dialect}
    {b : Bindings}
    {maxDepth : Int}
    {sql text : String}
    {tree : Node}
    (hParse : parse sql = .ok tree)
    (hCalls : tree.Everywhere Node.CallsPlainly)
    (hFills : b.Fills tree.parameterList)
    (hBuild : build d b maxDepth sql = .ok text) :
    ∃ prepared, prepare d b maxDepth sql = .ok prepared ∧
      d.lexemes text =
          (d.lexemes prepared.text).flatMap (Lexeme.bound d b) ∧
        ∀ lexeme ∈ d.lexemes text, lexeme.isComment = false := by
  rcases renderTemplate_eq_ok.mp hBuild with ⟨tree', hTree, hRender⟩
  cases hParse.symm.trans hTree
  rcases map_eq_ok.mp hRender with ⟨slotText, hSlot, rfl⟩
  have hNode : tree.Inlined ⟨d, b, true, maxDepth⟩ :=
    tree.inlined rfl (shaped_of_parse hParse) hCalls hFills
  rcases inlined_one hNode 1 0 " " Dialect.glue_space slotText hSlot with
    ⟨slotText', hPrepared, hRel⟩
  have hText :
      RenderContext.render ⟨d, b, false, maxDepth⟩ tree =
        .ok (slotText'.getD "") :=
    map_eq_ok.mpr ⟨slotText', hPrepared, rfl⟩
  refine ⟨_, prepare_eq_ok hParse hText, ?_⟩
  cases hRel with
  | none => exact ⟨rfl, nofun⟩
  | some hSame => exact ⟨hSame.same, hSame.uncommented⟩

/- Text that would end its literal, and a number with a sign. -/
def quoteBindings : Bindings :=
  .ofList [("x", .text "' -- "), ("y", .int (-5))]

/- A condition on a string and a number with two signs. -/
def quoteTemplate : String :=
  "SELECT F(a) FROM t WHERE a = :x AND b < -:y"

theorem inlining_agrees_with_binding_of_quote :
    ∃ prepared, prepare .mysql quoteBindings 100 quoteTemplate =
        .ok prepared ∧
      Dialect.mysql.lexemes
          "SELECT F(a)\nFROM t\nWHERE a = ''' -- ' AND b < - -5" =
        (Dialect.mysql.lexemes prepared.text).flatMap
          (Lexeme.bound .mysql quoteBindings) := by
  have hCheck :
      parsesTo quoteTemplate (fun tree =>
        tree.Everywhere Node.CallsPlainly ∧
          quoteBindings.Fills tree.parameterList) = true := by
    decide +kernel
  have hText :
      (build .mysql quoteBindings 100 quoteTemplate).toOption =
        some "SELECT F(a)\nFROM t\nWHERE a = ''' -- ' AND b < - -5" := by
    decide +kernel
  rcases exists_of_parse hCheck with ⟨tree, hParse, hCalls, hFills⟩
  rcases inlining_agrees_with_binding hParse hCalls hFills
    (eq_ok_of_toOption hText) with ⟨prepared, hPrepared, hSame, _⟩
  exact ⟨prepared, hPrepared, hSame⟩

end SqlTemplate
