import SqlTemplate.Proofs.Grammar.Shape
import SqlTemplate.Proofs.Pruning.Operators
import SqlTemplate.Proofs.Template

/-
  Pruning is what rendering does to a statement.  The text of a
  template is the text of the pruned tree, and the pruned tree
  has no parameter left that is without a value.

  Correctness is proven by:
    * `prunes_table`
    * `prunes_call`
    * `prunes_query`
    * `Node.prunes`
    * `rendering_is_pruning`
-/

------------------------------------------------------------
-- Slots
------------------------------------------------------------

namespace SqlTemplate

variable {ctx : RenderContext}

/- A list agrees with what is left of it wherever it is written. -/
def Members.Prunes
    (ctx : RenderContext)
    (members : List (Option Node)) : Prop :=
  ∀ (depth : Nat) (indent : Int) (texts : List String),
    Node.renderMembers ctx depth indent members = .ok texts →
      Members.Agrees ctx indent texts
        (Node.prunedMembers ctx.bindings members)

theorem agrees_vacant
    (indent : Int)
    (separator : String) :
    Slot.Agrees ctx indent separator none .vacant where
  vacant := rfl
  present := nofun
  written := fun _ => Filter.Eventually.of_forall fun _ => rfl

theorem prunes_vacant : (Slot.vacant : Slot Node).Prunes ctx := by
  intro depth indent separator text hRender
  cases hRender
  exact agrees_vacant indent separator

theorem prunes_one
    {n : Node}
    (hNode : n.Prunes ctx) :
    (Slot.one n).Prunes ctx := by
  intro depth indent separator text hRender
  rw [Node.renderSlot] at hRender
  rcases map_eq_ok.mp hRender with ⟨nodeText, hText, rfl⟩
  have hAgrees := hNode _ _ _ hText
  rw [Node.prunedSlot]
  cases hPruned : n.pruned ctx.bindings with
  | none =>
      rw [hPruned] at hAgrees
      rw [show nodeText.bind present = none from hAgrees]
      exact agrees_vacant indent separator
  | some n' =>
      rw [hPruned] at hAgrees
      rcases hAgrees with ⟨s, rfl, hPresent, hWritten⟩
      have hKept : (some s).bind present = some s :=
        present_of_ne_empty hPresent
      rw [hKept]
      refine ⟨rfl, ?_, ?_⟩
      · intro t hSome
        cases hSome
        exact hPresent
      · intro depth
        filter_upwards [hWritten depth] with maxDepth hNode
        rw [Slot.ofOption, Node.renderSlot, hNode]
        exact map_eq_ok.mpr ⟨_, rfl, hKept⟩

theorem prunes_many
    {members : List (Option Node)}
    (hMembers : Members.Prunes ctx members) :
    (Slot.many members).Prunes ctx := by
  intro depth indent separator text hRender
  rw [Node.renderSlot] at hRender
  rcases map_eq_ok.mp hRender with ⟨texts, hTexts, rfl⟩
  have hAgrees := hMembers _ _ _ hTexts
  rw [Node.prunedSlot]
  generalize Node.prunedMembers ctx.bindings members = ns at hAgrees
  cases texts with
  | nil =>
      rw [List.isEmpty_iff.mp hAgrees.empty]
      exact agrees_vacant indent separator
  | cons s texts =>
      cases ns with
      | nil => cases hAgrees.empty
      | cons n ns =>
          refine ⟨rfl, ?_, ?_⟩
          · intro t hSome
            cases hSome
            exact intercalate_ne_empty _ (List.cons_ne_nil _ _)
              hAgrees.present
          · intro depth
            filter_upwards [hAgrees.written depth] with maxDepth hWritten
            change (Node.renderMembers (ctx.withDepth maxDepth) depth indent
              ((n :: ns).map some)).map (joined separator) = _
            rw [hWritten]
            rfl

theorem prunes_nil : Members.Prunes ctx [] := by
  intro depth indent texts hRender
  cases hRender
  exact ⟨rfl, nofun, fun _ => Filter.Eventually.of_forall fun _ => rfl⟩

theorem prunes_cons
    {n : Node}
    {members : List (Option Node)}
    (hNode : n.Prunes ctx)
    (hMembers : Members.Prunes ctx members) :
    Members.Prunes ctx (some n :: members) := by
  intro depth indent texts hRender
  rcases renderMembers_some_eq_ok.mp hRender with
    ⟨text, others, hText, hOthers, rfl⟩
  have hFirst := hNode _ _ _ hText
  have hAgrees := hMembers _ _ _ hOthers
  rw [Node.prunedMembers]
  cases hPruned : n.pruned ctx.bindings with
  | none =>
      rw [hPruned] at hFirst
      rw [show text.bind present = none from hFirst]
      exact hAgrees
  | some n' =>
      rw [hPruned] at hFirst
      rcases hFirst with ⟨s, rfl, hPresent, hWritten⟩
      have hKept : (some s).bind present = some s :=
        present_of_ne_empty hPresent
      rw [hKept]
      refine ⟨rfl, ?_, ?_⟩
      · intro t hMember
        rcases List.mem_cons.mp hMember with rfl | hOther
        · exact hPresent
        · exact hAgrees.present t hOther
      · intro depth
        filter_upwards [hWritten depth, hAgrees.written depth]
          with maxDepth hNode hRest
        simp only [Option.toList, List.cons_append, List.nil_append,
          List.map_cons, Node.renderMembers]
        rw [hNode, hRest]
        exact congrArg (fun text => Except.ok (text.toList ++ others)) hKept

------------------------------------------------------------
-- Function Calls
------------------------------------------------------------

/- What is left of arguments is written as they were. -/
def Arguments.Agrees
    (ctx : RenderContext)
    (indent : Int) :
    Option (List String) → Option (List Node) → Prop
| none, none => True
| some texts, some args =>
    ∀ depth, ∀ᶠ maxDepth in Filter.atTop,
      Node.renderArgs (ctx.withDepth maxDepth) depth indent
        (args.map some) = .ok (some texts)
| _, _ => False

/- Arguments agree with what is left of them. -/
def Arguments.Prunes
    (ctx : RenderContext)
    (args : List (Option Node)) : Prop :=
  ∀ (depth : Nat) (indent : Int) (texts : Option (List String)),
    Node.renderArgs ctx depth indent args = .ok texts →
      Arguments.Agrees ctx indent texts (Node.prunedArgs ctx.bindings args)

theorem prunesArgs_nil : Arguments.Prunes ctx [] := by
  intro depth indent texts hRender
  cases hRender
  exact fun _ => Filter.Eventually.of_forall fun _ => rfl

theorem prunesArgs_none
    (args : List (Option Node)) :
    Arguments.Prunes ctx (none :: args) := by
  intro depth indent texts hRender
  cases hRender
  trivial

theorem prunesArgs_cons
    {n : Node}
    {args : List (Option Node)}
    (hNode : n.Prunes ctx)
    (hArgs : Arguments.Prunes ctx args) :
    Arguments.Prunes ctx (some n :: args) := by
  intro depth indent texts hRender
  rw [Node.renderArgs] at hRender
  rcases bind_eq_ok.mp hRender with ⟨text, hText, hRest⟩
  have hFirst := hNode _ _ _ hText
  rw [Node.prunedArgs]
  cases hPruned : n.pruned ctx.bindings with
  | none =>
      rw [hPruned] at hFirst
      rw [show text.bind present = none from hFirst] at hRest
      cases hRest
      trivial
  | some n' =>
      rw [hPruned] at hFirst
      rcases hFirst with ⟨s, rfl, hPresent, hWritten⟩
      have hKept : (some s).bind present = some s :=
        present_of_ne_empty hPresent
      rw [hKept] at hRest
      rcases bind_eq_ok.mp hRest with ⟨others, hOthers, hTexts⟩
      cases hTexts
      have hAgrees := hArgs _ _ _ hOthers
      change Arguments.Agrees ctx indent (others.map (s :: ·))
        ((Node.prunedArgs ctx.bindings args).bind fun args =>
          some (n' :: args))
      generalize Node.prunedArgs ctx.bindings args = left at hAgrees
      cases others with
      | none =>
          cases left with
          | none => trivial
          | some args => exact hAgrees.elim
      | some others =>
          cases left with
          | none => exact hAgrees.elim
          | some args =>
              intro depth
              filter_upwards [hWritten depth, hAgrees depth]
                with maxDepth hNode hRest
              rw [List.map_cons, Node.renderArgs, hNode]
              refine bind_eq_ok.mpr ⟨_, rfl, ?_⟩
              rw [hKept]
              exact bind_eq_ok.mpr ⟨_, hRest, rfl⟩

theorem prunes_call
    {args : List (Option Node)}
    (name : String)
    (distinct : Bool)
    (hArgs : Arguments.Prunes ctx args) :
    (Node.call name (.many args) distinct).Prunes ctx := by
  intro depth indent text hRender
  have hDeep := not_tooDeep_of_render hRender
  simp only [Node.render, hDeep, Bool.false_eq_true, if_false] at hRender
  rcases map_eq_ok.mp hRender with ⟨texts, hTexts, rfl⟩
  have hAgrees := hArgs _ _ _ hTexts
  rw [Node.pruned]
  generalize Node.prunedArgs ctx.bindings args = left at hAgrees
  cases texts with
  | none =>
      cases left with
      | none => rfl
      | some args => exact hAgrees.elim
  | some texts =>
      cases left with
      | none => exact hAgrees.elim
      | some args =>
          apply agrees_of_written (callText_ne_empty name texts distinct)
          intro depth
          filter_upwards [hAgrees (depth + 1)] with maxDepth hWritten hDeep
          simp only [Slot.ofList, Node.render, hDeep, Bool.false_eq_true,
            if_false, hWritten]
          rfl

/- Arguments that are not listed are never written. -/
theorem prunes_call_of_slot
    {args : Slot Node}
    (name : String)
    (distinct : Bool)
    (hSlot : ∀ items, args ≠ .many items) :
    (Node.call name args distinct).Prunes ctx := by
  intro depth indent text hRender
  have hDeep := not_tooDeep_of_render hRender
  cases args with
  | many items => exact absurd rfl (hSlot items)
  | vacant =>
      simp only [Node.render, hDeep, Bool.false_eq_true, if_false] at hRender
      cases hRender
  | one n =>
      simp only [Node.render, hDeep, Bool.false_eq_true, if_false] at hRender
      cases hRender

------------------------------------------------------------
-- Tables
------------------------------------------------------------

theorem prunes_table
    {condition : Slot Node}
    (name : String)
    (label database join : Option String)
    (hCondition : condition.Prunes ctx) :
    (Node.table name label database join condition).Prunes ctx := by
  intro depth indent text hRender
  have hDeep := not_tooDeep_of_render hRender
  simp only [Node.render, hDeep, Bool.false_eq_true, if_false] at hRender
  rcases bind_eq_ok.mp hRender with ⟨nameText, hName, hRest⟩
  rcases bind_eq_ok.mp hRest with ⟨labelText, hLabel, hRest⟩
  rcases bind_eq_ok.mp hRest with ⟨conditionText, hText, hTable⟩
  cases hTable
  have hAgrees := hCondition _ _ _ _ hText
  have hMember : some name ∈ [database, some name] := by simp
  have hNotEmpty := RenderContext.qualified_ne_empty hMember hName
  rw [Node.pruned]
  apply agrees_of_written (tableText_ne_empty _ _ _ hNotEmpty)
  intro depth
  filter_upwards [hAgrees.written (depth + 1)] with maxDepth hWritten hDeep
  simp only [Node.render, hDeep, Bool.false_eq_true, if_false]
  have hSameName :
      (ctx.withDepth maxDepth).qualified [database, some name] =
        .ok nameText := hName
  have hSameLabel :
      (ctx.withDepth maxDepth).name? label = .ok labelText := hLabel
  rw [hSameName, hSameLabel, hWritten]
  rfl

------------------------------------------------------------
-- Limits
------------------------------------------------------------

theorem prunes_limit
    {slot : Slot Node}
    (hInline : ctx.inline = true)
    (hLimit : slot.IsLimit) :
    slot.Prunes ctx := by
  unfold Slot.IsLimit at hLimit
  split at hLimit
  next => exact prunes_vacant
  next n => exact prunes_one (prunes_literal (.int n))
  next name => exact prunes_one (prunes_numeral name hInline)
  next => exact hLimit.elim

------------------------------------------------------------
-- Queries
------------------------------------------------------------

/- A query agrees with what is left of it wherever it is written. -/
def Query.Prunes
    (ctx : RenderContext)
    (query : Query Node) : Prop :=
  ∀ (depth : Nat) (indent : Int) (s : String),
    Node.renderQuery ctx depth indent query = .ok s →
      ∀ depth, ∀ᶠ maxDepth in Filter.atTop,
        Node.renderQuery (ctx.withDepth maxDepth) depth indent
          (Node.prunedQuery ctx.bindings query) = .ok s

/- An offset that is left has a limit that is left. -/
theorem offset_not_alone
    {depth : Nat}
    {indent : Int}
    {query : Query Node}
    {texts : QueryTexts}
    {line : Option String}
    (hInline : ctx.inline = true)
    (hLimit : query.limit.IsLimit)
    (hOffset : query.offset.IsLimit)
    (hTexts : query.HasTexts ctx depth indent texts)
    (hLine :
      ctx.limitLine (ctx.resolve query.limit texts.limit)
        (ctx.resolve query.offset texts.offset) = .ok line) :
    ctx.limitLine texts.limit texts.offset = .ok line ∧
      (texts.limit.isNone && !texts.offset.isNone) = false := by
  rw [resolve_eq _ hInline
      (startsWithDigit_of_limit hInline hLimit hTexts.limit),
    resolve_eq _ hInline
      (startsWithDigit_of_limit hInline hOffset hTexts.offset)] at hLine
  refine ⟨hLine, ?_⟩
  cases hFirst : texts.limit with
  | some limit => rfl
  | none =>
      rw [hFirst] at hLine
      cases hSecond : texts.offset with
      | none => rfl
      | some offset =>
          rw [hSecond] at hLine
          cases hLine

theorem prunes_query
    {query : Query Node}
    (hInline : ctx.inline = true)
    (hColumns : query.columns.Prunes ctx)
    (hSource : query.source.Prunes ctx)
    (hFilter : query.filter.Prunes ctx)
    (hGroups : query.groups.Prunes ctx)
    (hHaving : query.having.Prunes ctx)
    (hOrder : query.order.Prunes ctx)
    (hLimit : query.limit.IsLimit)
    (hOffset : query.offset.IsLimit) :
    query.Prunes ctx := by
  intro depth indent s hRender
  rcases renderQuery_eq_ok.mp hRender with
    ⟨_, texts, line, hTexts, hLine, rfl⟩
  rcases offset_not_alone hInline hLimit hOffset hTexts hLine with
    ⟨hKeptLine, hAlone⟩
  have hLimitLeft :=
    prunes_limit hInline hLimit _ _ _ _ hTexts.limit
  have hOffsetLeft :=
    prunes_limit hInline hOffset _ _ _ _ hTexts.offset
  have hLimitDigit :=
    startsWithDigit_of_limit hInline hLimit hTexts.limit
  have hOffsetDigit :=
    startsWithDigit_of_limit hInline hOffset hTexts.offset
  intro depth
  filter_upwards [(hColumns _ _ _ _ hTexts.columns).written (depth + 1),
    (hSource _ _ _ _ hTexts.source).written (depth + 1),
    (hFilter _ _ _ _ hTexts.filter).written (depth + 1),
    (hGroups _ _ _ _ hTexts.groups).written (depth + 1),
    (hHaving _ _ _ _ hTexts.having).written (depth + 1),
    (hOrder _ _ _ _ hTexts.order).written (depth + 1),
    hLimitLeft.written (depth + 1), hOffsetLeft.written (depth + 1)]
    with maxDepth hColumns hSource hFilter hGroups hHaving hOrder hLimit
      hOffset
  rcases query with ⟨columns, source, filter, groups, having, order,
    limit, offset, distinct, options⟩
  apply renderQuery_eq_ok.mpr
  constructor
  · change ((Node.prunedSlot ctx.bindings limit).isVacant &&
      !(Node.prunedSlot ctx.bindings offset).isVacant) = false
    rw [hLimitLeft.vacant, hOffsetLeft.vacant]
    exact hAlone
  · refine ⟨texts, line, ⟨hColumns, hSource, hFilter, hGroups, hHaving,
      hOrder, hLimit, hOffset⟩, ?_, rfl⟩
    have hStillInline : (ctx.withDepth maxDepth).inline = true := hInline
    rw [resolve_eq _ hStillInline hLimitDigit,
      resolve_eq _ hStillInline hOffsetDigit]
    exact hKeptLine

theorem prunes_select
    {query : Query Node}
    (hQuery : query.Prunes ctx) :
    (Node.select query).Prunes ctx := by
  intro depth indent text hRender
  have hDeep := not_tooDeep_of_render hRender
  simp only [Node.render, hDeep, Bool.false_eq_true, if_false] at hRender
  rcases map_eq_ok.mp hRender with ⟨s, hText, rfl⟩
  have hWritten := hQuery _ _ _ hText
  rw [Node.pruned]
  apply agrees_of_written (renderQuery_ne_empty hText)
  intro depth
  filter_upwards [hWritten depth] with maxDepth hWritten hDeep
  simp only [Node.render, hDeep, Bool.false_eq_true, if_false, hWritten]
  rfl

theorem subqueryText_ne_empty
    (query : String)
    (label : Option String) :
    subqueryText query label ≠ "" := by
  unfold subqueryText
  exact append_ne_empty_left _ (append_ne_empty_right _ (by decide))

theorem prunes_subquery
    {slot : Slot Node}
    (label : Option String)
    (hSlot : slot.Prunes ctx) :
    (Node.subquery slot label).Prunes ctx := by
  intro depth indent text hRender
  have hDeep := not_tooDeep_of_render hRender
  cases slot with
  | vacant | many =>
      simp only [Node.render, hDeep, Bool.false_eq_true, if_false] at hRender
      cases hRender
  | one n =>
      cases n with
      | select query =>
          simp only [Node.render, hDeep, Bool.false_eq_true, if_false]
            at hRender
          rcases bind_eq_ok.mp hRender with ⟨s, hText, hRest⟩
          rcases bind_eq_ok.mp hRest with ⟨labelText, hLabel, hSubquery⟩
          cases hSubquery
          have hNotEmpty := renderQuery_ne_empty hText
          have hAgrees := hSlot _ _ " " _
            ((renderSlot_select hDeep hNotEmpty).mpr hText)
          rw [Node.pruned]
          apply agrees_of_written (subqueryText_ne_empty _ _)
          intro depth
          filter_upwards [hAgrees.written depth] with maxDepth hWritten hDeep
          have hQuery := (renderSlot_select hDeep hNotEmpty).mp hWritten
          simp only [Node.prunedSlot, Node.pruned, Slot.ofOption,
            Node.render, hDeep, Bool.false_eq_true, if_false, hQuery]
          have hSame :
              (ctx.withDepth maxDepth).name? label = .ok labelText := hLabel
          rw [hSame]
          rfl
      | _ =>
          simp only [Node.render, hDeep, Bool.false_eq_true, if_false]
            at hRender
          cases hRender

------------------------------------------------------------
-- Trees
------------------------------------------------------------

mutual

/- A tree as templates are parsed to agrees with what is left of it. -/
theorem Node.prunes
    (hInline : ctx.inline = true) :
    ∀ n : Node, n.Shaped → n.Prunes ctx
| .column name owner database, _ => prunes_column name owner database
| .literal v, _ => prunes_literal v
| .raw _, hShaped => hShaped.elim
| .parameter name, _ => prunes_parameter name hInline
| .numeral _, hShaped => hShaped.elim
| .group members brackets delimiter, hShaped =>
    prunes_group brackets delimiter (members.prunes hInline hShaped.2)
| .binary op left right, hShaped =>
    prunes_binary op (left.prunes hInline hShaped.1)
      (right.prunes hInline hShaped.2)
| .connective op operands, hShaped =>
    prunes_connective op (operands.prunes hInline hShaped)
| .unary op operand, hShaped =>
    prunes_unary op (operand.prunes hInline hShaped)
| .between operand low high, hShaped =>
    prunes_between (operand.prunes hInline hShaped.1)
      (low.prunes hInline hShaped.2.1) (high.prunes hInline hShaped.2.2)
| .call name (.many args) distinct, hShaped =>
    prunes_call name distinct (Arguments.prunes hInline args hShaped)
| .call name .vacant distinct, _ =>
    prunes_call_of_slot name distinct nofun
| .call name (.one _) distinct, _ =>
    prunes_call_of_slot name distinct nofun
| .alias node label, hShaped =>
    prunes_alias label (node.prunes hInline hShaped)
| .orderBy node direction, hShaped =>
    prunes_orderBy direction (node.prunes hInline hShaped.2)
| .table name label database join condition, hShaped =>
    prunes_table name label database join
      (condition.prunes hInline hShaped.2)
| .select query, hShaped => prunes_select (query.prunes hInline hShaped)
| .subquery slot label, hShaped =>
    prunes_subquery label (slot.prunes hInline hShaped)
| .foreign _, hShaped => hShaped.elim
termination_by structural n => n

theorem Slot.prunes
    (hInline : ctx.inline = true) :
    ∀ slot : Slot Node, slot.Shaped → slot.Prunes ctx
| .vacant, _ => prunes_vacant
| .one n, hShaped => prunes_one (n.prunes hInline hShaped)
| .many members, hShaped =>
    prunes_many (Members.prunes hInline members hShaped)
termination_by structural slot => slot

theorem Members.prunes
    (hInline : ctx.inline = true) :
    ∀ members : List (Option Node),
      Members.Shaped members → Members.Prunes ctx members
| [], _ => prunes_nil
| none :: members, hShaped => Members.prunes hInline members hShaped
| some n :: members, hShaped =>
    prunes_cons (n.prunes hInline hShaped.1)
      (Members.prunes hInline members hShaped.2)
termination_by structural members => members

theorem Arguments.prunes
    (hInline : ctx.inline = true) :
    ∀ args : List (Option Node),
      Members.Shaped args → Arguments.Prunes ctx args
| [], _ => prunesArgs_nil
| none :: args, _ => prunesArgs_none args
| some n :: args, hShaped =>
    prunesArgs_cons (n.prunes hInline hShaped.1)
      (Arguments.prunes hInline args hShaped.2)
termination_by structural args => args

theorem Query.prunes
    (hInline : ctx.inline = true) :
    ∀ query : Query Node, query.Shaped → query.Prunes ctx
| ⟨columns, source, filter, groups, having, order, _, _, _, _⟩,
    hShaped => by
    rcases hShaped with ⟨hColumns, hSource, hFilter, hGroups, hHaving,
      hOrder, hLimit, hOffset, _⟩
    exact prunes_query hInline (columns.prunes hInline hColumns)
      (source.prunes hInline hSource) (filter.prunes hInline hFilter)
      (groups.prunes hInline hGroups) (having.prunes hInline hHaving)
      (order.prunes hInline hOrder) hLimit hOffset
termination_by structural query => query

end

------------------------------------------------------------
-- Templates
------------------------------------------------------------

/-
  Rendering a template writes the pruned tree: all parameters
  that are left in it have values, and with enough levels
  allowed it has the text that the template has.
-/
theorem rendering_is_pruning
    {sql text : String}
    {tree : Node}
    (hParse : parse sql = .ok tree)
    (hInline : ctx.inline = true)
    (hRender : ctx.render tree = .ok text) :
    ∃ left, tree.pruned ctx.bindings = some left ∧
      ctx.bindings.Fills left.parameterList ∧
        ∃ levels : Int, ∀ maxDepth ≥ levels,
          (ctx.withDepth maxDepth).render left = .ok text := by
  have hShaped := shaped_of_parse hParse
  rcases map_eq_ok.mp hRender with ⟨slotText, hSlot, rfl⟩
  have hAgrees := prunes_one (tree.prunes hInline hShaped) _ _ _ _ hSlot
  rcases select_of_parse hParse with ⟨query, rfl⟩
  have hPruned :
      (Node.select query).pruned ctx.bindings =
        some (.select (Node.prunedQuery ctx.bindings query)) := rfl
  refine ⟨_, hPruned, Node.filled_pruned hPruned, ?_⟩
  rcases Filter.eventually_atTop.mp (hAgrees.written 1) with
    ⟨levels, hLevels⟩
  refine ⟨levels, ?_⟩
  intro maxDepth hEnough
  exact map_eq_ok.mpr ⟨_, hLevels maxDepth hEnough, rfl⟩

/- One bound of a range is unbound, and so is a comparison's right side. -/
def rangeContext : RenderContext :=
  ⟨.postgresql, .ofList [("low", .int 5)], true, 100⟩

theorem rendering_is_pruning_of_range :
    ∃ tree left,
      parse "SELECT a FROM t WHERE a BETWEEN :low AND :high AND b = :x" =
          .ok tree ∧
        tree.pruned rangeContext.bindings = some left ∧
          ∃ levels : Int, ∀ maxDepth ≥ levels,
            (rangeContext.withDepth maxDepth).render left =
              .ok "SELECT a\nFROM t\nWHERE a >= 5 AND b IS null" := by
  have hText :
      (renderTemplate rangeContext
          "SELECT a FROM t WHERE a BETWEEN :low AND :high AND b = :x").toOption =
        some "SELECT a\nFROM t\nWHERE a >= 5 AND b IS null" := by
    decide +kernel
  rcases renderTemplate_eq_ok.mp (eq_ok_of_toOption hText) with
    ⟨tree, hParse, hRender⟩
  rcases rendering_is_pruning hParse rfl hRender with
    ⟨left, hLeft, _, hLevels⟩
  exact ⟨tree, left, hParse, hLeft, hLevels⟩

end SqlTemplate
