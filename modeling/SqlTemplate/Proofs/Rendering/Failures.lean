import SqlTemplate.Proofs.Results
import SqlTemplate.Rendering.Blame

/-
  Errors of trees.  An error is either about the depth of a
  node or one that a node of the tree raises itself, so that
  what holds of the errors of single nodes holds of the errors
  of trees.

  Key definitions include:
    * `Node.CanRaise`
    * `Node.RaisesOnly`

  Correctness is proven by:
    * `Node.canRaise_of_raises`
    * `render_subquery_of_none`
    * `Node.failsWith_render`
    * `render_raises`
-/

------------------------------------------------------------
-- Pairs and Ranges
------------------------------------------------------------

namespace SqlTemplate

namespace FailsWith

variable {E : RenderError → Prop}

theorem pair
    {first second : Rendered}
    {f : String → String → String}
    (hFirst : FailsWith E first)
    (hSecond : FailsWith E second) :
    FailsWith E (Rendered.pair first second f) := by
  unfold Rendered.pair
  split
  next e => exact error (hFirst e rfl)
  next => exact ok _
  next e => exact error (hSecond e rfl)
  next => exact ok _
  next => exact ok _

theorem range
    {operand low high : Rendered}
    (hOperand : FailsWith E operand)
    (hLow : FailsWith E low)
    (hHigh : FailsWith E high) :
    FailsWith E (Rendered.range operand low high) := by
  unfold Rendered.range
  split
  next e => exact error (hOperand e rfl)
  next => exact ok _
  next => exact hLow.bind fun _ => hHigh.bind fun _ => ok _

------------------------------------------------------------
-- Names and Values
------------------------------------------------------------

variable {ctx : RenderContext}

theorem name
    (hNames : ∀ e, E (.identifier e))
    (s : String) :
    FailsWith E (ctx.name s) :=
  mapError hNames

theorem name?
    (hNames : ∀ e, E (.identifier e))
    (s : Option String) :
    FailsWith E (ctx.name? s) := by
  unfold RenderContext.name?
  split
  next => exact ok _
  next s _ => exact (name hNames s).map

theorem qualified
    (hNames : ∀ e, E (.identifier e))
    (names : List (Option String)) :
    FailsWith E (ctx.qualified names) :=
  map (mapM fun s _ => name hNames s)

theorem literal
    (hLiterals : ∀ e, E (.literal e))
    (v : Value) :
    FailsWith E (ctx.literal v) :=
  mapError hLiterals

/- A quoted parameter fails only because of a value of it. -/
theorem parameter
    (hLiterals : ∀ e, E (.literal e))
    (name : String) :
    FailsWith E (ctx.parameter name) := by
  unfold RenderContext.parameter RenderContext.literals
  split
  · split
    · split
      · exact map (map (mapM fun v _ => literal hLiterals v))
      · exact map (literal hLiterals _)
    · exact ok _
  · exact ok _

theorem numeralOf
    (hNumerals : ∀ name v, E (.notNumeral name v))
    (name : String)
    (v : Value) :
    FailsWith E (RenderContext.numeralOf name v) := by
  unfold RenderContext.numeralOf
  split
  · exact ok _
  · exact error (hNumerals name v)

/- A numeral parameter fails only because of a value of it. -/
theorem numeral
    (hNumerals : ∀ name v, E (.notNumeral name v))
    (name : String) :
    FailsWith E (ctx.numeral name) := by
  unfold RenderContext.numeral RenderContext.numerals
  split
  · split
    · exact map (map (mapM fun v _ => numeralOf hNumerals name v))
    · exact map (numeralOf hNumerals name _)
  · exact ok _

/-
  A list of values is judged unless it is a group without a
  list, or its leading parameter has no value.
-/
theorem judgeList
    {op : BinaryOp}
    {list : Slot Node}
    (hListed :
      ∀ n brackets delimiter, list = .one (.group (.one n) brackets delimiter) →
        E .membersNotListed)
    (hBound :
      ∀ name, RenderContext.leadingParameter? list = some name →
        ctx.bindings.isBound name = false →
          E (.unboundMember op.symbol name)) :
    FailsWith E (ctx.judgeList op list) := by
  unfold RenderContext.judgeList
  split
  next n brackets delimiter => exact error (hListed n brackets delimiter rfl)
  next =>
    split
    next => exact ok _
    next name hLeading =>
      split
      next hValue =>
        apply error
        apply hBound name hLeading
        rw [Bindings.isBound, hValue]
        rfl
      next => exact ok _

end FailsWith

------------------------------------------------------------
-- Kinds of Errors
------------------------------------------------------------

/-
  The errors that a single node can raise, by their kind.  What
  a node says about the shape of a slot is its misplacement, and
  the parameter that a test asks for is the leading one of its
  list, which is unbound.
-/
inductive Node.CanRaise
    (ctx : RenderContext)
    (n : Node) : RenderError → Prop where
| identifier (cause : IdentifierError) : CanRaise ctx n (.identifier cause)
| literal (cause : LiteralError) : CanRaise ctx n (.literal cause)
| notNumeral (name : String) (v : Value) :
    CanRaise ctx n (.notNumeral name v)
| unboundMember
    {op : BinaryOp}
    {left right : Slot Node}
    {name : String}
    (hNode : n = .binary op left right)
    (hLeading : RenderContext.leadingParameter? right = some name)
    (hUnbound : ctx.bindings.isBound name = false) :
    CanRaise ctx n (.unboundMember op.symbol name)
| offsetAlone : CanRaise ctx n .offsetAlone
| offsetKept (offset : String) : CanRaise ctx n (.offsetKept offset)
| foreignNode (typeName : String) : CanRaise ctx n (.foreignNode typeName)
| emptyOperand (symbol : String) : CanRaise ctx n (.emptyOperand symbol)
| emptyBetween : CanRaise ctx n .emptyBetween
| emptyAlias (label : String) : CanRaise ctx n (.emptyAlias label)
| noSelect
    (hMisplaced : n.misplacement? = some .noSelect) :
    CanRaise ctx n .noSelect
| argumentsNotListed
    (hMisplaced : n.misplacement? = some .argumentsNotListed) :
    CanRaise ctx n .argumentsNotListed
| membersNotListed
    (hMisplaced : n.misplacement? = some .membersNotListed) :
    CanRaise ctx n .membersNotListed

/- What a node raises itself is of one of these kinds. -/
theorem Node.canRaise_of_raises
    {ctx : RenderContext}
    {n : Node}
    {e : RenderError}
    (hRaised : n.Raises ctx e) :
    n.CanRaise ctx e := by
  cases n with
  | column name owner database =>
      exact FailsWith.qualified .identifier _ e hRaised
  | literal v => exact FailsWith.literal .literal v e hRaised
  | parameter name => exact FailsWith.parameter .literal name e hRaised
  | numeral name => exact FailsWith.numeral .notNumeral name e hRaised
  | raw _ | group _ _ _ | connective _ _ | orderBy _ _ =>
      exact hRaised.elim
  | binary op left right =>
      rcases hRaised with ⟨_, rfl⟩ | ⟨hOp, hJudged⟩
      · exact .emptyOperand _
      · refine FailsWith.judgeList ?_ ?_ e hJudged
        · rintro n brackets delimiter rfl
          exact .membersNotListed (if_pos hOp)
        · exact fun name hLeading hUnbound =>
            .unboundMember rfl hLeading hUnbound
  | unary op operand =>
      rcases hRaised with ⟨_, rfl⟩
      exact .emptyOperand _
  | between operand low high =>
      rcases hRaised with ⟨_, rfl⟩
      exact .emptyBetween
  | call name args distinct =>
      rcases hRaised with ⟨hArgs, rfl⟩
      apply Node.CanRaise.argumentsNotListed
      rw [Node.misplacement?, hArgs, if_neg Bool.false_ne_true]
  | «alias» node label =>
      rcases hRaised with ⟨_, rfl⟩ | hLabel
      · exact .emptyAlias label
      · exact FailsWith.name .identifier label e hLabel
  | table name label database join condition =>
      rcases hRaised with hNames | hLabel
      · exact FailsWith.qualified .identifier _ e hNames
      · exact FailsWith.name? .identifier label e hLabel
  | select query =>
      rcases hRaised with ⟨_, rfl⟩ | ⟨offset, rfl⟩
      · exact .offsetAlone
      · exact .offsetKept offset
  | subquery slot label =>
      rcases hRaised with hLabel | ⟨hNone, rfl⟩
      · exact FailsWith.name? .identifier label e hLabel
      · apply Node.CanRaise.noSelect
        rw [Node.misplacement?, hNone]
        rfl
  | foreign typeName =>
      cases hRaised
      exact .foreignNode typeName

------------------------------------------------------------
-- Nodes
------------------------------------------------------------

variable {ctx : RenderContext} {E : RenderError → Prop}

theorem eq_of_query?
    {slot : Slot Node}
    {query : Query Node}
    (hQuery : slot.query? = some query) :
    slot = .one (.select query) := by
  unfold Slot.query? at hQuery
  split at hQuery
  next =>
    cases hQuery
    rfl
  next => cases hQuery

/- A subquery cannot be written without its SELECT. -/
theorem render_subquery_of_none
    {slot : Slot Node}
    {label : Option String}
    {depth : Nat}
    {indent : Int}
    (hLimit : ctx.isTooDeep depth = false)
    (hNone : slot.query? = none) :
    (Node.subquery slot label).render ctx depth indent =
      .error .noSelect := by
  rw [Node.render.eq_def, if_neg (Bool.eq_false_iff.mp hLimit)]
  cases slot with
  | one n =>
      cases n with
      | select query => cases hNone
      | _ => rfl
  | _ => rfl

/- All errors that a node raises itself are of one kind. -/
def Node.RaisesOnly
    (ctx : RenderContext)
    (E : RenderError → Prop)
    (n : Node) : Prop :=
  ∀ e, n.Raises ctx e → E e

/- All errors of a slot are of one kind. -/
def Slot.FailsOnly
    (ctx : RenderContext)
    (E : RenderError → Prop)
    (slot : Slot Node) : Prop :=
  ∀ (depth : Nat) (indent : Int) (separator : String),
    FailsWith E (Node.renderSlot ctx depth indent separator slot)

section

variable (hDeep : ∀ depth : Nat, E (.tooDeep depth ctx.maxDepth))

include hDeep

/- A node that is too deep is one with an error about its depth. -/
theorem failsWith_of_allowed
    {n : Node}
    {depth : Nat}
    {indent : Int}
    (hNode : ctx.isTooDeep depth = false →
      FailsWith E (n.render ctx depth indent)) :
    FailsWith E (n.render ctx depth indent) := by
  by_cases hLimit : ctx.isTooDeep depth = true
  · rw [Node.render.eq_def, if_pos hLimit]
    exact .error (hDeep depth)
  · exact hNode (Bool.eq_false_iff.mpr hLimit)

theorem failsWith_grouped
    {depth : Nat}
    {text : Rendered}
    (hText : FailsWith E text) :
    FailsWith E (ctx.grouped depth text) := by
  unfold RenderContext.grouped
  split
  · exact .error (hDeep depth)
  · exact hText.map

theorem failsWith_binary
    {op : BinaryOp}
    {left right : Slot Node}
    (hNode : (Node.binary op left right).RaisesOnly ctx E)
    (hLeft : left.FailsOnly ctx E)
    (hRight : right.FailsOnly ctx E)
    (depth : Nat)
    (indent : Int) :
    FailsWith E ((Node.binary op left right).render ctx depth indent) := by
  apply failsWith_of_allowed hDeep
  intro hLimit
  simp only [Node.render, hLimit, Bool.false_eq_true, if_false]
  split
  next hVacant => exact .error (hNode _ (.inl ⟨hVacant, rfl⟩))
  next =>
    split
    next => exact (hLeft _ _ _).map
    next =>
      have hList : FailsWith E
          (if RenderContext.standsBare op right then
            ctx.grouped (depth + 1)
              (Node.renderSlot ctx (depth + 2) indent " " right)
          else
            Node.renderSlot ctx (depth + 1) indent " " right) := by
        split
        · exact failsWith_grouped hDeep (hRight _ _ _)
        · exact hRight _ _ _
      unfold RenderContext.unlessEmptyList
      split
      next hMember =>
        split
        next e hJudged => exact .error (hNode e (.inr ⟨hMember, hJudged⟩))
        next => exact .ok _
        next => exact (hLeft _ _ _).pair hList
      next => exact (hLeft _ _ _).pair hList

theorem failsWith_subquery
    {slot : Slot Node}
    {label : Option String}
    (hNode : (Node.subquery slot label).RaisesOnly ctx E)
    (hSlot : slot.FailsOnly ctx E)
    (depth : Nat)
    (indent : Int) :
    FailsWith E ((Node.subquery slot label).render ctx depth indent) := by
  apply failsWith_of_allowed hDeep
  intro hLimit
  cases hQuery : slot.query? with
  | none =>
      rw [render_subquery_of_none hLimit hQuery]
      exact .error (hNode _ (.inr ⟨hQuery, rfl⟩))
  | some query =>
      have hLabel : FailsWith E (ctx.name? label) := fun e hError =>
        hNode e (.inl hError)
      -- The query is written at the depth of the subquery itself.
      have hText := hSlot depth (indent + indentWidth) " "
      rw [eq_of_query? hQuery] at hText ⊢
      simp only [Node.renderSlot, Node.render, hLimit, Bool.false_eq_true,
        if_false] at hText ⊢
      exact hText.of_map.of_map.bind fun _ => hLabel.bind fun _ => .ok _

end

/- The last line of a query fails only with an offset on its own. -/
theorem failsWith_limitLine
    {limit offset : Option String}
    (hKept : ∀ offset, E (.offsetKept offset)) :
    FailsWith E (ctx.limitLine limit offset) := by
  unfold RenderContext.limitLine
  split
  · exact .ok _
  · exact .error (hKept _)
  · exact .ok _

------------------------------------------------------------
-- Trees
------------------------------------------------------------

mutual

/-
  If the errors of the depth and those that the nodes of a tree
  raise themselves are of one kind, then so are all of its errors.
-/
theorem Node.failsWith_render
    (hDeep : ∀ depth : Nat, E (.tooDeep depth ctx.maxDepth)) :
    ∀ n : Node, n.Everywhere (Node.RaisesOnly ctx E) →
      ∀ (depth : Nat) (indent : Int),
        FailsWith E (n.render ctx depth indent)
| .column _ _ _, hNode, _, _ => failsWith_of_allowed hDeep fun hLimit => by
    simp only [Node.render, hLimit, Bool.false_eq_true, if_false]
    exact FailsWith.map hNode
| .literal _, hNode, _, _ => failsWith_of_allowed hDeep fun hLimit => by
    simp only [Node.render, hLimit, Bool.false_eq_true, if_false]
    exact FailsWith.map hNode
| .raw _, _, _, _ => failsWith_of_allowed hDeep fun hLimit => by
    simp only [Node.render, hLimit, Bool.false_eq_true, if_false]
    exact .ok _
| .parameter _, hNode, _, _ => failsWith_of_allowed hDeep fun hLimit => by
    simp only [Node.render, hLimit, Bool.false_eq_true, if_false]
    exact hNode
| .numeral _, hNode, _, _ => failsWith_of_allowed hDeep fun hLimit => by
    simp only [Node.render, hLimit, Bool.false_eq_true, if_false]
    exact hNode
| .group members _ _, hNode, _, _ =>
    have hMembers := members.failsWith_renderSlot hDeep hNode.2
    failsWith_of_allowed hDeep fun hLimit => by
      simp only [Node.render, hLimit, Bool.false_eq_true, if_false]
      exact (hMembers _ _ _).map
| .binary _ left right, hNode, depth, indent =>
    failsWith_binary hDeep hNode.1 (left.failsWith_renderSlot hDeep hNode.2.1)
      (right.failsWith_renderSlot hDeep hNode.2.2) depth indent
| .connective _ operands, hNode, _, _ =>
    have hOperands := operands.failsWith_renderSlot hDeep hNode.2
    failsWith_of_allowed hDeep fun hLimit => by
      simp only [Node.render, hLimit, Bool.false_eq_true, if_false]
      exact hOperands _ _ _
| .unary _ operand, hNode, _, _ =>
    have hOperand := operand.failsWith_renderSlot hDeep hNode.2
    failsWith_of_allowed hDeep fun hLimit => by
      simp only [Node.render, hLimit, Bool.false_eq_true, if_false]
      split
      next hVacant => exact .error (hNode.1 _ ⟨hVacant, rfl⟩)
      next => exact (hOperand _ _ _).map
| .between operand low high, hNode, _, _ =>
    have hOperand := operand.failsWith_renderSlot hDeep hNode.2.1
    have hLow := low.failsWith_renderSlot hDeep hNode.2.2.1
    have hHigh := high.failsWith_renderSlot hDeep hNode.2.2.2
    failsWith_of_allowed hDeep fun hLimit => by
      simp only [Node.render, hLimit, Bool.false_eq_true, if_false]
      split
      next hVacant => exact .error (hNode.1 _ ⟨hVacant, rfl⟩)
      next => exact (hOperand _ _ _).range (hLow _ _ _) (hHigh _ _ _)
| .call _ (.many args) _, hNode, _, _ =>
    have hArgs := Arguments.failsWith_renderArgs hDeep args hNode.2
    failsWith_of_allowed hDeep fun hLimit => by
      simp only [Node.render, hLimit, Bool.false_eq_true, if_false]
      exact (hArgs _ _).map
| .call _ .vacant _, hNode, _, _ =>
    failsWith_of_allowed hDeep fun hLimit => by
      simp only [Node.render, hLimit, Bool.false_eq_true, if_false]
      exact .error (hNode.1 _ ⟨rfl, rfl⟩)
| .call _ (.one _) _, hNode, _, _ =>
    failsWith_of_allowed hDeep fun hLimit => by
      simp only [Node.render, hLimit, Bool.false_eq_true, if_false]
      exact .error (hNode.1 _ ⟨rfl, rfl⟩)
| .alias node _, hNode, _, _ =>
    have hInner := node.failsWith_renderSlot hDeep hNode.2
    failsWith_of_allowed hDeep fun hLimit => by
      simp only [Node.render, hLimit, Bool.false_eq_true, if_false]
      split
      next hVacant => exact .error (hNode.1 _ (.inl ⟨hVacant, rfl⟩))
      next =>
        exact (hInner _ _ _).pair
          (FailsWith.map fun e hError => hNode.1 e (.inr hError))
| .orderBy node _, hNode, _, _ =>
    have hInner := node.failsWith_renderSlot hDeep hNode.2
    failsWith_of_allowed hDeep fun hLimit => by
      simp only [Node.render, hLimit, Bool.false_eq_true, if_false]
      exact (hInner _ _ _).map
| .table _ _ _ _ condition, hNode, _, _ =>
    have hCondition := condition.failsWith_renderSlot hDeep hNode.2
    failsWith_of_allowed hDeep fun hLimit => by
      simp only [Node.render, hLimit, Bool.false_eq_true, if_false]
      exact FailsWith.bind (fun e hError => hNode.1 e (.inl hError))
        fun _ => FailsWith.bind (fun e hError => hNode.1 e (.inr hError))
          fun _ => (hCondition _ _ _).bind fun _ => .ok _
| .select query, hNode, _, _ =>
    have hQuery := query.failsWith_renderQuery hDeep hNode.1 hNode.2
    failsWith_of_allowed hDeep fun hLimit => by
      simp only [Node.render, hLimit, Bool.false_eq_true, if_false]
      exact (hQuery _ _).map
| .subquery slot _, hNode, depth, indent =>
    failsWith_subquery hDeep hNode.1 (slot.failsWith_renderSlot hDeep hNode.2)
      depth indent
| .foreign _, hNode, _, _ => failsWith_of_allowed hDeep fun hLimit => by
    simp only [Node.render, hLimit, Bool.false_eq_true, if_false]
    exact .error (hNode _ rfl)
termination_by structural n => n

theorem Slot.failsWith_renderSlot
    (hDeep : ∀ depth : Nat, E (.tooDeep depth ctx.maxDepth)) :
    ∀ slot : Slot Node, slot.Everywhere (Node.RaisesOnly ctx E) →
      slot.FailsOnly ctx E
| .vacant, _, _, _, _ => by
    rw [Node.renderSlot]
    exact .ok _
| .one n, hNode, depth, indent, _ => by
    rw [Node.renderSlot]
    exact (n.failsWith_render hDeep hNode depth indent).map
| .many members, hMembers, depth, indent, _ => by
    rw [Node.renderSlot]
    exact (Members.failsWith_renderMembers hDeep members hMembers
      depth indent).map
termination_by structural slot => slot

theorem Members.failsWith_renderMembers
    (hDeep : ∀ depth : Nat, E (.tooDeep depth ctx.maxDepth)) :
    ∀ members : List (Option Node),
      Members.Everywhere (Node.RaisesOnly ctx E) members →
        ∀ (depth : Nat) (indent : Int),
          FailsWith E (Node.renderMembers ctx depth indent members)
| [], _, _, _ => by
    rw [Node.renderMembers]
    exact .ok _
| none :: members, hMembers, depth, indent => by
    rw [Node.renderMembers]
    exact Members.failsWith_renderMembers hDeep members hMembers depth indent
| some n :: members, hMembers, depth, indent => by
    have hFirst := n.failsWith_render hDeep hMembers.1 depth indent
    have hRest :=
      Members.failsWith_renderMembers hDeep members hMembers.2 depth indent
    rw [Node.renderMembers]
    exact hFirst.bind fun _ => hRest.bind fun _ => .ok _
termination_by structural members => members

theorem Arguments.failsWith_renderArgs
    (hDeep : ∀ depth : Nat, E (.tooDeep depth ctx.maxDepth)) :
    ∀ args : List (Option Node),
      Members.Everywhere (Node.RaisesOnly ctx E) args →
        ∀ (depth : Nat) (indent : Int),
          FailsWith E (Node.renderArgs ctx depth indent args)
| [], _, _, _ => by
    rw [Node.renderArgs]
    exact .ok _
| none :: _, _, _, _ => by
    rw [Node.renderArgs]
    exact .ok _
| some n :: args, hArgs, depth, indent => by
    have hFirst := n.failsWith_render hDeep hArgs.1 depth indent
    have hRest :=
      Arguments.failsWith_renderArgs hDeep args hArgs.2 depth indent
    rw [Node.renderArgs]
    refine hFirst.bind fun text => ?_
    cases text.bind present with
    | none => exact .ok _
    | some text => exact hRest.bind fun _ => .ok _
termination_by structural args => args

theorem Query.failsWith_renderQuery
    (hDeep : ∀ depth : Nat, E (.tooDeep depth ctx.maxDepth)) :
    ∀ query : Query Node, (Node.select query).RaisesOnly ctx E →
      query.Everywhere (Node.RaisesOnly ctx E) →
        ∀ (depth : Nat) (indent : Int),
          FailsWith E (Node.renderQuery ctx depth indent query)
| ⟨columns, source, filter, groups, having, order, limit, offset, _, _⟩,
    hSelect, hParts, _, _ => by
    rcases hParts with ⟨hColumns, hSource, hFilter, hGroups, hHaving,
      hOrder, hLimit, hOffset⟩
    have hColumns := columns.failsWith_renderSlot hDeep hColumns
    have hSource := source.failsWith_renderSlot hDeep hSource
    have hFilter := filter.failsWith_renderSlot hDeep hFilter
    have hGroups := groups.failsWith_renderSlot hDeep hGroups
    have hHaving := having.failsWith_renderSlot hDeep hHaving
    have hOrder := order.failsWith_renderSlot hDeep hOrder
    have hLimit := limit.failsWith_renderSlot hDeep hLimit
    have hOffset := offset.failsWith_renderSlot hDeep hOffset
    have hKept (offset : String) : E (.offsetKept offset) :=
      hSelect _ (.inr ⟨offset, rfl⟩)
    rw [Node.renderQuery]
    split
    next hAlone => exact .error (hSelect _ (.inl ⟨hAlone, rfl⟩))
    next =>
      exact (hColumns _ _ _).bind fun _ => (hSource _ _ _).bind fun _ =>
        (hFilter _ _ _).bind fun _ => (hGroups _ _ _).bind fun _ =>
          (hHaving _ _ _).bind fun _ => (hOrder _ _ _).bind fun _ =>
            (hLimit _ _ _).bind fun _ => (hOffset _ _ _).bind fun _ =>
              (failsWith_limitLine hKept).bind fun _ => .ok _
termination_by structural query => query

end

/- An error of a tree is about its depth, or a fragment raises it. -/
theorem render_raises
    {n : Node}
    {e : RenderError}
    (hError : ctx.render n = .error e) :
    (∃ depth, e = .tooDeep depth ctx.maxDepth) ∨
      ∃ m ∈ n.fragments, m.Raises ctx e := by
  let E (e : RenderError) : Prop :=
    (∃ depth, e = .tooDeep depth ctx.maxDepth) ∨
      ∃ m ∈ n.fragments, m.Raises ctx e
  have hDeep (depth : Nat) : E (.tooDeep depth ctx.maxDepth) :=
    .inl ⟨depth, rfl⟩
  have hNodes : n.Everywhere (Node.RaisesOnly ctx E) := by
    rw [n.everywhere_iff]
    intro m hMember e hRaised
    exact .inr ⟨m, hMember, hRaised⟩
  have hTree : FailsWith E (ctx.render n) := by
    unfold RenderContext.render
    rw [Node.renderSlot]
    exact (n.failsWith_render hDeep hNodes 1 0).map.map
  exact hTree e hError

end SqlTemplate
