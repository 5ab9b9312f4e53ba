import SqlTemplate.Proofs.Standing.Correctness
import SqlTemplate.Rendering.Height

/-
  The greatest depth that is allowed.  It is an error exactly if
  a level that is written lies beyond it: with as many levels as
  the tree has there is no such error, and what is written with
  some levels is written alike with more of them.

  Key definitions include:
    * `RenderContext.Persists`
    * `Node.Persists`
    * `Node.Reaches`
    * `RenderContext.Overruns`

  Correctness is proven by:
    * `Node.persists`
    * `Node.reaches`
    * `eq_tooDeep_of_render`
    * `depth_limit_is_exact`
-/

------------------------------------------------------------
-- Results with More Levels
------------------------------------------------------------

namespace SqlTemplate

variable {ctx : RenderContext} {levels : Int}

/-
  A result is the same with more levels, or it is an error about
  one of the first levels.
-/
def RenderContext.Persists
    (ctx : RenderContext)
    {α : Type}
    (bound : Nat)
    (result more : Except RenderError α) : Prop :=
  more = result ∨
    ∃ depth < bound, ctx.isTooDeep depth = true ∧
      result = .error (.tooDeep depth ctx.maxDepth)

namespace RenderContext.Persists

variable {α β : Type} {bound : Nat}

theorem refl (result : Except RenderError α) :
    ctx.Persists bound result result :=
  .inl rfl

theorem weaken
    {bound' : Nat}
    {result more : Except RenderError α}
    (hResult : ctx.Persists bound result more)
    (hBound : bound ≤ bound') :
    ctx.Persists bound' result more := by
  rcases hResult with hSame | ⟨depth, hBelow, hDeep, hError⟩
  · exact .inl hSame
  · exact .inr ⟨depth, Nat.lt_of_lt_of_le hBelow hBound, hDeep, hError⟩

theorem map
    {result more : Except RenderError α}
    (f : α → β)
    (hResult : ctx.Persists bound result more) :
    ctx.Persists bound (result.map f) (more.map f) := by
  rcases hResult with rfl | ⟨depth, hBelow, hDeep, rfl⟩
  · exact .inl rfl
  · exact .inr ⟨depth, hBelow, hDeep, rfl⟩

theorem bind
    {result more : Except RenderError α}
    {f f' : α → Except RenderError β}
    (hResult : ctx.Persists bound result more)
    (hRest : ∀ a, ctx.Persists bound (f a) (f' a)) :
    ctx.Persists bound (result >>= f) (more >>= f') := by
  rcases hResult with rfl | ⟨depth, hBelow, hDeep, rfl⟩
  · cases more with
    | ok a => exact hRest a
    | error e => exact .inl rfl
  · exact .inr ⟨depth, hBelow, hDeep, rfl⟩

theorem pair
    {first first' second second' : Rendered}
    (f : String → String → String)
    (hFirst : ctx.Persists bound first first')
    (hSecond : ctx.Persists bound second second') :
    ctx.Persists bound (Rendered.pair first second f)
      (Rendered.pair first' second' f) := by
  rcases hFirst with rfl | ⟨depth, hBelow, hDeep, rfl⟩
  · match first' with
    | .error _ | .ok none => exact .inl rfl
    | .ok (some s) =>
        rcases hSecond with rfl | ⟨depth, hBelow, hDeep, rfl⟩
        · exact .inl rfl
        · exact .inr ⟨depth, hBelow, hDeep, rfl⟩
  · exact .inr ⟨depth, hBelow, hDeep, rfl⟩

theorem range
    {operand operand' low low' high high' : Rendered}
    (hOperand : ctx.Persists bound operand operand')
    (hLow : ctx.Persists bound low low')
    (hHigh : ctx.Persists bound high high') :
    ctx.Persists bound (Rendered.range operand low high)
      (Rendered.range operand' low' high') := by
  rcases hOperand with rfl | ⟨depth, hBelow, hDeep, rfl⟩
  · match operand' with
    | .error _ | .ok none => exact .inl rfl
    | .ok (some s) => exact hLow.bind fun _ => hHigh.bind fun _ => .inl rfl
  · exact .inr ⟨depth, hBelow, hDeep, rfl⟩

end RenderContext.Persists

section

variable (ctx levels)

/- Wherever a node is written, its result persists. -/
def Node.Persists (n : Node) : Prop :=
  ∀ (depth : Nat) (indent : Int),
    ctx.Persists (depth + n.height) (n.render ctx depth indent)
      (n.render (ctx.withDepth levels) depth indent)

/- The same of the content of a slot. -/
def Slot.Persists (slot : Slot Node) : Prop :=
  ∀ (depth : Nat) (indent : Int) (separator : String),
    ctx.Persists (depth + Node.slotHeight slot)
      (Node.renderSlot ctx depth indent separator slot)
      (Node.renderSlot (ctx.withDepth levels) depth indent separator slot)

/- The same of the members of a list. -/
def Members.Persists (members : List (Option Node)) : Prop :=
  ∀ (depth : Nat) (indent : Int),
    ctx.Persists (depth + Node.listHeight members)
      (Node.renderMembers ctx depth indent members)
      (Node.renderMembers (ctx.withDepth levels) depth indent members)

/- The same of the arguments of a call. -/
def Arguments.Persists (args : List (Option Node)) : Prop :=
  ∀ (depth : Nat) (indent : Int),
    ctx.Persists (depth + Node.listHeight args)
      (Node.renderArgs ctx depth indent args)
      (Node.renderArgs (ctx.withDepth levels) depth indent args)

/- The same of a query at the depth of the node that holds it. -/
def Query.Persists (query : Query Node) : Prop :=
  ∀ (depth : Nat) (indent : Int),
    ctx.Persists (depth + 1 + Node.queryHeight query)
      (Node.renderQuery ctx depth indent query)
      (Node.renderQuery (ctx.withDepth levels) depth indent query)

end

/- A level that is allowed is allowed with more levels. -/
theorem not_tooDeep_withDepth
    {depth : Nat}
    (hLevels : ctx.maxDepth ≤ levels)
    (hDeep : ctx.isTooDeep depth = false) :
    (ctx.withDepth levels).isTooDeep depth = false := by
  have hAllowed := of_decide_eq_false hDeep
  exact decide_eq_false (by
    change ¬ levels < depth
    omega)

/- A node persists if it does where it is not too deep. -/
theorem persists_of_allowed
    {n : Node}
    (hLevels : ctx.maxDepth ≤ levels)
    (hNode : ∀ (depth : Nat) (indent : Int),
      ctx.isTooDeep depth = false →
        (ctx.withDepth levels).isTooDeep depth = false →
          ctx.Persists (depth + n.height) (n.render ctx depth indent)
            (n.render (ctx.withDepth levels) depth indent)) :
    n.Persists ctx levels := by
  intro depth indent
  by_cases hDeep : ctx.isTooDeep depth = true
  · refine .inr ⟨depth, ?_, hDeep, ?_⟩
    · exact Nat.lt_add_of_pos_right n.height_pos
    · rw [Node.render.eq_def, if_pos hDeep]
  · have hAllowed := Bool.eq_false_iff.mpr hDeep
    exact hNode depth indent hAllowed
      (not_tooDeep_withDepth hLevels hAllowed)

theorem persists_grouped
    {depth bound : Nat}
    {text more : Rendered}
    (hLevels : ctx.maxDepth ≤ levels)
    (hBound : depth < bound)
    (hText : ctx.Persists bound text more) :
    ctx.Persists bound (ctx.grouped depth text)
      ((ctx.withDepth levels).grouped depth more) := by
  by_cases hDeep : ctx.isTooDeep depth = true
  · refine .inr ⟨depth, hBound, hDeep, ?_⟩
    rw [RenderContext.grouped, if_pos hDeep]
  · have hAllowed := Bool.eq_false_iff.mpr hDeep
    have hMore := not_tooDeep_withDepth hLevels hAllowed
    simp only [RenderContext.grouped, hAllowed, hMore, Bool.false_eq_true,
      if_false]
    exact hText.map _

/- The right operand of an operator in brackets or as it is. -/
theorem persists_rightText
    {op : BinaryOp}
    {right : Slot Node}
    (hLevels : ctx.maxDepth ≤ levels)
    (hRight : right.Persists ctx levels)
    (depth : Nat)
    (indent : Int) :
    ctx.Persists
      (depth + 1 + op.rightHeight right (Node.slotHeight right))
      (rightText ctx depth indent op right)
      (rightText (ctx.withDepth levels) depth indent op right) := by
  unfold rightText BinaryOp.rightHeight
  split
  next =>
    exact persists_grouped hLevels (by omega)
      ((hRight (depth + 2) indent " ").weaken (by omega))
  next => exact hRight (depth + 1) indent " "

theorem persists_binary
    {op : BinaryOp}
    {left right : Slot Node}
    (hLevels : ctx.maxDepth ≤ levels)
    (hLeft : left.Persists ctx levels)
    (hRight : right.Persists ctx levels) :
    (Node.binary op left right).Persists ctx levels := by
  apply persists_of_allowed hLevels
  intro depth indent hDeep hMore
  have hFirst := hLeft (depth + 1) indent " "
  have hSecond := @persists_rightText ctx levels op right hLevels hRight
    depth indent
  have hOpen :
      (ctx.withDepth levels).isUnbound right = ctx.isUnbound right := rfl
  have hJudged :
      (ctx.withDepth levels).judgeList op right =
        ctx.judgeList op right := rfl
  simp only [Node.render, hDeep, hMore, Bool.false_eq_true, if_false,
    Node.height, hOpen, RenderContext.unlessEmptyList, hJudged]
  split
  next => exact .refl _
  next =>
    split
    next => exact (hFirst.map _).weaken (by omega)
    next =>
      have hPair {bound : Nat}
          (hFirstBound : depth + 1 + Node.slotHeight left ≤ bound)
          (hSecondBound :
            depth + 1 + op.rightHeight right (Node.slotHeight right) ≤
              bound) :=
        (hFirst.weaken hFirstBound).pair (binaryText op)
          (hSecond.weaken hSecondBound)
      split
      next =>
        split
        next => exact .refl _
        next => exact .refl _
        next => exact hPair (by omega) (by omega)
      next => exact hPair (by omega) (by omega)

theorem persists_query
    {query : Query Node}
    (hColumns : query.columns.Persists ctx levels)
    (hSource : query.source.Persists ctx levels)
    (hFilter : query.filter.Persists ctx levels)
    (hGroups : query.groups.Persists ctx levels)
    (hHaving : query.having.Persists ctx levels)
    (hOrder : query.order.Persists ctx levels)
    (hLimit : query.limit.Persists ctx levels)
    (hOffset : query.offset.Persists ctx levels) :
    query.Persists ctx levels := by
  rcases query with ⟨columns, source, filter, groups, having, order,
    limit, offset, distinct, options⟩
  intro depth indent
  rw [Node.renderQuery, Node.renderQuery, Node.queryHeight]
  split
  next => exact .refl _
  next =>
    refine ((hColumns _ _ _).weaken ?_).bind fun _ =>
      ((hSource _ _ _).weaken ?_).bind fun _ =>
        ((hFilter _ _ _).weaken ?_).bind fun _ =>
          ((hGroups _ _ _).weaken ?_).bind fun _ =>
            ((hHaving _ _ _).weaken ?_).bind fun _ =>
              ((hOrder _ _ _).weaken ?_).bind fun _ =>
                ((hLimit _ _ _).weaken ?_).bind fun _ =>
                  ((hOffset _ _ _).weaken ?_).bind fun _ => .refl _
    all_goals
      dsimp only
      omega

mutual

/-
  With more levels each tree has the same result, unless one of
  its levels was too deep.
-/
theorem Node.persists
    (hLevels : ctx.maxDepth ≤ levels) :
    ∀ n : Node, n.Persists ctx levels
| .column .. | .literal _ | .raw _ | .parameter _ | .numeral _
| .foreign _ =>
    persists_of_allowed hLevels fun _ _ hDeep hMore => by
      simp only [Node.render, hDeep, hMore, Bool.false_eq_true, if_false]
      exact .refl _
| .group members _ _ =>
    have hMembers := members.persists hLevels
    persists_of_allowed hLevels fun _ _ hDeep hMore => by
      simp only [Node.render, hDeep, hMore, Bool.false_eq_true, if_false]
      exact ((hMembers _ _ _).map _).weaken (Nat.succ_add_eq_add_succ _ _).le
| .binary _ left right =>
    persists_binary hLevels (left.persists hLevels)
      (right.persists hLevels)
| .connective _ operands =>
    have hOperands := operands.persists hLevels
    persists_of_allowed hLevels fun _ _ hDeep hMore => by
      simp only [Node.render, hDeep, hMore, Bool.false_eq_true, if_false]
      exact (hOperands _ _ _).weaken (Nat.succ_add_eq_add_succ _ _).le
| .unary _ operand =>
    have hOperand := operand.persists hLevels
    persists_of_allowed hLevels fun _ _ hDeep hMore => by
      simp only [Node.render, hDeep, hMore, Bool.false_eq_true, if_false]
      split
      next => exact .refl _
      next => exact ((hOperand _ _ _).map _).weaken (Nat.succ_add_eq_add_succ _ _).le
| .between operand low high =>
    have hOperand := operand.persists hLevels
    have hLow := low.persists hLevels
    have hHigh := high.persists hLevels
    persists_of_allowed hLevels fun depth _ hDeep hMore => by
      simp only [Node.render, hDeep, hMore, Bool.false_eq_true, if_false,
        Node.height]
      split
      next => exact .refl _
      next =>
        exact ((hOperand _ _ _).weaken (by omega)).range
          ((hLow _ _ _).weaken (by omega)) ((hHigh _ _ _).weaken (by omega))
| .call _ (.many args) _ =>
    have hArgs := Arguments.persists hLevels args
    persists_of_allowed hLevels fun _ _ hDeep hMore => by
      simp only [Node.render, hDeep, hMore, Bool.false_eq_true, if_false]
      exact ((hArgs _ _).map _).weaken (Nat.succ_add_eq_add_succ _ _).le
| .call _ .vacant _ | .call _ (.one _) _ =>
    persists_of_allowed hLevels fun _ _ hDeep hMore => by
      simp only [Node.render, hDeep, hMore, Bool.false_eq_true, if_false]
      exact .refl _
| .alias node _ =>
    have hNode := node.persists hLevels
    persists_of_allowed hLevels fun _ _ hDeep hMore => by
      simp only [Node.render, hDeep, hMore, Bool.false_eq_true, if_false]
      split
      next => exact .refl _
      next => exact ((hNode _ _ _).weaken (Nat.succ_add_eq_add_succ _ _).le).pair _ (.refl _)
| .orderBy node _ =>
    have hNode := node.persists hLevels
    persists_of_allowed hLevels fun _ _ hDeep hMore => by
      simp only [Node.render, hDeep, hMore, Bool.false_eq_true, if_false]
      exact ((hNode _ _ _).map _).weaken (Nat.succ_add_eq_add_succ _ _).le
| .table _ _ _ _ condition =>
    have hCondition := condition.persists hLevels
    persists_of_allowed hLevels fun _ _ hDeep hMore => by
      simp only [Node.render, hDeep, hMore, Bool.false_eq_true, if_false]
      exact (RenderContext.Persists.refl _).bind fun _ =>
        (RenderContext.Persists.refl _).bind fun _ =>
          ((hCondition _ _ _).weaken (Nat.succ_add_eq_add_succ _ _).le).bind fun _ => .refl _
| .select query =>
    have hQuery := query.persists hLevels
    persists_of_allowed hLevels fun _ _ hDeep hMore => by
      simp only [Node.render, hDeep, hMore, Bool.false_eq_true, if_false]
      exact ((hQuery _ _).map _).weaken (Nat.succ_add_eq_add_succ _ _).le
| .subquery .vacant _ | .subquery (.many _) _ =>
    persists_of_allowed hLevels fun _ _ hDeep hMore => by
      simp only [Node.render, hDeep, hMore, Bool.false_eq_true, if_false]
      exact .refl _
| .subquery (.one n) _ =>
    persists_of_allowed hLevels fun _ _ hDeep hMore => by
      cases n with
      | select query =>
          have hQuery := query.persists hLevels
          simp only [Node.render, hDeep, hMore, Bool.false_eq_true, if_false]
          exact ((hQuery _ _).weaken (Nat.succ_add_eq_add_succ _ _).le).bind fun _ =>
            (RenderContext.Persists.refl _).bind fun _ => .refl _
      | _ =>
          simp only [Node.render, hDeep, hMore, Bool.false_eq_true, if_false]
          exact .refl _
termination_by structural n => n

theorem Slot.persists
    (hLevels : ctx.maxDepth ≤ levels) :
    ∀ slot : Slot Node, slot.Persists ctx levels
| .vacant, _, _, _ => by
    simp only [Node.renderSlot]
    exact .refl _
| .one n, _, _, _ => by
    simp only [Node.renderSlot, Node.slotHeight]
    exact (n.persists hLevels _ _).map _
| .many members, _, _, _ => by
    simp only [Node.renderSlot, Node.slotHeight]
    exact (Members.persists hLevels members _ _).map _
termination_by structural slot => slot

theorem Members.persists
    (hLevels : ctx.maxDepth ≤ levels) :
    ∀ members : List (Option Node), Members.Persists ctx levels members
| [], _, _ => by
    simp only [Node.renderMembers]
    exact .refl _
| none :: members, _, _ => Members.persists hLevels members _ _
| some n :: members, _, _ => by
    have hFirst := n.persists hLevels
    have hRest := Members.persists hLevels members
    simp only [Node.renderMembers, Node.listHeight]
    exact ((hFirst _ _).weaken (by omega)).bind fun _ =>
      ((hRest _ _).weaken (by omega)).bind fun _ => .refl _
termination_by structural members => members

theorem Arguments.persists
    (hLevels : ctx.maxDepth ≤ levels) :
    ∀ args : List (Option Node), Arguments.Persists ctx levels args
| [], _, _ => by
    simp only [Node.renderArgs]
    exact .refl _
| none :: _, _, _ => by
    simp only [Node.renderArgs]
    exact .refl _
| some n :: args, _, _ => by
    have hFirst := n.persists hLevels
    have hRest := Arguments.persists hLevels args
    simp only [Node.renderArgs, Node.listHeight]
    refine ((hFirst _ _).weaken (by omega)).bind fun text => ?_
    cases text.bind present with
    | none => exact .refl _
    | some text =>
        exact ((hRest _ _).weaken (by omega)).bind fun _ => .refl _
termination_by structural args => args

theorem Query.persists
    (hLevels : ctx.maxDepth ≤ levels) :
    ∀ query : Query Node, query.Persists ctx levels
| ⟨columns, source, filter, groups, having, order, limit, offset, _, _⟩ =>
    persists_query (columns.persists hLevels) (source.persists hLevels)
      (filter.persists hLevels) (groups.persists hLevels)
      (having.persists hLevels) (order.persists hLevels)
      (limit.persists hLevels) (offset.persists hLevels)
termination_by structural query => query

end

------------------------------------------------------------
-- Levels That Are Written
------------------------------------------------------------

/- All levels before the given one are allowed. -/
def RenderContext.Allows
    (ctx : RenderContext)
    (bound : Nat) : Prop :=
  bound ≤ ctx.maxDepth + 1

theorem allows_of_not_tooDeep
    {depth : Nat}
    (hDeep : ctx.isTooDeep depth = false) :
    ctx.Allows (depth + 1) := by
  have hAllowed := of_decide_eq_false hDeep
  unfold RenderContext.Allows
  omega

theorem RenderContext.Allows.max
    {depth first second : Nat}
    (hFirst : ctx.Allows (depth + first))
    (hSecond : ctx.Allows (depth + second)) :
    ctx.Allows (depth + Max.max first second) := by
  unfold RenderContext.Allows at *
  omega

section

variable (ctx)

/- A node is written only if all of its levels are allowed. -/
def Node.Reaches (n : Node) : Prop :=
  ∀ (depth : Nat) (indent : Int) (text : Option String),
    n.render ctx depth indent = .ok text → ctx.Allows (depth + n.height)

/- The same of the content of a slot of an allowed node. -/
def Slot.Reaches (slot : Slot Node) : Prop :=
  ∀ (depth : Nat) (indent : Int) (separator : String)
    (text : Option String),
    ctx.Allows depth →
      Node.renderSlot ctx depth indent separator slot = .ok text →
        ctx.Allows (depth + Node.slotHeight slot)

/- The same of the members of a list. -/
def Members.Reaches (members : List (Option Node)) : Prop :=
  ∀ (depth : Nat) (indent : Int) (texts : List String),
    ctx.Allows depth →
      Node.renderMembers ctx depth indent members = .ok texts →
        ctx.Allows (depth + Node.listHeight members)

/- The same of the arguments of a call. -/
def Arguments.Reaches (args : List (Option Node)) : Prop :=
  ∀ (depth : Nat) (indent : Int) (texts : Option (List String)),
    ctx.Allows depth →
      Node.renderArgs ctx depth indent args = .ok texts →
        ctx.Allows (depth + Node.listHeight args)

/- The same of a query at the depth of the node that holds it. -/
def Query.Reaches (query : Query Node) : Prop :=
  ∀ (depth : Nat) (indent : Int) (s : String),
    ctx.Allows (depth + 1) →
      Node.renderQuery ctx depth indent query = .ok s →
        ctx.Allows (depth + 1 + Node.queryHeight query)

end

/- A node reaches its levels if its parts reach theirs. -/
theorem reaches_of_parts
    {n : Node}
    {inner : Nat}
    (hHeight : n.height = inner + 1)
    (hParts : ∀ (depth : Nat) (indent : Int) (text : Option String),
      ctx.isTooDeep depth = false → ctx.Allows (depth + 1) →
        n.render ctx depth indent = .ok text →
          ctx.Allows (depth + 1 + inner)) :
    n.Reaches ctx := by
  intro depth indent text hRender
  have hDeep := not_tooDeep_of_render hRender
  rw [hHeight, ← Nat.succ_add_eq_add_succ]
  exact hParts depth indent text hDeep (allows_of_not_tooDeep hDeep) hRender

/- Parameters that have values are supplied. -/
theorem supplies_of_fills
    {slot : Slot Node}
    (hFills : ctx.bindings.Fills (Node.slotParameters slot)) :
    ∀ m ∈ Node.slotStanding ctx.bindings slot,
      ctx.bindings.supplies m = true := by
  intro m hMember
  rw [slot.standing_eq_fragments hFills] at hMember
  unfold Bindings.supplies
  split
  next name hName =>
    apply hFills
    rw [slot.parameterList_eq]
    exact List.mem_filterMap.mpr ⟨m, hMember, hName⟩
  next => rfl

/- An operand is present if its parameters have values. -/
theorem present_of_fills
    {P : Node → Prop}
    {slot : Slot Node}
    {depth : Nat}
    {indent : Int}
    {separator : String}
    {text : Option String}
    (hHolds : slot.Holds P)
    (hWellFormed : slot.WellFormed)
    (hShaped : slot.Shaped)
    (hFills : ctx.bindings.Fills (Node.slotParameters slot))
    (hRender :
      Node.renderSlot ctx depth indent separator slot = .ok text) :
    ∃ s, text = some s := by
  have hStands := slot.stands hWellFormed hShaped
    (isFilled_of_holds hHolds) fun _ => supplies_of_fills hFills
  rcases hStands.given (isVacant_of_holds hHolds) hRender with ⟨s, hText, _⟩
  exact ⟨s, hText⟩

theorem reaches_rightText
    {op : BinaryOp}
    {right : Slot Node}
    {depth : Nat}
    {indent : Int}
    {text : Option String}
    (hRight : right.Reaches ctx)
    (hAllowed : ctx.Allows (depth + 1))
    (hText : rightText ctx depth indent op right = .ok text) :
    ctx.Allows
      (depth + 1 + op.rightHeight right (Node.slotHeight right)) := by
  unfold rightText at hText
  unfold BinaryOp.rightHeight
  split at hText
  next hBare =>
    rcases grouped_eq_ok hText with ⟨hDeep, inner, hInner, _⟩
    have hBrackets : ctx.Allows (depth + 2) := allows_of_not_tooDeep hDeep
    have hReached := hRight (depth + 2) indent " " inner hBrackets hInner
    rw [if_pos hBare]
    unfold RenderContext.Allows at *
    omega
  next hBare =>
    rw [if_neg hBare]
    exact hRight _ _ _ _ hAllowed hText

/-
  Both operands of an operator are written if all parameters in
  them have values.
-/
theorem reaches_binary
    {op : BinaryOp}
    {left right : Slot Node}
    (hNode : (Node.binary op left right).WellFormed)
    (hShaped : (Node.binary op left right).Shaped)
    (hFills : ctx.bindings.Fills (Node.binary op left right).parameterList)
    (hLeft : left.Reaches ctx)
    (hRight : right.Reaches ctx) :
    (Node.binary op left right).Reaches ctx := by
  rcases fills_append.mp hFills with ⟨hLeftFills, hRightFills⟩
  have hOpen : ctx.isUnbound right = false :=
    leavesOpen_of_supplied (supplies_of_fills hRightFills)
  apply reaches_of_parts rfl
  intro depth indent text hDeep hAllowed hRender
  simp only [Node.render, hDeep, isVacant_of_holds hNode.1,
    isVacant_of_holds hNode.2.1, hOpen, Bool.or_self, Bool.and_false,
    Bool.false_eq_true, if_false] at hRender
  rcases operands_eq_ok hRender with ⟨_, hEmpties, _⟩ | ⟨_, _, hPair⟩
  · rw [empties_of_fills hRightFills] at hEmpties
    cases hEmpties
  rcases pair_eq_ok hPair with ⟨hText, _⟩ | ⟨s, hText, other, hOther, _⟩
  · rcases present_of_fills hNode.1 hNode.2.2.1 hShaped.1 hLeftFills hText
      with ⟨s, hSome⟩
    cases hSome
  · exact (hLeft _ _ _ _ hAllowed hText).max
      (reaches_rightText hRight hAllowed hOther)

theorem reaches_between
    {operand low high : Slot Node}
    (hNode : (Node.between operand low high).WellFormed)
    (hShaped : (Node.between operand low high).Shaped)
    (hFills :
      ctx.bindings.Fills (Node.between operand low high).parameterList)
    (hOperand : operand.Reaches ctx)
    (hLow : low.Reaches ctx)
    (hHigh : high.Reaches ctx) :
    (Node.between operand low high).Reaches ctx := by
  have hOperandFills := (fills_append.mp (fills_append.mp hFills).1).1
  apply reaches_of_parts rfl
  intro depth indent text hDeep hAllowed hRender
  simp only [Node.render, hDeep, isVacant_of_holds hNode.1,
    Bool.false_eq_true, if_false] at hRender
  rcases range_eq_ok hRender with
    ⟨hText, _⟩ | ⟨s, lowText, highText, hText, hLowText, hHighText, _⟩
  · rcases present_of_fills hNode.1 hNode.2.2.2.1 hShaped.1 hOperandFills
      hText with ⟨s, hSome⟩
    cases hSome
  · exact (hOperand _ _ _ _ hAllowed hText).max
      ((hLow _ _ _ _ hAllowed hLowText).max
        (hHigh _ _ _ _ hAllowed hHighText))

theorem reaches_query
    {query : Query Node}
    (hColumns : query.columns.Reaches ctx)
    (hSource : query.source.Reaches ctx)
    (hFilter : query.filter.Reaches ctx)
    (hGroups : query.groups.Reaches ctx)
    (hHaving : query.having.Reaches ctx)
    (hOrder : query.order.Reaches ctx)
    (hLimit : query.limit.Reaches ctx)
    (hOffset : query.offset.Reaches ctx) :
    query.Reaches ctx := by
  rcases query with ⟨columns, source, filter, groups, having, order,
    limit, offset, distinct, options⟩
  intro depth indent s hAllowed hRender
  rcases renderQuery_eq_ok.mp hRender with ⟨_, texts, line, hTexts, _, _⟩
  exact (hColumns _ _ _ _ hAllowed hTexts.columns).max
    ((hSource _ _ _ _ hAllowed hTexts.source).max
      ((hFilter _ _ _ _ hAllowed hTexts.filter).max
        ((hGroups _ _ _ _ hAllowed hTexts.groups).max
          ((hHaving _ _ _ _ hAllowed hTexts.having).max
            ((hOrder _ _ _ _ hAllowed hTexts.order).max
              ((hLimit _ _ _ _ hAllowed hTexts.limit).max
                (hOffset _ _ _ _ hAllowed hTexts.offset)))))))

/- A node without parts reaches its only level. -/
theorem reaches_leaf
    {n : Node}
    (hHeight : n.height = 1) :
    n.Reaches ctx :=
  reaches_of_parts hHeight fun _ _ _ _ hAllowed _ => hAllowed

theorem reaches_vacant : (Slot.vacant : Slot Node).Reaches ctx :=
  fun _ _ _ _ hAllowed _ => hAllowed

theorem reaches_one
    {n : Node}
    (hNode : n.Reaches ctx) :
    (Slot.one n).Reaches ctx := by
  intro depth indent separator text _ hRender
  rw [Node.renderSlot] at hRender
  rcases map_eq_ok.mp hRender with ⟨nodeText, hText, _⟩
  exact hNode _ _ _ hText

theorem reaches_limit
    {slot : Slot Node}
    (hLimit : slot.IsLimit) :
    slot.Reaches ctx := by
  unfold Slot.IsLimit at hLimit
  split at hLimit
  next => exact reaches_vacant
  next => exact reaches_one (reaches_leaf rfl)
  next => exact reaches_one (reaches_leaf rfl)
  next => exact hLimit.elim

mutual

/-
  A well-formed tree is written only if all of its levels are
  allowed, if its parameters have values.
-/
theorem Node.reaches :
    ∀ n : Node, n.WellFormed → n.Shaped →
      ctx.bindings.Fills n.parameterList → n.Reaches ctx
| .column .., _, _, _ | .literal _, _, _, _ | .parameter _, _, _, _ =>
    reaches_leaf rfl
| .raw _, hNode, _, _ | .numeral _, hNode, _, _
| .foreign _, hNode, _, _ => hNode.elim
| .group members _ _, hNode, hShaped, hFills =>
    have hMembers := members.reaches hNode.2.2 hShaped.2 hFills
    reaches_of_parts rfl fun _ _ _ hDeep hAllowed hRender => by
      simp only [Node.render, hDeep, Bool.false_eq_true, if_false]
        at hRender
      rcases map_eq_ok.mp hRender with ⟨_, hText, _⟩
      exact hMembers _ _ _ _ hAllowed hText
| .binary _ left right, hNode, hShaped, hFills =>
    have hBoth := fills_append.mp hFills
    reaches_binary hNode hShaped hFills
      (left.reaches hNode.2.2.1 hShaped.1 hBoth.1)
      (right.reaches hNode.2.2.2 hShaped.2 hBoth.2)
| .connective _ operands, hNode, hShaped, hFills =>
    have hOperands := operands.reaches hNode.2 hShaped hFills
    reaches_of_parts rfl fun _ _ _ hDeep hAllowed hRender => by
      simp only [Node.render, hDeep, Bool.false_eq_true, if_false]
        at hRender
      exact hOperands _ _ _ _ hAllowed hRender
| .unary _ operand, hNode, hShaped, hFills =>
    have hOperand := operand.reaches hNode.2 hShaped hFills
    reaches_of_parts rfl fun _ _ _ hDeep hAllowed hRender => by
      simp only [Node.render, hDeep, isVacant_of_holds hNode.1,
        Bool.false_eq_true, if_false] at hRender
      rcases map_eq_ok.mp hRender with ⟨_, hText, _⟩
      exact hOperand _ _ _ _ hAllowed hText
| .between operand low high, hNode, hShaped, hFills =>
    have hBoth := fills_append.mp hFills
    have hFirst := fills_append.mp hBoth.1
    reaches_between hNode hShaped hFills
      (operand.reaches hNode.2.2.2.1 hShaped.1 hFirst.1)
      (low.reaches hNode.2.2.2.2.1 hShaped.2.1 hFirst.2)
      (high.reaches hNode.2.2.2.2.2 hShaped.2.2 hBoth.2)
| .call _ (.many args) _, hNode, hShaped, hFills =>
    have hArgs := Arguments.reaches args hNode.2 hShaped
      (fun arg hArg => isSome_of_exists (hNode.1.2 arg hArg)) hFills
    reaches_of_parts rfl fun _ _ _ hDeep hAllowed hRender => by
      simp only [Node.render, hDeep, Bool.false_eq_true, if_false]
        at hRender
      rcases map_eq_ok.mp hRender with ⟨_, hTexts, _⟩
      exact hArgs _ _ _ hAllowed hTexts
| .call _ .vacant _, hNode, _, _ => hNode.1.elim
| .call _ (.one _) _, hNode, _, _ => hNode.1.elim
| .alias node _, hNode, hShaped, hFills =>
    have hInner := node.reaches hNode.2.2 hShaped hFills
    reaches_of_parts rfl fun _ _ _ hDeep hAllowed hRender => by
      simp only [Node.render, hDeep, isVacant_of_holds hNode.2.1,
        Bool.false_eq_true, if_false] at hRender
      rcases pair_eq_ok hRender with ⟨hText, _⟩ | ⟨_, hText, _⟩
      · exact hInner _ _ _ _ hAllowed hText
      · exact hInner _ _ _ _ hAllowed hText
| .orderBy node _, hNode, hShaped, hFills =>
    have hInner := node.reaches hNode.2 hShaped.2 hFills
    reaches_of_parts rfl fun _ _ _ hDeep hAllowed hRender => by
      simp only [Node.render, hDeep, Bool.false_eq_true, if_false]
        at hRender
      rcases map_eq_ok.mp hRender with ⟨_, hText, _⟩
      exact hInner _ _ _ _ hAllowed hText
| .table _ _ _ _ condition, hNode, hShaped, hFills =>
    have hCondition := condition.reaches hNode.2.2.2.2 hShaped.2 hFills
    reaches_of_parts rfl fun _ _ _ hDeep hAllowed hRender => by
      simp only [Node.render, hDeep, Bool.false_eq_true, if_false]
        at hRender
      rcases bind_eq_ok.mp hRender with ⟨_, _, hRest⟩
      rcases bind_eq_ok.mp hRest with ⟨_, _, hRest⟩
      rcases bind_eq_ok.mp hRest with ⟨_, hText, _⟩
      exact hCondition _ _ _ _ hAllowed hText
| .select query, hNode, hShaped, hFills =>
    have hQuery := query.reaches hNode hShaped hFills
    reaches_of_parts rfl fun _ _ _ hDeep hAllowed hRender => by
      simp only [Node.render, hDeep, Bool.false_eq_true, if_false]
        at hRender
      rcases map_eq_ok.mp hRender with ⟨_, hText, _⟩
      exact hQuery _ _ _ hAllowed hText
| .subquery (.one (.select query)) _, hNode, hShaped, hFills =>
    have hQuery := query.reaches hNode.2.2 hShaped hFills
    reaches_of_parts rfl fun _ _ _ hDeep hAllowed hRender => by
      simp only [Node.render, hDeep, Bool.false_eq_true, if_false]
        at hRender
      rcases bind_eq_ok.mp hRender with ⟨_, hText, _⟩
      exact hQuery _ _ _ hAllowed hText
termination_by structural n => n

theorem Slot.reaches :
    ∀ slot : Slot Node, slot.WellFormed → slot.Shaped →
      ctx.bindings.Fills (Node.slotParameters slot) → slot.Reaches ctx
| .vacant, _, _, _ => reaches_vacant
| .one n, hNode, hShaped, hFills =>
    reaches_one (n.reaches hNode hShaped hFills)
| .many members, hMembers, hShaped, hFills => by
    have hReaches := Members.reaches members hMembers hShaped hFills
    intro depth indent separator text hAllowed hRender
    rw [Node.renderSlot] at hRender
    rcases map_eq_ok.mp hRender with ⟨texts, hTexts, _⟩
    exact hReaches _ _ _ hAllowed hTexts
termination_by structural slot => slot

theorem Members.reaches :
    ∀ members : List (Option Node),
      Members.WellFormed members → Members.Shaped members →
        ctx.bindings.Fills (Node.listParameters members) →
          Members.Reaches ctx members
| [], _, _, _ => fun _ _ _ hAllowed _ => hAllowed
| none :: members, hMembers, hShaped, hFills =>
    Members.reaches members hMembers hShaped hFills
| some n :: members, hMembers, hShaped, hFills => by
    have hBoth := fills_append.mp hFills
    have hFirst := n.reaches hMembers.1 hShaped.1 hBoth.1
    have hRest := Members.reaches members hMembers.2 hShaped.2 hBoth.2
    intro depth indent texts hAllowed hRender
    rcases renderMembers_some_eq_ok.mp hRender with
      ⟨_, _, hText, hTexts, _⟩
    exact (hFirst _ _ _ hText).max (hRest _ _ _ hAllowed hTexts)
termination_by structural members => members

theorem Arguments.reaches :
    ∀ args : List (Option Node),
      Members.WellFormed args → Members.Shaped args →
        (∀ arg ∈ args, arg.isSome = true) →
          ctx.bindings.Fills (Node.listParameters args) →
            Arguments.Reaches ctx args
| [], _, _, _, _ => fun _ _ _ hAllowed _ => hAllowed
| none :: _, _, _, hFilled, _ => by
    have hNone := hFilled none List.mem_cons_self
    cases hNone
| some n :: args, hArgs, hShaped, hFilled, hFills => by
    have hBoth := fills_append.mp hFills
    have hFirst := n.reaches hArgs.1 hShaped.1 hBoth.1
    have hRest := Arguments.reaches args hArgs.2 hShaped.2
      (List.forall_mem_cons.mp hFilled).2 hBoth.2
    have hSupplies := @supplies_of_fills ctx (.one n) hBoth.1
    have hStands := n.stands hArgs.1 hShaped.1 fun _ => hSupplies
    intro depth indent texts hAllowed hRender
    rw [Node.renderArgs] at hRender
    rcases bind_eq_ok.mp hRender with ⟨text, hText, hOthers⟩
    rcases hStands _ _ _ hText with ⟨s, rfl, hCarries⟩
    rw [Option.bind_some, present_of_ne_empty hCarries.present] at hOthers
    rcases bind_eq_ok.mp hOthers with ⟨_, hTexts, _⟩
    exact (hFirst _ _ _ hText).max (hRest _ _ _ hAllowed hTexts)
termination_by structural args => args

theorem Query.reaches :
    ∀ query : Query Node, query.WellFormed → query.Shaped →
      ctx.bindings.Fills (Node.queryParameters query) → query.Reaches ctx
| ⟨columns, source, filter, groups, having, order, limit, offset, _, _⟩,
    hQuery, hShaped, hFills => by
    rcases hQuery with ⟨_, _, _, _, _, _, hLimit, hOffset, _, hColumns,
      hSource, hFilter, hGroups, hHaving, hOrder⟩
    rcases hShaped with ⟨hColumnShape, hSourceShape, hFilterShape,
      hGroupShape, hHavingShape, hOrderShape, _⟩
    simp only [Node.queryParameters, fills_append] at hFills
    rcases hFills with ⟨⟨⟨⟨⟨⟨⟨hColumnFills, hSourceFills⟩, hFilterFills⟩,
      hGroupFills⟩, hHavingFills⟩, hOrderFills⟩, _⟩, _⟩
    exact reaches_query
      (columns.reaches hColumns hColumnShape hColumnFills)
      (source.reaches hSource hSourceShape hSourceFills)
      (filter.reaches hFilter hFilterShape hFilterFills)
      (groups.reaches hGroups hGroupShape hGroupFills)
      (having.reaches hHaving hHavingShape hHavingFills)
      (order.reaches hOrder hOrderShape hOrderFills)
      (reaches_limit hLimit) (reaches_limit hOffset)
termination_by structural query => query

end

------------------------------------------------------------
-- Errors about the Depth
------------------------------------------------------------

/- What a node raises itself is not about its depth. -/
theorem not_blamesDepth_of_raises
    {n : Node}
    {e : RenderError}
    (hRaised : n.Raises ctx e) :
    e.blamesDepth = false := by
  cases Node.canRaise_of_raises hRaised <;> rfl

/- An error about a depth names the depth that is allowed. -/
theorem eq_tooDeep_of_render
    {n : Node}
    {e : RenderError}
    (hError : ctx.render n = .error e)
    (hBlames : e.blamesDepth = true) :
    ∃ depth, e = .tooDeep depth ctx.maxDepth := by
  rcases render_raises hError with hDeep | ⟨m, _, hRaised⟩
  · exact hDeep
  · rw [not_blamesDepth_of_raises hRaised] at hBlames
    cases hBlames

------------------------------------------------------------
-- Whole Trees
------------------------------------------------------------

/- A tree is not written because a part of it lies too deep. -/
def RenderContext.Overruns
    (ctx : RenderContext)
    (n : Node) : Prop :=
  ∃ e, ctx.render n = .error e ∧ e.blamesDepth = true

theorem render_persists
    (hLevels : ctx.maxDepth ≤ levels)
    (n : Node) :
    ctx.Persists (1 + n.height) (ctx.render n)
      ((ctx.withDepth levels).render n) := by
  have hSlot := (Slot.one n).persists hLevels 1 0 " "
  exact hSlot.map _

/- A tree with as many levels as are allowed does not lie too deep. -/
theorem not_overruns_of_height
    {n : Node}
    (hHeight : n.height ≤ ctx.maxDepth) :
    ¬ ctx.Overruns n := by
  rintro ⟨e, hError, hBlames⟩
  rcases eq_tooDeep_of_render hError hBlames with ⟨depth, rfl⟩
  rcases render_persists (Int.le_add_one ctx.maxDepth.le_refl) n with
    hSame | ⟨level, hBelow, hDeep, _⟩
  · -- One error cannot name two depths that are allowed.
    rw [hError] at hSame
    rcases eq_tooDeep_of_render hSame hBlames with ⟨_, hNamed⟩
    have hLimit : ctx.maxDepth = ctx.maxDepth + 1 :=
      (RenderError.tooDeep.inj hNamed).2
    omega
  · have hLimit := of_decide_eq_true hDeep
    omega

/- What is written with some levels is written alike with more. -/
theorem render_withDepth_of_not_overruns
    {n : Node}
    (hLevels : ctx.maxDepth ≤ levels)
    (hWritten : ¬ ctx.Overruns n) :
    (ctx.withDepth levels).render n = ctx.render n := by
  rcases render_persists hLevels n with hSame | ⟨depth, _, _, hError⟩
  · exact hSame
  · exact absurd ⟨_, hError, rfl⟩ hWritten

/- A text is written only if all levels of the tree are allowed. -/
theorem height_le_of_render
    {n : Node}
    {text : String}
    (hNode : n.WellFormed)
    (hShaped : n.Shaped)
    (hFills : ctx.bindings.Fills n.parameterList)
    (hRender : ctx.render n = .ok text) :
    n.height ≤ ctx.maxDepth := by
  rw [RenderContext.render, Node.renderSlot] at hRender
  rcases map_eq_ok.mp hRender with ⟨_, hSlot, _⟩
  rcases map_eq_ok.mp hSlot with ⟨nodeText, hText, _⟩
  have hReached : ctx.Allows (1 + n.height) :=
    n.reaches hNode hShaped hFills 1 0 nodeText hText
  unfold RenderContext.Allows at hReached
  omega

/-
  If a statement can be written with enough levels, and all of
  its parameters have values, then it lies too deep exactly if
  its height is not allowed.
-/
theorem overruns_iff
    {sql text : String}
    {n : Node}
    (hParse : parse sql = .ok n)
    (hFills : ∀ name ∈ n.parameterNames, ctx.bindings.fills name = true)
    (hRender : (ctx.withDepth levels).render n = .ok text) :
    ctx.Overruns n ↔ ctx.maxDepth < n.height := by
  rcases wellFormed_of_parse hParse with ⟨query, rfl, hQuery⟩
  have hNode : (Node.select query).WellFormed := hQuery
  have hValues : ctx.bindings.Fills (Node.select query).parameterList :=
    fun name hName => hFills name (mem_distinctNames.mpr hName)
  constructor
  · intro hOverruns
    by_contra hHigh
    exact not_overruns_of_height (not_lt.mp hHigh) hOverruns
  · intro hHigh
    by_contra hWritten
    -- With the greater of both limits it is written as with each.
    let most := max ctx.maxDepth levels
    have hOften : ¬ (ctx.withDepth levels).Overruns (.select query) := by
      rintro ⟨e, hError, _⟩
      rw [hRender] at hError
      cases hError
    have hMost : (ctx.withDepth most).render (.select query) = .ok text := by
      have hLimit : (ctx.withDepth levels).maxDepth ≤ most :=
        le_max_right _ _
      exact (render_withDepth_of_not_overruns hLimit hOften).trans hRender
    rw [render_withDepth_of_not_overruns (le_max_left _ _) hWritten]
      at hMost
    have hAllowed := height_le_of_render hNode (shaped_of_parse hParse)
      hValues hMost
    exact absurd hAllowed (not_le.mpr hHigh)

/-
  The greatest depth is exact.  It is never an error for a tree
  of that height; whatever a tree comes to if it does not lie
  too deep, it comes to with more levels; and a statement that
  can be written at all, and whose parameters, if it has any,
  all have values, lies too deep exactly if its height is not
  allowed.
-/
theorem depth_limit_is_exact
    {ctx : RenderContext}
    {n : Node} :
    (n.height ≤ ctx.maxDepth → ¬ ctx.Overruns n) ∧
      (¬ ctx.Overruns n →
        ∀ levels ≥ ctx.maxDepth,
          (ctx.withDepth levels).render n = ctx.render n) ∧
      ∀ (sql text : String) (levels : Int),
        parse sql = .ok n →
          (∀ name ∈ n.parameterNames, ctx.bindings.fills name = true) →
            (ctx.withDepth levels).render n = .ok text →
              (ctx.Overruns n ↔ ctx.maxDepth < n.height) := by
  refine ⟨not_overruns_of_height, ?_, ?_⟩
  · intro hWritten levels hLevels
    exact render_withDepth_of_not_overruns hLevels hWritten
  · intro sql text levels hParse hFills hRender
    exact overruns_iff hParse hFills hRender

/- A template with a subquery below a list of values. -/
def layeredTemplate : String :=
  "SELECT a FROM t WHERE b IN (1, -2) AND c = (SELECT d FROM u)"

/- A context without parameters that allows four levels. -/
def shallowContext : RenderContext where
  dialect := .mysql
  bindings := .ofList []
  inline := true
  maxDepth := 4

theorem depth_limit_is_exact_of_layers :
    ∃ tree text,
      parse layeredTemplate = .ok tree ∧ tree.height = 5 ∧
        tree.parameterNames = [] ∧ shallowContext.Overruns tree ∧
          (shallowContext.withDepth 5).render tree = .ok text ∧
            ¬ (shallowContext.withDepth 5).Overruns tree ∧
              ∀ levels ≥ 5,
                (shallowContext.withDepth levels).render tree =
                  .ok text := by
  have hCheck :
      parsesTo layeredTemplate (fun tree =>
        tree.height = 5 ∧ tree.parameterNames = [] ∧
          ((shallowContext.withDepth 5).render tree).toOption =
            some ("SELECT a\nFROM t\nWHERE b IN (1, -2) AND c = " ++
              "(SELECT d\n  FROM u)")) = true := by
    decide +kernel
  rcases exists_of_parse hCheck with ⟨tree, hParse, hHeight, hNames, hText⟩
  have hRender := eq_ok_of_toOption hText
  have hOver : shallowContext.Overruns tree := by
    refine (depth_limit_is_exact.2.2 _ _ 5 hParse ?_ hRender).mpr ?_
    · rw [hNames]
      exact nofun
    · rw [hHeight]
      decide
  have hAllowed : tree.height ≤ (shallowContext.withDepth 5).maxDepth := by
    rw [hHeight]
    decide
  have hWritten := depth_limit_is_exact.1 hAllowed
  refine ⟨tree, _, hParse, hHeight, hNames, hOver, hRender, hWritten, ?_⟩
  intro levels hLevels
  exact (depth_limit_is_exact.2.1 hWritten levels hLevels).trans hRender

end SqlTemplate
