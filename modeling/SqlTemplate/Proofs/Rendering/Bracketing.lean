import SqlTemplate.Rendering.Settled

/-
  Trees that differ in brackets after IN only: in some of the
  places where a parameter stood alone as a list of values, it
  is now the only member of a group in brackets.  No rendering
  can tell such trees apart.

  Key definitions include:
    * `Node.Brackets`
    * `Slot.Brackets`
    * `Members.Brackets`
    * `Query.Brackets`

  Correctness is proven by:
    * `Node.Brackets.trans`
    * `Node.Brackets.render_eq`
    * `Node.brackets_settled`
-/

------------------------------------------------------------
-- Bracketed Trees
------------------------------------------------------------

namespace SqlTemplate

mutual

/-
  The second node is the first one with some of the parameters
  that stood alone after IN in brackets.
-/
inductive Node.Brackets : Node → Node → Prop
| refl (n : Node) : Node.Brackets n n
| group {members members' : Slot Node}
    (brackets : Bool) (delimiter : String)
    (h : Slot.Brackets members members') :
    Node.Brackets (.group members brackets delimiter)
      (.group members' brackets delimiter)
| binary {left left' right right' : Slot Node}
    (op : BinaryOp)
    (hLeft : Slot.Brackets left left')
    (hRight : Slot.Brackets right right') :
    Node.Brackets (.binary op left right)
      (.binary op left' right')
| list {left left' : Slot Node}
    (op : BinaryOp) (hOp : op.isMembership = true)
    (hLeft : Slot.Brackets left left')
    (n : Node) (hParameter : n.isParameter = true) :
    Node.Brackets (.binary op left (.one n))
      (.binary op left' (.one n.bracketed))
| connective {operands operands' : Slot Node}
    (op : ConnectiveOp)
    (h : Slot.Brackets operands operands') :
    Node.Brackets (.connective op operands)
      (.connective op operands')
| unary {operand operand' : Slot Node}
    (op : UnaryOp)
    (h : Slot.Brackets operand operand') :
    Node.Brackets (.unary op operand) (.unary op operand')
| between {operand operand' low low' high high' : Slot Node}
    (hOperand : Slot.Brackets operand operand')
    (hLow : Slot.Brackets low low')
    (hHigh : Slot.Brackets high high') :
    Node.Brackets (.between operand low high)
      (.between operand' low' high')
| call {args args' : Slot Node}
    (name : String) (distinct : Bool)
    (h : Slot.Brackets args args') :
    Node.Brackets (.call name args distinct)
      (.call name args' distinct)
| alias {node node' : Slot Node}
    (name : String)
    (h : Slot.Brackets node node') :
    Node.Brackets (.alias node name) (.alias node' name)
| orderBy {node node' : Slot Node}
    (direction : Option String)
    (h : Slot.Brackets node node') :
    Node.Brackets (.orderBy node direction)
      (.orderBy node' direction)
| table {condition condition' : Slot Node}
    (name : String) (label database join : Option String)
    (h : Slot.Brackets condition condition') :
    Node.Brackets (.table name label database join condition)
      (.table name label database join condition')
| select {query query' : Query Node}
    (h : Query.Brackets query query') :
    Node.Brackets (.select query) (.select query')
| subquery {query query' : Slot Node}
    (label : Option String)
    (h : Slot.Brackets query query') :
    Node.Brackets (.subquery query label)
      (.subquery query' label)

/- The same for the content of slots. -/
inductive Slot.Brackets : Slot Node → Slot Node → Prop
| vacant : Slot.Brackets .vacant .vacant
| one {n n' : Node} (h : Node.Brackets n n') :
    Slot.Brackets (.one n) (.one n')
| many {members members' : List (Option Node)}
    (h : Members.Brackets members members') :
    Slot.Brackets (.many members) (.many members')

/- The same for the members of lists, place by place. -/
inductive Members.Brackets :
    List (Option Node) → List (Option Node) → Prop
| nil : Members.Brackets [] []
| gap {members members' : List (Option Node)}
    (h : Members.Brackets members members') :
    Members.Brackets (none :: members) (none :: members')
| cons {n n' : Node} {members members' : List (Option Node)}
    (hNode : Node.Brackets n n')
    (h : Members.Brackets members members') :
    Members.Brackets (some n :: members) (some n' :: members')

/- The same for the slots of queries. -/
inductive Query.Brackets : Query Node → Query Node → Prop
| mk {columns columns' source source' filter filter' groups groups'
      having having' order order' limit limit' offset offset' :
      Slot Node}
    (distinct : Bool) (options : List String)
    (hColumns : Slot.Brackets columns columns')
    (hSource : Slot.Brackets source source')
    (hFilter : Slot.Brackets filter filter')
    (hGroups : Slot.Brackets groups groups')
    (hHaving : Slot.Brackets having having')
    (hOrder : Slot.Brackets order order')
    (hLimit : Slot.Brackets limit limit')
    (hOffset : Slot.Brackets offset offset') :
    Query.Brackets
      ⟨columns, source, filter, groups, having, order, limit,
        offset, distinct, options⟩
      ⟨columns', source', filter', groups', having', order',
        limit', offset', distinct, options⟩

end

------------------------------------------------------------
-- Order of Bracketed Trees
------------------------------------------------------------

theorem Members.Brackets.refl
    (members : List (Option Node)) : Members.Brackets members members := by
  induction members with
  | nil => exact .nil
  | cons member members ih =>
      cases member with
      | none => exact .gap ih
      | some n => exact .cons (.refl n) ih

theorem Slot.Brackets.refl (slot : Slot Node) : slot.Brackets slot := by
  cases slot with
  | vacant => exact .vacant
  | one n => exact .one (.refl n)
  | many members => exact .many (.refl members)

theorem Query.Brackets.refl (query : Query Node) :
    query.Brackets query := by
  cases query
  constructor <;> exact .refl _

theorem Node.Brackets.parameterName?_eq
    {n n' : Node}
    (h : n.Brackets n') :
    n'.parameterName? = n.parameterName? := by
  cases h <;> rfl

theorem Node.Brackets.isParameter_eq
    {n n' : Node}
    (h : n.Brackets n') : n'.isParameter = n.isParameter := by
  rw [Node.isParameter, Node.isParameter, h.parameterName?_eq]

/- A parameter has nothing below it that could be put in brackets. -/
theorem Node.Brackets.eq_of_isParameter
    {n n' : Node}
    (h : n.Brackets n')
    (hParameter : n.isParameter = true) :
    n' = n := by
  cases h <;> first | rfl | cases hParameter

/- The group around a parameter has only that parameter below it. -/
theorem Node.Brackets.eq_of_bracketed
    {n n' : Node}
    (h : n.bracketed.Brackets n')
    (hParameter : n.isParameter = true) :
    n' = n.bracketed := by
  cases h with
  | refl => rfl
  | group _ _ h =>
      cases h with
      | many h =>
          cases h with
          | cons hNode h =>
              cases h
              rw [hNode.eq_of_isParameter hParameter]
              rfl

mutual

theorem Node.Brackets.trans :
    ∀ {a b c : Node}, a.Brackets b → b.Brackets c → a.Brackets c
| .group _ _ _, _, _, h, h' => by
    cases h with
    | refl => exact h'
    | group _ _ h =>
        cases h' with
        | refl => exact .group _ _ h
        | group _ _ h' => exact .group _ _ (h.trans h')
| .binary op _ _, _, _, h, h' => by
    cases h with
    | refl => exact h'
    | binary _ hLeft hRight =>
        cases h' with
        | refl => exact .binary _ hLeft hRight
        | binary _ hLeft' hRight' =>
            exact .binary _ (hLeft.trans hLeft')
              (hRight.trans hRight')
        | list _ hOp hLeft' n hParameter =>
            cases hRight with
            | one hNode =>
                have hBefore := hParameter
                rw [hNode.isParameter_eq] at hBefore
                have hSame := hNode.eq_of_isParameter hBefore
                subst hSame
                exact .list _ hOp (hLeft.trans hLeft') _ hParameter
    | list _ hOp hLeft n hParameter =>
        cases h' with
        | refl => exact .list _ hOp hLeft _ hParameter
        | binary _ hLeft' hRight' =>
            cases hRight' with
            | one hNode =>
                rw [hNode.eq_of_bracketed hParameter]
                exact .list _ hOp (hLeft.trans hLeft') _ hParameter
        | list _ _ _ _ hGroup => cases hGroup
| .connective _ _, _, _, h, h' => by
    cases h with
    | refl => exact h'
    | connective _ h =>
        cases h' with
        | refl => exact .connective _ h
        | connective _ h' => exact .connective _ (h.trans h')
| .unary _ _, _, _, h, h' => by
    cases h with
    | refl => exact h'
    | unary _ h =>
        cases h' with
        | refl => exact .unary _ h
        | unary _ h' => exact .unary _ (h.trans h')
| .between _ _ _, _, _, h, h' => by
    cases h with
    | refl => exact h'
    | between hOperand hLow hHigh =>
        cases h' with
        | refl => exact .between hOperand hLow hHigh
        | between hOperand' hLow' hHigh' =>
            exact .between (hOperand.trans hOperand')
              (hLow.trans hLow') (hHigh.trans hHigh')
| .call _ _ _, _, _, h, h' => by
    cases h with
    | refl => exact h'
    | call _ _ h =>
        cases h' with
        | refl => exact .call _ _ h
        | call _ _ h' => exact .call _ _ (h.trans h')
| .alias _ _, _, _, h, h' => by
    cases h with
    | refl => exact h'
    | «alias» _ h =>
        cases h' with
        | refl => exact .alias _ h
        | «alias» _ h' => exact .alias _ (h.trans h')
| .orderBy _ _, _, _, h, h' => by
    cases h with
    | refl => exact h'
    | orderBy _ h =>
        cases h' with
        | refl => exact .orderBy _ h
        | orderBy _ h' => exact .orderBy _ (h.trans h')
| .table _ _ _ _ _, _, _, h, h' => by
    cases h with
    | refl => exact h'
    | table _ _ _ _ h =>
        cases h' with
        | refl => exact .table _ _ _ _ h
        | table _ _ _ _ h' => exact .table _ _ _ _ (h.trans h')
| .select _, _, _, h, h' => by
    cases h with
    | refl => exact h'
    | select h =>
        cases h' with
        | refl => exact .select h
        | select h' => exact .select (h.trans h')
| .subquery _ _, _, _, h, h' => by
    cases h with
    | refl => exact h'
    | subquery _ h =>
        cases h' with
        | refl => exact .subquery _ h
        | subquery _ h' => exact .subquery _ (h.trans h')
| .column .., _, _, .refl _, h' => h'
| .literal _, _, _, .refl _, h' => h'
| .raw _, _, _, .refl _, h' => h'
| .parameter _, _, _, .refl _, h' => h'
| .numeral _, _, _, .refl _, h' => h'
| .foreign _, _, _, .refl _, h' => h'
termination_by structural a => a

theorem Slot.Brackets.trans :
    ∀ {a b c : Slot Node}, a.Brackets b → b.Brackets c → a.Brackets c
| .vacant, _, _, h, h' => by
    cases h
    exact h'
| .one _, _, _, h, h' => by
    cases h with
    | one h =>
        cases h' with
        | one h' => exact .one (h.trans h')
| .many _, _, _, h, h' => by
    cases h with
    | many h =>
        cases h' with
        | many h' => exact .many (h.trans h')
termination_by structural a => a

theorem Members.Brackets.trans :
    ∀ {a b c : List (Option Node)},
      Members.Brackets a b → Members.Brackets b c →
        Members.Brackets a c
| [], _, _, h, h' => by
    cases h
    exact h'
| none :: _, _, _, h, h' => by
    cases h with
    | gap h =>
        cases h' with
        | gap h' => exact .gap (h.trans h')
| some _ :: _, _, _, h, h' => by
    cases h with
    | cons hNode h =>
        cases h' with
        | cons hNode' h' =>
            exact .cons (hNode.trans hNode') (h.trans h')
termination_by structural a => a

theorem Query.Brackets.trans :
    ∀ {a b c : Query Node}, a.Brackets b → b.Brackets c → a.Brackets c
| ⟨_, _, _, _, _, _, _, _, _, _⟩, _, _, h, h' => by
    cases h with
    | mk _ _ hColumns hSource hFilter hGroups hHaving hOrder hLimit
        hOffset =>
        cases h' with
        | mk _ _ hColumns' hSource' hFilter' hGroups' hHaving'
            hOrder' hLimit' hOffset' =>
            exact .mk _ _ (hColumns.trans hColumns')
              (hSource.trans hSource') (hFilter.trans hFilter')
              (hGroups.trans hGroups') (hHaving.trans hHaving')
              (hOrder.trans hOrder') (hLimit.trans hLimit')
              (hOffset.trans hOffset')
termination_by structural a => a

end

/- A slot that is edited only on some condition. -/
theorem Slot.Brackets.ite
    {slot slot' : Slot Node}
    (h : slot.Brackets slot')
    (p : Bool) :
    slot.Brackets (if p then slot' else slot) := by
  cases p
  · exact .refl _
  · exact h

------------------------------------------------------------
-- What Brackets Do Not Change
------------------------------------------------------------

theorem Slot.Brackets.isVacant_eq
    {slot slot' : Slot Node}
    (h : slot.Brackets slot') :
    slot'.isVacant = slot.isVacant := by
  cases h <;> rfl

theorem Slot.Brackets.bareParameter?_eq
    {slot slot' : Slot Node}
    (h : slot.Brackets slot') :
    slot'.bareParameter? = slot.bareParameter? := by
  cases h with
  | vacant => rfl
  | one h => exact h.parameterName?_eq
  | many h => rfl

theorem Slot.Brackets.isUnbound_eq
    {slot slot' : Slot Node}
    (h : slot.Brackets slot')
    (ctx : RenderContext) :
    ctx.isUnbound slot' = ctx.isUnbound slot := by
  rw [RenderContext.isUnbound, RenderContext.isUnbound,
    h.bareParameter?_eq]

theorem Slot.Brackets.standsBare_eq
    {slot slot' : Slot Node}
    (h : slot.Brackets slot')
    (op : BinaryOp) :
    RenderContext.standsBare op slot' =
      RenderContext.standsBare op slot := by
  rw [RenderContext.standsBare, RenderContext.standsBare,
    h.bareParameter?_eq]

theorem Slot.Brackets.leadingParameter?_eq
    {slot slot' : Slot Node}
    (h : slot.Brackets slot') :
    RenderContext.leadingParameter? slot' =
      RenderContext.leadingParameter? slot := by
  cases h with
  | vacant => rfl
  | many h => rfl
  | one h =>
      cases h with
      | group brackets delimiter h =>
          cases h with
          | vacant => rfl
          | one h => rfl
          | many h =>
              cases h with
              | nil => rfl
              | gap h => rfl
              | cons hNode h => exact hNode.parameterName?_eq
      | _ => rfl

theorem Slot.Brackets.judgeList_eq
    {slot slot' : Slot Node}
    (h : slot.Brackets slot')
    (ctx : RenderContext)
    (op : BinaryOp) :
    ctx.judgeList op slot' = ctx.judgeList op slot := by
  have hLeading := h.leadingParameter?_eq
  cases h with
  | vacant => rfl
  | many h => rfl
  | one h =>
      cases h with
      | group brackets delimiter h =>
          cases h with
          | one h => rfl
          | vacant => rfl
          | many h =>
              simp only [RenderContext.judgeList, hLeading]
      | _ => rfl

theorem Slot.Brackets.resolve_eq
    {slot slot' : Slot Node}
    (h : slot.Brackets slot')
    (ctx : RenderContext)
    (text : Option String) :
    ctx.resolve slot' text = ctx.resolve slot text := by
  cases h with
  | vacant => rfl
  | many h => rfl
  | one h => cases h <;> rfl

------------------------------------------------------------
-- Renderings of Bracketed Trees
------------------------------------------------------------

/- The list with the brackets is judged like the bare parameter. -/
theorem judgeList_bracketed
    (ctx : RenderContext)
    (op : BinaryOp)
    (n : Node)
    (hParameter : n.isParameter = true) :
    ctx.judgeList op (.one n.bracketed) =
      ctx.judgeList op (.one n) := by
  cases n <;> first | rfl | cases hParameter

/-
  The group in brackets is written one level above its member,
  where the bare parameter is written as well.
-/
theorem renderSlot_bracketed
    (ctx : RenderContext)
    (depth : Nat)
    (indent : Int)
    (n : Node) :
    Node.renderSlot ctx (depth + 1) indent " " (.one n.bracketed) =
      ctx.grouped (depth + 1)
        (Node.renderSlot ctx (depth + 2) indent " " (.one n)) := by
  simp only [Node.renderSlot, Node.bracketed, Node.render,
    Node.renderMembers, RenderContext.grouped]
  split
  · rfl
  · cases n.render ctx (depth + 2) indent with
    | error e => rfl
    | ok text =>
        cases text with
        | none => rfl
        | some s =>
            by_cases hEmpty : s = ""
            · subst hEmpty
              rfl
            · simp [Except.map, present, hEmpty, joined, enclose,
                bind, Except.bind, pure, Except.pure]

mutual

/- A tree is written alike with and without the brackets. -/
theorem Node.Brackets.render_eq
    (ctx : RenderContext)
    (depth : Nat)
    (indent : Int) :
    ∀ {n n' : Node}, n.Brackets n' →
      n'.render ctx depth indent = n.render ctx depth indent
| .group _ _ _, _, h => by
    cases h with
    | refl => rfl
    | group _ _ h =>
        simp only [Node.render, h.renderSlot_eq]
| .binary op _ _, _, h => by
    cases h with
    | refl => rfl
    | binary _ hLeft hRight =>
        simp only [Node.render, RenderContext.unlessEmptyList,
          hLeft.isVacant_eq, hRight.isVacant_eq, hRight.isUnbound_eq,
          hRight.standsBare_eq, hRight.judgeList_eq,
          hLeft.renderSlot_eq, hRight.renderSlot_eq]
    | list _ hOp hLeft n hParameter =>
        -- The only case in which the shape of the tree differs.
        have hStrict := BinaryOp.isNullLenient_of_isMembership hOp
        have hBare :
            RenderContext.standsBare op (.one n) = true := by
          rw [RenderContext.standsBare, hOp]
          exact hParameter
        have hGroup :
            RenderContext.standsBare op (.one n.bracketed) =
              false := by
          rw [RenderContext.standsBare, hOp]
          rfl
        have hFilled (m : Node) :
            (Slot.one m).isVacant = false := rfl
        simp only [Node.render, RenderContext.unlessEmptyList,
          hFilled, hLeft.isVacant_eq, hStrict, hBare, hGroup,
          hLeft.renderSlot_eq,
          judgeList_bracketed ctx op n hParameter,
          renderSlot_bracketed, Bool.false_and, Bool.or_false,
          Bool.false_eq_true, if_true, if_false]
| .connective _ _, _, h => by
    cases h with
    | refl => rfl
    | connective _ h => simp only [Node.render, h.renderSlot_eq]
| .unary _ _, _, h => by
    cases h with
    | refl => rfl
    | unary _ h =>
        simp only [Node.render, h.isVacant_eq, h.renderSlot_eq]
| .between _ _ _, _, h => by
    cases h with
    | refl => rfl
    | between hOperand hLow hHigh =>
        simp only [Node.render, hOperand.isVacant_eq,
          hOperand.renderSlot_eq, hLow.renderSlot_eq,
          hHigh.renderSlot_eq]
| .call _ _ _, _, h => by
    cases h with
    | refl => rfl
    | call _ _ h =>
        cases h with
        | vacant => rfl
        | one h => simp only [Node.render]
        | many h => simp only [Node.render, h.renderArgs_eq]
| .alias _ _, _, h => by
    cases h with
    | refl => rfl
    | «alias» _ h =>
        simp only [Node.render, h.isVacant_eq, h.renderSlot_eq]
| .orderBy _ _, _, h => by
    cases h with
    | refl => rfl
    | orderBy _ h => simp only [Node.render, h.renderSlot_eq]
| .table _ _ _ _ _, _, h => by
    cases h with
    | refl => rfl
    | table _ _ _ _ h => simp only [Node.render, h.renderSlot_eq]
| .select _, _, h => by
    cases h with
    | refl => rfl
    | select h => simp only [Node.render, h.renderQuery_eq]
| .subquery (.one n) _, _, h => by
    cases h with
    | refl => rfl
    | subquery _ h =>
        cases h with
        | one h =>
            cases h with
            | refl => rfl
            | select h => simp only [Node.render, h.renderQuery_eq]
            | _ => simp only [Node.render]
| .subquery .vacant _, _, h => by
    cases h with
    | refl => rfl
    | subquery _ h =>
        cases h
        rfl
| .subquery (.many _) _, _, h => by
    cases h with
    | refl => rfl
    | subquery _ h =>
        cases h
        simp only [Node.render]
| .column .., _, .refl _ => rfl
| .literal _, _, .refl _ => rfl
| .raw _, _, .refl _ => rfl
| .parameter _, _, .refl _ => rfl
| .numeral _, _, .refl _ => rfl
| .foreign _, _, .refl _ => rfl
termination_by structural n => n

theorem Slot.Brackets.renderSlot_eq
    (ctx : RenderContext)
    (depth : Nat)
    (indent : Int)
    (separator : String) :
    ∀ {slot slot' : Slot Node}, slot.Brackets slot' →
      Node.renderSlot ctx depth indent separator slot' =
        Node.renderSlot ctx depth indent separator slot
| .vacant, _, .vacant => rfl
| .one _, _, .one h => by simp only [Node.renderSlot, h.render_eq]
| .many _, _, .many h => by
    simp only [Node.renderSlot, h.renderMembers_eq]
termination_by structural n => n

theorem Members.Brackets.renderMembers_eq
    (ctx : RenderContext)
    (depth : Nat)
    (indent : Int) :
    ∀ {members members' : List (Option Node)},
      Members.Brackets members members' →
        Node.renderMembers ctx depth indent members' =
          Node.renderMembers ctx depth indent members
| [], _, .nil => rfl
| none :: _, _, .gap h => by
    simp only [Node.renderMembers, h.renderMembers_eq]
| some _ :: _, _, .cons hNode h => by
    simp only [Node.renderMembers, hNode.render_eq,
      h.renderMembers_eq]
termination_by structural n => n

theorem Members.Brackets.renderArgs_eq
    (ctx : RenderContext)
    (depth : Nat)
    (indent : Int) :
    ∀ {args args' : List (Option Node)},
      Members.Brackets args args' →
        Node.renderArgs ctx depth indent args' =
          Node.renderArgs ctx depth indent args
| [], _, .nil => rfl
| none :: _, _, .gap _ => rfl
| some _ :: _, _, .cons hNode h => by
    simp only [Node.renderArgs, hNode.render_eq, h.renderArgs_eq]
termination_by structural n => n

theorem Query.Brackets.renderQuery_eq
    (ctx : RenderContext)
    (depth : Nat)
    (indent : Int) :
    ∀ {query query' : Query Node}, query.Brackets query' →
      Node.renderQuery ctx depth indent query' =
        Node.renderQuery ctx depth indent query
| ⟨_, _, _, _, _, _, _, _, _, _⟩, _,
    .mk _ _ hColumns hSource hFilter hGroups hHaving hOrder hLimit
      hOffset => by
    simp only [Node.renderQuery, hLimit.isVacant_eq,
      hOffset.isVacant_eq, hColumns.renderSlot_eq,
      hSource.renderSlot_eq, hFilter.renderSlot_eq,
      hGroups.renderSlot_eq, hHaving.renderSlot_eq,
      hOrder.renderSlot_eq, hLimit.renderSlot_eq,
      hOffset.renderSlot_eq, hLimit.resolve_eq,
      hOffset.resolve_eq]
termination_by structural n => n

end

------------------------------------------------------------
-- Settled Trees
------------------------------------------------------------

/- A bare parameter after IN is put in brackets. -/
theorem brackets_bracketBare
    {op : BinaryOp}
    {left left' right : Slot Node}
    (hOp : op.isMembership = true)
    (hLeft : left.Brackets left') :
    (Node.binary op left right).Brackets
      (.binary op left' right.bracketBare) := by
  cases right with
  | vacant => exact .binary _ hLeft (.refl _)
  | many members => exact .binary _ hLeft (.refl _)
  | one n =>
      rw [Slot.bracketBare]
      split
      next hParameter => exact .list _ hOp hLeft _ hParameter
      next => exact .binary _ hLeft (.refl _)

theorem isMembership_of_standsBare
    {op : BinaryOp}
    {list : Slot Node}
    (h : RenderContext.standsBare op list = true) :
    op.isMembership = true := by
  rw [RenderContext.standsBare, Bool.and_eq_true] at h
  exact h.1

theorem isMembership_of_not_writesOperands
    {ctx : RenderContext}
    {op : BinaryOp}
    {list : Slot Node}
    (h : ¬ ctx.writesOperands op list = true) :
    op.isMembership = true := by
  cases hOp : op.isMembership with
  | true => rfl
  | false =>
      rw [RenderContext.writesOperands, hOp] at h
      exact absurd rfl h

mutual

/- Writing a tree does no more to it than to add brackets. -/
theorem Node.brackets_settled
    (ctx : RenderContext)
    (depth : Nat)
    (indent : Int) :
    ∀ n : Node, n.Brackets (n.settled ctx depth indent)
| .column .. => by simp only [Node.settled, ite_self]; exact .refl _
| .literal _ => by simp only [Node.settled, ite_self]; exact .refl _
| .raw _ => by simp only [Node.settled, ite_self]; exact .refl _
| .parameter _ => by simp only [Node.settled, ite_self]; exact .refl _
| .numeral _ => by simp only [Node.settled, ite_self]; exact .refl _
| .foreign _ => by simp only [Node.settled, ite_self]; exact .refl _
| .group members brackets delimiter => by
    rw [Node.settled]
    split
    · exact .refl _
    · exact .group _ _ (Slot.brackets_settled _ _ _ members)
| .binary op left right => by
    rw [Node.settled]
    have hLeft := Slot.brackets_settled ctx (depth + 1) indent left
    have hRight := Slot.brackets_settled ctx (depth + 1) indent right
    split
    · exact .refl _
    split
    · exact .refl _
    split
    · exact .binary _ hLeft (.refl _)
    split
    · split
      next hBare =>
        exact brackets_bracketBare
          (isMembership_of_standsBare hBare) hLeft
      exact .binary _ hLeft (hRight.ite _)
    next hJudged =>
      exact brackets_bracketBare
        (isMembership_of_not_writesOperands hJudged) (.refl _)
| .connective op operands => by
    rw [Node.settled]
    split
    · exact .refl _
    · exact .connective _ (Slot.brackets_settled _ _ _ operands)
| .unary op operand => by
    rw [Node.settled]
    split
    · exact .refl _
    · exact .unary _ (Slot.brackets_settled _ _ _ operand)
| .between operand low high => by
    rw [Node.settled]
    split
    · exact .refl _
    · exact .between (Slot.brackets_settled _ _ _ operand)
        ((Slot.brackets_settled _ _ _ low).ite _)
        ((Slot.brackets_settled _ _ _ high).ite _)
| .call name (.many args) distinct => by
    rw [Node.settled]
    split
    · exact .refl _
    · exact .call _ _ (.many (Members.brackets_settledArgs _ _ _ args))
| .call _ .vacant _ => by
    simp only [Node.settled, ite_self]; exact .refl _
| .call _ (.one _) _ => by
    simp only [Node.settled, ite_self]; exact .refl _
| .alias node label => by
    rw [Node.settled]
    split
    · exact .refl _
    · exact .alias _ (Slot.brackets_settled _ _ _ node)
| .orderBy node direction => by
    rw [Node.settled]
    split
    · exact .refl _
    · exact .orderBy _ (Slot.brackets_settled _ _ _ node)
| .table name label database join condition => by
    rw [Node.settled]
    split
    · exact .refl _
    · exact .table _ _ _ _
        ((Slot.brackets_settled _ _ _ condition).ite _)
| .select query => by
    rw [Node.settled]
    split
    · exact .refl _
    · exact .select (Query.brackets_settled _ _ _ query)
| .subquery .vacant _ => by
    simp only [Node.settled, ite_self]; exact .refl _
| .subquery (.many _) _ => by
    simp only [Node.settled, ite_self]; exact .refl _
| .subquery (.one n) label => by
    cases n with
    | select query =>
        rw [Node.settled]
        split
        · exact .refl _
        · exact .subquery _
            (.one (.select (Query.brackets_settled _ _ _ query)))
    | _ => simp only [Node.settled, ite_self]; exact .refl _

theorem Slot.brackets_settled
    (ctx : RenderContext)
    (depth : Nat)
    (indent : Int) :
    ∀ slot : Slot Node,
      slot.Brackets (Node.settledSlot ctx depth indent slot)
| .vacant => .vacant
| .one n => .one (n.brackets_settled ctx depth indent)
| .many members =>
    .many (Members.brackets_settled ctx depth indent members)

theorem Members.brackets_settled
    (ctx : RenderContext)
    (depth : Nat)
    (indent : Int) :
    ∀ members : List (Option Node),
      Members.Brackets members
        (Node.settledMembers ctx depth indent members)
| [] => .nil
| none :: members =>
    .gap (Members.brackets_settled ctx depth indent members)
| some n :: members => by
    rw [Node.settledMembers]
    apply Members.Brackets.cons (n.brackets_settled ctx depth indent)
    split
    · exact Members.brackets_settled ctx depth indent members
    · exact .refl _

theorem Members.brackets_settledArgs
    (ctx : RenderContext)
    (depth : Nat)
    (indent : Int) :
    ∀ args : List (Option Node),
      Members.Brackets args (Node.settledArgs ctx depth indent args)
| [] => .nil
| none :: _ => .refl _
| some n :: args => by
    rw [Node.settledArgs]
    apply Members.Brackets.cons (n.brackets_settled ctx depth indent)
    split
    · exact Members.brackets_settledArgs ctx depth indent args
    · exact .refl _

theorem Query.brackets_settled
    (ctx : RenderContext)
    (depth : Nat)
    (indent : Int) :
    ∀ query : Query Node,
      query.Brackets (Node.settledQuery ctx depth indent query)
| ⟨columns, source, filter, groups, having, order, limit, offset,
    distinct, options⟩ =>
    .mk distinct options
      ((Slot.brackets_settled _ _ _ columns).ite _)
      ((Slot.brackets_settled _ _ _ source).ite _)
      ((Slot.brackets_settled _ _ _ filter).ite _)
      ((Slot.brackets_settled _ _ _ groups).ite _)
      ((Slot.brackets_settled _ _ _ having).ite _)
      ((Slot.brackets_settled _ _ _ order).ite _)
      ((Slot.brackets_settled _ _ _ limit).ite _)
      ((Slot.brackets_settled _ _ _ offset).ite _)

end

end SqlTemplate
