import SqlTemplate.Node.Substitution
import SqlTemplate.Proofs.Rendering.Bracketing
import SqlTemplate.Proofs.Rendering.Dependence

/-
  Values that are written into a tree before it is rendered, or
  looked up while it is.  A parameter that is bound to a scalar
  is written as the literal that would take its place, and every
  question that a rendering asks about it has the same answer.

  Key definitions include:
    * `RenderContext.Supplies`
    * `RenderContext.judgeName`
    * `Slot.WrittenAlike`

  Correctness is proven by:
    * `parameter_of_scalar`
    * `judgeList_substitute`
    * `Node.render_substitute`
    * `substitution_early_or_late`
-/

------------------------------------------------------------
-- Scalars
------------------------------------------------------------

namespace SqlTemplate

/-
  A context writes values into the text, among them those that
  some bindings give.
-/
structure RenderContext.Supplies
    (ctx : RenderContext)
    (p : Bindings) : Prop where
  inline_eq : ctx.inline = true
  value?_eq :
    ∀ name v, p.value? name = some v → ctx.bindings.value? name = some v

theorem Bindings.scalar?_eq_some
    {p : Bindings}
    {name : String}
    {v : Value}
    (hScalar : p.scalar? name = some v) :
    p.value? name = some v ∧ v.isCollection = false := by
  rcases Option.filter_eq_some_iff.mp hScalar with ⟨hValue, hKind⟩
  exact ⟨hValue, Bool.not_eq_true' _ |>.mp hKind⟩

theorem isEmptyCollection_of_scalar
    {v : Value}
    (hScalar : v.isCollection = false) :
    v.isEmptyCollection = false := by
  cases v <;> first | rfl | cases hScalar

variable {ctx : RenderContext} {p : Bindings}

/- A parameter bound to a scalar is written as its literal. -/
theorem parameter_of_scalar
    {name : String}
    {v : Value}
    (hSupplies : ctx.Supplies p)
    (hScalar : p.scalar? name = some v) :
    ctx.parameter name = (ctx.literal v).map some := by
  rcases Bindings.scalar?_eq_some hScalar with ⟨hValue, hKind⟩
  have hItems : v.items? = none :=
    Option.isNone_iff_eq_none.mp (Option.isSome_eq_false_iff.mp hKind)
  unfold RenderContext.parameter RenderContext.literals
  rw [if_pos hSupplies.inline_eq, hSupplies.value?_eq name v hValue]
  dsimp only
  rw [hItems]

------------------------------------------------------------
-- Questions about Parameters
------------------------------------------------------------

/-
  The answer to a question about the parameter that a node is
  stays the same if, for every scalar that is substituted, it is
  the same as for no parameter.
-/
theorem ask_substitute
    {α : Type}
    (ask : Option String → α)
    (hScalar : ∀ name v, p.scalar? name = some v → ask (some name) = ask none)
    (n : Node) :
    ask (n.substitute p).parameterName? = ask n.parameterName? := by
  cases n with
  | parameter name =>
      rw [Node.substitute]
      cases hValue : p.scalar? name with
      | none => rfl
      | some v => exact (hScalar name v hValue).symm
  | _ => rfl

/- What is judged about a list with the given leading parameter. -/
def RenderContext.judgeName
    (ctx : RenderContext)
    (op : BinaryOp) : Option String → Except RenderError Bool
| none => .ok false
| some name =>
    match ctx.bindings.value? name with
    | none => .error (.unboundMember op.symbol name)
    | some v => .ok v.isEmptyCollection

theorem judgeName_substitute
    (hSupplies : ctx.Supplies p)
    (op : BinaryOp)
    (n : Node) :
    ctx.judgeName op (n.substitute p).parameterName? =
      ctx.judgeName op n.parameterName? := by
  apply ask_substitute
  intro name v hScalar
  rcases Bindings.scalar?_eq_some hScalar with ⟨hValue, hKind⟩
  simp only [RenderContext.judgeName, hSupplies.value?_eq name v hValue,
    isEmptyCollection_of_scalar hKind]

theorem isUnbound_eq_any
    (ctx : RenderContext)
    (slot : Slot Node) :
    ctx.isUnbound slot =
      slot.bareParameter?.any fun name => !ctx.bindings.isBound name := by
  unfold RenderContext.isUnbound
  cases slot.bareParameter? <;> rfl

theorem isUnbound_substitute
    (hSupplies : ctx.Supplies p)
    (slot : Slot Node) :
    ctx.isUnbound (Node.substituteSlot p slot) = ctx.isUnbound slot := by
  cases slot with
  | vacant => rfl
  | many members => rfl
  | one n =>
      have hBound :
          ∀ name v, p.scalar? name = some v →
            (!ctx.bindings.isBound name) = false := by
        intro name v hScalar
        rcases Bindings.scalar?_eq_some hScalar with ⟨hValue, _⟩
        rw [Bindings.isBound, hSupplies.value?_eq name v hValue]
        rfl
      rw [isUnbound_eq_any, isUnbound_eq_any]
      exact ask_substitute
        (Option.any fun name => !ctx.bindings.isBound name) hBound n

/- A list is judged alike with values in it and without. -/
theorem judgeList_substitute
    (hSupplies : ctx.Supplies p)
    (op : BinaryOp)
    (list : Slot Node) :
    ctx.judgeList op (Node.substituteSlot p list) =
      ctx.judgeList op list := by
  have hName := judgeName_substitute hSupplies op
  cases list with
  | vacant => rfl
  | many members => rfl
  | one n =>
      cases n with
      | parameter name =>
          have hOwn := hName (.parameter name)
          rw [Node.substituteSlot]
          rw [Node.substitute] at hOwn ⊢
          cases hScalar : p.scalar? name with
          | none => rfl
          | some v =>
              rw [hScalar] at hOwn
              exact hOwn
      | group members brackets delimiter =>
          rcases members with _ | n | members
          · rfl
          · rfl
          · rcases members with _ | ⟨_ | n, members⟩
            · rfl
            · rfl
            · exact hName n
      | _ => rfl

/- A parameter that is put in brackets is judged as it is alone. -/
theorem judgeList_bracketed_substitute
    (hSupplies : ctx.Supplies p)
    (op : BinaryOp)
    {n : Node}
    (hParameter : n.isParameter = true) :
    ctx.judgeList op (.one (n.substitute p).bracketed) =
      ctx.judgeList op (.one n) := by
  rw [← judgeList_bracketed ctx op n hParameter]
  exact judgeName_substitute hSupplies op n

------------------------------------------------------------
-- Renderings with Values Substituted
------------------------------------------------------------

theorem isVacant_substituteSlot
    (slot : Slot Node) :
    (Node.substituteSlot p slot).isVacant = slot.isVacant := by
  cases slot <;> rfl

theorem resolve_substitute
    (hSupplies : ctx.Supplies p)
    (slot slot' : Slot Node)
    (text : Option String) :
    ctx.resolve slot' text = ctx.resolve slot text := by
  simp only [RenderContext.resolve, if_pos hSupplies.inline_eq]

theorem isParameter_substitute
    {n : Node}
    (hNode : n.isParameter = false) :
    (n.substitute p).isParameter = false := by
  cases n <;> first | rfl | cases hNode

/- Two slots have the same text wherever they are written. -/
def Slot.WrittenAlike
    (ctx : RenderContext)
    (slot slot' : Slot Node) : Prop :=
  ∀ (depth : Nat) (indent : Int) (separator : String),
    Node.renderSlot ctx depth indent separator slot' =
      Node.renderSlot ctx depth indent separator slot

/- A test of a list whose only value has been put in brackets. -/
theorem render_binary_bracketed
    {op : BinaryOp}
    {left left' : Slot Node}
    {n : Node}
    (hSupplies : ctx.Supplies p)
    (hBare : RenderContext.standsBare op (.one n) = true)
    (hVacant : left'.isVacant = left.isVacant)
    (hLeft : left.WrittenAlike ctx left')
    (hRight : (Slot.one n).WrittenAlike ctx (.one (n.substitute p)))
    (depth : Nat)
    (indent : Int) :
    (Node.binary op left' (.one (n.substitute p).bracketed)).render
        ctx depth indent =
      (Node.binary op left (.one n)).render ctx depth indent := by
  rcases Bool.and_eq_true_iff.mp hBare with ⟨hOp, hParameter⟩
  have hStrict := BinaryOp.isNullLenient_of_isMembership hOp
  have hGroup :
      RenderContext.standsBare op (.one (n.substitute p).bracketed) =
        false := by
    rw [RenderContext.standsBare, hOp]
    rfl
  have hFilled (m : Node) : (Slot.one m).isVacant = false := rfl
  simp only [Node.render, RenderContext.unlessEmptyList, hFilled, hVacant,
    hStrict, hBare, hGroup, hLeft _ _ _, hRight _ _ _, renderSlot_bracketed,
    judgeList_bracketed_substitute hSupplies op hParameter,
    Bool.false_and, Bool.or_false, Bool.false_eq_true, if_true, if_false]

/- A test whose right side keeps its shape. -/
theorem render_binary_unbracketed
    {op : BinaryOp}
    {left left' right : Slot Node}
    (hSupplies : ctx.Supplies p)
    (hBare :
      RenderContext.standsBare op (Node.substituteSlot p right) =
        RenderContext.standsBare op right)
    (hVacant : left'.isVacant = left.isVacant)
    (hLeft : left.WrittenAlike ctx left')
    (hRight : right.WrittenAlike ctx (Node.substituteSlot p right))
    (depth : Nat)
    (indent : Int) :
    (Node.binary op left' (Node.substituteSlot p right)).render
        ctx depth indent =
      (Node.binary op left right).render ctx depth indent := by
  simp only [Node.render, RenderContext.unlessEmptyList, hVacant,
    isVacant_substituteSlot, isUnbound_substitute hSupplies,
    judgeList_substitute hSupplies, hBare, hLeft _ _ _, hRight _ _ _]

/- A binary operator is written alike if its operands are. -/
theorem render_substitute_binary
    {op : BinaryOp}
    {left right : Slot Node}
    (hSupplies : ctx.Supplies p)
    (hLeft : left.WrittenAlike ctx (Node.substituteSlot p left))
    (hRight : right.WrittenAlike ctx (Node.substituteSlot p right))
    (depth : Nat)
    (indent : Int) :
    ((Node.binary op left right).substitute p).render ctx depth indent =
      (Node.binary op left right).render ctx depth indent := by
  have hVacant := isVacant_substituteSlot (p := p) left
  rw [Node.substitute]
  cases right with
  | vacant =>
      exact render_binary_unbracketed hSupplies rfl hVacant hLeft hRight
        depth indent
  | many members =>
      exact render_binary_unbracketed hSupplies rfl hVacant hLeft hRight
        depth indent
  | one n =>
      rw [Node.substituteOperand]
      split
      next hBare =>
        exact render_binary_bracketed hSupplies hBare hVacant hLeft hRight
          depth indent
      next hNode =>
        have hKept :
            RenderContext.standsBare op (Node.substituteSlot p (.one n)) =
              RenderContext.standsBare op (.one n) := by
          change (op.isMembership && (n.substitute p).isParameter) =
            (op.isMembership && n.isParameter)
          cases hOp : op.isMembership with
          | false => rfl
          | true =>
              rw [hOp, Bool.true_and, Bool.not_eq_true] at hNode
              rw [hNode, isParameter_substitute hNode]
        exact render_binary_unbracketed hSupplies hKept hVacant hLeft hRight
          depth indent

mutual

/-
  A node with values in it is written like the one whose
  parameters they are looked up for.
-/
theorem Node.render_substitute
    (hSupplies : ctx.Supplies p) :
    ∀ (n : Node) (depth : Nat) (indent : Int),
      (n.substitute p).render ctx depth indent = n.render ctx depth indent
| .column .., _, _ | .literal _, _, _ | .raw _, _, _ | .numeral _, _, _
| .foreign _, _, _ => rfl
| .parameter name, depth, indent => by
    rw [Node.substitute]
    cases hScalar : p.scalar? name with
    | none => rfl
    | some v =>
        simp only [Node.render, parameter_of_scalar hSupplies hScalar]
| .group members _ _, _, _ => by
    simp only [Node.substitute, Node.render,
      members.renderSlot_substitute hSupplies _ _ _]
| .binary _ left right, depth, indent =>
    render_substitute_binary hSupplies
      (left.renderSlot_substitute hSupplies)
      (right.renderSlot_substitute hSupplies) depth indent
| .connective _ operands, _, _ => by
    simp only [Node.substitute, Node.render,
      operands.renderSlot_substitute hSupplies _ _ _]
| .unary _ operand, _, _ => by
    simp only [Node.substitute, Node.render, isVacant_substituteSlot,
      operand.renderSlot_substitute hSupplies _ _ _]
| .between operand low high, _, _ => by
    simp only [Node.substitute, Node.render, isVacant_substituteSlot,
      operand.renderSlot_substitute hSupplies _ _ _,
      low.renderSlot_substitute hSupplies _ _ _,
      high.renderSlot_substitute hSupplies _ _ _]
| .call _ (.many args) _, _, _ => by
    simp only [Node.substitute, Node.substituteSlot, Node.render,
      Members.renderArgs_substitute hSupplies args _ _]
| .call _ .vacant _, _, _ | .call _ (.one _) _, _, _ => rfl
| .alias node _, _, _ => by
    simp only [Node.substitute, Node.render, isVacant_substituteSlot,
      node.renderSlot_substitute hSupplies _ _ _]
| .orderBy node _, _, _ => by
    simp only [Node.substitute, Node.render,
      node.renderSlot_substitute hSupplies _ _ _]
| .table _ _ _ _ condition, _, _ => by
    simp only [Node.substitute, Node.render,
      condition.renderSlot_substitute hSupplies _ _ _]
| .select query, _, _ => by
    simp only [Node.substitute, Node.render,
      query.renderQuery_substitute hSupplies _ _]
| .subquery .vacant _, _, _ | .subquery (.many _) _, _, _ => rfl
| .subquery (.one n) _, _, _ => by
    cases n with
    | select query =>
        simp only [Node.substitute, Node.substituteSlot, Node.render,
          query.renderQuery_substitute hSupplies _ _]
    | parameter name =>
        simp only [Node.substitute, Node.substituteSlot]
        cases p.scalar? name <;> rfl
    | _ => rfl
termination_by structural n => n

theorem Slot.renderSlot_substitute
    (hSupplies : ctx.Supplies p) :
    ∀ slot : Slot Node,
      slot.WrittenAlike ctx (Node.substituteSlot p slot)
| .vacant, _, _, _ => rfl
| .one n, _, _, _ => by
    simp only [Node.substituteSlot, Node.renderSlot,
      n.render_substitute hSupplies _ _]
| .many members, _, _, _ => by
    simp only [Node.substituteSlot, Node.renderSlot,
      Members.renderMembers_substitute hSupplies members _ _]
termination_by structural slot => slot

theorem Members.renderMembers_substitute
    (hSupplies : ctx.Supplies p) :
    ∀ (members : List (Option Node)) (depth : Nat) (indent : Int),
      Node.renderMembers ctx depth indent (Node.substituteList p members) =
        Node.renderMembers ctx depth indent members
| [], _, _ => rfl
| none :: members, _, _ =>
    Members.renderMembers_substitute hSupplies members _ _
| some n :: members, _, _ => by
    simp only [Node.substituteList, Node.renderMembers,
      n.render_substitute hSupplies _ _,
      Members.renderMembers_substitute hSupplies members _ _]
termination_by structural members => members

theorem Members.renderArgs_substitute
    (hSupplies : ctx.Supplies p) :
    ∀ (args : List (Option Node)) (depth : Nat) (indent : Int),
      Node.renderArgs ctx depth indent (Node.substituteList p args) =
        Node.renderArgs ctx depth indent args
| [], _, _ => rfl
| none :: _, _, _ => rfl
| some n :: args, _, _ => by
    simp only [Node.substituteList, Node.renderArgs,
      n.render_substitute hSupplies _ _,
      Members.renderArgs_substitute hSupplies args _ _]
termination_by structural args => args

theorem Query.renderQuery_substitute
    (hSupplies : ctx.Supplies p) :
    ∀ (query : Query Node) (depth : Nat) (indent : Int),
      Node.renderQuery ctx depth indent (Node.substituteQuery p query) =
        Node.renderQuery ctx depth indent query
| ⟨columns, source, filter, groups, having, order, limit, offset, _, _⟩,
    _, _ => by
    simp only [Node.substituteQuery, Node.renderQuery,
      isVacant_substituteSlot,
      columns.renderSlot_substitute hSupplies _ _ _,
      source.renderSlot_substitute hSupplies _ _ _,
      filter.renderSlot_substitute hSupplies _ _ _,
      groups.renderSlot_substitute hSupplies _ _ _,
      having.renderSlot_substitute hSupplies _ _ _,
      order.renderSlot_substitute hSupplies _ _ _,
      limit.renderSlot_substitute hSupplies _ _ _,
      offset.renderSlot_substitute hSupplies _ _ _,
      resolve_substitute hSupplies limit (Node.substituteSlot p limit),
      resolve_substitute hSupplies offset (Node.substituteSlot p offset)]
termination_by structural query => query

end

------------------------------------------------------------
-- Early and Late
------------------------------------------------------------

/-
  Bindings that agree with others on each name that those bind
  give a tree the same text, or the same error, whether or not
  the values of the others have been written into it before.
-/
theorem substitution_early_or_late
    {d : Dialect}
    {p r : Bindings}
    {maxDepth : Int}
    (n : Node)
    (hAgree :
      ∀ name, p.isBound name = true → r.value? name = p.value? name) :
    RenderContext.render ⟨d, r, true, maxDepth⟩ (n.substitute p) =
      RenderContext.render ⟨d, r, true, maxDepth⟩ n := by
  have hSupplies : RenderContext.Supplies ⟨d, r, true, maxDepth⟩ p := by
    refine ⟨rfl, ?_⟩
    intro name v hValue
    have hBound : p.isBound name = true := by
      rw [Bindings.isBound, hValue]
      rfl
    exact (hAgree name hBound).trans hValue
  have hSlot := (Slot.one n).renderSlot_substitute hSupplies 1 0 " "
  unfold RenderContext.render
  rw [← hSlot]
  rfl

/- Bindings of one of the lists and of one of the conditions. -/
def earlyBindings : Bindings :=
  .ofList [("ids", .int 7), ("x", .text "it's")]

/- The same bindings with one of the limit. -/
def lateBindings : Bindings :=
  .ofList [("n", .int 5), ("ids", .int 7), ("x", .text "it's")]

theorem substitution_early_or_late_of_scattered :
    (∀ name, earlyBindings.isBound name = true →
      lateBindings.value? name = earlyBindings.value? name) ∧
      RenderContext.render ⟨.duckdb, lateBindings, true, 100⟩
          (scatteredTree.substitute earlyBindings) =
        RenderContext.render ⟨.duckdb, lateBindings, true, 100⟩
          scatteredTree := by
  have hAgree :
      ∀ name, earlyBindings.isBound name = true →
        lateBindings.value? name = earlyBindings.value? name := by
    intro name hBound
    by_cases hIds : name = "ids"
    · subst hIds
      rfl
    · by_cases hText : name = "x"
      · subst hText
        rfl
      · have hAbsent : earlyBindings name = .null := by
          rw [earlyBindings, Bindings.ofList,
            List.lookup_eq_none_iff.mpr (by simp [hIds, hText]),
            Option.getD_none]
        rw [Bindings.isBound, Bindings.value?, hAbsent] at hBound
        cases hBound
  exact ⟨hAgree, substitution_early_or_late scatteredTree hAgree⟩

end SqlTemplate
