import SqlTemplate.Node.Fragments
import SqlTemplate.Rendering

/-
  What the text of a tree depends on.  A rendering looks at the
  bindings only to write its parameters and to judge whether
  they are bound, and bound to an empty collection; bindings
  that answer these questions alike give the same text.

  Key definitions include:
    * `RenderContext.rebound`
    * `Bindings.JudgedAlike`
    * `Node.LookedUpAlike`

  Correctness is proven by:
    * `Node.render_rebound`
    * `rendering_depends_on_parameters`
-/

------------------------------------------------------------
-- Other Bindings
------------------------------------------------------------

namespace SqlTemplate

/- The same context with other bindings. -/
def RenderContext.rebound
    (ctx : RenderContext)
    (b : Bindings) : RenderContext :=
  { ctx with bindings := b }

/- A name is bound, and bound to an empty collection, in both or neither. -/
structure Bindings.JudgedAlike
    (b b' : Bindings)
    (name : String) : Prop where
  isBound_eq : b'.isBound name = b.isBound name
  isEmpty_eq : (b' name).isEmptyCollection = (b name).isEmptyCollection

/- A node that is a parameter is judged and written alike. -/
def Node.LookedUpAlike
    (ctx : RenderContext)
    (b : Bindings) : Node → Prop
| .parameter name =>
    ctx.bindings.JudgedAlike b name ∧
      (ctx.rebound b).parameter name = ctx.parameter name
| .numeral name =>
    ctx.bindings.JudgedAlike b name ∧
      (ctx.rebound b).numeral name = ctx.numeral name
| _ => True

section

variable (ctx : RenderContext) (b : Bindings)

/- Nothing but the bindings changes. -/
theorem isTooDeep_rebound
    (depth : Nat) :
    (ctx.rebound b).isTooDeep depth = ctx.isTooDeep depth :=
  rfl

theorem maxDepth_rebound :
    (ctx.rebound b).maxDepth = ctx.maxDepth :=
  rfl

theorem qualified_rebound :
    (ctx.rebound b).qualified = ctx.qualified :=
  rfl

theorem name_rebound :
    (ctx.rebound b).name = ctx.name :=
  rfl

theorem name?_rebound :
    (ctx.rebound b).name? = ctx.name? :=
  rfl

theorem grouped_rebound :
    (ctx.rebound b).grouped = ctx.grouped :=
  rfl

theorem limitLine_rebound :
    (ctx.rebound b).limitLine = ctx.limitLine :=
  rfl

end

------------------------------------------------------------
-- Questions about Bindings
------------------------------------------------------------

variable {ctx : RenderContext} {b : Bindings}

theorem Bindings.value?_eq_none
    {name : String} :
    b.value? name = none ↔ b name = .null := by
  unfold Bindings.value?
  cases b name <;> simp

theorem Bindings.value?_eq_some
    {name : String}
    {v : Value}
    (hValue : b.value? name = some v) :
    b name = v := by
  unfold Bindings.value? at hValue
  split at hValue
  · cases hValue
  · exact Option.some.inj hValue

/- To look up a name is to know what it is bound to, null included. -/
theorem Bindings.eq_of_value?_eq
    {p q : Bindings}
    {name : String}
    (hSame : p.value? name = q.value? name) :
    p name = q name := by
  cases hValue : q.value? name with
  | none =>
      rw [hValue] at hSame
      rw [Bindings.value?_eq_none.mp hSame, Bindings.value?_eq_none.mp hValue]
  | some v =>
      rw [hValue] at hSame
      rw [Bindings.value?_eq_some hSame, Bindings.value?_eq_some hValue]

/- A parameter that is looked up alike is judged alike. -/
theorem Node.LookedUpAlike.judged
    {n : Node}
    {name : String}
    (hNode : n.LookedUpAlike ctx b)
    (hName : n.parameterName? = some name) :
    ctx.bindings.JudgedAlike b name := by
  cases n with
  | parameter own =>
      cases hName
      exact hNode.1
  | numeral own =>
      cases hName
      exact hNode.1
  | _ => cases hName

theorem judged_of_bareParameter?
    {slot : Slot Node}
    {name : String}
    (hSlot : slot.Everywhere (Node.LookedUpAlike ctx b))
    (hBare : slot.bareParameter? = some name) :
    ctx.bindings.JudgedAlike b name := by
  cases slot with
  | one n => exact (Node.Everywhere.root hSlot).judged hBare
  | _ => cases hBare

theorem judged_of_leadingParameter?
    {list : Slot Node}
    {name : String}
    (hList : list.Everywhere (Node.LookedUpAlike ctx b))
    (hLeading : RenderContext.leadingParameter? list = some name) :
    ctx.bindings.JudgedAlike b name := by
  unfold RenderContext.leadingParameter? at hLeading
  split at hLeading
  next => exact (Node.Everywhere.root hList.2.1).judged hLeading
  next => exact (Node.Everywhere.root hList).judged hLeading
  next => cases hLeading

theorem isUnbound_rebound
    {slot : Slot Node}
    (hSlot : slot.Everywhere (Node.LookedUpAlike ctx b)) :
    (ctx.rebound b).isUnbound slot = ctx.isUnbound slot := by
  unfold RenderContext.isUnbound
  cases hBare : slot.bareParameter? with
  | none => rfl
  | some name =>
      have hJudged := judged_of_bareParameter? hSlot hBare
      exact congrArg Bool.not hJudged.isBound_eq

theorem judgeList_rebound
    (op : BinaryOp)
    {list : Slot Node}
    (hList : list.Everywhere (Node.LookedUpAlike ctx b)) :
    (ctx.rebound b).judgeList op list = ctx.judgeList op list := by
  unfold RenderContext.judgeList
  split
  next => rfl
  next =>
    cases hLeading : RenderContext.leadingParameter? list with
    | none => rfl
    | some name =>
        have hJudged := judged_of_leadingParameter? hList hLeading
        have hBound := hJudged.isBound_eq
        unfold Bindings.isBound at hBound
        have hRebound : (ctx.rebound b).bindings = b := rfl
        dsimp only
        rw [hRebound]
        cases hOwn : ctx.bindings.value? name with
        | none =>
            rw [hOwn, Option.isSome_none, Option.isSome_eq_false_iff,
              Option.isNone_iff_eq_none] at hBound
            rw [hBound]
        | some v =>
            rw [hOwn] at hBound
            rcases Option.isSome_iff_exists.mp hBound with ⟨v', hOther⟩
            have hEmpty := hJudged.isEmpty_eq
            rw [Bindings.value?_eq_some hOwn,
              Bindings.value?_eq_some hOther] at hEmpty
            simp only [hOther, hEmpty]

theorem resolve_rebound
    {slot : Slot Node}
    (text : Option String)
    (hSlot : slot.Everywhere (Node.LookedUpAlike ctx b)) :
    (ctx.rebound b).resolve slot text = ctx.resolve slot text := by
  have hNumeral {name : String} (hSame : slot = .one (.numeral name)) :
      b.isBound name = ctx.bindings.isBound name := by
    subst hSame
    exact (judged_of_bareParameter? hSlot rfl).isBound_eq
  unfold RenderContext.resolve
  congr 1
  funext s
  change (if ctx.inline = true then _ else _) = _
  congr 1
  split
  next name =>
    change (if b.isBound name = true then _ else _) = _
    rw [hNumeral rfl]
  next => rfl

------------------------------------------------------------
-- Renderings under Other Bindings
------------------------------------------------------------

mutual

/-
  A node is written alike under bindings by which each parameter
  in it is looked up alike.
-/
theorem Node.render_rebound :
    ∀ (n : Node) (depth : Nat) (indent : Int),
      n.Everywhere (Node.LookedUpAlike ctx b) →
        n.render (ctx.rebound b) depth indent = n.render ctx depth indent
| .column .., _, _, _ | .literal _, _, _, _ | .raw _, _, _, _
| .foreign _, _, _, _ => rfl
| .parameter _, _, _, hNode => by
    simp only [Node.render, isTooDeep_rebound, maxDepth_rebound, hNode.2]
| .numeral _, _, _, hNode => by
    simp only [Node.render, isTooDeep_rebound, maxDepth_rebound, hNode.2]
| .group members _ _, _, _, hNode => by
    simp only [Node.render, isTooDeep_rebound, maxDepth_rebound,
      members.renderSlot_rebound _ _ _ hNode.2]
| .binary op left right, _, _, hNode => by
    simp only [Node.render, isTooDeep_rebound, maxDepth_rebound,
      RenderContext.unlessEmptyList, grouped_rebound,
      isUnbound_rebound hNode.2.2, judgeList_rebound op hNode.2.2,
      left.renderSlot_rebound _ _ _ hNode.2.1,
      right.renderSlot_rebound _ _ _ hNode.2.2]
| .connective _ operands, _, _, hNode => by
    simp only [Node.render, isTooDeep_rebound, maxDepth_rebound,
      operands.renderSlot_rebound _ _ _ hNode.2]
| .unary _ operand, _, _, hNode => by
    simp only [Node.render, isTooDeep_rebound, maxDepth_rebound,
      operand.renderSlot_rebound _ _ _ hNode.2]
| .between operand low high, _, _, hNode => by
    simp only [Node.render, isTooDeep_rebound, maxDepth_rebound,
      operand.renderSlot_rebound _ _ _ hNode.2.1,
      low.renderSlot_rebound _ _ _ hNode.2.2.1,
      high.renderSlot_rebound _ _ _ hNode.2.2.2]
| .call _ (.many args) _, _, _, hNode => by
    simp only [Node.render, isTooDeep_rebound, maxDepth_rebound,
      Members.renderArgs_rebound args _ _ hNode.2]
| .call _ .vacant _, _, _, _ | .call _ (.one _) _, _, _, _ => rfl
| .alias node _, _, _, hNode => by
    simp only [Node.render, isTooDeep_rebound, maxDepth_rebound,
      name_rebound, node.renderSlot_rebound _ _ _ hNode.2]
| .orderBy node _, _, _, hNode => by
    simp only [Node.render, isTooDeep_rebound, maxDepth_rebound,
      node.renderSlot_rebound _ _ _ hNode.2]
| .table _ _ _ _ condition, _, _, hNode => by
    simp only [Node.render, isTooDeep_rebound, maxDepth_rebound,
      qualified_rebound, name?_rebound,
      condition.renderSlot_rebound _ _ _ hNode.2]
| .select query, _, _, hNode => by
    simp only [Node.render, isTooDeep_rebound, maxDepth_rebound,
      query.renderQuery_rebound _ _ hNode.2]
| .subquery .vacant _, _, _, _ | .subquery (.many _) _, _, _, _ => rfl
| .subquery (.one n) _, _, _, hNode => by
    cases n with
    | select query =>
        simp only [Node.render, isTooDeep_rebound, maxDepth_rebound,
          name?_rebound, query.renderQuery_rebound _ _ hNode.2.2]
    | _ => rfl
termination_by structural n => n

theorem Slot.renderSlot_rebound :
    ∀ (slot : Slot Node) (depth : Nat) (indent : Int) (separator : String),
      slot.Everywhere (Node.LookedUpAlike ctx b) →
        Node.renderSlot (ctx.rebound b) depth indent separator slot =
          Node.renderSlot ctx depth indent separator slot
| .vacant, _, _, _, _ => rfl
| .one n, _, _, _, hNode => by
    simp only [Node.renderSlot, n.render_rebound _ _ hNode]
| .many members, _, _, _, hMembers => by
    simp only [Node.renderSlot,
      Members.renderMembers_rebound members _ _ hMembers]
termination_by structural slot => slot

theorem Members.renderMembers_rebound :
    ∀ (members : List (Option Node)) (depth : Nat) (indent : Int),
      Members.Everywhere (Node.LookedUpAlike ctx b) members →
        Node.renderMembers (ctx.rebound b) depth indent members =
          Node.renderMembers ctx depth indent members
| [], _, _, _ => rfl
| none :: members, _, _, hMembers =>
    Members.renderMembers_rebound members _ _ hMembers
| some n :: members, _, _, hMembers => by
    simp only [Node.renderMembers, n.render_rebound _ _ hMembers.1,
      Members.renderMembers_rebound members _ _ hMembers.2]
termination_by structural members => members

theorem Members.renderArgs_rebound :
    ∀ (args : List (Option Node)) (depth : Nat) (indent : Int),
      Members.Everywhere (Node.LookedUpAlike ctx b) args →
        Node.renderArgs (ctx.rebound b) depth indent args =
          Node.renderArgs ctx depth indent args
| [], _, _, _ => rfl
| none :: _, _, _, _ => rfl
| some n :: args, _, _, hArgs => by
    simp only [Node.renderArgs, n.render_rebound _ _ hArgs.1,
      Members.renderArgs_rebound args _ _ hArgs.2]
termination_by structural args => args

theorem Query.renderQuery_rebound :
    ∀ (query : Query Node) (depth : Nat) (indent : Int),
      query.Everywhere (Node.LookedUpAlike ctx b) →
        Node.renderQuery (ctx.rebound b) depth indent query =
          Node.renderQuery ctx depth indent query
| ⟨columns, source, filter, groups, having, order, limit, offset, _, _⟩,
    _, _, ⟨hColumns, hSource, hFilter, hGroups, hHaving, hOrder, hLimit,
      hOffset⟩ => by
    simp only [Node.renderQuery, limitLine_rebound,
      columns.renderSlot_rebound _ _ _ hColumns,
      source.renderSlot_rebound _ _ _ hSource,
      filter.renderSlot_rebound _ _ _ hFilter,
      groups.renderSlot_rebound _ _ _ hGroups,
      having.renderSlot_rebound _ _ _ hHaving,
      order.renderSlot_rebound _ _ _ hOrder,
      limit.renderSlot_rebound _ _ _ hLimit,
      offset.renderSlot_rebound _ _ _ hOffset,
      resolve_rebound _ hLimit, resolve_rebound _ hOffset]
termination_by structural query => query

end

------------------------------------------------------------
-- The Parameters of a Tree
------------------------------------------------------------

/- A parameter is looked up alike if its value is the same. -/
theorem Node.lookedUpAlike_of_same
    {n : Node}
    (hSame :
      ∀ name, n.parameterName? = some name → b name = ctx.bindings name) :
    n.LookedUpAlike ctx b := by
  cases n with
  | parameter name =>
      have hValue := hSame name rfl
      refine ⟨⟨?_, ?_⟩, ?_⟩
      · simp only [Bindings.isBound, Bindings.value?, hValue]
      · rw [hValue]
      · simp only [RenderContext.parameter, RenderContext.rebound,
          Bindings.value?, hValue]
        rfl
  | numeral name =>
      have hValue := hSame name rfl
      refine ⟨⟨?_, ?_⟩, ?_⟩
      · simp only [Bindings.isBound, Bindings.value?, hValue]
      · rw [hValue]
      · simp only [RenderContext.numeral, RenderContext.rebound,
          Bindings.value?, hValue]
        rfl
  | _ => exact trivial

/- A tree has the same text under bindings that look up all parts alike. -/
theorem render_rebound
    {n : Node}
    (hTree : n.Everywhere (Node.LookedUpAlike ctx b)) :
    (ctx.rebound b).render n = ctx.render n := by
  unfold RenderContext.render
  rw [(Slot.one n).renderSlot_rebound 1 0 " " hTree]

/-
  Bindings by which each of the parameters of a tree has the
  same value, or is unbound, give the tree the same text or the
  same error.
-/
theorem rendering_depends_on_parameters
    {d : Dialect}
    {p q : Bindings}
    {inline : Bool}
    {maxDepth : Int}
    {n : Node}
    (hSame : ∀ name ∈ n.parameterNames, p.value? name = q.value? name) :
    RenderContext.render ⟨d, p, inline, maxDepth⟩ n =
      RenderContext.render ⟨d, q, inline, maxDepth⟩ n := by
  have hTree :
      n.Everywhere (Node.LookedUpAlike ⟨d, p, inline, maxDepth⟩ q) := by
    rw [Node.everywhere_iff]
    intro m hFragment
    apply Node.lookedUpAlike_of_same
    intro name hName
    have hListed := Node.mem_parameterNames.mpr ⟨m, hFragment, hName⟩
    exact Bindings.eq_of_value?_eq (hSame name hListed).symm
  exact (render_rebound hTree).symm

/- Parameters in a list of values, in a subquery and in a limit. -/
def scatteredTree : Node :=
  .select
    { columns := .ofList [.column "a" none none]
      source := .ofList [.table "t" none none none .vacant]
      filter :=
        .one (.binary .isIn (.one (.column "b" none none))
          (.one (.parameter "ids")))
      groups := .vacant
      having :=
        .one (.binary .equal (.one (.column "c" none none))
          (.one (.subquery
            (.one (.select
              { columns := .ofList [.parameter "x"]
                source := .vacant
                filter := .vacant
                groups := .vacant
                having := .vacant
                order := .vacant
                limit := .vacant
                offset := .vacant
                distinct := true
                options := [] }))
            none)))
      order := .vacant
      limit := .one (.numeral "n")
      offset := .vacant
      distinct := false
      options := [] }

/- Bindings of two of the names, and of one that is no parameter. -/
def scatteredBindings : Bindings :=
  .ofList [("ids", .collection .list [.int 1, .int 2]),
    ("x", .text "y"), ("z", .int 0)]

/- The same two names, with null for the limit. -/
def sparseBindings : Bindings :=
  .ofList [("n", .null), ("x", .text "y"),
    ("ids", .collection .list [.int 1, .int 2])]

theorem rendering_depends_on_parameters_of_scattered :
    (∀ name ∈ scatteredTree.parameterNames,
      scatteredBindings.value? name = sparseBindings.value? name) ∧
      RenderContext.render ⟨.mysql, scatteredBindings, true, 100⟩
          scatteredTree =
        RenderContext.render ⟨.mysql, sparseBindings, true, 100⟩
          scatteredTree := by
  have hNames : scatteredTree.parameterNames = ["ids", "x", "n"] := by
    decide
  have hSame :
      ∀ name ∈ scatteredTree.parameterNames,
        scatteredBindings.value? name = sparseBindings.value? name := by
    rw [hNames]
    simp only [List.forall_mem_cons, List.not_mem_nil, false_imp_iff,
      implies_true, and_true]
    exact ⟨rfl, rfl, rfl⟩
  exact ⟨hSame, rendering_depends_on_parameters hSame⟩

end SqlTemplate
