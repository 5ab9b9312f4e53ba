import SqlTemplate.Node.Everywhere
import SqlTemplate.Node.Parameters

/-
  The fragments of a tree: its nodes from the root downward, in
  the order of the slots that hold them.

  Key definitions include:
    * `Node.fragments`
    * `Query.limitNames`
    * `Node.limitNames`

  Correctness is proven by:
    * `Node.everywhere_iff`
    * `Node.Everywhere.nested`
    * `Node.parameterList_eq`
    * `Node.mem_parameterNames`
-/

------------------------------------------------------------
-- Fragments in Order
------------------------------------------------------------

namespace SqlTemplate

namespace Node

mutual

/- A node and all nodes below it. -/
def fragments (n : Node) : List Node :=
  n ::
    match n with
    | .group members _ _ => slotFragments members
    | .binary _ left right => slotFragments left ++ slotFragments right
    | .connective _ operands => slotFragments operands
    | .unary _ operand => slotFragments operand
    | .between operand low high =>
        slotFragments operand ++ slotFragments low ++ slotFragments high
    | .call _ args _ => slotFragments args
    | .alias node _ => slotFragments node
    | .orderBy node _ => slotFragments node
    | .table _ _ _ _ condition => slotFragments condition
    | .select query => queryFragments query
    | .subquery query _ => slotFragments query
    | _ => []

/- The fragments in a slot. -/
def slotFragments : Slot Node → List Node
| .vacant => []
| .one n => n.fragments
| .many members => listFragments members

/- The fragments of the members of a list. -/
def listFragments : List (Option Node) → List Node
| [] => []
| none :: members => listFragments members
| some n :: members => n.fragments ++ listFragments members

/- The fragments of a query. -/
def queryFragments : Query Node → List Node
| ⟨columns, source, filter, groups, having, order, limit, offset, _, _⟩ =>
    slotFragments columns ++ slotFragments source ++
      slotFragments filter ++ slotFragments groups ++
        slotFragments having ++ slotFragments order ++
          slotFragments limit ++ slotFragments offset

end

end Node

------------------------------------------------------------
-- Properties of All Fragments
------------------------------------------------------------

section

variable {P : Node → Prop}

mutual

/- What holds everywhere in a tree holds of each fragment. -/
theorem Node.everywhere_iff :
    ∀ n : Node, n.Everywhere P ↔ ∀ m ∈ n.fragments, P m
| .column .. | .literal _ | .raw _ | .parameter _ | .numeral _
| .foreign _ => by
    simp only [Node.Everywhere, Node.fragments, List.forall_mem_singleton]
| .group members _ _ => by
    simp only [Node.Everywhere, Node.fragments, List.forall_mem_cons,
      members.everywhere_iff]
| .binary _ left right => by
    simp only [Node.Everywhere, Node.fragments, List.forall_mem_cons,
      List.forall_mem_append, left.everywhere_iff, right.everywhere_iff]
| .connective _ operands => by
    simp only [Node.Everywhere, Node.fragments, List.forall_mem_cons,
      operands.everywhere_iff]
| .unary _ operand => by
    simp only [Node.Everywhere, Node.fragments, List.forall_mem_cons,
      operand.everywhere_iff]
| .between operand low high => by
    simp only [Node.Everywhere, Node.fragments, List.forall_mem_cons,
      List.forall_mem_append, operand.everywhere_iff, low.everywhere_iff,
      high.everywhere_iff, and_assoc]
| .call _ args _ => by
    simp only [Node.Everywhere, Node.fragments, List.forall_mem_cons,
      args.everywhere_iff]
| .alias node _ => by
    simp only [Node.Everywhere, Node.fragments, List.forall_mem_cons,
      node.everywhere_iff]
| .orderBy node _ => by
    simp only [Node.Everywhere, Node.fragments, List.forall_mem_cons,
      node.everywhere_iff]
| .table _ _ _ _ condition => by
    simp only [Node.Everywhere, Node.fragments, List.forall_mem_cons,
      condition.everywhere_iff]
| .select query => by
    simp only [Node.Everywhere, Node.fragments, List.forall_mem_cons,
      query.everywhere_iff]
| .subquery query _ => by
    simp only [Node.Everywhere, Node.fragments, List.forall_mem_cons,
      query.everywhere_iff]
termination_by structural n => n

theorem Slot.everywhere_iff :
    ∀ slot : Slot Node,
      slot.Everywhere P ↔ ∀ m ∈ Node.slotFragments slot, P m
| .vacant => by
    simp only [Slot.Everywhere, Node.slotFragments, List.not_mem_nil,
      false_imp_iff, implies_true]
| .one n => n.everywhere_iff
| .many members => Members.everywhere_iff members
termination_by structural slot => slot

theorem Members.everywhere_iff :
    ∀ members : List (Option Node),
      Members.Everywhere P members ↔
        ∀ m ∈ Node.listFragments members, P m
| [] => by
    simp only [Members.Everywhere, Node.listFragments, List.not_mem_nil,
      false_imp_iff, implies_true]
| none :: members => Members.everywhere_iff members
| some n :: members => by
    simp only [Members.Everywhere, Node.listFragments,
      List.forall_mem_append, n.everywhere_iff,
      Members.everywhere_iff members]
termination_by structural members => members

theorem Query.everywhere_iff :
    ∀ query : Query Node,
      query.Everywhere P ↔ ∀ m ∈ Node.queryFragments query, P m
| ⟨columns, source, filter, groups, having, order, limit, offset, _,
    _⟩ => by
    simp only [Query.Everywhere, Node.queryFragments,
      List.forall_mem_append, columns.everywhere_iff,
      source.everywhere_iff, filter.everywhere_iff, groups.everywhere_iff,
      having.everywhere_iff, order.everywhere_iff, limit.everywhere_iff,
      offset.everywhere_iff, and_assoc]
termination_by structural query => query

end

end

section

variable {P : Node → Prop}

mutual

/- What holds everywhere in a tree holds everywhere in each fragment. -/
theorem Node.Everywhere.nested :
    ∀ n : Node, n.Everywhere P → n.Everywhere (Node.Everywhere P)
| .column .., hNode | .literal _, hNode | .raw _, hNode
| .parameter _, hNode | .numeral _, hNode | .foreign _, hNode => hNode
| .group members _ _, hNode =>
    ⟨hNode, Slot.Everywhere.nested members hNode.2⟩
| .binary _ left right, hNode =>
    ⟨hNode, Slot.Everywhere.nested left hNode.2.1,
      Slot.Everywhere.nested right hNode.2.2⟩
| .connective _ operands, hNode =>
    ⟨hNode, Slot.Everywhere.nested operands hNode.2⟩
| .unary _ operand, hNode =>
    ⟨hNode, Slot.Everywhere.nested operand hNode.2⟩
| .between operand low high, hNode =>
    ⟨hNode, Slot.Everywhere.nested operand hNode.2.1,
      Slot.Everywhere.nested low hNode.2.2.1,
      Slot.Everywhere.nested high hNode.2.2.2⟩
| .call _ args _, hNode => ⟨hNode, Slot.Everywhere.nested args hNode.2⟩
| .alias node _, hNode => ⟨hNode, Slot.Everywhere.nested node hNode.2⟩
| .orderBy node _, hNode => ⟨hNode, Slot.Everywhere.nested node hNode.2⟩
| .table _ _ _ _ condition, hNode =>
    ⟨hNode, Slot.Everywhere.nested condition hNode.2⟩
| .select query, hNode => ⟨hNode, Query.Everywhere.nested query hNode.2⟩
| .subquery query _, hNode =>
    ⟨hNode, Slot.Everywhere.nested query hNode.2⟩
termination_by structural n => n

theorem Slot.Everywhere.nested :
    ∀ slot : Slot Node,
      slot.Everywhere P → slot.Everywhere (Node.Everywhere P)
| .vacant, _ => trivial
| .one n, hNode => Node.Everywhere.nested n hNode
| .many members, hMembers => Members.Everywhere.nested members hMembers
termination_by structural slot => slot

theorem Members.Everywhere.nested :
    ∀ members : List (Option Node),
      Members.Everywhere P members →
        Members.Everywhere (Node.Everywhere P) members
| [], _ => trivial
| none :: members, hMembers => Members.Everywhere.nested members hMembers
| some n :: members, hMembers =>
    ⟨Node.Everywhere.nested n hMembers.1,
      Members.Everywhere.nested members hMembers.2⟩
termination_by structural members => members

theorem Query.Everywhere.nested :
    ∀ query : Query Node,
      query.Everywhere P → query.Everywhere (Node.Everywhere P)
| ⟨columns, source, filter, groups, having, order, limit, offset, _, _⟩,
    hQuery =>
    ⟨Slot.Everywhere.nested columns hQuery.1,
      Slot.Everywhere.nested source hQuery.2.1,
      Slot.Everywhere.nested filter hQuery.2.2.1,
      Slot.Everywhere.nested groups hQuery.2.2.2.1,
      Slot.Everywhere.nested having hQuery.2.2.2.2.1,
      Slot.Everywhere.nested order hQuery.2.2.2.2.2.1,
      Slot.Everywhere.nested limit hQuery.2.2.2.2.2.2.1,
      Slot.Everywhere.nested offset hQuery.2.2.2.2.2.2.2⟩
termination_by structural query => query

end

end

theorem Node.mem_fragments (n : Node) : n ∈ n.fragments := by
  rw [Node.fragments.eq_def]
  exact List.mem_cons_self

theorem Node.Everywhere.root
    {P : Node → Prop}
    {n : Node}
    (hNode : n.Everywhere P) :
    P n :=
  n.everywhere_iff.mp hNode n n.mem_fragments

------------------------------------------------------------
-- Parameters among the Fragments
------------------------------------------------------------

mutual

/- The parameters of a tree are those of its fragments. -/
theorem Node.parameterList_eq :
    ∀ n : Node, n.parameterList = n.fragments.filterMap Node.parameterName?
| .column .. | .literal _ | .raw _ | .parameter _ | .numeral _
| .foreign _ => rfl
| .group members _ _ => members.parameterList_eq
| .binary _ left right => by
    simp only [Node.parameterList, Node.fragments, List.filterMap_cons,
      Node.parameterName?, List.filterMap_append, left.parameterList_eq,
      right.parameterList_eq]
| .connective _ operands => operands.parameterList_eq
| .unary _ operand => operand.parameterList_eq
| .between operand low high => by
    simp only [Node.parameterList, Node.fragments, List.filterMap_cons,
      Node.parameterName?, List.filterMap_append, operand.parameterList_eq,
      low.parameterList_eq, high.parameterList_eq]
| .call _ args _ => args.parameterList_eq
| .alias node _ => node.parameterList_eq
| .orderBy node _ => node.parameterList_eq
| .table _ _ _ _ condition => condition.parameterList_eq
| .select query => query.parameterList_eq
| .subquery query _ => query.parameterList_eq
termination_by structural n => n

theorem Slot.parameterList_eq :
    ∀ slot : Slot Node,
      Node.slotParameters slot =
        (Node.slotFragments slot).filterMap Node.parameterName?
| .vacant => rfl
| .one n => n.parameterList_eq
| .many members => Members.parameterList_eq members
termination_by structural slot => slot

theorem Members.parameterList_eq :
    ∀ members : List (Option Node),
      Node.listParameters members =
        (Node.listFragments members).filterMap Node.parameterName?
| [] => rfl
| none :: members => Members.parameterList_eq members
| some n :: members => by
    simp only [Node.listParameters, Node.listFragments,
      List.filterMap_append, n.parameterList_eq,
      Members.parameterList_eq members]
termination_by structural members => members

theorem Query.parameterList_eq :
    ∀ query : Query Node,
      Node.queryParameters query =
        (Node.queryFragments query).filterMap Node.parameterName?
| ⟨columns, source, filter, groups, having, order, limit, offset, _,
    _⟩ => by
    simp only [Node.queryParameters, Node.queryFragments,
      List.filterMap_append, columns.parameterList_eq,
      source.parameterList_eq, filter.parameterList_eq,
      groups.parameterList_eq, having.parameterList_eq,
      order.parameterList_eq, limit.parameterList_eq,
      offset.parameterList_eq]
termination_by structural query => query

end

/- A name is one of a tree's if a fragment is a parameter of that name. -/
theorem Node.mem_parameterNames
    {n : Node}
    {name : String} :
    name ∈ n.parameterNames ↔
      ∃ m ∈ n.fragments, m.parameterName? = some name := by
  rw [Node.parameterNames, mem_distinctNames, n.parameterList_eq,
    List.mem_filterMap]

------------------------------------------------------------
-- Parameters of Limits
------------------------------------------------------------

/- The parameters of the limit and the offset of a query. -/
def Query.limitNames (query : Query Node) : List String :=
  Node.slotParameters query.limit ++ Node.slotParameters query.offset

/- The parameters of the limits and the offsets of all queries. -/
def Node.limitNames (n : Node) : List String :=
  n.fragments.flatMap fun m =>
    match m with
    | .select query => query.limitNames
    | _ => []

end SqlTemplate
