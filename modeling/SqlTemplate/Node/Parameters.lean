import SqlTemplate.Node

/-
  The parameters of a tree.

  Key definitions include:
    * `Node.parameterList`
    * `Node.parameterNames`

  Correctness is proven by:
    * `mem_distinctNames`
    * `nodup_distinctNames`
-/

------------------------------------------------------------
-- Parameters in Order
------------------------------------------------------------

namespace SqlTemplate

namespace Node

mutual

/-
  The names of the parameters of a tree, with duplicates, in
  the order of the slots that hold them.
-/
def parameterList : Node → List String
| .parameter name => [name]
| .numeral name => [name]
| .group members _ _ => slotParameters members
| .binary _ left right => slotParameters left ++ slotParameters right
| .connective _ operands => slotParameters operands
| .unary _ operand => slotParameters operand
| .between operand low high =>
    slotParameters operand ++ slotParameters low ++ slotParameters high
| .call _ args _ => slotParameters args
| .alias node _ => slotParameters node
| .orderBy node _ => slotParameters node
| .table _ _ _ _ condition => slotParameters condition
| .select query => queryParameters query
| .subquery query _ => slotParameters query
| _ => []

/- The parameters in a slot. -/
def slotParameters : Slot Node → List String
| .vacant => []
| .one n => n.parameterList
| .many members => listParameters members

/- The parameters of the members of a list. -/
def listParameters : List (Option Node) → List String
| [] => []
| none :: members => listParameters members
| some n :: members => n.parameterList ++ listParameters members

/- The parameters of a query. -/
def queryParameters : Query Node → List String
| ⟨columns, source, filter, groups, having, order, limit, offset, _, _⟩ =>
    slotParameters columns ++ slotParameters source ++
      slotParameters filter ++ slotParameters groups ++
        slotParameters having ++ slotParameters order ++
          slotParameters limit ++ slotParameters offset

end

------------------------------------------------------------
-- Names of Parameters
------------------------------------------------------------

/- Names without repetitions, each at its first place. -/
def distinctNames : List String → List String
| [] => []
| name :: names =>
    name :: (distinctNames names).filter fun other => other != name

/-
  The names of the parameters of a tree, each once, in the
  order of their first appearance.
-/
def parameterNames (n : Node) : List String :=
  distinctNames n.parameterList

end Node

theorem mem_distinctNames
    {name : String}
    {names : List String} :
    name ∈ Node.distinctNames names ↔ name ∈ names := by
  induction names with
  | nil => rfl
  | cons own names ih =>
      rw [Node.distinctNames, List.mem_cons, List.mem_cons, List.mem_filter,
        ih, bne_iff_ne]
      by_cases hOwn : name = own
      · simp [hOwn]
      · simp [hOwn]

theorem nodup_distinctNames
    (names : List String) :
    (Node.distinctNames names).Nodup := by
  induction names with
  | nil => exact List.nodup_nil
  | cons own names ih =>
      rw [Node.distinctNames, List.nodup_cons, List.mem_filter]
      exact ⟨fun hOwn => by simp at hOwn, ih.filter _⟩

end SqlTemplate
