import SqlTemplate.Node.Parameters
import SqlTemplate.Rendering.Pruned

/-
  Every parameter that is left in a pruned tree has a value to
  be written, so nothing more is absent from it.

  Correctness is proven by:
    * `Node.filled_pruned`
    * `parameterName?_of_pruned`
    * `judgeList_of_filled`
-/

------------------------------------------------------------
-- Filled Trees
------------------------------------------------------------

namespace SqlTemplate

/- Every parameter among the names has a value to be written. -/
def Bindings.Fills
    (b : Bindings)
    (names : List String) : Prop :=
  ∀ name ∈ names, b.fills name = true

instance (b : Bindings) : DecidablePred b.Fills :=
  fun names => inferInstanceAs (Decidable (∀ name ∈ names, b.fills name = true))

variable {b : Bindings}

theorem fills_append
    {names others : List String} :
    b.Fills (names ++ others) ↔ b.Fills names ∧ b.Fills others :=
  List.forall_mem_append

theorem fills_nil : b.Fills [] :=
  nofun

/- The value of a bound parameter fills its place. -/
theorem value_of_fills
    {name : String}
    (hFills : b.fills name = true) :
    ∃ v, b.value? name = some v ∧ v.isEmptyCollection = false := by
  unfold Bindings.fills at hFills
  split at hFills
  next v hValue => exact ⟨v, hValue, by simpa using hFills⟩
  next => cases hFills

theorem given?_eq_some
    {α : Type}
    {slot slot' : Slot α} :
    slot.given? = some slot' ↔ slot.isVacant = false ∧ slot = slot' := by
  unfold Slot.given?
  cases slot.isVacant <;> simp

theorem listParameters_append
    (members others : List (Option Node)) :
    Node.listParameters (members ++ others) =
      Node.listParameters members ++ Node.listParameters others := by
  induction members with
  | nil => rfl
  | cons member members ih =>
      cases member with
      | none => simp only [List.cons_append, Node.listParameters, ih]
      | some n =>
          simp only [List.cons_append, Node.listParameters, ih,
            List.append_assoc]

theorem slotParameters_append
    (slot : Slot Node)
    (n : Node) :
    Node.slotParameters (slot.append n) =
      Node.slotParameters slot ++ n.parameterList := by
  cases slot with
  | vacant => rfl
  | one m => simp [Slot.append, Node.slotParameters, Node.listParameters]
  | many members =>
      simp [Slot.append, Node.slotParameters, listParameters_append,
        Node.listParameters]

theorem slotParameters_ofPresent
    (ns : List Node) :
    Node.slotParameters (.ofPresent ns) =
      Node.listParameters (ns.map some) := by
  cases ns <;> rfl

theorem fills_ranged
    {operand low high : Slot Node}
    {n : Node}
    (hRanged : Node.ranged operand low high = some n)
    (hOperand : b.Fills (Node.slotParameters operand))
    (hLow : b.Fills (Node.slotParameters low))
    (hHigh : b.Fills (Node.slotParameters high)) :
    b.Fills n.parameterList := by
  unfold Node.ranged at hRanged
  split at hRanged
  · cases hRanged
  · cases hRanged
    exact fills_append.mpr ⟨hOperand, hLow⟩
  · cases hRanged
    exact fills_append.mpr ⟨hOperand, hHigh⟩
  · cases hRanged
    exact fills_append.mpr ⟨fills_append.mpr ⟨hOperand, hLow⟩, hHigh⟩

mutual

/- The parameters that are left have values. -/
theorem Node.filled_pruned :
    ∀ {n n' : Node}, n.pruned b = some n' → b.Fills n'.parameterList
| .parameter name, n', hPruned => by
    rw [Node.pruned] at hPruned
    split at hPruned
    next hFills =>
      cases hPruned
      intro other hMember
      rw [List.mem_singleton.mp hMember]
      exact hFills
    next => cases hPruned
| .numeral name, n', hPruned => by
    rw [Node.pruned] at hPruned
    split at hPruned
    next hFills =>
      cases hPruned
      intro other hMember
      rw [List.mem_singleton.mp hMember]
      exact hFills
    next => cases hPruned
| .column .., n', hPruned => by
    cases hPruned
    exact fills_nil
| .literal _, n', hPruned => by
    cases hPruned
    exact fills_nil
| .raw _, n', hPruned => by
    cases hPruned
    exact fills_nil
| .foreign _, n', hPruned => by
    cases hPruned
    exact fills_nil
| .group members _ _, n', hPruned => by
    simp only [Node.pruned, Option.map_eq_some_iff, given?_eq_some] at hPruned
    rcases hPruned with ⟨_, ⟨_, rfl⟩, rfl⟩
    exact members.filled_pruned
| .binary op left right, n', hPruned => by
    rw [Node.pruned] at hPruned
    split at hPruned
    next =>
      simp only [Option.map_eq_some_iff, given?_eq_some] at hPruned
      rcases hPruned with ⟨_, ⟨_, rfl⟩, rfl⟩
      rw [Node.nullTested, Node.parameterList, slotParameters_append]
      exact fills_append.mpr ⟨left.filled_pruned, fills_nil⟩
    next =>
      split at hPruned
      next =>
        cases hPruned
        exact fills_nil
      next =>
        simp only [Option.bind_eq_bind, Option.bind_eq_some_iff,
          given?_eq_some] at hPruned
        rcases hPruned with ⟨_, ⟨_, rfl⟩, _, ⟨_, rfl⟩, hBinary⟩
        cases hBinary
        exact fills_append.mpr ⟨left.filled_pruned, right.filled_pruned⟩
| .connective _ operands, n', hPruned => by
    simp only [Node.pruned, Option.map_eq_some_iff, given?_eq_some] at hPruned
    rcases hPruned with ⟨_, ⟨_, rfl⟩, rfl⟩
    exact operands.filled_pruned
| .unary _ operand, n', hPruned => by
    simp only [Node.pruned, Option.map_eq_some_iff, given?_eq_some] at hPruned
    rcases hPruned with ⟨_, ⟨_, rfl⟩, rfl⟩
    exact operand.filled_pruned
| .between operand low high, n', hPruned => by
    simp only [Node.pruned, Option.bind_eq_some_iff, given?_eq_some] at hPruned
    rcases hPruned with ⟨_, ⟨_, rfl⟩, hRanged⟩
    exact fills_ranged hRanged operand.filled_pruned low.filled_pruned
      high.filled_pruned
| .call _ (.many args) _, n', hPruned => by
    simp only [Node.pruned, Option.map_eq_some_iff] at hPruned
    rcases hPruned with ⟨_, hArgs, rfl⟩
    exact Members.filled_prunedArgs hArgs
| .call _ .vacant _, n', hPruned => by
    cases hPruned
    exact fills_nil
| .call _ (.one arg) _, n', hPruned => by
    simp only [Node.pruned, Option.map_eq_some_iff] at hPruned
    rcases hPruned with ⟨arg', hArg, rfl⟩
    have hFilled := Node.filled_pruned hArg
    exact hFilled
| .alias node _, n', hPruned => by
    simp only [Node.pruned, Option.map_eq_some_iff, given?_eq_some] at hPruned
    rcases hPruned with ⟨_, ⟨_, rfl⟩, rfl⟩
    exact node.filled_pruned
| .orderBy node _, n', hPruned => by
    simp only [Node.pruned, Option.map_eq_some_iff, given?_eq_some] at hPruned
    rcases hPruned with ⟨_, ⟨_, rfl⟩, rfl⟩
    exact node.filled_pruned
| .table _ _ _ _ condition, n', hPruned => by
    cases hPruned
    exact condition.filled_pruned
| .select query, n', hPruned => by
    cases hPruned
    exact query.filled_pruned
| .subquery query _, n', hPruned => by
    cases hPruned
    exact query.filled_pruned
termination_by structural n => n

theorem Slot.filled_pruned :
    ∀ slot : Slot Node,
      b.Fills (Node.slotParameters (Node.prunedSlot b slot))
| .vacant => fills_nil
| .one n => by
    rw [Node.prunedSlot]
    cases hPruned : n.pruned b with
    | none => exact fills_nil
    | some n' => exact Node.filled_pruned hPruned
| .many members => by
    rw [Node.prunedSlot, slotParameters_ofPresent]
    exact Members.filled_pruned members
termination_by structural slot => slot

theorem Members.filled_pruned :
    ∀ members : List (Option Node),
      b.Fills
        (Node.listParameters ((Node.prunedMembers b members).map some))
| [] => fills_nil
| none :: members => Members.filled_pruned members
| some n :: members => by
    rw [Node.prunedMembers, List.map_append, listParameters_append]
    apply fills_append.mpr
    refine ⟨?_, Members.filled_pruned members⟩
    cases hPruned : n.pruned b with
    | none => exact fills_nil
    | some n' =>
        have hNode := Node.filled_pruned hPruned
        simpa [Node.listParameters] using hNode
termination_by structural members => members

theorem Members.filled_prunedArgs :
    ∀ {args : List (Option Node)} {args' : List Node},
      Node.prunedArgs b args = some args' →
        b.Fills (Node.slotParameters (.ofList args'))
| [], args', hPruned => by
    cases hPruned
    exact fills_nil
| none :: _, args', hPruned => by
    cases hPruned
| some n :: args, args', hPruned => by
    simp only [Node.prunedArgs, Option.bind_eq_bind,
      Option.bind_eq_some_iff] at hPruned
    rcases hPruned with ⟨n', hNode, rest, hRest, hArgs⟩
    cases hArgs
    exact fills_append.mpr
      ⟨Node.filled_pruned hNode, Members.filled_prunedArgs hRest⟩
termination_by structural args => args

theorem Query.filled_pruned :
    ∀ query : Query Node,
      b.Fills (Node.queryParameters (Node.prunedQuery b query))
| ⟨columns, source, filter, groups, having, order, limit, offset,
    distinct, options⟩ => by
    simp only [Node.prunedQuery, Node.queryParameters, fills_append]
    exact ⟨⟨⟨⟨⟨⟨⟨columns.filled_pruned, source.filled_pruned⟩,
      filter.filled_pruned⟩, groups.filled_pruned⟩,
      having.filled_pruned⟩, order.filled_pruned⟩,
      limit.filled_pruned⟩, offset.filled_pruned⟩
termination_by structural query => query

end

------------------------------------------------------------
-- Lists of Values
------------------------------------------------------------

/- Pruning makes no parameter of what is none. -/
theorem parameterName?_of_pruned
    {n n' : Node}
    (hPruned : n.pruned b = some n') :
    n'.parameterName? = n.parameterName? := by
  cases n with
  | binary op left right =>
      rw [Node.pruned] at hPruned
      split at hPruned
      next =>
        simp only [Option.map_eq_some_iff] at hPruned
        rcases hPruned with ⟨_, _, rfl⟩
        rfl
      next =>
        split at hPruned
        next =>
          cases hPruned
          rfl
        next =>
          simp only [Option.bind_eq_bind, Option.bind_eq_some_iff] at hPruned
          rcases hPruned with ⟨_, _, _, _, hBinary⟩
          cases hBinary
          rfl
  | between operand low high =>
      simp only [Node.pruned, Option.bind_eq_some_iff] at hPruned
      rcases hPruned with ⟨_, _, hRanged⟩
      unfold Node.ranged at hRanged
      split at hRanged <;> cases hRanged <;> rfl
  | call name args distinct =>
      cases args with
      | vacant =>
          cases hPruned
          rfl
      | one arg =>
          simp only [Node.pruned, Option.map_eq_some_iff] at hPruned
          rcases hPruned with ⟨_, _, rfl⟩
          rfl
      | many args =>
          simp only [Node.pruned, Option.map_eq_some_iff] at hPruned
          rcases hPruned with ⟨_, _, rfl⟩
          rfl
  | parameter name =>
      rw [Node.pruned] at hPruned
      split at hPruned
      · cases hPruned
        rfl
      · cases hPruned
  | numeral name =>
      rw [Node.pruned] at hPruned
      split at hPruned
      · cases hPruned
        rfl
      · cases hPruned
  | group | connective | unary | «alias» | orderBy =>
      simp only [Node.pruned, Option.map_eq_some_iff] at hPruned
      rcases hPruned with ⟨_, _, rfl⟩
      rfl
  | _ =>
      cases hPruned
      rfl

/- A slot that is left holds a bare parameter if it did before. -/
theorem bareParameter?_of_pruned
    {slot : Slot Node}
    (hGiven : (Node.prunedSlot b slot).isVacant = false) :
    (Node.prunedSlot b slot).bareParameter? = slot.bareParameter? := by
  cases slot with
  | vacant => cases hGiven
  | many members =>
      rw [Node.prunedSlot]
      cases Node.prunedMembers b members <;> rfl
  | one n =>
      rw [Node.prunedSlot] at hGiven ⊢
      cases hPruned : n.pruned b with
      | none =>
          rw [hPruned] at hGiven
          cases hGiven
      | some n' => exact parameterName?_of_pruned hPruned

theorem mem_one_of_parameterName?
    {n : Node}
    {name : String}
    (hName : n.parameterName? = some name) :
    name ∈ n.parameterList := by
  cases n with
  | parameter other =>
      cases hName
      exact List.mem_singleton_self _
  | numeral other =>
      cases hName
      exact List.mem_singleton_self _
  | _ => cases hName

theorem mem_slotParameters_of_bare
    {slot : Slot Node}
    {name : String}
    (hBare : slot.bareParameter? = some name) :
    name ∈ Node.slotParameters slot := by
  cases slot with
  | vacant => cases hBare
  | many members => cases hBare
  | one n => exact mem_one_of_parameterName? hBare

theorem mem_slotParameters_of_leading
    {list : Slot Node}
    {name : String}
    (hLeading : RenderContext.leadingParameter? list = some name) :
    name ∈ Node.slotParameters list := by
  unfold RenderContext.leadingParameter? at hLeading
  split at hLeading
  next n members _ _ =>
    exact List.mem_append_left _ (mem_one_of_parameterName? hLeading)
  next n _ =>
    exact mem_one_of_parameterName? hLeading
  next => cases hLeading

theorem groupOfOne_of_node
    {n item : Node}
    {brackets : Bool}
    {delimiter : String}
    (hPruned :
      n.pruned b = some (.group (.one item) brackets delimiter)) :
    ∃ item', Slot.one n = .one (.group (.one item') brackets delimiter) := by
  cases n with
  | group members _ _ =>
      simp only [Node.pruned, Option.map_eq_some_iff,
        given?_eq_some] at hPruned
      rcases hPruned with ⟨_, ⟨_, rfl⟩, hGroup⟩
      injection hGroup with hMembers hBrackets hDelimiter
      subst hBrackets hDelimiter
      cases members with
      | vacant => cases hMembers
      | one item' => exact ⟨item', rfl⟩
      | many items =>
          rw [Node.prunedSlot] at hMembers
          cases hItems : Node.prunedMembers b items <;>
            rw [hItems] at hMembers <;> cases hMembers
  | binary op left right =>
      rw [Node.pruned] at hPruned
      split at hPruned
      next =>
        simp only [Option.map_eq_some_iff, given?_eq_some] at hPruned
        rcases hPruned with ⟨left', ⟨hGiven, rfl⟩, hGroup⟩
        injection hGroup with hMembers
        generalize Node.prunedSlot b left = left at hMembers hGiven
        cases left with
        | vacant => cases hGiven
        | one n => cases hMembers
        | many items => cases hMembers
      next =>
        split at hPruned
        next => cases hPruned
        next =>
          simp only [Option.bind_eq_bind, Option.bind_eq_some_iff] at hPruned
          rcases hPruned with ⟨_, _, _, _, hBinary⟩
          cases hBinary
  | between operand low high =>
      simp only [Node.pruned, Option.bind_eq_some_iff] at hPruned
      rcases hPruned with ⟨_, _, hRanged⟩
      unfold Node.ranged at hRanged
      split at hRanged <;> cases hRanged
  | parameter name =>
      rw [Node.pruned] at hPruned
      split at hPruned <;> cases hPruned
  | numeral name =>
      rw [Node.pruned] at hPruned
      split at hPruned <;> cases hPruned
  | call name args distinct =>
      cases args <;>
        simp [Node.pruned, Option.map_eq_some_iff] at hPruned
  | connective | unary | «alias» | orderBy =>
      simp [Node.pruned, Option.map_eq_some_iff] at hPruned
  | _ => cases hPruned

/- A group around a single item is left of such a group only. -/
theorem groupOfOne_of_pruned
    {list : Slot Node}
    {item : Node}
    {brackets : Bool}
    {delimiter : String}
    (hPruned :
      Node.prunedSlot b list = .one (.group (.one item) brackets delimiter)) :
    ∃ item', list = .one (.group (.one item') brackets delimiter) := by
  cases list with
  | vacant => cases hPruned
  | many members =>
      rw [Node.prunedSlot] at hPruned
      cases hMembers : Node.prunedMembers b members <;>
        rw [hMembers] at hPruned <;> cases hPruned
  | one n =>
      rw [Node.prunedSlot] at hPruned
      cases hNode : n.pruned b with
      | none =>
          rw [hNode] at hPruned
          cases hPruned
      | some n' =>
          rw [hNode] at hPruned
          cases hPruned
          exact groupOfOne_of_node hNode

/- A list whose parameters have values is written item by item. -/
theorem judgeList_of_filled
    {ctx : RenderContext}
    {list : Slot Node}
    (op : BinaryOp)
    (hFills : ctx.bindings.Fills (Node.slotParameters list))
    (hItems :
      ∀ item brackets delimiter,
        list ≠ .one (.group (.one item) brackets delimiter)) :
    ctx.judgeList op list = .ok false := by
  unfold RenderContext.judgeList
  split
  next item brackets delimiter =>
    exact absurd rfl (hItems item brackets delimiter)
  next =>
    split
    next => rfl
    next name hLeading =>
      have hName := hFills name (mem_slotParameters_of_leading hLeading)
      unfold Bindings.fills at hName
      split at hName
      next v hValue =>
        rw [hValue]
        simpa using hName
      next => cases hName

end SqlTemplate
