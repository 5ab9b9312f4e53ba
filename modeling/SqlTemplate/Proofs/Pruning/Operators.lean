import SqlTemplate.Proofs.Pruning.Agreement

/-
  Operators with two operands agree with what pruning leaves of
  them: null tests, membership tests and all others.

  Correctness is proven by:
    * `agrees_nullTested`
    * `empties_of_judgeList`
    * `prunes_binary`
-/

------------------------------------------------------------
-- Null Tests
------------------------------------------------------------

namespace SqlTemplate

variable {ctx : RenderContext}

theorem renderMembers_append
    (c : RenderContext)
    (depth : Nat)
    (indent : Int)
    (members others : List (Option Node)) :
    Node.renderMembers c depth indent (members ++ others) = (do
      let texts ← Node.renderMembers c depth indent members
      let otherTexts ← Node.renderMembers c depth indent others
      return texts ++ otherTexts) := by
  induction members with
  | nil =>
      rw [List.nil_append, Node.renderMembers]
      cases Node.renderMembers c depth indent others <;> rfl
  | cons member members ih =>
      cases member with
      | none =>
          rw [List.cons_append, Node.renderMembers, Node.renderMembers, ih]
      | some n =>
          simp only [List.cons_append, Node.renderMembers, ih]
          cases n.render c depth indent with
          | error e => rfl
          | ok text =>
              cases Node.renderMembers c depth indent members with
              | error e => rfl
              | ok texts =>
                  cases Node.renderMembers c depth indent others with
                  | error e => rfl
                  | ok otherTexts =>
                      simp [bind, Except.bind, pure, Except.pure]

/- An operand and the words after it are a null test. -/
theorem renderSlot_append_raw
    {c : RenderContext}
    {depth : Nat}
    {indent : Int}
    {operand : Slot Node}
    {s : String}
    (hDeep : c.isTooDeep depth = false)
    (hText : s ≠ "")
    (hOperand : Node.renderSlot c depth indent " " operand = .ok (some s)) :
    Node.renderSlot c depth indent " " (operand.append (.raw "IS null")) =
      .ok (some (nullTest s)) := by
  have hRaw :
      Node.renderMembers c depth indent [some (.raw "IS null")] =
        .ok ["IS null"] := by
    simp only [Node.renderMembers, Node.render, hDeep, Bool.false_eq_true,
      if_false]
    rfl
  have hJoined : nullTest s = s ++ " " ++ "IS null" := by
    rw [nullTest, String.append_assoc]
    rfl
  cases operand with
  | vacant => cases hOperand
  | one n =>
      rw [Node.renderSlot] at hOperand
      rcases map_eq_ok.mp hOperand with ⟨text, hNode, hPresent⟩
      rcases eq_some_of_present hPresent with ⟨rfl, _⟩
      have hMembers :
          Node.renderMembers c depth indent
              [some n, some (.raw "IS null")] = .ok [s, "IS null"] := by
        rw [Node.renderMembers, hNode, hRaw]
        simp [bind, Except.bind, pure, Except.pure,
          present_of_ne_empty hText]
      rw [Slot.append, Node.renderSlot, hMembers]
      simp [Except.map, joined, hJoined]
  | many members =>
      rw [Node.renderSlot] at hOperand
      rcases map_eq_ok.mp hOperand with ⟨texts, hTexts, hJoin⟩
      unfold joined at hJoin
      split at hJoin
      · cases hJoin
      next hSome =>
        cases hJoin
        have hNotNil : texts ≠ [] := by
          intro hNil
          rw [hNil] at hSome
          exact hSome rfl
        have hIntercalate :
            " ".intercalate (texts ++ ["IS null"]) =
              nullTest (" ".intercalate texts) := by
          rw [String.intercalate_append_of_ne_nil hNotNil
            (List.cons_ne_nil _ _), String.intercalate_singleton, nullTest,
            String.append_assoc]
          rfl
        rw [Slot.append, Node.renderSlot, renderMembers_append, hTexts, hRaw,
          ← hIntercalate]
        simp [Except.map, joined, bind, Except.bind, pure, Except.pure]

/- A comparison with an unbound parameter is left as a null test. -/
theorem agrees_nullTested
    {indent : Int}
    {operand : Slot Node}
    {text : Option String}
    (hOperand : operand.Agrees ctx indent " " text) :
    Node.Agrees ctx indent (text.map nullTest)
      (operand.given?.map Node.nullTested) := by
  cases text with
  | none =>
      rw [hOperand.not_given]
      rfl
  | some s =>
      have hText := hOperand.present s rfl
      rw [hOperand.given]
      apply agrees_of_written (append_ne_empty_left _ hText)
      intro depth
      filter_upwards [hOperand.written (depth + 1),
        eventually_not_tooDeep ctx (depth + 1)]
        with maxDepth hWritten hBelow hDeep
      simp only [Node.nullTested, Node.render, hDeep, Bool.false_eq_true,
        if_false, renderSlot_append_raw hBelow hText hWritten]
      rfl

------------------------------------------------------------
-- Lists of Values
------------------------------------------------------------

/- A list is judged empty if its leading parameter is. -/
theorem empties_of_judgeList
    {op : BinaryOp}
    {list : Slot Node}
    {isEmpty : Bool}
    (hJudged : ctx.judgeList op list = .ok isEmpty) :
    ctx.bindings.empties list = isEmpty := by
  unfold RenderContext.judgeList at hJudged
  unfold Bindings.empties
  split at hJudged
  next => cases hJudged
  next =>
    split at hJudged
    next hLeading =>
      rw [hLeading]
      cases hJudged
      rfl
    next name hLeading =>
      rw [hLeading]
      split at hJudged
      next => cases hJudged
      next v hValue =>
        cases hJudged
        unfold Bindings.value? at hValue
        split at hValue
        · cases hValue
        · cases hValue
          rfl

/- The list that is left of one that is written is not empty. -/
theorem judgeList_pruned
    {op : BinaryOp}
    {list : Slot Node}
    (hJudged : ctx.judgeList op list = .ok false) :
    ctx.judgeList op (Node.prunedSlot ctx.bindings list) = .ok false := by
  apply judgeList_of_filled op list.filled_pruned
  intro item brackets delimiter hPruned
  rcases groupOfOne_of_pruned hPruned with ⟨item', rfl⟩
  cases hJudged

theorem standsBare_pruned
    {b : Bindings}
    {list : Slot Node}
    (op : BinaryOp)
    (hGiven : (Node.prunedSlot b list).isVacant = false) :
    RenderContext.standsBare op (Node.prunedSlot b list) =
      RenderContext.standsBare op list := by
  rw [RenderContext.standsBare, bareParameter?_of_pruned hGiven]
  rfl

/-
  The right operand of an operator: one level further down, and
  in brackets, if it is a parameter that stands for a list.
-/
def rightText
    (c : RenderContext)
    (depth : Nat)
    (indent : Int)
    (op : BinaryOp)
    (right : Slot Node) : Rendered :=
  if RenderContext.standsBare op right then
    c.grouped (depth + 1) (Node.renderSlot c (depth + 2) indent " " right)
  else
    Node.renderSlot c (depth + 1) indent " " right

/- The right operand agrees with what is left of it. -/
theorem agrees_rightText
    {depth : Nat}
    {indent : Int}
    {op : BinaryOp}
    {right : Slot Node}
    {text : Option String}
    (hRight : right.Prunes ctx)
    (hText : rightText ctx depth indent op right = .ok text) :
    let left := Node.prunedSlot ctx.bindings right
    left.isVacant = text.isNone ∧
      ∀ s ∈ text, ∀ depth, ∀ᶠ maxDepth in Filter.atTop,
        rightText (ctx.withDepth maxDepth) depth indent op left =
          .ok (some s) := by
  intro left
  unfold rightText at hText
  split at hText
  next hBare =>
    rcases grouped_eq_ok hText with ⟨_, t, hList, rfl⟩
    have hAgrees := hRight _ _ _ _ hList
    refine ⟨?_, ?_⟩
    · rw [Option.isNone_map]
      exact hAgrees.vacant
    · intro s hSome depth
      rcases Option.map_eq_some_iff.mp hSome with ⟨inner, rfl, rfl⟩
      have hStill := (standsBare_pruned op hAgrees.vacant).trans hBare
      filter_upwards [hAgrees.written (depth + 2),
        eventually_not_tooDeep ctx (depth + 1)] with maxDepth hWritten hDeep
      rw [rightText, if_pos hStill, RenderContext.grouped, hDeep, hWritten]
      rfl
  next hBare =>
    have hAgrees := hRight _ _ _ _ hText
    refine ⟨hAgrees.vacant, ?_⟩
    intro s hSome depth
    cases hSome
    have hStill : ¬ RenderContext.standsBare op left = true := by
      rw [standsBare_pruned op hAgrees.vacant]
      exact hBare
    filter_upwards [hAgrees.written (depth + 1)] with maxDepth hWritten
    rw [rightText, if_neg hStill]
    exact hWritten

------------------------------------------------------------
-- Operators
------------------------------------------------------------

/-
  What an operator comes to that does no null test: a decision
  about its list, or a text made of both operands.
-/
theorem operands_eq_ok
    {depth : Nat}
    {indent : Int}
    {op : BinaryOp}
    {left right : Slot Node}
    {text : Option String}
    (hText :
      ctx.unlessEmptyList op right
          (Rendered.pair (Node.renderSlot ctx (depth + 1) indent " " left)
            (rightText ctx depth indent op right) (binaryText op)) =
        .ok text) :
    (op.isMembership = true ∧ ctx.bindings.empties right = true ∧
        text = some emptyListResult) ∨
      ((op.isMembership && ctx.bindings.empties right) = false ∧
        (op.isMembership = true → ctx.judgeList op right = .ok false) ∧
          Rendered.pair (Node.renderSlot ctx (depth + 1) indent " " left)
            (rightText ctx depth indent op right) (binaryText op) =
              .ok text) := by
  unfold RenderContext.unlessEmptyList at hText
  split at hText
  next hOp =>
    split at hText
    next => cases hText
    next hJudged =>
      cases hText
      exact .inl ⟨hOp, empties_of_judgeList hJudged, rfl⟩
    next hJudged =>
      refine .inr ⟨?_, fun _ => hJudged, hText⟩
      rw [empties_of_judgeList hJudged, Bool.and_false]
  next hOp =>
    refine .inr ⟨?_, fun hMembership => absurd hMembership hOp, hText⟩
    rw [Bool.eq_false_of_not_eq_true hOp, Bool.false_and]

theorem leavesOpen_pruned
    (b : Bindings)
    (right : Slot Node) :
    b.leavesOpen (Node.prunedSlot b right) = false := by
  unfold Bindings.leavesOpen
  split
  next name hBare =>
    have hFills := right.filled_pruned name (mem_slotParameters_of_bare hBare)
    unfold Bindings.fills at hFills
    split at hFills
    next v hValue =>
      rw [Bindings.isBound, hValue]
      rfl
    next => cases hFills
  next => rfl

/- Both operands that are left make up the text of the operator. -/
theorem render_pruned_binary
    {op : BinaryOp}
    {left right : Slot Node}
    {indent : Int}
    {s t : String}
    (hJudged :
      op.isMembership = true → ctx.judgeList op right = .ok false)
    (hLeft : left.Agrees ctx indent " " (some s))
    (hGiven : (Node.prunedSlot ctx.bindings right).isVacant = false)
    (hRight :
      ∀ depth, ∀ᶠ maxDepth in Filter.atTop,
        rightText (ctx.withDepth maxDepth) depth indent op
          (Node.prunedSlot ctx.bindings right) = .ok (some t)) :
    Node.Agrees ctx indent (some (binaryText op s t))
      (some (.binary op left (Node.prunedSlot ctx.bindings right))) := by
  apply agrees_of_written (binaryText_ne_empty op t (hLeft.present s rfl))
  intro depth
  filter_upwards [hLeft.written (depth + 1), hRight depth]
    with maxDepth hFirst hSecond hDeep
  have hLeftGiven : left.isVacant = false := hLeft.vacant
  have hOpen :
      (ctx.withDepth maxDepth).isUnbound
        (Node.prunedSlot ctx.bindings right) = false :=
    leavesOpen_pruned ctx.bindings right
  have hList :
      (ctx.withDepth maxDepth).unlessEmptyList op
          (Node.prunedSlot ctx.bindings right)
          (.ok (some (binaryText op s t))) =
        .ok (some (binaryText op s t)) := by
    unfold RenderContext.unlessEmptyList
    split
    next hOp =>
      have hFalse :
          (ctx.withDepth maxDepth).judgeList op
            (Node.prunedSlot ctx.bindings right) = .ok false :=
        judgeList_pruned (hJudged hOp)
      rw [hFalse]
    next => rfl
  unfold rightText at hSecond
  simp only [Node.render, hDeep, hLeftGiven, hGiven, hOpen, hFirst, hSecond,
    Bool.or_self, Bool.and_false, Bool.false_eq_true, if_false]
  exact hList

/- A text made of both operands is absent if one of them is. -/
theorem agrees_operands
    {depth : Nat}
    {indent : Int}
    {op : BinaryOp}
    {left right : Slot Node}
    {text : Option String}
    (hLeft : left.Prunes ctx)
    (hRight : right.Prunes ctx)
    (hJudged :
      op.isMembership = true → ctx.judgeList op right = .ok false)
    (hPair :
      Rendered.pair (Node.renderSlot ctx (depth + 1) indent " " left)
        (rightText ctx depth indent op right) (binaryText op) =
          .ok text) :
    Node.Agrees ctx indent text
      (do
        let left ← (Node.prunedSlot ctx.bindings left).given?
        let right ← (Node.prunedSlot ctx.bindings right).given?
        return .binary op left right) := by
  rcases pair_eq_ok hPair with ⟨hText, rfl⟩ | ⟨s, hText, other, hOther, rfl⟩
  · rw [(hLeft _ _ _ _ hText).not_given]
    rfl
  · have hFirst := hLeft _ _ _ _ hText
    have hSecond := agrees_rightText hRight hOther
    rw [hFirst.given]
    cases other with
    | none =>
        have hGone : (Node.prunedSlot ctx.bindings right).given? = none := by
          rw [Slot.given?, hSecond.1]
          rfl
        rw [hGone]
        rfl
    | some t =>
        have hGiven : (Node.prunedSlot ctx.bindings right).isVacant = false :=
          hSecond.1
        have hLeft : (Node.prunedSlot ctx.bindings right).given? =
            some (Node.prunedSlot ctx.bindings right) := by
          rw [Slot.given?, hGiven]
          rfl
        rw [hLeft]
        exact render_pruned_binary hJudged hFirst hGiven (hSecond.2 t rfl)

theorem prunes_binary
    {left right : Slot Node}
    (op : BinaryOp)
    (hLeft : left.Prunes ctx)
    (hRight : right.Prunes ctx) :
    (Node.binary op left right).Prunes ctx := by
  intro depth indent text hRender
  have hDeep := not_tooDeep_of_render hRender
  simp only [Node.render, hDeep, Bool.false_eq_true, if_false] at hRender
  split at hRender
  next => cases hRender
  next =>
    have hOpen : ctx.isUnbound right = ctx.bindings.leavesOpen right := rfl
    rw [hOpen] at hRender
    rw [Node.pruned]
    split at hRender
    next hLenient =>
      rw [if_pos hLenient]
      rcases map_eq_ok.mp hRender with ⟨text, hText, rfl⟩
      exact agrees_nullTested (hLeft _ _ _ _ hText)
    next hLenient =>
      rw [if_neg hLenient]
      rcases operands_eq_ok hRender with
        ⟨hOp, hEmpty, rfl⟩ | ⟨hEmpty, hJudged, hPair⟩
      · rw [hOp, hEmpty]
        apply agrees_of_written (by decide)
        intro depth
        apply Filter.Eventually.of_forall
        intro maxDepth hDeep
        simp only [Node.render, hDeep, Bool.false_eq_true, if_false]
      · rw [hEmpty]
        exact agrees_operands hLeft hRight hJudged hPair

end SqlTemplate
