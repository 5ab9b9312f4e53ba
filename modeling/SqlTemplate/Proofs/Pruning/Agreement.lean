import Mathlib
import SqlTemplate.Node.Shape
import SqlTemplate.Proofs.Pruning.Filled
import SqlTemplate.Proofs.Rendering.Limits

/-
  Pruned trees are written as the rendering writes the trees
  they come from.  A fragment that renders absent is one that
  pruning takes away, and what is left of any other is written
  as the fragment was, at every depth that enough levels are
  allowed for.

  Key definitions include:
    * `Node.Agrees`
    * `Slot.Agrees`
    * `Node.Prunes`
    * `Slot.Prunes`
-/

------------------------------------------------------------
-- Enough Levels
------------------------------------------------------------

namespace SqlTemplate

/- The same context with another greatest depth. -/
def RenderContext.withDepth
    (ctx : RenderContext)
    (maxDepth : Int) : RenderContext :=
  { ctx with maxDepth }

/- A depth is allowed as soon as there are enough levels. -/
theorem eventually_not_tooDeep
    (ctx : RenderContext)
    (depth : Nat) :
    ∀ᶠ maxDepth in Filter.atTop,
      (ctx.withDepth maxDepth).isTooDeep depth = false := by
  filter_upwards [Filter.eventually_ge_atTop (depth : Int)] with maxDepth hLevels
  exact decide_eq_false (not_lt.mpr hLevels)

------------------------------------------------------------
-- Agreement
------------------------------------------------------------

/- With enough levels a node is written as a text at any depth. -/
def Node.IsWritten
    (ctx : RenderContext)
    (indent : Int)
    (n : Node)
    (s : String) : Prop :=
  ∀ depth, ∀ᶠ maxDepth in Filter.atTop,
    n.render (ctx.withDepth maxDepth) depth indent = .ok (some s)

/- With enough levels a slot is written as a text or absent. -/
def Slot.IsWritten
    (ctx : RenderContext)
    (indent : Int)
    (separator : String)
    (slot : Slot Node)
    (text : Option String) : Prop :=
  ∀ depth, ∀ᶠ maxDepth in Filter.atTop,
    Node.renderSlot (ctx.withDepth maxDepth) depth indent separator slot =
      .ok text

/- What is left of a node is written as the node was. -/
def Node.Agrees
    (ctx : RenderContext)
    (indent : Int)
    (text : Option String) : Option Node → Prop
| none => text.bind present = none
| some n => ∃ s, text = some s ∧ s ≠ "" ∧ n.IsWritten ctx indent s

/- What is left in a slot is written as its content was. -/
structure Slot.Agrees
    (ctx : RenderContext)
    (indent : Int)
    (separator : String)
    (text : Option String)
    (slot : Slot Node) : Prop where
  vacant : slot.isVacant = text.isNone
  present : ∀ s ∈ text, s ≠ ""
  written : slot.IsWritten ctx indent separator text

/- What is left of a list is written as its members were. -/
structure Members.Agrees
    (ctx : RenderContext)
    (indent : Int)
    (texts : List String)
    (ns : List Node) : Prop where
  empty : ns.isEmpty = texts.isEmpty
  present : ∀ s ∈ texts, s ≠ ""
  written :
    ∀ depth, ∀ᶠ maxDepth in Filter.atTop,
      Node.renderMembers (ctx.withDepth maxDepth) depth indent
        (ns.map some) = .ok texts

/- A node agrees with what is left of it wherever it is written. -/
def Node.Prunes
    (ctx : RenderContext)
    (n : Node) : Prop :=
  ∀ (depth : Nat) (indent : Int) (text : Option String),
    n.render ctx depth indent = .ok text →
      Node.Agrees ctx indent text (n.pruned ctx.bindings)

/- A slot agrees with what is left in it wherever it is written. -/
def Slot.Prunes
    (ctx : RenderContext)
    (slot : Slot Node) : Prop :=
  ∀ (depth : Nat) (indent : Int) (separator : String)
    (text : Option String),
    Node.renderSlot ctx depth indent separator slot = .ok text →
      Slot.Agrees ctx indent separator text
        (Node.prunedSlot ctx.bindings slot)

variable {ctx : RenderContext}

theorem Slot.Agrees.given
    {indent : Int}
    {separator s : String}
    {slot : Slot Node}
    (hSlot : slot.Agrees ctx indent separator (some s)) :
    slot.given? = some slot := by
  have hVacant : slot.isVacant = false := hSlot.vacant
  rw [Slot.given?, hVacant]
  rfl

theorem Slot.Agrees.not_given
    {indent : Int}
    {separator : String}
    {slot : Slot Node}
    (hSlot : slot.Agrees ctx indent separator none) :
    slot.given? = none := by
  have hVacant : slot.isVacant = true := hSlot.vacant
  rw [Slot.given?, hVacant]
  rfl

/-
  A fragment that is made of one part, and absent if the part
  is, agrees with what is left of it.
-/
theorem agrees_of_map
    {indent : Int}
    {separator : String}
    {text : Option String}
    {slot : Slot Node}
    (make : Slot Node → Node)
    {f : String → String}
    (hSlot : slot.Agrees ctx indent separator text)
    (hText : ∀ s, s ≠ "" → f s ≠ "")
    (hRender :
      ∀ maxDepth depth s,
        (ctx.withDepth maxDepth).isTooDeep depth = false →
          slot.isVacant = false → s ≠ "" →
            Node.renderSlot (ctx.withDepth maxDepth) (depth + 1) indent
                separator slot = .ok (some s) →
              (make slot).render (ctx.withDepth maxDepth) depth indent =
                .ok (some (f s))) :
    Node.Agrees ctx indent (text.map f) (slot.given?.map make) := by
  cases text with
  | none =>
      rw [hSlot.not_given]
      rfl
  | some s =>
      rw [hSlot.given]
      have hPresent := hSlot.present s rfl
      refine ⟨f s, rfl, hText s hPresent, ?_⟩
      intro depth
      filter_upwards [hSlot.written (depth + 1),
        eventually_not_tooDeep ctx depth] with maxDepth hWritten hDeep
      exact hRender maxDepth depth s hDeep hSlot.vacant hPresent hWritten

/- A fragment that is never absent agrees with what is left of it. -/
theorem agrees_of_written
    {indent : Int}
    {n : Node}
    {s : String}
    (hText : s ≠ "")
    (hWritten :
      ∀ depth, ∀ᶠ maxDepth in Filter.atTop,
        (ctx.withDepth maxDepth).isTooDeep depth = false →
          n.render (ctx.withDepth maxDepth) depth indent = .ok (some s)) :
    Node.Agrees ctx indent (some s) (some n) := by
  refine ⟨s, rfl, hText, ?_⟩
  intro depth
  filter_upwards [hWritten depth, eventually_not_tooDeep ctx depth]
    with maxDepth hNode hDeep
  exact hNode hDeep

------------------------------------------------------------
-- Leaves
------------------------------------------------------------

/- A node without parts is left as it is. -/
theorem prunes_leaf
    {n : Node}
    {s : String}
    (hPruned : n.pruned ctx.bindings = some n)
    (hText : s ≠ "")
    (hRender :
      ∀ maxDepth depth indent,
        (ctx.withDepth maxDepth).isTooDeep depth = false →
          n.render (ctx.withDepth maxDepth) depth indent = .ok (some s)) :
    n.Prunes ctx := by
  intro depth indent text hNode
  have hDeep := not_tooDeep_of_render hNode
  have hSame := hRender ctx.maxDepth depth indent hDeep
  rw [hPruned]
  have hBoth := hNode.symm.trans hSame
  cases hBoth
  apply agrees_of_written hText
  intro depth
  apply Filter.Eventually.of_forall
  intro maxDepth
  exact hRender maxDepth depth indent

theorem prunes_column
    (name : String)
    (owner database : Option String) :
    (Node.column name owner database).Prunes ctx := by
  intro depth indent text hRender
  have hDeep := not_tooDeep_of_render hRender
  have hName := hRender
  simp only [Node.render, hDeep, Bool.false_eq_true, if_false] at hName
  rcases map_eq_ok.mp hName with ⟨s, hText, rfl⟩
  have hMember : some name ∈ [database, owner, some name] := by simp
  have hNotEmpty := RenderContext.qualified_ne_empty hMember hText
  apply prunes_leaf rfl hNotEmpty ?_ depth indent _ hRender
  intro maxDepth depth indent hDeep
  simp only [Node.render, hDeep, Bool.false_eq_true, if_false]
  exact map_eq_ok.mpr ⟨s, hText, rfl⟩

theorem prunes_literal
    (v : Value) :
    (Node.literal v).Prunes ctx := by
  intro depth indent text hRender
  have hDeep := not_tooDeep_of_render hRender
  have hLiteral := hRender
  simp only [Node.render, hDeep, Bool.false_eq_true, if_false] at hLiteral
  rcases map_eq_ok.mp hLiteral with ⟨s, hText, rfl⟩
  have hNotEmpty := RenderContext.ne_empty_of_literal hText
  apply prunes_leaf rfl hNotEmpty ?_ depth indent _ hRender
  intro maxDepth depth indent hDeep
  simp only [Node.render, hDeep, Bool.false_eq_true, if_false]
  exact map_eq_ok.mpr ⟨s, hText, rfl⟩

theorem fills_of_value?
    {b : Bindings}
    {name : String}
    {v : Value}
    (hValue : b.value? name = some v) :
    b.fills name = !v.isEmptyCollection := by
  unfold Bindings.fills
  rw [hValue]

/-
  What is written for the value of a parameter is absent just
  where the parameter is pruned.
-/
theorem prunes_value
    {n : Node}
    (name : String)
    (write : Value → Except RenderError String)
    (hPruned :
      n.pruned ctx.bindings =
        if ctx.bindings.fills name then some n else none)
    (hEmpty : ∀ v, v.isEmptyCollection = true → write v = .ok "")
    (hText :
      ∀ v s, v.isEmptyCollection = false → write v = .ok s → s ≠ "")
    (hRender :
      ∀ maxDepth depth indent,
        (ctx.withDepth maxDepth).isTooDeep depth = false →
          n.render (ctx.withDepth maxDepth) depth indent =
            match ctx.bindings.value? name with
            | some v => (write v).map some
            | none => .ok none) :
    n.Prunes ctx := by
  intro depth indent text hNode
  have hDeep := not_tooDeep_of_render hNode
  have hValue := hRender ctx.maxDepth depth indent hDeep
  have hWritten := hNode.symm.trans hValue
  cases hBound : ctx.bindings.value? name with
  | none =>
      rw [hBound] at hWritten
      cases hWritten
      rw [hPruned, Bindings.fills, hBound]
      rfl
  | some v =>
      have hFills := fills_of_value? hBound
      rw [hBound] at hWritten
      rcases map_eq_ok.mp hWritten.symm with ⟨s, hLiteral, rfl⟩
      cases hNone : v.isEmptyCollection with
      | true =>
          rw [hEmpty v hNone] at hLiteral
          cases hLiteral
          rw [hPruned, hFills, hNone]
          rfl
      | false =>
          rw [hNone] at hFills
          have hLeft : n.pruned ctx.bindings = some n := by
            rw [hPruned, hFills]
            rfl
          apply prunes_leaf hLeft (hText v s hNone hLiteral) ?_
            depth indent _ hNode
          intro maxDepth depth indent hDeep
          rw [hRender maxDepth depth indent hDeep, hBound]
          exact map_eq_ok.mpr ⟨s, hLiteral, rfl⟩

theorem prunes_parameter
    (name : String)
    (hInline : ctx.inline = true) :
    (Node.parameter name).Prunes ctx := by
  apply prunes_value name ctx.literals
  · rw [Node.pruned]
  · intro v hEmpty
    exact literals_of_empty hEmpty
  · intro v s
    exact RenderContext.literals_ne_empty
  · intro maxDepth depth indent hDeep
    simp only [Node.render, hDeep, Bool.false_eq_true, if_false,
      RenderContext.parameter]
    exact if_pos hInline

theorem prunes_numeral
    (name : String)
    (hInline : ctx.inline = true) :
    (Node.numeral name).Prunes ctx := by
  apply prunes_value name (RenderContext.numerals name)
  · rw [Node.pruned]
  · intro v hEmpty
    exact numerals_of_empty name hEmpty
  · intro v s
    exact RenderContext.numerals_ne_empty
  · intro maxDepth depth indent hDeep
    simp only [Node.render, hDeep, Bool.false_eq_true, if_false,
      RenderContext.numeral]
    rw [show (ctx.withDepth maxDepth).inline = true from hInline]
    rfl

------------------------------------------------------------
-- Fragments of One Part
------------------------------------------------------------

theorem enclose_ne_empty
    (brackets : Bool)
    {s : String}
    (hText : s ≠ "") :
    enclose brackets s ≠ "" := by
  unfold enclose
  split
  · exact append_ne_empty_right _ (by decide)
  · exact hText

theorem prunes_group
    {members : Slot Node}
    (brackets : Bool)
    (delimiter : String)
    (hMembers : members.Prunes ctx) :
    (Node.group members brackets delimiter).Prunes ctx := by
  intro depth indent text hRender
  have hDeep := not_tooDeep_of_render hRender
  simp only [Node.render, hDeep, Bool.false_eq_true, if_false] at hRender
  rcases map_eq_ok.mp hRender with ⟨text, hText, rfl⟩
  apply agrees_of_map (fun members => .group members brackets delimiter)
    (hMembers _ _ _ _ hText)
  · intro s
    exact enclose_ne_empty brackets
  · intro maxDepth depth s hDeep _ _ hWritten
    simp only [Node.render, hDeep, Bool.false_eq_true, if_false, hWritten]
    rfl

theorem prunes_connective
    {operands : Slot Node}
    (op : ConnectiveOp)
    (hOperands : operands.Prunes ctx) :
    (Node.connective op operands).Prunes ctx := by
  intro depth indent text hRender
  have hDeep := not_tooDeep_of_render hRender
  simp only [Node.render, hDeep, Bool.false_eq_true, if_false] at hRender
  have hAgrees := agrees_of_map (.connective op) (f := id)
    (hOperands _ _ _ _ hRender) (fun _ hText => hText) ?_
  · rw [Option.map_id] at hAgrees
    exact hAgrees
  · intro maxDepth depth s hDeep _ _ hWritten
    simp only [Node.render, hDeep, Bool.false_eq_true, if_false, hWritten]
    rfl

theorem unaryText_ne_empty
    (op : UnaryOp)
    {s : String}
    (hText : s ≠ "") :
    unaryText op s ≠ "" := by
  unfold unaryText
  split
  · rw [String.append_assoc]
    exact append_ne_empty_left _ hText
  · split
    · unfold negated
      split <;> exact append_ne_empty_right _ hText
    · exact append_ne_empty_right _ hText

theorem prunes_unary
    {operand : Slot Node}
    (op : UnaryOp)
    (hOperand : operand.Prunes ctx) :
    (Node.unary op operand).Prunes ctx := by
  intro depth indent text hRender
  have hDeep := not_tooDeep_of_render hRender
  simp only [Node.render, hDeep, Bool.false_eq_true, if_false] at hRender
  split at hRender
  · cases hRender
  · rcases map_eq_ok.mp hRender with ⟨text, hText, rfl⟩
    apply agrees_of_map (.unary op) (hOperand _ _ _ _ hText)
    · intro s
      exact unaryText_ne_empty op
    · intro maxDepth depth s hDeep hGiven _ hWritten
      simp only [Node.render, hDeep, hGiven, Bool.false_eq_true, if_false,
        hWritten]
      rfl

theorem orderText_ne_empty
    (direction : Option String)
    {s : String}
    (hText : s ≠ "") :
    orderText s direction ≠ "" := by
  unfold orderText
  split
  · rw [String.append_assoc]
    exact append_ne_empty_left _ hText
  · exact hText

theorem prunes_orderBy
    {node : Slot Node}
    (direction : Option String)
    (hNode : node.Prunes ctx) :
    (Node.orderBy node direction).Prunes ctx := by
  intro depth indent text hRender
  have hDeep := not_tooDeep_of_render hRender
  simp only [Node.render, hDeep, Bool.false_eq_true, if_false] at hRender
  rcases map_eq_ok.mp hRender with ⟨text, hText, rfl⟩
  apply agrees_of_map (fun node => .orderBy node direction)
    (hNode _ _ _ _ hText)
  · intro s
    exact orderText_ne_empty direction
  · intro maxDepth depth s hDeep _ _ hWritten
    simp only [Node.render, hDeep, Bool.false_eq_true, if_false, hWritten]
    rfl

theorem prunes_alias
    {node : Slot Node}
    (label : String)
    (hNode : node.Prunes ctx) :
    (Node.alias node label).Prunes ctx := by
  intro depth indent text hRender
  have hDeep := not_tooDeep_of_render hRender
  simp only [Node.render, hDeep, Bool.false_eq_true, if_false] at hRender
  split at hRender
  · cases hRender
  · rw [Node.pruned]
    rcases pair_eq_ok hRender with ⟨hText, rfl⟩ | ⟨s, hText, other, hLabel, rfl⟩
    · rw [(hNode _ _ _ _ hText).not_given]
      rfl
    · rcases map_eq_ok.mp hLabel with ⟨labelText, hName, rfl⟩
      change Node.Agrees ctx indent
        ((some s).map fun text => text ++ " AS " ++ labelText) _
      apply agrees_of_map (fun node => .alias node label)
        (hNode _ _ _ _ hText)
      · intro s hText
        rw [String.append_assoc]
        exact append_ne_empty_left _ hText
      · intro maxDepth depth s hDeep hGiven _ hWritten
        simp only [Node.render, hDeep, hGiven, Bool.false_eq_true,
          if_false, hWritten]
        rw [show (ctx.withDepth maxDepth).name label = .ok labelText
          from hName]
        rfl

------------------------------------------------------------
-- Range Tests
------------------------------------------------------------

theorem binaryText_ne_empty
    (op : BinaryOp)
    {s : String}
    (t : String)
    (hText : s ≠ "") :
    binaryText op s t ≠ "" := by
  unfold binaryText
  simp only [String.append_assoc]
  exact append_ne_empty_left _ hText

/-
  A comparison that treats no parameter in its own way agrees
  with its operands.
-/
theorem agrees_comparison
    {indent : Int}
    {op : BinaryOp}
    {left right : Slot Node}
    {s t : String}
    (hOp : op.isNullLenient = false ∧ op.isMembership = false)
    (hLeft : left.Agrees ctx indent " " (some s))
    (hRight : right.Agrees ctx indent " " (some t)) :
    Node.Agrees ctx indent (some (binaryText op s t))
      (some (.binary op left right)) := by
  apply agrees_of_written (binaryText_ne_empty op t (hLeft.present s rfl))
  intro depth
  filter_upwards [hLeft.written (depth + 1), hRight.written (depth + 1)]
    with maxDepth hFirst hSecond hDeep
  have hLeftGiven : left.isVacant = false := hLeft.vacant
  have hRightGiven : right.isVacant = false := hRight.vacant
  simp only [Node.render, hDeep, hOp, hLeftGiven, hRightGiven, hFirst,
    hSecond, RenderContext.unlessEmptyList, RenderContext.standsBare,
    Bool.false_eq_true, if_false, Bool.or_self, Bool.false_and]
  rfl

theorem ranged_low
    {low : Slot Node}
    (operand : Slot Node)
    (hLow : low.isVacant = false) :
    Node.ranged operand low .vacant =
      some (.binary .greaterOrEqual operand low) := by
  cases low <;> first | rfl | cases hLow

theorem ranged_high
    {high : Slot Node}
    (operand : Slot Node)
    (hHigh : high.isVacant = false) :
    Node.ranged operand .vacant high =
      some (.binary .lessOrEqual operand high) := by
  cases high <;> first | rfl | cases hHigh

theorem ranged_both
    {low high : Slot Node}
    (operand : Slot Node)
    (hLow : low.isVacant = false)
    (hHigh : high.isVacant = false) :
    Node.ranged operand low high = some (.between operand low high) := by
  cases low <;> cases high <;>
    first
      | rfl
      | exact absurd hLow Bool.noConfusion
      | exact absurd hHigh Bool.noConfusion

/- A range test is left as a comparison if it is written as one. -/
theorem agrees_ranged
    {indent : Int}
    {operand low high : Slot Node}
    {s : String}
    {lowText highText : Option String}
    (hOperand : operand.Agrees ctx indent " " (some s))
    (hLow : low.Agrees ctx indent " " lowText)
    (hHigh : high.Agrees ctx indent " " highText) :
    Node.Agrees ctx indent (betweenText s lowText highText)
      (Node.ranged operand low high) := by
  cases lowText with
  | none =>
      rw [eq_vacant hLow.vacant]
      cases highText with
      | none =>
          rw [eq_vacant hHigh.vacant]
          rfl
      | some t =>
          have hText : betweenText s none (some t) =
              some (binaryText .lessOrEqual s t) := by
            simp only [betweenText, binaryText, BinaryOp.symbol,
              String.append_assoc]
            rfl
          rw [ranged_high operand hHigh.vacant, hText]
          exact agrees_comparison ⟨rfl, rfl⟩ hOperand hHigh
  | some t =>
      cases highText with
      | none =>
          have hText : betweenText s (some t) none =
              some (binaryText .greaterOrEqual s t) := by
            simp only [betweenText, binaryText, BinaryOp.symbol,
              String.append_assoc]
            rfl
          rw [eq_vacant hHigh.vacant, ranged_low operand hLow.vacant, hText]
          exact agrees_comparison ⟨rfl, rfl⟩ hOperand hLow
      | some u =>
          rw [ranged_both operand hLow.vacant hHigh.vacant, betweenText]
          apply agrees_of_written
          · simp only [String.append_assoc]
            exact append_ne_empty_left _ (hOperand.present s rfl)
          · intro depth
            filter_upwards [hOperand.written (depth + 1),
              hLow.written (depth + 1), hHigh.written (depth + 1)]
              with maxDepth hFirst hSecond hThird hDeep
            have hGiven : operand.isVacant = false := hOperand.vacant
            simp only [Node.render, hDeep, hGiven, hFirst, hSecond, hThird,
              Bool.false_eq_true, if_false]
            rfl

theorem prunes_between
    {operand low high : Slot Node}
    (hOperand : operand.Prunes ctx)
    (hLow : low.Prunes ctx)
    (hHigh : high.Prunes ctx) :
    (Node.between operand low high).Prunes ctx := by
  intro depth indent text hRender
  have hDeep := not_tooDeep_of_render hRender
  simp only [Node.render, hDeep, Bool.false_eq_true, if_false] at hRender
  split at hRender
  · cases hRender
  · rw [Node.pruned]
    rcases range_eq_ok hRender with
      ⟨hText, rfl⟩ | ⟨s, lowText, highText, hText, hLowText, hHighText, rfl⟩
    · rw [(hOperand _ _ _ _ hText).not_given]
      rfl
    · have hOperand := hOperand _ _ _ _ hText
      have hLow := hLow _ _ _ _ hLowText
      have hHigh := hHigh _ _ _ _ hHighText
      rw [hOperand.given]
      exact agrees_ranged hOperand hLow hHigh

end SqlTemplate
