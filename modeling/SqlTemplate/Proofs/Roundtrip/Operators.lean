import SqlTemplate.Node.Legible
import SqlTemplate.Proofs.Grammar.Composition
import SqlTemplate.Proofs.Pruning.Operators

/-
  Operators in texts.  Where the texts of the operands are read
  back, so is the text of an operator with them, as long as the
  grammar has a phrase for what stands there.

  Key definitions include:
    * `Rendered.Gives`
    * `Node.ReadBack`
  Correctness is proven by:
    * `readBack_infixed`
    * `readBack_connect`
    * `readBack_not`
    * `readBack_negate`
    * `readBack_postfix`
    * `readBack_between`
-/

------------------------------------------------------------
-- Properties of Texts
------------------------------------------------------------

namespace SqlTemplate

/- A fragment is never absent, and its text has a property. -/
def Rendered.Gives
    (R : List Char → Prop)
    (r : Rendered) : Prop :=
  ∀ text, r = .ok text → ∃ s, text = some s ∧ s ≠ "" ∧ R s.toList

/-
  A node that is legible is never absent, and its text stands in
  a relation to it.
-/
def Node.ReadBack
    (ctx : RenderContext)
    (R : List Char → Node → Prop)
    (n : Node) : Prop :=
  n.Legible ctx.dialect → ∀ (depth : Nat) (indent : Int),
    Rendered.Gives (R · n) (n.render ctx depth indent)

variable {ctx : RenderContext} {R R' R'' : List Char → Prop}

theorem gives_map
    {r : Rendered}
    {f : String → String}
    (hText : Rendered.Gives R r)
    (hSome : ∀ s, s ≠ "" → f s ≠ "")
    (hAll : ∀ s, R s.toList → R' (f s).toList) :
    Rendered.Gives R' (r.map (·.map f)) := by
  intro text hMap
  rcases map_eq_ok.mp hMap with ⟨text, hFound, rfl⟩
  rcases hText text hFound with ⟨s, rfl, hNotEmpty, hHolds⟩
  exact ⟨f s, rfl, hSome s hNotEmpty, hAll s hHolds⟩

theorem gives_pair
    {first second : Rendered}
    {f : String → String → String}
    (hFirst : Rendered.Gives R first)
    (hSecond : Rendered.Gives R' second)
    (hSome : ∀ s t, s ≠ "" → f s t ≠ "")
    (hAll : ∀ s t, R s.toList → R' t.toList → R'' (f s t).toList) :
    Rendered.Gives R'' (Rendered.pair first second f) := by
  intro text hPair
  rcases pair_eq_ok hPair with ⟨hAbsent, _⟩ | ⟨s, hText, other, hOther, rfl⟩
  · rcases hFirst _ hAbsent with ⟨s, hSame, _⟩
    cases hSame
  · rcases hFirst _ hText with ⟨s', hSame, hNotEmpty, hHolds⟩
    cases hSame
    rcases hSecond _ hOther with ⟨t, rfl, _, hHolds'⟩
    exact ⟨f s t, rfl, hSome s t hNotEmpty, hAll s t hHolds hHolds'⟩

/- A node in a slot has the text that it has on its own. -/
theorem gives_slot
    {n : Node}
    {depth : Nat}
    {indent : Int}
    {separator : String}
    (hNode : Rendered.Gives R (n.render ctx depth indent)) :
    Rendered.Gives R
      (Node.renderSlot ctx depth indent separator (.one n)) := by
  intro text hSlot
  rw [Node.renderSlot] at hSlot
  rcases map_eq_ok.mp hSlot with ⟨nodeText, hText, rfl⟩
  rcases hNode nodeText hText with ⟨s, rfl, hNotEmpty, hHolds⟩
  exact ⟨s, present_of_ne_empty hNotEmpty, hNotEmpty, hHolds⟩

/- A node that is written lies at an allowed depth. -/
theorem gives_node
    {n : Node}
    {depth : Nat}
    {indent : Int}
    (hNode : ctx.isTooDeep depth = false →
      Rendered.Gives R (n.render ctx depth indent)) :
    Rendered.Gives R (n.render ctx depth indent) := by
  intro text hRender
  exact hNode (not_tooDeep_of_render hRender) text hRender

------------------------------------------------------------
-- Operators with Two Operands
------------------------------------------------------------

section

variable {P P' P'' : List Char → Node → Prop}

/- What is legible is no parameter and no list that starts with one. -/
theorem not_parameter_of_legible
    {d : Dialect}
    {n : Node}
    (hLegible : n.Legible d) :
    n.parameterName? = none ∧
      RenderContext.leadingParameter? (.one n) = none := by
  cases n with
  | parameter _ => exact hLegible.elim
  | numeral _ => exact hLegible.elim
  | group members brackets delimiter =>
      refine ⟨rfl, ?_⟩
      cases members with
      | many members =>
          cases members with
          | nil => rfl
          | cons member members =>
              cases member with
              | none => rfl
              | some m =>
                  cases m with
                  | parameter _ => exact hLegible.1.elim
                  | numeral _ => exact hLegible.1.elim
                  | _ => rfl
      | _ => rfl
  | _ => exact ⟨rfl, rfl⟩

/- Without parameters a list of values is written as it stands. -/
theorem gives_unlessEmptyList
    {op : BinaryOp}
    {n : Node}
    {text : Rendered}
    (hLegible : n.Legible ctx.dialect)
    (hText : Rendered.Gives R text) :
    Rendered.Gives R (ctx.unlessEmptyList op (.one n) text) := by
  unfold RenderContext.unlessEmptyList
  split
  next =>
    have hLeading := (not_parameter_of_legible hLegible).2
    have hJudge :
        ctx.judgeList op (.one n) = .ok false ∨
          ∃ e, ctx.judgeList op (.one n) = .error e := by
      unfold RenderContext.judgeList
      split
      · exact .inr ⟨_, rfl⟩
      · rw [hLeading]
        exact .inl rfl
    rcases hJudge with hFalse | ⟨e, hError⟩
    · rw [hFalse]
      exact hText
    · rw [hError]
      exact nofun
  next => exact hText

theorem binaryText_toList
    (op : BinaryOp)
    (s t : String) :
    (binaryText op s t).toList =
      s.toList ++ ' ' :: (op.symbol.toList ++ ' ' :: t.toList) := by
  simp [binaryText, String.toList_append]

/- An operator between two operands is read back. -/
theorem readBack_infixed
    {op : BinaryOp}
    {word : List Char}
    {left right : Node}
    (hWord : op.symbol.toList = word)
    (hLeft : left.ReadBack ctx P)
    (hRight : right.ReadBack ctx P')
    (hText : ∀ cs cs', P cs left → P' cs' right →
      P'' (cs ++ ' ' :: (word ++ ' ' :: cs')) (Node.infixed op left right)) :
    (Node.infixed op left right).ReadBack ctx P'' := by
  intro hLegible depth indent
  apply gives_node
  intro hDeep
  have hParameter := (not_parameter_of_legible hLegible.2).1
  have hBound : ctx.isUnbound (.one right) = false := by
    simp [RenderContext.isUnbound, Slot.bareParameter?, Slot.item?, hParameter]
  have hBare : RenderContext.standsBare op (.one right) = false := by
    simp [RenderContext.standsBare, Slot.bareParameter?, Slot.item?,
      hParameter]
  simp only [Node.infixed, Node.render, hDeep, hBound, hBare, Slot.isVacant,
    Bool.false_eq_true, Bool.or_self, Bool.and_false, if_false]
  apply gives_unlessEmptyList hLegible.2
  apply gives_pair (gives_slot (hLeft hLegible.1 _ _))
    (gives_slot (hRight hLegible.2 _ _))
  · intro s t hNotEmpty
    exact append_ne_empty_left _ (append_ne_empty_left _
      (append_ne_empty_left _ (append_ne_empty_left _ hNotEmpty)))
  · intro s t hFirst hSecond
    rw [binaryText_toList, hWord]
    exact hText _ _ hFirst hSecond

------------------------------------------------------------
-- Connectives
------------------------------------------------------------

theorem Members.legible_append
    {d : Dialect}
    {members : List (Option Node)}
    {n : Node}
    (hLegible : Members.Legible d (members ++ [some n])) :
    Members.Legible d members ∧ n.Legible d := by
  induction members with
  | nil => exact ⟨trivial, hLegible.1⟩
  | cons member members ih =>
      cases member with
      | none => exact ih hLegible
      | some m =>
          rcases ih hLegible.2 with ⟨hMembers, hNode⟩
          exact ⟨⟨hLegible.1, hMembers⟩, hNode⟩

/- A chain grows by one operand, or two operands start a chain. -/
theorem connect_cases
    (op : ConnectiveOp)
    (left right : Node) :
    (∃ operands, left = .connective op operands ∧
      Node.connect op left right =
        .connective op (operands.append right)) ∨
    Node.connect op left right =
      .connective op (.ofList [left, right]) := by
  unfold Node.connect
  split
  next op' operands =>
    split
    next hSame =>
      subst hSame
      exact .inl ⟨operands, rfl, rfl⟩
    next => exact .inr rfl
  next => exact .inr rfl

theorem legible_of_connect
    {d : Dialect}
    {op : ConnectiveOp}
    {left right : Node}
    (hLegible : (Node.connect op left right).Legible d) :
    left.Legible d ∧ right.Legible d := by
  rcases connect_cases op left right with
    ⟨operands, rfl, hChain⟩ | hPair
  · rw [hChain] at hLegible
    cases operands with
    | vacant => exact ⟨trivial, hLegible⟩
    | one m => exact ⟨hLegible.1, hLegible.2.1⟩
    | many members => exact Members.legible_append hLegible
  · rw [hPair] at hLegible
    exact ⟨hLegible.1, hLegible.2.1⟩

/- The text of a list with one more member, from those of both. -/
theorem gives_members_concat
    {members : List (Option Node)}
    {n : Node}
    {depth : Nat}
    {indent : Int}
    {separator : String}
    (hMembers :
      Rendered.Gives R
        (Node.renderSlot ctx depth indent separator (.many members)))
    (hNode : Rendered.Gives R' (n.render ctx depth indent))
    (hAll : ∀ s t, R s.toList → R' t.toList →
      R'' (s ++ separator ++ t).toList) :
    Rendered.Gives R''
      (Node.renderSlot ctx depth indent separator
        (.many (members ++ [some n]))) := by
  intro text hSlot
  rw [Node.renderSlot, renderMembers_append] at hSlot
  rcases map_eq_ok.mp hSlot with ⟨all, hTexts, rfl⟩
  rcases bind_eq_ok.mp hTexts with ⟨texts, hFirst, hRest⟩
  rcases bind_eq_ok.mp hRest with ⟨others, hSecond, hBoth⟩
  cases hBoth
  rw [Node.renderMembers] at hSecond
  rcases bind_eq_ok.mp hSecond with ⟨nodeText, hText, hOthers⟩
  cases hOthers
  rcases hNode nodeText hText with ⟨t, rfl, hNotEmpty, hHolds'⟩
  have hJoined :
      Node.renderSlot ctx depth indent separator (.many members) =
        .ok (joined separator texts) := by
    rw [Node.renderSlot, hFirst]
    rfl
  rcases hMembers _ hJoined with ⟨s, hSome, hFilled, hHolds⟩
  have hTexts : texts ≠ [] ∧ s = separator.intercalate texts := by
    cases texts with
    | nil => cases hSome
    | cons u us =>
        cases hSome
        exact ⟨List.cons_ne_nil _ _, rfl⟩
  have hIntercalate :
      separator.intercalate (texts ++ [t]) = s ++ separator ++ t := by
    rw [String.intercalate_append_of_ne_nil hTexts.1 (List.cons_ne_nil _ _),
      String.intercalate_singleton, hTexts.2]
  refine ⟨s ++ separator ++ t, ?_, ?_, hAll s t hHolds hHolds'⟩
  · rw [Option.bind_some, present_of_ne_empty hNotEmpty, ← hIntercalate]
    simp [joined]
  · exact append_ne_empty_right _ hNotEmpty

/- A list of a single member has the text of that member. -/
theorem gives_member
    {n : Node}
    {depth : Nat}
    {indent : Int}
    {separator : String}
    (hNode : Rendered.Gives R
      (Node.renderSlot ctx depth indent separator (.one n))) :
    Rendered.Gives R
      (Node.renderSlot ctx depth indent separator (.many [some n])) := by
  intro text hSlot
  rw [Node.renderSlot, Node.renderMembers] at hSlot
  rcases map_eq_ok.mp hSlot with ⟨texts, hTexts, rfl⟩
  rcases bind_eq_ok.mp hTexts with ⟨nodeText, hText, hNode'⟩
  cases hNode'
  have hOne :
      Node.renderSlot ctx depth indent separator (.one n) =
        .ok (nodeText.bind present) := by
    rw [Node.renderSlot, hText]
    rfl
  rcases hNode _ hOne with ⟨s, hSome, hNotEmpty, hHolds⟩
  refine ⟨s, ?_, hNotEmpty, hHolds⟩
  rw [hSome]
  exact congrArg some (String.intercalate_singleton ..)

/- The text of a slot with one more item at its end. -/
theorem gives_append
    {slot : Slot Node}
    {n : Node}
    {depth : Nat}
    {indent : Int}
    {separator : String}
    (hSlot :
      Rendered.Gives R (Node.renderSlot ctx depth indent separator slot))
    (hNode : Rendered.Gives R' (n.render ctx depth indent))
    (hAll : ∀ s t, R s.toList → R' t.toList →
      R'' (s ++ separator ++ t).toList) :
    Rendered.Gives R''
      (Node.renderSlot ctx depth indent separator (slot.append n)) := by
  cases slot with
  | vacant =>
      rcases hSlot none rfl with ⟨s, hSome, _⟩
      cases hSome
  | one m => exact gives_members_concat (gives_member hSlot) hNode hAll
  | many members => exact gives_members_concat hSlot hNode hAll

/- Conditions that are joined are read back in one chain. -/
theorem readBack_connect
    {op : ConnectiveOp}
    {word : List Char}
    {left right : Node}
    (hWord : op.symbol.toList = word)
    (hLeft : left.ReadBack ctx P)
    (hRight : right.ReadBack ctx P')
    (hText : ∀ cs cs', P cs left → P' cs' right →
      P'' (cs ++ ' ' :: (word ++ ' ' :: cs')) (Node.connect op left right)) :
    (Node.connect op left right).ReadBack ctx P'' := by
  intro hLegible depth indent
  rcases legible_of_connect hLegible with ⟨hLeftLegible, hRightLegible⟩
  have hAll :
      ∀ s t : String, P s.toList left → P' t.toList right →
        P'' (s ++ (" " ++ op.symbol ++ " ") ++ t).toList
          (Node.connect op left right) := by
    intro s t hFirst hSecond
    have hChars := hText _ _ hFirst hSecond
    simpa [String.toList_append, hWord] using hChars
  apply gives_node
  intro hDeep
  rcases connect_cases op left right with
    ⟨operands, rfl, hChain⟩ | hPair
  · have hOperands := hLeft hLeftLegible depth indent
    rw [Node.render.eq_def, hDeep] at hOperands
    rw [hChain] at hAll ⊢
    rw [Node.render.eq_def, hDeep]
    exact gives_append hOperands (hRight hRightLegible _ _) hAll
  · rw [hPair] at hAll ⊢
    rw [Node.render.eq_def, hDeep]
    exact gives_members_concat
      (gives_member (gives_slot (hLeft hLeftLegible _ _)))
      (hRight hRightLegible _ _) hAll

------------------------------------------------------------
-- Operators with One Operand
------------------------------------------------------------

theorem readBack_not
    {n : Node}
    (hNode : n.ReadBack ctx P)
    (hText : ∀ cs, P cs n →
      P' ("NOT".toList ++ ' ' :: cs) (.unary .not (.one n))) :
    (Node.unary .not (.one n)).ReadBack ctx P' := by
  intro hLegible depth indent
  apply gives_node
  intro hDeep
  rw [Node.render.eq_def, hDeep]
  apply gives_map (gives_slot (hNode hLegible _ _))
  · intro s hNotEmpty
    exact append_ne_empty_right _ hNotEmpty
  · intro s hHolds
    simpa [unaryText, UnaryOp.isPostfix, UnaryOp.symbol,
      String.toList_append] using hText _ hHolds

/- A minus sign is set apart from another one after it. -/
theorem readBack_negate
    {n : Node}
    (hNode : n.ReadBack ctx P)
    (hApart : ∀ cs, P cs n →
      P' ('-' :: ' ' :: cs) (.unary .negate (.one n)))
    (hText : ∀ cs, P cs n → cs.head? ≠ some '-' →
      P' ('-' :: cs) (.unary .negate (.one n))) :
    (Node.unary .negate (.one n)).ReadBack ctx P' := by
  intro hLegible depth indent
  apply gives_node
  intro hDeep
  rw [Node.render.eq_def, hDeep]
  apply gives_map (gives_slot (hNode hLegible _ _))
  · intro s hNotEmpty
    change negated s ≠ ""
    unfold negated
    split <;> exact append_ne_empty_right _ hNotEmpty
  · intro s hHolds
    change P' (negated s).toList _
    unfold negated
    split
    next =>
      rw [String.toList_append]
      exact hApart _ hHolds
    next hSign =>
      rw [String.toList_append]
      exact hText _ hHolds hSign

/- The words of a null test follow its operand. -/
theorem readBack_postfix
    {op : UnaryOp}
    {words : List Char}
    {n : Node}
    (hPostfix : op.isPostfix = true)
    (hWords : op.symbol.toList = words)
    (hNode : n.ReadBack ctx P)
    (hText : ∀ cs, P cs n → P' (cs ++ ' ' :: words) (.unary op (.one n))) :
    (Node.unary op (.one n)).ReadBack ctx P' := by
  intro hLegible depth indent
  apply gives_node
  intro hDeep
  rw [Node.render.eq_def, hDeep]
  apply gives_map (gives_slot (hNode hLegible _ _))
  · intro s hNotEmpty
    rw [unaryText, if_pos hPostfix]
    exact append_ne_empty_left _ (append_ne_empty_left _ hNotEmpty)
  · intro s hHolds
    simpa [unaryText, hPostfix, String.toList_append, hWords]
      using hText _ hHolds

/- A range test is read back. -/
theorem readBack_between
    {n low high : Node}
    (hNode : n.ReadBack ctx P)
    (hLow : low.ReadBack ctx P)
    (hHigh : high.ReadBack ctx P)
    (hText : ∀ cs cs' cs'', P cs n → P cs' low → P cs'' high →
      P' (cs ++ ' ' :: ("BETWEEN".toList ++ ' ' ::
        (cs' ++ ' ' :: ("AND".toList ++ ' ' :: cs''))))
          (.between (.one n) (.one low) (.one high))) :
    (Node.between (.one n) (.one low) (.one high)).ReadBack ctx P' := by
  intro hLegible depth indent
  apply gives_node
  intro hDeep
  rw [Node.render.eq_def, hDeep]
  intro text hRange
  rcases range_eq_ok hRange with
    ⟨hAbsent, _⟩ | ⟨s, lowText, highText, hOperand, hFirst, hSecond, rfl⟩
  · rcases gives_slot (hNode hLegible.1 _ _) _ hAbsent with ⟨s, hSome, _⟩
    cases hSome
  · rcases gives_slot (hNode hLegible.1 _ _) _ hOperand with
      ⟨s', hSame, hNotEmpty, hHolds⟩
    cases hSame
    rcases gives_slot (hLow hLegible.2.1 _ _) _ hFirst with
      ⟨t, rfl, _, hHolds'⟩
    rcases gives_slot (hHigh hLegible.2.2 _ _) _ hSecond with
      ⟨u, rfl, _, hHolds''⟩
    refine ⟨_, rfl, ?_, ?_⟩
    · exact append_ne_empty_left _ (append_ne_empty_left _
        (append_ne_empty_left _ (append_ne_empty_left _ hNotEmpty)))
    · simpa [String.toList_append] using hText _ _ _ hHolds hHolds' hHolds''

end

end SqlTemplate
