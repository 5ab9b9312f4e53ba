import SqlTemplate.Node.Walk
import SqlTemplate.Rendering.Blame

/-
  Lists in walked trees.  Whatever a visitor removes or puts
  elsewhere, a slot that held a list holds a list after a walk,
  and a slot that held none still holds none.

  Key definitions include:
    * `Leaves`
    * `Walked.All`
    * `WalkStep.Keeps`
    * `Visitor.OffersOnly`
  Correctness is proven by:
    * `walkSlot_keeps`
    * `Node.walkChildren_keeps`
    * `Node.walkEditing_keeps`
-/

------------------------------------------------------------
-- Results with a Property
------------------------------------------------------------

namespace SqlTemplate

section

variable {S α β : Type}

/- From any state a computation has a result with a property. -/
def Leaves
    (P : α → Prop)
    (m : StateM S α) : Prop :=
  ∀ s, P (m s).1

namespace Leaves

variable {P : α → Prop} {Q : β → Prop}

theorem pure
    {a : α}
    (hResult : P a) :
    Leaves P (Pure.pure a : StateM S α) :=
  fun _ => hResult

theorem bind
    {m : StateM S α}
    {f : α → StateM S β}
    (hFirst : Leaves P m)
    (hRest : ∀ a, P a → Leaves Q (f a)) :
    Leaves Q (m >>= f) :=
  fun s => hRest _ (hFirst s) _

end Leaves

end

/- A walked node has a property, and so has what takes its place. -/
def Walked.All
    (P : Node → Prop)
    (walked : Walked) : Prop :=
  P walked.edited ∧ ∀ n, walked.result = some n → P n

/- A walk of a node with a property leaves only such nodes. -/
def WalkStep.Keeps
    {σ : Type}
    (P : Node → Prop)
    (step : WalkStep σ) : Prop :=
  ∀ (n : Node) (s : WalkState σ), P n → (step n s).1.All P

/- The nodes that a visitor puts in the place of others have a property. -/
def Visitor.OffersOnly
    {σ : Type}
    (P : Node → Prop)
    (v : Visitor σ) : Prop :=
  ∀ (n : Node) (s : σ) (r : Node),
    (v.enter n s).1 = .replace r ∨ (v.leave n s).1 = .replace r → P r

------------------------------------------------------------
-- Slots
------------------------------------------------------------

section Slots

variable {σ : Type} {step : WalkStep σ}
variable {P : Node → Prop} (hStep : step.Keeps (Node.Everywhere P))

include hStep

/- Members stay members with the same property. -/
theorem walkMembers_keeps
    {members : List (Option Node)}
    (hMembers : Members.Everywhere P members) :
    Leaves
      (fun lists => Members.Everywhere P lists.1 ∧
        Members.Everywhere P lists.2)
      (walkMembers step members) := by
  induction members with
  | nil => exact fun _ => ⟨trivial, trivial⟩
  | cons member members ih =>
      intro s
      cases member with
      | none => exact ih hMembers s
      | some n =>
          rw [walkMembers]
          dsimp only
          split
          next => exact ⟨hMembers, trivial⟩
          next =>
            have hWalked := hStep n s hMembers.1
            rcases hOutcome : step n s with ⟨⟨edited, result⟩, s'⟩
            rw [hOutcome] at hWalked
            have hRest := ih hMembers.2 s'
            refine ⟨⟨hWalked.1, hRest.1⟩, ?_⟩
            cases result with
            | none => exact hRest.2
            | some r => exact ⟨hWalked.2 r rfl, hRest.2⟩

/- A list stays a list, and its members keep their property. -/
theorem walkSlot_keeps
    {slot : Slot Node}
    (hSlot : slot.Everywhere P) :
    Leaves
      (fun walked => walked.Everywhere P ∧ walked.isList = slot.isList)
      (walkSlot step slot) := by
  intro s
  unfold walkSlot
  split
  next => exact ⟨hSlot, rfl⟩
  next => exact ⟨hSlot, rfl⟩
  next n _ =>
    have hWalked := hStep n s hSlot
    rcases hOutcome : step n s with ⟨⟨edited, result⟩, s'⟩
    rw [hOutcome] at hWalked
    dsimp only
    split
    next => exact ⟨hWalked.1, rfl⟩
    next =>
      cases result with
      | none => exact ⟨trivial, rfl⟩
      | some r => exact ⟨hWalked.2 r rfl, rfl⟩
  next members _ =>
    have hWalked := walkMembers_keeps hStep hSlot s
    rcases hOutcome : walkMembers step members s with
      ⟨⟨edited, results⟩, s'⟩
    rw [hOutcome] at hWalked
    dsimp only
    split
    next => exact ⟨hWalked.1, rfl⟩
    next => exact ⟨hWalked.2, rfl⟩

theorem walkQuery_keeps
    {query : Query Node}
    (hQuery : query.Everywhere P) :
    Leaves (Query.Everywhere P) (walkQuery step query) := by
  unfold Query.Everywhere at hQuery
  rcases hQuery with ⟨hColumns, hSource, hFilter, hGroups, hHaving, hOrder,
    hLimit, hOffset⟩
  unfold walkQuery
  refine (walkSlot_keeps hStep hColumns).bind fun _ hColumns => ?_
  refine (walkSlot_keeps hStep hSource).bind fun _ hSource => ?_
  refine (walkSlot_keeps hStep hFilter).bind fun _ hFilter => ?_
  refine (walkSlot_keeps hStep hGroups).bind fun _ hGroups => ?_
  refine (walkSlot_keeps hStep hHaving).bind fun _ hHaving => ?_
  refine (walkSlot_keeps hStep hOrder).bind fun _ hOrder => ?_
  refine (walkSlot_keeps hStep hLimit).bind fun _ hLimit => ?_
  refine (walkSlot_keeps hStep hOffset).bind fun _ hOffset => ?_
  exact .pure ⟨hColumns.1, hSource.1, hFilter.1, hGroups.1, hHaving.1,
    hOrder.1, hLimit.1, hOffset.1⟩

end Slots

------------------------------------------------------------
-- Nodes
------------------------------------------------------------

section Nodes

variable {σ : Type}

/- A node whose lists are in their places keeps them there. -/
theorem Node.walkChildren_keeps
    {step : WalkStep σ}
    (hStep : step.Keeps Node.ListsInPlace)
    {n : Node}
    (hNode : n.ListsInPlace) :
    Leaves Node.ListsInPlace (n.walkChildren step) := by
  cases n with
  | group members brackets delimiter =>
      refine (walkSlot_keeps hStep hNode.2).bind fun _ hMembers => ?_
      exact .pure ⟨hMembers.2.trans hNode.1, hMembers.1⟩
  | binary op left right =>
      refine (walkSlot_keeps hStep hNode.2.1).bind fun _ hLeft => ?_
      refine (walkSlot_keeps hStep hNode.2.2).bind fun _ hRight => ?_
      exact .pure ⟨trivial, hLeft.1, hRight.1⟩
  | connective op operands =>
      refine (walkSlot_keeps hStep hNode.2).bind fun _ hOperands => ?_
      exact .pure ⟨hOperands.2.trans hNode.1, hOperands.1⟩
  | unary op operand =>
      refine (walkSlot_keeps hStep hNode.2).bind fun _ hOperand => ?_
      exact .pure ⟨trivial, hOperand.1⟩
  | between operand low high =>
      refine (walkSlot_keeps hStep hNode.2.1).bind fun _ hOperand => ?_
      refine (walkSlot_keeps hStep hNode.2.2.1).bind fun _ hLow => ?_
      refine (walkSlot_keeps hStep hNode.2.2.2).bind fun _ hHigh => ?_
      exact .pure ⟨trivial, hOperand.1, hLow.1, hHigh.1⟩
  | call name args distinct =>
      refine (walkSlot_keeps hStep hNode.2).bind fun _ hArgs => ?_
      exact .pure ⟨hArgs.2.trans hNode.1, hArgs.1⟩
  | «alias» node label =>
      refine (walkSlot_keeps hStep hNode.2).bind fun _ hInner => ?_
      exact .pure ⟨trivial, hInner.1⟩
  | orderBy node direction =>
      refine (walkSlot_keeps hStep hNode.2).bind fun _ hInner => ?_
      exact .pure ⟨trivial, hInner.1⟩
  | table name label database join condition =>
      refine (walkSlot_keeps hStep hNode.2).bind fun _ hCondition => ?_
      exact .pure ⟨trivial, hCondition.1⟩
  | select query =>
      refine (walkQuery_keeps hStep hNode.2).bind fun _ hQuery => ?_
      exact .pure ⟨trivial, hQuery⟩
  | subquery query label =>
      refine (walkSlot_keeps hStep hNode.2).bind fun _ hQuery => ?_
      exact .pure ⟨trivial, hQuery.1⟩
  | _ => exact .pure hNode

variable {v : Visitor σ} (hVisitor : v.OffersOnly Node.ListsInPlace)

include hVisitor

/- What takes the place of a node on leaving it keeps its lists. -/
theorem Node.finish_keeps
    {n : Node}
    (hNode : n.ListsInPlace)
    (s : WalkState σ) :
    ∀ r, (n.finish v s).1 = some r → r.ListsInPlace := by
  intro r hResult
  unfold Node.finish at hResult
  split at hResult
  next =>
    cases hResult
    exact hNode
  next =>
    unfold Node.leaveWith at hResult
    dsimp only at hResult
    split at hResult
    next =>
      cases hResult
      exact hNode
    next hAnswer =>
      cases hResult
      exact hVisitor n s.visitor r (.inr hAnswer)
    next => cases hResult
    next =>
      cases hResult
      exact hNode
    next =>
      cases hResult
      exact hNode

/- A walk of any number of levels keeps lists in their places. -/
theorem Node.walkEditing_keeps
    {edit : Node → Node}
    (hEdit : ∀ n : Node, n.ListsInPlace → (edit n).ListsInPlace)
    (levels : Nat) :
    WalkStep.Keeps Node.ListsInPlace (Node.walkEditing edit v levels) := by
  induction levels with
  | zero =>
      intro n s hNode
      refine ⟨hNode, ?_⟩
      rintro _ ⟨⟩
      exact hNode
  | succ levels ih =>
      intro n s hNode
      have hEdited := hEdit n hNode
      rw [Node.walkEditing]
      dsimp only
      split
      next =>
        have hWalked := Node.walkChildren_keeps ih hEdited
        exact ⟨hWalked _, Node.finish_keeps hVisitor (hWalked _) _⟩
      next => exact ⟨hEdited, Node.finish_keeps hVisitor hEdited _⟩
      next r hAnswer =>
        have hReplaced := hVisitor _ _ r (.inl hAnswer)
        have hWalked := Node.walkChildren_keeps ih hReplaced
        exact ⟨hEdited, Node.finish_keeps hVisitor (hWalked _) _⟩
      next =>
        refine ⟨hEdited, ?_⟩
        rintro _ ⟨⟩
        exact hEdited
      next =>
        refine ⟨hEdited, ?_⟩
        rintro _ ⟨⟩
        exact hEdited

end Nodes

end SqlTemplate
