import SqlTemplate.Proofs.Rendering.Bracketing
import SqlTemplate.Proofs.Rendering.Writing

/-
  Writing has no history.  A call leaves nothing behind but the
  brackets around a parameter after IN, and no call depends on
  whether those brackets are there, so calls in turn give what
  each of them gives on its own.

  Correctness is proven by:
    * `writeFresh_of_brackets`
    * `writeInTurn_eq`
    * `answer_of_brackets`
    * `answerInTurn_eq`
    * `writing_has_no_history`
-/

------------------------------------------------------------
-- Trees in Turn
------------------------------------------------------------

namespace SqlTemplate

/- A call gives a tree with brackets the text of the tree without. -/
theorem writeFresh_of_brackets
    {n n' : Node}
    (ctx : RenderContext)
    (hBrackets : n.Brackets n') :
    (ctx.writeFresh n').1 = (ctx.writeFresh n).1 ∧
      n.Brackets (ctx.writeFresh n').2 := by
  rw [ctx.writeFresh_eq, ctx.writeFresh_eq]
  constructor
  · have hText := (Slot.Brackets.one hBrackets).renderSlot_eq ctx 1 0 " "
    simp only [RenderContext.render, hText]
  · exact hBrackets.trans (n'.brackets_settled ctx 1 0)

/- Calls on a tree in turn, from any tree the first may have left. -/
theorem writeInTurn_eq
    (ctxs : List RenderContext)
    {n n' : Node}
    (hBrackets : n.Brackets n') :
    (writeInTurn ctxs n').1 = ctxs.map (fun ctx => (ctx.writeFresh n).1) ∧
      n.Brackets (writeInTurn ctxs n').2 := by
  induction ctxs generalizing n' with
  | nil => exact ⟨rfl, hBrackets⟩
  | cons ctx ctxs ih =>
      have hCall := writeFresh_of_brackets ctx hBrackets
      have hRest := ih hCall.2
      simp only [writeInTurn, List.map_cons, hCall.1, hRest.1]
      exact ⟨trivial, hRest.2⟩

------------------------------------------------------------
-- One Writer
------------------------------------------------------------

variable {κ : Type}

/-
  A call leaves the writer as it was, and gives a slot with
  brackets the text of the slot without.
-/
theorem answer_of_brackets
    {w : Writer}
    {slots slots' : κ → Slot Node}
    (call : WriteCall κ)
    (hBrackets : ∀ key, (slots key).Brackets (slots' key)) :
    (w.answer slots' call).1.1 = (w.answer slots call).1.1 ∧
      (slots call.key).Brackets (w.answer slots' call).1.2 ∧
      (w.answer slots' call).2 = w := by
  have hSlot := hBrackets call.key
  simp only [Writer.answer, Writer.write_eq, hSlot.renderSlot_eq, true_and,
    and_true]
  exact hSlot.trans (Slot.brackets_settled _ _ _ _)

/-
  Calls of one writer in turn, from any slots that earlier ones
  may have left.
-/
theorem answerInTurn_eq
    [DecidableEq κ]
    (w : Writer)
    (calls : List (WriteCall κ))
    {slots slots' : κ → Slot Node}
    (hBrackets : ∀ key, (slots key).Brackets (slots' key)) :
    (w.answerInTurn slots' calls).1 =
        calls.map (fun call => (w.answer slots call).1.1) ∧
      (∀ key,
        (slots key).Brackets ((w.answerInTurn slots' calls).2.1 key)) ∧
      (w.answerInTurn slots' calls).2.2 = w := by
  induction calls generalizing slots' with
  | nil => exact ⟨rfl, hBrackets, rfl⟩
  | cons call calls ih =>
      obtain ⟨hText, hSlot, hWriter⟩ := answer_of_brackets call hBrackets
      have hSlots :
          ∀ key,
            (slots key).Brackets
              (if key = call.key then
                (w.answer slots' call).1.2
              else
                slots' key) := by
        intro key
        by_cases hKey : key = call.key
        · rw [if_pos hKey, hKey]
          exact hSlot
        · rw [if_neg hKey]
          exact hBrackets key
      have hRest := ih hSlots
      simp only [Writer.answerInTurn, List.map_cons, hText, hWriter]
      exact ⟨congrArg _ hRest.1, hRest.2⟩

------------------------------------------------------------
-- No History
------------------------------------------------------------

/-
  Each of the calls on a tree gives what it gives on the tree
  as it was at first, and so does each of the calls of one
  writer what a fresh writer gives; the trees that are left
  differ from those at first in brackets after IN alone.
-/
theorem writing_has_no_history
    [DecidableEq κ]
    (ctxs : List RenderContext)
    (n : Node)
    (ctx : RenderContext)
    (slots : κ → Slot Node)
    (calls : List (WriteCall κ)) :
    (writeInTurn ctxs n).1 = ctxs.map (fun ctx => (ctx.writeFresh n).1) ∧
      n.Brackets (writeInTurn ctxs n).2 ∧
      ((Writer.fresh ctx).answerInTurn slots calls).1 =
        calls.map
          (fun call => ((Writer.fresh ctx).answer slots call).1.1) ∧
      (∀ key,
        (slots key).Brackets
          (((Writer.fresh ctx).answerInTurn slots calls).2.1 key)) ∧
      ((Writer.fresh ctx).answerInTurn slots calls).2.2 =
        Writer.fresh ctx := by
  obtain ⟨hTexts, hTree⟩ := writeInTurn_eq ctxs (.refl n)
  obtain ⟨hAnswers, hSlots, hWriter⟩ :=
    answerInTurn_eq (.fresh ctx) calls fun key => .refl (slots key)
  exact ⟨hTexts, hTree, hAnswers, hSlots, hWriter⟩

end SqlTemplate
