import SqlTemplate.Grammar.Layout
import SqlTemplate.Proofs.Grammar.Reading

/-
  Runs of layout.  A run is skipped wherever it stands, whatever
  is skipped is a run, and another layout in the place of a run
  is skipped like it.

  Correctness is proven by:
    * `LayoutRun.skip`
    * `layoutRun_of_skip`
    * `Spacing.run`
    * `Respaced.run`
    * `Respaced.skip_end`
-/

------------------------------------------------------------
-- Skipped Runs
------------------------------------------------------------

namespace SqlTemplate

theorem skipComment_append
    {content : List Char}
    (hContent : '\n' ∉ content)
    (cs : List Char) :
    skipComment (content ++ '\n' :: cs) = skipLayout cs := by
  induction content with
  | nil => simp [skipComment]
  | cons c content ih =>
      rw [List.mem_cons, not_or] at hContent
      have hOther : (c == '\n') = false := beq_false_of_ne (Ne.symm hContent.1)
      rw [List.cons_append, skipComment, hOther]
      exact ih hContent.2

theorem skipLayout_comment
    (cs : List Char) :
    skipLayout ('-' :: '-' :: cs) = skipComment cs := by
  simp [skipLayout, isLayout]

namespace LayoutRun

theorem append
    {run later : List Char}
    (hRun : LayoutRun run)
    (hLater : LayoutRun later) :
    LayoutRun (run ++ later) := by
  induction hRun with
  | nil => exact hLater
  | blank hBlank _ ih => exact .blank hBlank ih
  | @comment content run hContent _ ih =>
      rw [List.append_assoc]
      exact .comment hContent ih

/- A run in front of a text is skipped. -/
theorem skip
    {run : List Char}
    (hRun : LayoutRun run)
    (cs : List Char) :
    skipLayout (run ++ cs) = skipLayout cs := by
  induction hRun with
  | nil => rfl
  | blank hBlank _ ih =>
      rw [List.cons_append, Token.skipLayout_blank _ hBlank, ih]
  | @comment content run hContent _ ih =>
      rw [List.append_assoc]
      change skipLayout ('-' :: '-' :: (content ++ '\n' :: (run ++ cs))) = _
      rw [skipLayout_comment, skipComment_append hContent, ih]

theorem skip_self
    {run : List Char}
    (hRun : LayoutRun run) :
    skipLayout run = [] := by
  rw [← List.append_nil run, hRun.skip]
  rfl

/- The rest of a run from inside a comment has no tokens. -/
theorem skipComment_self
    {run : List Char}
    (hRun : LayoutRun run) :
    skipComment run = [] := by
  induction hRun with
  | nil => rfl
  | blank _ hRun ih =>
      rw [skipComment, ih, hRun.skip_self, ite_self]
  | @comment content run hContent hRun _ =>
      have hDashes : '\n' ∉ '-' :: '-' :: content := by
        simp [hContent]
      rw [skipComment_append hDashes, hRun.skip_self]

end LayoutRun

mutual

/- What is skipped before a token is a run of layout. -/
theorem exists_run_of_skipLayout :
    ∀ cs : List Char, skipLayout cs ≠ [] →
      ∃ run, LayoutRun run ∧ cs = run ++ skipLayout cs
| [], hToken => absurd rfl hToken
| [c], hToken => by
    rw [skipLayout] at hToken ⊢
    split at hToken
    next => exact absurd rfl hToken
    next hLayout =>
      rw [if_neg hLayout]
      exact ⟨[], .nil, rfl⟩
| c :: d :: cs, hToken => by
    rw [skipLayout] at hToken ⊢
    split at hToken
    next hLayout =>
      rcases exists_run_of_skipLayout (d :: cs) hToken with
        ⟨run, hRun, hText⟩
      refine ⟨c :: run, .blank hLayout hRun, ?_⟩
      rw [if_pos hLayout, List.cons_append, ← hText]
    next hLayout =>
      split at hToken
      next hDashes =>
        rcases exists_run_of_skipComment cs hToken with
          ⟨content, run, hContent, hRun, hText⟩
        rw [if_neg hLayout, if_pos hDashes]
        rw [Bool.and_eq_true, beq_iff_eq, beq_iff_eq] at hDashes
        rcases hDashes with ⟨rfl, rfl⟩
        refine ⟨_, .comment hContent hRun, ?_⟩
        exact congrArg (fun cs => '-' :: '-' :: cs) hText
      next hDashes =>
        rw [if_neg hLayout, if_neg hDashes]
        exact ⟨[], .nil, rfl⟩

theorem exists_run_of_skipComment :
    ∀ cs : List Char, skipComment cs ≠ [] →
      ∃ content run, '\n' ∉ content ∧ LayoutRun run ∧
        cs = content ++ '\n' :: run ++ skipComment cs
| [], hToken => absurd rfl hToken
| c :: cs, hToken => by
    rw [skipComment] at hToken ⊢
    split at hToken
    next hBreak =>
      rcases exists_run_of_skipLayout cs hToken with ⟨run, hRun, hText⟩
      refine ⟨[], run, List.not_mem_nil, hRun, ?_⟩
      rw [if_pos hBreak, beq_iff_eq.mp hBreak]
      exact congrArg ('\n' :: ·) hText
    next hBreak =>
      rcases exists_run_of_skipComment cs hToken with
        ⟨content, run, hContent, hRun, hText⟩
      refine ⟨c :: content, run, ?_, hRun, ?_⟩
      · rw [List.mem_cons, not_or]
        exact ⟨fun hSame => hBreak (beq_iff_eq.mpr hSame.symm), hContent⟩
      · rw [if_neg hBreak]
        exact congrArg (c :: ·) hText

end

/- What stands before a token is a run of layout. -/
theorem layoutRun_of_skip
    {gap cs : List Char}
    (hSkip : skipLayout (gap ++ cs) = cs)
    (hToken : cs ≠ []) :
    LayoutRun gap := by
  rw [← hSkip] at hToken
  rcases exists_run_of_skipLayout (gap ++ cs) hToken with
    ⟨run, hRun, hText⟩
  rw [hSkip] at hText
  cases List.append_cancel_right hText
  exact hRun

section

variable {run : List Char} (hRun : LayoutRun run)

include hRun

mutual

/- No token comes up if a run follows a text without tokens. -/
theorem skipLayout_before_run :
    ∀ cs : List Char, skipLayout cs = [] → skipLayout (cs ++ run) = []
| [], _ => hRun.skip_self
| [c], hEnd => by
    rw [skipLayout] at hEnd
    split at hEnd
    next hLayout =>
      rw [List.singleton_append, Token.skipLayout_blank _ hLayout]
      exact hRun.skip_self
    next => cases hEnd
| c :: d :: cs, hEnd => by
    rw [skipLayout] at hEnd
    rw [List.cons_append, List.cons_append, skipLayout]
    split at hEnd
    next hLayout =>
      rw [if_pos hLayout]
      exact skipLayout_before_run (d :: cs) hEnd
    next hLayout =>
      split at hEnd
      next hDashes =>
        rw [if_neg hLayout, if_pos hDashes]
        exact skipComment_before_run cs hEnd
      next => cases hEnd

theorem skipComment_before_run :
    ∀ cs : List Char, skipComment cs = [] → skipComment (cs ++ run) = []
| [], _ => hRun.skipComment_self
| c :: cs, hEnd => by
    rw [skipComment] at hEnd
    rw [List.cons_append, skipComment]
    split at hEnd
    next hBreak =>
      rw [if_pos hBreak]
      exact skipLayout_before_run cs hEnd
    next hBreak =>
      rw [if_neg hBreak]
      exact skipComment_before_run cs hEnd

end

end

------------------------------------------------------------
-- Respaced Layout
------------------------------------------------------------

theorem Spacing.run
    {run : List Char}
    (hRun : Spacing run) :
    LayoutRun run := by
  cases hRun with
  | intro hBlank hRun => exact .blank hBlank hRun

/- Nothing or some spacing is a run of layout. -/
theorem layoutRun_of_spacing
    {run : List Char}
    (hRun : run = [] ∨ Spacing run) :
    LayoutRun run := by
  rcases hRun with rfl | hRun
  · exact .nil
  · exact hRun.run

namespace Respaced

theorem run
    {gap gap' : List Char}
    (hGap : Respaced gap gap')
    (hRun : LayoutRun gap) :
    LayoutRun gap' := by
  cases hGap with
  | widened hBefore hAfter =>
      exact ((layoutRun_of_spacing hBefore).append hRun).append
        (layoutRun_of_spacing hAfter)
  | replaced hRun => exact hRun.run

/- The layout at the end of a text still has no tokens. -/
theorem skip_end
    {gap gap' : List Char}
    (hGap : Respaced gap gap')
    (hEnd : skipLayout gap = []) :
    skipLayout gap' = [] := by
  cases hGap with
  | widened hBefore hAfter =>
      rw [List.append_assoc, (layoutRun_of_spacing hBefore).skip]
      exact skipLayout_before_run (layoutRun_of_spacing hAfter) _ hEnd
  | replaced hRun => exact hRun.run.skip_self

end Respaced

end SqlTemplate
