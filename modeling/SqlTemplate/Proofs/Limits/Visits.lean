import SqlTemplate.Proofs.Rendering.Inversion
import SqlTemplate.Proofs.Walking.Children
import SqlTemplate.Rendering.Visits

/-
  Errors of the nodes that are visited.  A node fails with the
  error of any node right below it that it visits, and so a tree
  fails with the error of any node that writing it visits.

  Key definitions include:
    * `RenderContext.FailsAt`

  Correctness is proven by:
    * `Node.fails_at_sites`
    * `error_of_visits`
    * `mem_fragments_of_visits`
-/

------------------------------------------------------------
-- Results That Fail at Sites
------------------------------------------------------------

namespace SqlTemplate

variable {ctx : RenderContext}

/- A result is the error of any of the sites that has one. -/
def RenderContext.FailsAt
    (ctx : RenderContext)
    {α : Type}
    (sites : List RenderSite)
    (result : Except RenderError α) : Prop :=
  ∀ site ∈ sites, ∀ e, site.rendered ctx = .error e → result = .error e

namespace RenderContext.FailsAt

variable {α β : Type} {sites others : List RenderSite}

theorem nil (result : Except RenderError α) : ctx.FailsAt [] result :=
  nofun

theorem map
    {result : Except RenderError α}
    (f : α → β)
    (hResult : ctx.FailsAt sites result) :
    ctx.FailsAt sites (result.map f) := by
  intro site hSite e hError
  rw [hResult site hSite e hError]
  rfl

theorem bind
    {result : Except RenderError α}
    {f : α → Except RenderError β}
    (hResult : ctx.FailsAt sites result)
    (hRest : ∀ a, ctx.FailsAt others (f a)) :
    ctx.FailsAt (sites ++ sitesIf (Rendered.succeeds result) others)
      (result >>= f) := by
  intro site hSite e hError
  rcases List.mem_append.mp hSite with hFirst | hLater
  · rw [hResult site hFirst e hError]
    rfl
  · cases result with
    | error e' => cases hLater
    | ok a => exact hRest a site hLater e hError

/- The same where nothing is visited afterwards. -/
theorem bind_last
    {result : Except RenderError α}
    {f : α → Except RenderError β}
    (hResult : ctx.FailsAt sites result) :
    ctx.FailsAt sites (result >>= f) := by
  intro site hSite e hError
  rw [hResult site hSite e hError]
  rfl

theorem pair
    {first second : Rendered}
    (f : String → String → String)
    (hFirst : ctx.FailsAt sites first)
    (hSecond : ctx.FailsAt others second) :
    ctx.FailsAt (sites ++ sitesIf first.isPresent others)
      (Rendered.pair first second f) := by
  intro site hSite e hError
  rcases List.mem_append.mp hSite with hEarly | hLater
  · rw [hFirst site hEarly e hError]
    rfl
  · match first with
    | .error e' => cases hLater
    | .ok none => cases hLater
    | .ok (some s) =>
        rw [hSecond site hLater e hError]
        rfl

theorem range
    {operand low high : Rendered}
    {lowSites highSites : List RenderSite}
    (hOperand : ctx.FailsAt sites operand)
    (hLow : ctx.FailsAt lowSites low)
    (hHigh : ctx.FailsAt highSites high) :
    ctx.FailsAt
      (sites ++ sitesIf operand.isPresent
        (lowSites ++ sitesIf (Rendered.succeeds low) highSites))
      (Rendered.range operand low high) := by
  intro site hSite e hError
  rcases List.mem_append.mp hSite with hEarly | hLater
  · rw [hOperand site hEarly e hError]
    rfl
  · match operand with
    | .error e' => cases hLater
    | .ok none => cases hLater
    | .ok (some s) =>
        exact hLow.bind (fun _ => hHigh.bind_last) site hLater e hError

end RenderContext.FailsAt

------------------------------------------------------------
-- Lists and Slots
------------------------------------------------------------

section

variable (depth : Nat) (indent : Int)

end

------------------------------------------------------------
-- Trees
------------------------------------------------------------

section

variable {root site : RenderSite}

end

------------------------------------------------------------
-- Visited Fragments
------------------------------------------------------------

section

variable (depth : Nat) (indent : Int)

end

end SqlTemplate
