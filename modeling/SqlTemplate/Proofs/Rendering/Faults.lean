import SqlTemplate.Proofs.Grammar.Shape
import SqlTemplate.Proofs.Grammar.WellFormed
import SqlTemplate.Proofs.Rendering.Failures
import SqlTemplate.Proofs.Template

/-
  Errors about well-formed trees.  A tree that a template was
  parsed to can fail to be written because of the parameters,
  of a name or a value, or of its depth, but never because it
  lacks a part or has one in the wrong place.

  Key definitions include:
    * `RenderError.blamesTree`
    * `RenderError.SparesTree`

  Correctness is proven by:
    * `sparesTree_of_raises`
    * `sparesTree_of_render`
    * `parsed_trees_are_well_formed`
-/

------------------------------------------------------------
-- Causes of Errors
------------------------------------------------------------

namespace SqlTemplate

/- The tree itself is at fault: a part is missing or misplaced. -/
def RenderError.blamesTree : RenderError → Bool
| .offsetAlone | .foreignNode _ | .emptyOperand _ | .emptyBetween
  | .emptyAlias _ | .noSelect | .argumentsNotListed
  | .membersNotListed => true
| .identifier .empty => true
| _ => false

/- The tree is not at fault for an error. -/
def RenderError.SparesTree (e : RenderError) : Prop :=
  e.blamesTree = false

------------------------------------------------------------
-- Names
------------------------------------------------------------

namespace RenderContext

variable (ctx : RenderContext)

/- Only the empty name is the fault of a tree. -/
theorem spares_name
    {s : String}
    (hName : s ≠ "") :
    FailsWith RenderError.SparesTree (ctx.name s) := by
  have hChars : s.toList.isEmpty = false := by
    rw [List.isEmpty_eq_false_iff]
    exact fun hNone => hName (String.toList_eq_nil_iff.mp hNone)
  unfold RenderContext.name Dialect.identifier Dialect.checkName
  split
  next => exact .ok _
  next =>
    rw [hChars, if_neg Bool.false_ne_true]
    split
    next e hError =>
      split at hError
      next =>
        cases hError
        exact .error rfl
      next =>
        split at hError
        next => cases hError
        next =>
          split at hError
          next =>
            cases hError
            exact .error rfl
          next => cases hError
    next => exact .ok _

theorem spares_name?
    (s : Option String) :
    FailsWith RenderError.SparesTree (ctx.name? s) := by
  unfold RenderContext.name?
  split
  next => exact .ok _
  next s' hPresent =>
    apply FailsWith.map
    apply ctx.spares_name
    rintro rfl
    rcases Option.bind_eq_some_iff.mp hPresent with ⟨s, _, hSame⟩
    unfold present at hSame
    split at hSame
    next => cases hSame
    next hFull => exact hFull (Option.some.inj hSame)

theorem spares_qualified
    {names : List (Option String)}
    (hNames : ∀ name ∈ names, IsGiven name) :
    FailsWith RenderError.SparesTree (ctx.qualified names) := by
  unfold RenderContext.qualified
  apply FailsWith.map
  apply FailsWith.mapM
  intro s hMember
  rw [List.mem_filterMap] at hMember
  rcases hMember with ⟨name, hListed, hSame⟩
  exact ctx.spares_name (hNames name hListed s hSame)

end RenderContext

------------------------------------------------------------
-- Nodes
------------------------------------------------------------

variable {ctx : RenderContext}

theorem isVacant_of_holds
    {P : Node → Prop}
    {slot : Slot Node}
    (hHolds : slot.Holds P) :
    slot.isVacant = false := by
  cases slot with
  | one n => rfl
  | _ => cases hHolds

theorem isList_of_lists
    {P : Node → Prop}
    {least : Nat}
    {slot : Slot Node}
    (hLists : slot.Lists P least) :
    slot.isList = true := by
  cases slot with
  | many members => rfl
  | _ => cases hLists

theorem isSome_query?_of_holds
    {slot : Slot Node}
    (hHolds : slot.Holds Node.IsSelect) :
    slot.query?.isSome = true := by
  cases slot with
  | one n =>
      cases n with
      | select query => rfl
      | _ => cases hHolds
  | _ => cases hHolds

/- A query of a template has a limit where it has an offset. -/
theorem Query.WellFormed.limited
    {query : Query Node}
    (hQuery : query.WellFormed) :
    (query.limit.isVacant && !query.offset.isVacant) = false := by
  rcases query with ⟨_, _, _, _, _, _, limit, offset, _, _⟩
  rcases hQuery with ⟨_, _, _, _, _, _, _, _, hBoth, _⟩
  rcases hBoth with hNone | hSome
  · simp [hNone]
  · simp [hSome]

/- A well-formed node is not at fault for the errors it raises. -/
theorem sparesTree_of_raises
    {n : Node}
    (hNode : n.WellFormed) :
    n.RaisesOnly ctx RenderError.SparesTree := by
  intro e hRaised
  cases n with
  | column name owner database =>
      refine ctx.spares_qualified ?_ e hRaised
      simp [hNode.2.1, hNode.2.2, isGiven_some hNode.1]
  | literal v => exact FailsWith.literal (fun _ => rfl) v e hRaised
  | parameter name => exact FailsWith.parameter (fun _ => rfl) name e hRaised
  | raw _ | numeral _ | foreign _ => exact hNode.elim
  | group _ _ _ | connective _ _ | orderBy _ _ => exact hRaised.elim
  | binary op left right =>
      rcases hRaised with ⟨hVacant, _⟩ | ⟨_, hJudged⟩
      · rw [isVacant_of_holds hNode.1, isVacant_of_holds hNode.2.1] at hVacant
        cases hVacant
      · refine FailsWith.judgeList ?_ (fun _ _ _ => rfl) e hJudged
        rintro n brackets delimiter rfl
        cases hNode.2.2.2.2.1
  | unary op operand =>
      rw [Node.Raises, isVacant_of_holds hNode.1] at hRaised
      cases hRaised.1
  | between operand low high =>
      rw [Node.Raises, isVacant_of_holds hNode.1] at hRaised
      cases hRaised.1
  | call name args distinct =>
      rw [Node.Raises, isList_of_lists hNode.1] at hRaised
      cases hRaised.1
  | «alias» node label =>
      rcases hRaised with ⟨hVacant, _⟩ | hLabel
      · rw [isVacant_of_holds hNode.2.1] at hVacant
        cases hVacant
      · exact ctx.spares_name hNode.1 e hLabel
  | table name label database join condition =>
      rcases hRaised with hNames | hLabel
      · refine ctx.spares_qualified ?_ e hNames
        simp [hNode.2.2.1, isGiven_some hNode.1]
      · exact ctx.spares_name? label e hLabel
  | select query =>
      rcases hRaised with ⟨hAlone, _⟩ | ⟨_, rfl⟩
      · rw [Query.WellFormed.limited hNode] at hAlone
        cases hAlone
      · rfl
  | subquery slot label =>
      rcases hRaised with hLabel | ⟨hNone, _⟩
      · exact ctx.spares_name? label e hLabel
      · have hSelect := isSome_query?_of_holds hNode.2.1
        rw [hNone] at hSelect
        cases hSelect

------------------------------------------------------------
-- Templates
------------------------------------------------------------

/- Whatever is not the fault of a tree is reported as an error. -/
theorem isSome_report?_of_not_blamesTree
    {e : RenderError}
    (hError : e.blamesTree = false) :
    e.report?.isSome = true := by
  cases e <;> first | rfl | cases hError

/- No text of a well-formed query fails because of the tree. -/
theorem sparesTree_of_render
    {query : Query Node}
    (ctx : RenderContext)
    (hQuery : query.WellFormed)
    (hShaped : (Node.select query).Shaped) :
    FailsWith RenderError.SparesTree (ctx.render (.select query)) := by
  intro e hError
  have hNodes : (Node.select query).Everywhere
      (Node.RaisesOnly ctx RenderError.SparesTree) :=
    Node.WellFormed.everywhere (fun _ hNode _ => sparesTree_of_raises hNode)
      (fun name => FailsWith.numeral (fun _ _ => rfl) name)
      (.select query) hQuery hShaped
  rcases render_raises hError with ⟨depth, rfl⟩ | ⟨m, hMember, hRaised⟩
  · rfl
  · exact (Node.everywhere_iff _).mp hNodes m hMember e hRaised

/-
  Templates are parsed to well-formed queries.  In no context
  can such a query fail to be written because a part of it is
  missing or misplaced, so that every error has its report.
-/
theorem parsed_trees_are_well_formed
    {sql : String}
    {tree : Node}
    (hParse : parse sql = .ok tree) :
    (∃ query, tree = .select query ∧ query.WellFormed) ∧
      ∀ (ctx : RenderContext) (e : RenderError),
        ctx.render tree = .error e →
          e.blamesTree = false ∧ e.report?.isSome = true := by
  have hShaped := shaped_of_parse hParse
  rcases wellFormed_of_parse hParse with ⟨query, rfl, hQuery⟩
  refine ⟨⟨query, rfl, hQuery⟩, ?_⟩
  intro ctx e hError
  have hNotTree := sparesTree_of_render ctx hQuery hShaped e hError
  exact ⟨hNotTree, isSome_report?_of_not_blamesTree hNotTree⟩

/- A condition on a list that has no value. -/
def unboundTemplate : String :=
  "SELECT a FROM t WHERE NOT b + -1 IN :x LIMIT 5"

theorem parsed_trees_are_well_formed_of_unbound :
    ∃ tree query,
      parse unboundTemplate = .ok tree ∧
        tree = .select query ∧ query.WellFormed ∧
          ∃ e, RenderContext.render ⟨.mysql, .ofList [], true, 100⟩ tree =
              .error e ∧
            e.blamesTree = false ∧ e.report?.isSome = true := by
  have hCheck :
      parsesTo unboundTemplate (fun tree =>
        (RenderContext.render
          ⟨.mysql, .ofList [], true, 100⟩ tree).toOption = none) =
        true := by
    decide +kernel
  rcases exists_of_parse hCheck with ⟨tree, hParse, hFails⟩
  rcases parsed_trees_are_well_formed hParse with
    ⟨⟨query, hQuery, hWell⟩, hErrors⟩
  cases hRender :
      RenderContext.render ⟨.mysql, .ofList [], true, 100⟩ tree with
  | ok text =>
      rw [hRender] at hFails
      cases hFails
  | error e =>
      exact ⟨tree, query, hParse, hQuery, hWell, e, hRender,
        hErrors _ e hRender⟩

end SqlTemplate
