import SqlTemplate.Proofs.Grammar.Shape
import SqlTemplate.Proofs.Rendering.Failures
import SqlTemplate.Proofs.Rendering.Faults
import SqlTemplate.Proofs.Walking.Lists

/-
  Reports about trees that cannot be written.  Every error has
  its report unless something of the wrong shape is in a slot.
  Walks keep lists where they belong, so that in a walked tree
  this can only be a subquery whose SELECT the walk took away.

  Key definitions include:
    * `Node.AccountsFor`
    * `selectRemover`
  Correctness is proven by:
    * `reported_or_misplaced`
    * `render_reported_or_misplaced`
    * `unreported_errors_are_missing_selects`
    * `removed_select_has_no_report`
-/

------------------------------------------------------------
-- Single Nodes
------------------------------------------------------------

namespace SqlTemplate

/- An error is reported. -/
def RenderError.IsReported (e : RenderError) : Prop :=
  e.report?.isSome = true

variable {ctx : RenderContext}

/- A node reports the errors it raises unless a slot is misused. -/
theorem reported_or_misplaced
    {n : Node}
    {e : RenderError}
    (hRaised : n.Raises ctx e) :
    e.IsReported ∨ n.misplacement? = some e := by
  cases Node.canRaise_of_raises hRaised with
  | noSelect hMisplaced | argumentsNotListed hMisplaced
  | membersNotListed hMisplaced =>
      exact .inr hMisplaced
  | _ => exact .inl rfl

------------------------------------------------------------
-- Trees
------------------------------------------------------------

/- A tree that cannot be written has a report or a misused slot. -/
theorem render_reported_or_misplaced
    {n : Node}
    {e : RenderError}
    (hError : ctx.render n = .error e) :
    e.IsReported ∨ ∃ m ∈ n.fragments, m.misplacement? = some e := by
  rcases render_raises hError with ⟨depth, rfl⟩ | ⟨m, hMember, hRaised⟩
  · exact .inl rfl
  · exact (reported_or_misplaced hRaised).imp_right fun hMisplaced =>
      ⟨m, hMember, hMisplaced⟩

/- With all lists in place, only a subquery can have a misused slot. -/
theorem noSelect_of_misplacement
    {m : Node}
    {e : RenderError}
    (hLists : m.ListsInPlace)
    (hMisplaced : m.misplacement? = some e) :
    e = .noSelect ∧
      ∃ slot label, m = .subquery slot label ∧ slot.query? = none := by
  unfold Node.misplacement? at hMisplaced
  split at hMisplaced
  next => cases hLists.2.2.1
  next name args distinct =>
    have hArgs : args.isList = true := hLists.1
    rw [if_pos hArgs] at hMisplaced
    cases hMisplaced
  next slot label =>
    split at hMisplaced
    next => cases hMisplaced
    next hNone =>
      cases hMisplaced
      exact ⟨rfl, slot, label, rfl, Option.not_isSome_iff_eq_none.mp hNone⟩
  next => cases hMisplaced

/-
  An error is reported, or it is that of a subquery in the tree
  that has lost its SELECT.
-/
def Node.AccountsFor
    (n : Node)
    (e : RenderError) : Prop :=
  e.IsReported ∨
    (e = .noSelect ∧
      ∃ slot label, .subquery slot label ∈ n.fragments ∧
        slot.query? = none)

theorem accountsFor_of_render
    {n : Node}
    {e : RenderError}
    (hLists : n.ListsInPlace)
    (hError : ctx.render n = .error e) :
    n.AccountsFor e := by
  have hBelow := n.everywhere_iff.mp (Node.Everywhere.nested n hLists)
  rcases render_reported_or_misplaced hError with
    hReported | ⟨m, hMember, hMisplaced⟩
  · exact .inl hReported
  · rcases noSelect_of_misplacement (hBelow m hMember) hMisplaced with
      ⟨hNoSelect, slot, label, rfl, hNone⟩
    exact .inr ⟨hNoSelect, slot, label, hMember, hNone⟩

------------------------------------------------------------
-- Parsed Trees
------------------------------------------------------------

/- A well-formed node holds lists where it should. -/
theorem holdsLists_of_wellFormed
    {n : Node}
    (hNode : n.WellFormed) :
    n.HoldsLists := by
  cases n with
  | group => exact isList_of_lists hNode.2.1
  | connective | call => exact isList_of_lists hNode.1
  | _ => trivial

theorem listsInPlace_of_parse
    {sql : String}
    {tree : Node}
    (hParse : parse sql = .ok tree) :
    tree.ListsInPlace := by
  have hShaped := shaped_of_parse hParse
  rcases wellFormed_of_parse hParse with ⟨query, rfl, hQuery⟩
  exact Node.WellFormed.everywhere
    (fun n hNode _ => holdsLists_of_wellFormed hNode) (fun _ => trivial)
    (.select query) hQuery hShaped

------------------------------------------------------------
-- Walked Trees
------------------------------------------------------------

/-
  A tree whose lists are in place cannot be written for reasons
  that are reported, in whatever context, or because a subquery
  holds no SELECT.  So it is for the trees that walks leave,
  whatever they removed or replaced, finished or not, as long
  as the visitor puts no tree with a misplaced list into them.
-/
theorem unreported_errors_are_missing_selects
    {n : Node}
    (hLists : n.ListsInPlace) :
    (∀ (ctx : RenderContext) (e : RenderError),
        ctx.render n = .error e → n.AccountsFor e) ∧
      ∀ (σ : Type) (v : Visitor σ) (levels : Nat) (start : σ),
        v.OffersOnly Node.ListsInPlace →
          (n.walkFrom v levels start).1.All fun left =>
            ∀ (ctx : RenderContext) (e : RenderError),
              ctx.render left = .error e → left.AccountsFor e := by
  refine ⟨fun ctx e hError => accountsFor_of_render hLists hError, ?_⟩
  intro σ v levels start hVisitor
  have hWalk : WalkStep.Keeps Node.ListsInPlace (Node.walk v levels) :=
    Node.walkEditing_keeps hVisitor (fun _ hNode => hNode) levels
  have hWalked := hWalk n ⟨start, none⟩ hLists
  constructor
  · intro ctx e hError
    exact accountsFor_of_render hWalked.1 hError
  · intro left hLeft ctx e hError
    exact accountsFor_of_render (hWalked.2 left hLeft) hError

/- A visitor that removes the SELECT it leaves first. -/
def selectRemover : Visitor Bool where
  enter := fun _ removed => (.keep, removed)
  leave
  | .select _, false => (.remove, true)
  | _, removed => (.keep, removed)

/- A template with a subquery. -/
def nestedTemplate : String :=
  "SELECT a FROM t WHERE b IN (SELECT c FROM u)"

/- A context without any bound parameter. -/
def unboundContext : RenderContext where
  dialect := .mysql
  bindings := .ofList []
  inline := true
  maxDepth := defaultMaxDepth

/- A tree is left by the visitor, but cannot be written any more. -/
def LosesSelect (tree : Node) : Prop :=
  ∃ left, (tree.walkFrom selectRemover 100 false).1.result = some left ∧
    unboundContext.render left = .error .noSelect

instance : DecidablePred LosesSelect := fun tree =>
  decidable_of_iff
    ((match (tree.walkFrom selectRemover 100 false).1.result with
      | some left =>
          match unboundContext.render left with
          | .error .noSelect => true
          | _ => false
      | none => false) = true) (by
    unfold LosesSelect
    cases (tree.walkFrom selectRemover 100 false).1.result with
    | none => simp
    | some left =>
        simp only [Option.some.injEq, exists_eq_left']
        split
        next hRender => simp [hRender]
        next hOther => simpa using hOther)

theorem selectRemover_offersOnly
    (P : Node → Prop) :
    selectRemover.OffersOnly P := by
  rintro n removed r (hEnter | hLeave)
  · cases hEnter
  · cases n <;> cases removed <;> cases hLeave

theorem nestedTemplate_losesSelect :
    ∃ tree, parse nestedTemplate = .ok tree ∧ LosesSelect tree := by
  apply exists_of_parse
  decide +kernel

theorem unreported_errors_are_missing_selects_of_removal :
    ∃ tree left,
      parse nestedTemplate = .ok tree ∧ tree.ListsInPlace ∧
        selectRemover.OffersOnly Node.ListsInPlace ∧
          (tree.walkFrom selectRemover 100 false).1.result = some left ∧
            unboundContext.render left = .error .noSelect ∧
              ∀ (ctx : RenderContext) (e : RenderError),
                (ctx.render tree = .error e → tree.AccountsFor e) ∧
                  (ctx.render left = .error e → left.AccountsFor e) := by
  rcases nestedTemplate_losesSelect with
    ⟨tree, hParse, left, hLeft, hRender⟩
  have hLists := listsInPlace_of_parse hParse
  have hVisitor := selectRemover_offersOnly Node.ListsInPlace
  have hErrors := unreported_errors_are_missing_selects hLists
  have hWalked := hErrors.2 Bool selectRemover 100 false hVisitor
  exact ⟨tree, left, hParse, hLists, hVisitor, hLeft, hRender, fun ctx e =>
    ⟨hErrors.1 ctx e, hWalked.2 left hLeft ctx e⟩⟩

/- A tree that a walk leaves can have an error without a report. -/
theorem removed_select_has_no_report :
    ∃ tree left,
      parse nestedTemplate = .ok tree ∧
        (tree.walkFrom selectRemover 100 false).1.result = some left ∧
          unboundContext.render left = .error .noSelect ∧
            ¬ RenderError.noSelect.IsReported := by
  rcases nestedTemplate_losesSelect with
    ⟨tree, hParse, left, hLeft, hRender⟩
  exact ⟨tree, left, hParse, hLeft, hRender, nofun⟩

end SqlTemplate
