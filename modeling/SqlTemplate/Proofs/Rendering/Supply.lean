import Mathlib.Data.List.Perm.Subperm
import SqlTemplate.Proofs.Rendering.Failures
import SqlTemplate.Proofs.Rendering.History
import SqlTemplate.Proofs.Walking.Children
import SqlTemplate.Rendering.Supply

/-
  Missing parameters run out.  An error that asks for a parameter
  names one that the tree has and the bindings leave open, and a
  parameter that was given a value is never asked for again.  So
  the rounds in which parameters are supplied come to an end.

  Key definitions include:
    * `RenderContext.withValues`
    * `Supply.Fits`

  Correctness is proven by:
    * `missing_of_raises`
    * `missing_of_render`
    * `Supply.Fits.next`
    * `supply_fits`
    * `supply_not_missing`
    * `supply_succ`
    * `missing_parameters_run_out`
-/

------------------------------------------------------------
-- Which Parameter Is Missing
------------------------------------------------------------

namespace SqlTemplate

/- A report about a missing parameter gives its name. -/
theorem RenderError.missing?_of_report
    {e : RenderError}
    {r : Report}
    (hReport : e.report? = some r) :
    (r.kind = .missingParameter ↔ ∃ name, e.missing? = some name) ∧
      ∀ name, e.missing? = some name →
        r.message = "missing parameter '" ++ name ++ "'" := by
  cases e with
  | unboundMember symbol name =>
      cases hReport
      refine ⟨⟨fun _ => ⟨name, rfl⟩, fun _ => rfl⟩, ?_⟩
      rintro _ ⟨⟩
      rfl
  | identifier e =>
      cases e <;> cases hReport <;>
        exact ⟨⟨nofun, nofun⟩, nofun⟩
  | literal e =>
      cases e <;> cases hReport <;>
        exact ⟨⟨nofun, nofun⟩, nofun⟩
  | noSelect | argumentsNotListed | membersNotListed => cases hReport
  | _ =>
      cases hReport
      exact ⟨⟨nofun, nofun⟩, nofun⟩

/- A fragment of a fragment of a tree is a fragment of the tree. -/
theorem Node.mem_fragments_trans
    {n m p : Node}
    (hFragment : m ∈ n.fragments)
    (hInner : p ∈ m.fragments) :
    p ∈ n.fragments := by
  induction m using Node.induction_of_children id (fun _ => rfl) with
  | hStep m ih =>
      rw [m.fragments_eq] at hInner
      rcases List.mem_cons.mp hInner with rfl | hBelow
      · exact hFragment
      · rcases List.mem_flatMap.mp hBelow with ⟨c, hChild, hDeeper⟩
        exact ih c hChild (Node.mem_fragments_of_child hFragment hChild)
          hDeeper

variable {ctx : RenderContext}

/- The parameter that decides about a list stands in it. -/
theorem mem_of_leadingParameter?
    {slot : Slot Node}
    {name : String}
    (hLeading : RenderContext.leadingParameter? slot = some name) :
    ∃ m ∈ slot.nodes.flatMap Node.fragments,
      m.parameterName? = some name := by
  unfold RenderContext.leadingParameter? at hLeading
  split at hLeading
  next n members brackets delimiter =>
    refine ⟨n, ?_, hLeading⟩
    have hChild : n ∈ (Node.group (.many (some n :: members)) brackets
        delimiter).children := List.mem_cons_self
    exact List.mem_flatMap.mpr ⟨_, List.mem_cons_self,
      Node.mem_fragments_of_child (Node.mem_fragments _) hChild⟩
  next n _ =>
    exact ⟨n, List.mem_flatMap.mpr ⟨n, List.mem_cons_self,
      n.mem_fragments⟩, hLeading⟩
  next => cases hLeading

/- Only a test of membership asks for a parameter, for one of its own. -/
theorem missing_of_raises
    {n : Node}
    {e : RenderError}
    {name : String}
    (hRaised : n.Raises ctx e)
    (hMissing : e.missing? = some name) :
    name ∈ n.parameterNames ∧ ctx.bindings.isBound name = false := by
  cases Node.canRaise_of_raises hRaised with
  | @unboundMember op left right _ hNode hLeading hUnbound =>
      cases hMissing
      subst hNode
      rcases mem_of_leadingParameter? hLeading with ⟨m, hInner, hName⟩
      refine ⟨Node.mem_parameterNames.mpr ⟨m, ?_, hName⟩, hUnbound⟩
      rw [Node.fragments_eq, Node.children, List.flatMap_assoc]
      refine List.mem_cons_of_mem _ (List.mem_flatMap.mpr ⟨right, ?_, hInner⟩)
      exact List.mem_cons_of_mem _ List.mem_cons_self
  | _ => cases hMissing

/- A tree asks for a parameter of its own that is unbound. -/
theorem missing_of_render
    {n : Node}
    {name : String}
    (hMissing : Rendered.missing? (ctx.render n) = some name) :
    name ∈ n.parameterNames ∧ ctx.bindings.isBound name = false := by
  cases hText : ctx.render n with
  | ok text =>
      rw [hText] at hMissing
      cases hMissing
  | error e =>
      rw [hText] at hMissing
      rcases render_raises hText with ⟨depth, rfl⟩ | ⟨m, hInner, hRaised⟩
      · cases hMissing
      · rcases missing_of_raises hRaised hMissing with ⟨hName, hUnbound⟩
        refine ⟨?_, hUnbound⟩
        rcases Node.mem_parameterNames.mp hName with ⟨p, hParameter, hOwn⟩
        exact Node.mem_parameterNames.mpr
          ⟨p, Node.mem_fragments_trans hInner hParameter, hOwn⟩

------------------------------------------------------------
-- Rounds
------------------------------------------------------------

/- Names are bound alike by bindings that give them the same value. -/
theorem Bindings.isBound_congr
    {b c : Bindings}
    {name other : String}
    (hSame : b name = c other) :
    b.isBound name = c.isBound other := by
  rw [Bindings.isBound, Bindings.isBound, Bindings.value?, Bindings.value?,
    hSame]

theorem isBound_withValue
    (values : Bindings)
    (name other : String) :
    (ctx.withValue name (values name)).bindings.isBound other =
      if other = name then
        values.isBound name
      else
        ctx.bindings.isBound other := by
  split
  next hSame =>
    rw [hSame]
    exact Bindings.isBound_congr (Function.update_self ..)
  next hOther => exact Bindings.isBound_congr (Function.update_of_ne hOther ..)

/- A context in which some names have their values from a list. -/
def RenderContext.withValues
    (ctx : RenderContext)
    (values : Bindings)
    (names : List String) : RenderContext :=
  { ctx with
    bindings := fun name =>
      if name ∈ names then values name else ctx.bindings name }

theorem isBound_withValues
    {values : Bindings}
    {name : String}
    {names : List String}
    (hName : name ∈ names) :
    (ctx.withValues values names).bindings.isBound name =
      values.isBound name :=
  Bindings.isBound_congr (if_pos hName)

theorem withValues_cons
    (values : Bindings)
    (name : String)
    (names : List String) :
    (ctx.withValue name (values name)).withValues values names =
      ctx.withValues values (name :: names) := by
  unfold RenderContext.withValues RenderContext.withValue
  congr 1
  funext other
  by_cases hSame : other = name
  · simp [hSame]
  · simp [hSame, Function.update_of_ne]

/-
  What rounds come to: different names of the tree have got their
  values, all of them unbound before; the last call wrote the
  tree with these values; and if a parameter is missing still,
  there were no more rounds.
-/
structure Supply.Fits
    (s : Supply)
    (values : Bindings)
    (rounds : Nat)
    (ctx : RenderContext)
    (n : Node) : Prop where
  length_le : s.names.length ≤ rounds
  nodup : s.names.Nodup
  own :
    ∀ name ∈ s.names,
      name ∈ n.parameterNames ∧ ctx.bindings.isBound name = false
  context_eq : s.context = ctx.withValues values s.names
  text_eq : s.text = s.context.render n
  exhausted :
    Rendered.missing? s.text ≠ none → s.names.length = rounds

section

variable {values : Bindings} {n : Node}

/- The rounds end with the first call for which nothing is missing. -/
theorem supply_of_written
    {left : Node}
    (rounds : Nat)
    (hDone : Rendered.missing? (ctx.writeFresh left).1 = none) :
    ctx.supply values (rounds + 1) left =
      ⟨[], ctx, (ctx.writeFresh left).1⟩ := by
  simp only [RenderContext.supply, hDone]

theorem supply_of_missing
    {left : Node}
    {name : String}
    (rounds : Nat)
    (hMissing : Rendered.missing? (ctx.writeFresh left).1 = some name) :
    ctx.supply values (rounds + 1) left =
      let rest := (ctx.withValue name (values name)).supply values rounds
        (ctx.writeFresh left).2
      { rest with names := name :: rest.names } := by
  simp only [RenderContext.supply, hMissing]

/- One more round before others binds one more name. -/
theorem Supply.Fits.next
    (hValues : ∀ name, values.isBound name = true)
    {s : Supply}
    {rounds : Nat}
    {name : String}
    (hMissing : Rendered.missing? (ctx.render n) = some name)
    (hFits : s.Fits values rounds (ctx.withValue name (values name)) n) :
    Supply.Fits { s with names := name :: s.names } values (rounds + 1)
      ctx n := by
  refine ⟨Nat.succ_le_succ hFits.length_le, ?_, ?_, ?_, hFits.text_eq, ?_⟩
  · refine List.nodup_cons.mpr ⟨fun hAgain => ?_, hFits.nodup⟩
    have hBound := (hFits.own name hAgain).2
    rw [isBound_withValue, if_pos rfl, hValues name] at hBound
    cases hBound
  · refine List.forall_mem_cons.mpr ⟨missing_of_render hMissing, ?_⟩
    intro other hOther
    rcases hFits.own other hOther with ⟨hTree, hUnbound⟩
    rw [isBound_withValue] at hUnbound
    split at hUnbound
    next =>
      rw [hValues] at hUnbound
      cases hUnbound
    next => exact ⟨hTree, hUnbound⟩
  · exact hFits.context_eq.trans (withValues_cons values name s.names)
  · exact fun hStill => congrArg Nat.succ (hFits.exhausted hStill)

/-
  Any number of rounds fits the tree, from any tree that the
  calls before may have left.
-/
theorem supply_fits
    (hValues : ∀ name, values.isBound name = true)
    (rounds : Nat)
    {left : Node}
    (hBrackets : n.Brackets left) :
    (ctx.supply values rounds left).Fits values rounds ctx n := by
  have hSame : ctx = ctx.withValues values [] := rfl
  induction rounds generalizing ctx left with
  | zero =>
      have hText := (writeFresh_of_brackets ctx hBrackets).1
      rw [ctx.writeFresh_eq n] at hText
      exact ⟨Nat.le_refl _, List.nodup_nil, nofun, hSame, hText,
        fun _ => rfl⟩
  | succ rounds ih =>
      rcases writeFresh_of_brackets ctx hBrackets with ⟨hText, hLeft⟩
      rw [ctx.writeFresh_eq n] at hText
      cases hMissing : Rendered.missing? (ctx.writeFresh left).1 with
      | none =>
          rw [supply_of_written rounds hMissing]
          exact ⟨Nat.zero_le _, List.nodup_nil, nofun, hSame, hText,
            fun hStill => absurd hMissing hStill⟩
      | some name =>
          rw [supply_of_missing rounds hMissing]
          rw [hText] at hMissing
          exact (ih hLeft rfl).next hValues hMissing

/- With a round for each name of the tree nothing is missing in the end. -/
theorem supply_not_missing
    (hValues : ∀ name, values.isBound name = true)
    {rounds : Nat}
    (hRounds : n.parameterNames.length ≤ rounds) :
    Rendered.missing? (ctx.supply values rounds n).text = none := by
  have hFits : (ctx.supply values rounds n).Fits values rounds ctx n :=
    supply_fits hValues rounds (.refl n)
  cases hMissing :
      Rendered.missing? (ctx.supply values rounds n).text with
  | none => rfl
  | some name =>
      have hExhausted := hFits.exhausted (hMissing ▸ Option.some_ne_none _)
      rw [hFits.text_eq] at hMissing
      rcases missing_of_render hMissing with ⟨hTree, hUnbound⟩
      have hNew : name ∉ (ctx.supply values rounds n).names := by
        intro hBound
        rw [hFits.context_eq, isBound_withValues hBound, hValues]
          at hUnbound
        cases hUnbound
      -- One more name than there are rounds would be a name of the tree.
      have hLength :
          (name :: (ctx.supply values rounds n).names).length ≤
            n.parameterNames.length := by
        apply List.Subperm.length_le
        apply List.subperm_of_subset
          (List.nodup_cons.mpr ⟨hNew, hFits.nodup⟩)
        exact List.cons_subset.mpr
          ⟨hTree, fun other hOther => (hFits.own other hOther).1⟩
      rw [List.length_cons, hExhausted] at hLength
      omega

/- Once nothing is missing, one more round changes nothing. -/
theorem supply_succ
    {rounds : Nat}
    {left : Node}
    (hDone :
      Rendered.missing? (ctx.supply values rounds left).text = none) :
    ctx.supply values (rounds + 1) left = ctx.supply values rounds left := by
  induction rounds generalizing ctx left with
  | zero => exact supply_of_written 0 hDone
  | succ rounds ih =>
      cases hMissing : Rendered.missing? (ctx.writeFresh left).1 with
      | none =>
          rw [supply_of_written _ hMissing, supply_of_written _ hMissing]
      | some name =>
          rw [supply_of_missing _ hMissing] at hDone
          rw [supply_of_missing _ hMissing, supply_of_missing _ hMissing,
            ih hDone]

end

------------------------------------------------------------
-- Correctness
------------------------------------------------------------

/-
  If a tree cannot be written because a parameter is missing,
  the parameter is unbound and one of the tree's.  So if any
  value other than null is given to each parameter that is asked
  for, the rounds come to an end by themselves: at most as many
  names are bound as the tree has, each of them once, and then
  the tree is written with their values, or not for want of a
  parameter.  Nothing is missing if all names of the tree are
  bound.
-/
theorem missing_parameters_run_out
    (ctx : RenderContext)
    (n : Node)
    (values : Bindings)
    (hValues : ∀ name, values.isBound name = true)
    (rounds : Nat)
    (hRounds : n.parameterNames.length ≤ rounds) :
    let supply := ctx.supply values rounds n
    (∀ e r, ctx.render n = .error e → e.report? = some r →
        r.kind = .missingParameter →
          ∃ name ∈ n.parameterNames,
            r.message = "missing parameter '" ++ name ++ "'" ∧
              e.missing? = some name ∧
                ctx.bindings.isBound name = false) ∧
      supply = ctx.supply values n.parameterNames.length n ∧
      supply.names.length ≤ n.parameterNames.length ∧
      supply.names.Nodup ∧
      (∀ name ∈ supply.names,
        name ∈ n.parameterNames ∧ ctx.bindings.isBound name = false) ∧
      supply.context = ctx.withValues values supply.names ∧
      supply.text = supply.context.render n ∧
      (∀ e r, supply.text = .error e → e.report? = some r →
        r.kind ≠ .missingParameter) ∧
      ((∀ name ∈ n.parameterNames, ctx.bindings.isBound name = true) →
        ∀ e r, ctx.render n = .error e → e.report? = some r →
          r.kind ≠ .missingParameter) := by
  intro supply
  have hMissing {e : RenderError} {r : Report}
      (hError : ctx.render n = .error e)
      (hReport : e.report? = some r)
      (hKind : r.kind = .missingParameter) :
      ∃ name ∈ n.parameterNames,
        r.message = "missing parameter '" ++ name ++ "'" ∧
          e.missing? = some name ∧ ctx.bindings.isBound name = false := by
    rcases RenderError.missing?_of_report hReport with ⟨hNamed, hMessage⟩
    rcases hNamed.mp hKind with ⟨name, hName⟩
    have hOwn : Rendered.missing? (ctx.render n) = some name := by
      rw [hError]
      exact hName
    rcases missing_of_render hOwn with ⟨hTree, hUnbound⟩
    exact ⟨name, hTree, hMessage name hName, hName, hUnbound⟩
  have hSame : supply = ctx.supply values n.parameterNames.length n := by
    induction hRounds with
    | refl => rfl
    | step hRounds ih =>
        exact (supply_succ (supply_not_missing hValues hRounds)).trans ih
  have hFits : supply.Fits values n.parameterNames.length ctx n := by
    rw [hSame]
    exact supply_fits hValues _ (.refl n)
  refine ⟨fun e r => hMissing, hSame, hFits.length_le, hFits.nodup,
    hFits.own, hFits.context_eq, hFits.text_eq, ?_, ?_⟩
  · intro e r hError hReport hKind
    have hDone : Rendered.missing? supply.text = none :=
      supply_not_missing hValues hRounds
    rw [hError] at hDone
    rcases (RenderError.missing?_of_report hReport).1.mp hKind with
      ⟨name, hName⟩
    cases hDone.symm.trans hName
  · intro hBound e r hError hReport hKind
    rcases hMissing hError hReport hKind with ⟨name, hTree, _, _, hUnbound⟩
    rw [hBound name hTree] at hUnbound
    cases hUnbound

/- Two lists, in two rounds; the first parameter is in both of them. -/
theorem missing_parameters_run_out_of_lists :
    let column (name : String) := Slot.one (Node.column name none none)
    let tree := Node.connective .and (.ofList
      [.binary .isIn (column "a") (.one (.parameter "x")),
        .binary .notIn (column "b") (.one (.group
          (.ofList [.parameter "y", .parameter "x"]) true ", "))])
    let ctx : RenderContext := ⟨.mysql, .ofList [], true, defaultMaxDepth⟩
    let values : Bindings := fun _ => .int 7
    let supply := ctx.supply values 2 tree
    (∀ name, values.isBound name = true) ∧
      tree.parameterNames.length ≤ 2 ∧
      supply.names = ["x", "y"] ∧ supply.names.Nodup ∧
      supply.text = .ok "a IN (7) AND b NOT IN (7, 7)" := by
  intro column tree ctx values supply
  have hValues : ∀ name, values.isBound name = true := fun _ => rfl
  have hRounds : tree.parameterNames.length ≤ 2 := by decide
  rcases missing_parameters_run_out ctx tree values hValues 2 hRounds with
    ⟨_, _, _, hNodup, _, hContext, hText, _, _⟩
  have hNames : supply.names = ["x", "y"] := by decide +kernel
  refine ⟨hValues, hRounds, hNames, hNodup, ?_⟩
  rw [show supply.text = supply.context.render tree from hText, hContext,
    hNames]
  exact eq_ok_of_toOption (by decide +kernel)

end SqlTemplate
