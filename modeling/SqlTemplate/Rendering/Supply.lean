import Mathlib.Logic.Function.Basic
import SqlTemplate.Rendering.Writer

/-
  Supplying what is missing.  A tree cannot be written as long
  as a list after IN waits for its parameter; then the parameter
  is bound, and the tree that the call has left is written once
  more.

  Key definitions include:
    * `RenderError.missing?`
    * `RenderContext.withValue`
    * `Supply`
    * `RenderContext.supply`
-/

------------------------------------------------------------
-- Missing Parameters
------------------------------------------------------------

namespace SqlTemplate

/- The parameter that an error asks for. -/
def RenderError.missing? : RenderError → Option String
| .unboundMember _ name => some name
| _ => none

/- The parameter for want of which a text could not be written. -/
def Rendered.missing? {α : Type} : Except RenderError α → Option String
| .ok _ => none
| .error e => e.missing?

/- A context in which one more name has a value. -/
def RenderContext.withValue
    (ctx : RenderContext)
    (name : String)
    (v : Value) : RenderContext :=
  { ctx with bindings := Function.update ctx.bindings name v }

------------------------------------------------------------
-- Rounds
------------------------------------------------------------

/-
  What a number of rounds come to: the names that were bound, in
  their order, the context with their values, and what the last
  call gave.
-/
structure Supply where
  names : List String
  context : RenderContext
  text : Except RenderError String

/-
  Write a tree.  If a parameter is missing, give it its value and
  write the tree that is left, for at most `rounds` parameters.
-/
def RenderContext.supply
    (values : Bindings) : Nat → RenderContext → Node → Supply
| 0, ctx, n => ⟨[], ctx, (ctx.writeFresh n).1⟩
| rounds + 1, ctx, n =>
    let (text, left) := ctx.writeFresh n
    match Rendered.missing? text with
    | none => ⟨[], ctx, text⟩
    | some name =>
        let rest :=
          supply values rounds (ctx.withValue name (values name)) left
        { rest with names := name :: rest.names }

end SqlTemplate
