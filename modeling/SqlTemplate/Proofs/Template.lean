import SqlTemplate.Proofs.Results
import SqlTemplate.Template

/-
  What a template is made into.  A template is a query, and its
  text is the text of the tree that it is parsed to.

  Key definitions include:
    * `parsesTo`
  Correctness is proven by:
    * `select_of_parse`
    * `exists_of_parse`
    * `renderTemplate_eq_ok`
    * `prepare_eq_ok`
    * `exists_of_prepare`
-/

------------------------------------------------------------
-- Templates
------------------------------------------------------------

namespace SqlTemplate

/- A template is a query. -/
theorem select_of_parse
    {sql : String}
    {tree : Node}
    (hParse : parse sql = .ok tree) :
    ∃ query, tree = .select query := by
  unfold parse parseChars at hParse
  split at hParse
  next => cases hParse
  next =>
    split at hParse
    next => cases hParse
    next =>
      cases hParse
      exact ⟨_, rfl⟩

/- Is a template parsed to a tree with a property? -/
def parsesTo
    (sql : String)
    (P : Node → Prop)
    [DecidablePred P] : Bool :=
  match parse sql with
  | .ok tree => decide (P tree)
  | .error _ => false

theorem exists_of_parse
    {sql : String}
    {P : Node → Prop}
    [DecidablePred P]
    (hCheck : parsesTo sql P = true) :
    ∃ tree, parse sql = .ok tree ∧ P tree := by
  unfold parsesTo at hCheck
  cases hParse : parse sql with
  | error e =>
      rw [hParse] at hCheck
      cases hCheck
  | ok tree =>
      rw [hParse] at hCheck
      exact ⟨tree, rfl, of_decide_eq_true hCheck⟩

/- A template that has a text has a tree with that text. -/
theorem renderTemplate_eq_ok
    {ctx : RenderContext}
    {sql text : String} :
    renderTemplate ctx sql = .ok text ↔
      ∃ tree, parse sql = .ok tree ∧ ctx.render tree = .ok text := by
  unfold renderTemplate renderTree
  split
  next e hParse =>
    rw [hParse]
    constructor
    · intro hText
      cases hText
    · rintro ⟨tree, hTree, _⟩
      cases hTree
  next n hParse =>
    rw [hParse, mapError_eq_ok]
    constructor
    · intro hText
      exact ⟨n, rfl, hText⟩
    · rintro ⟨tree, hTree, hText⟩
      cases hTree
      exact hText

/- A template whose tree has a text with placeholders is prepared. -/
theorem prepare_eq_ok
    {d : Dialect}
    {b : Bindings}
    {maxDepth : Int}
    {sql text : String}
    {tree : Node}
    (hParse : parse sql = .ok tree)
    (hText :
      RenderContext.render ⟨d, b, false, maxDepth⟩ tree = .ok text) :
    prepare d b maxDepth sql =
      .ok ⟨text, mentioned b text tree.parameterNames⟩ := by
  unfold prepare renderTree
  rw [hParse]
  dsimp only
  rw [hText]
  rfl

/- A prepared template has a tree and its text with placeholders. -/
theorem exists_of_prepare
    {d : Dialect}
    {b : Bindings}
    {maxDepth : Int}
    {sql : String}
    {prepared : Prepared}
    (hPrepare : prepare d b maxDepth sql = .ok prepared) :
    ∃ tree, parse sql = .ok tree ∧
      RenderContext.render ⟨d, b, false, maxDepth⟩ tree =
          .ok prepared.text ∧
        prepared.parameters =
          mentioned b prepared.text tree.parameterNames := by
  unfold prepare at hPrepare
  split at hPrepare
  next => cases hPrepare
  next tree hParse =>
    rcases map_eq_ok.mp hPrepare with ⟨text, hText, rfl⟩
    exact ⟨tree, hParse, mapError_eq_ok.mp hText, rfl⟩

end SqlTemplate
