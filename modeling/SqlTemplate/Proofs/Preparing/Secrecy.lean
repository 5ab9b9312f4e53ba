import SqlTemplate.Proofs.Grammar.Shape
import SqlTemplate.Proofs.Rendering.Dependence
import SqlTemplate.Proofs.Template

/-
  Values stay out of prepared text.  Besides the values of
  limits and offsets, which are written as numerals, nothing is
  known from a prepared statement but which of its parameters
  are bound, and which of them are bound to an empty collection.

  Key definitions include:
    * `NumeralsLimited`

  Correctness is proven by:
    * `Node.numeralsLimited`
    * `mentioned_names`
    * `prepared_text_ignores_values`
-/

------------------------------------------------------------
-- Numerals and Limits
------------------------------------------------------------

namespace SqlTemplate

/- The numeral parameters among some fragments belong to their limits. -/
def NumeralsLimited (fragments : List Node) : Prop :=
  ∀ name, .numeral name ∈ fragments →
    ∃ query, .select query ∈ fragments ∧ name ∈ query.limitNames

namespace NumeralsLimited

variable {fragments fragments' : List Node}

theorem nil : NumeralsLimited [] :=
  nofun

theorem append
    (hFirst : NumeralsLimited fragments)
    (hSecond : NumeralsLimited fragments') :
    NumeralsLimited (fragments ++ fragments') := by
  intro name hName
  rcases List.mem_append.mp hName with hName | hName
  · rcases hFirst name hName with ⟨query, hQuery, hLimit⟩
    exact ⟨query, List.mem_append_left _ hQuery, hLimit⟩
  · rcases hSecond name hName with ⟨query, hQuery, hLimit⟩
    exact ⟨query, List.mem_append_right _ hQuery, hLimit⟩

/- A node that is no numeral parameter itself. -/
theorem cons
    {n : Node}
    (hNode : ∀ name, n ≠ .numeral name)
    (hRest : NumeralsLimited fragments) :
    NumeralsLimited (n :: fragments) := by
  intro name hName
  rcases List.mem_cons.mp hName with hSame | hName
  · exact absurd hSame.symm (hNode name)
  · rcases hRest name hName with ⟨query, hQuery, hLimit⟩
    exact ⟨query, List.mem_cons_of_mem _ hQuery, hLimit⟩

end NumeralsLimited

theorem mem_slotParameters_of_numeral
    {slot : Slot Node}
    {name : String}
    (hName : .numeral name ∈ Node.slotFragments slot) :
    name ∈ Node.slotParameters slot := by
  rw [slot.parameterList_eq, List.mem_filterMap]
  exact ⟨_, hName, rfl⟩

/- A query has numeral parameters in its limits and in its subqueries. -/
theorem numeralsLimited_query
    {query : Query Node}
    {fragments : List Node}
    (hFragments :
      Node.queryFragments query =
        fragments ++ Node.slotFragments query.limit ++
          Node.slotFragments query.offset)
    (hLimited : NumeralsLimited fragments) :
    NumeralsLimited (.select query :: Node.queryFragments query) := by
  have hOwn {name : String} (hName : name ∈ query.limitNames) :
      ∃ q, .select q ∈ .select query :: Node.queryFragments query ∧
        name ∈ q.limitNames :=
    ⟨query, List.mem_cons_self, hName⟩
  intro name hName
  rw [hFragments, List.mem_cons, List.mem_append, List.mem_append] at hName
  rcases hName with hSame | (hFirst | hLimit) | hOffset
  · cases hSame
  · rcases hLimited name hFirst with ⟨q, hQuery, hLimit⟩
    refine ⟨q, List.mem_cons_of_mem _ ?_, hLimit⟩
    rw [hFragments]
    exact List.mem_append_left _ (List.mem_append_left _ hQuery)
  · exact hOwn <| List.mem_append_left _ <|
      mem_slotParameters_of_numeral hLimit
  · exact hOwn <| List.mem_append_right _ <|
      mem_slotParameters_of_numeral hOffset

mutual

/- In the tree of a template numeral parameters stand in limits. -/
theorem Node.numeralsLimited :
    ∀ n : Node, n.Shaped → NumeralsLimited n.fragments
| .column .., _ | .literal _, _ | .parameter _, _ => .cons nofun .nil
| .raw _, hShape | .numeral _, hShape | .foreign _, hShape => hShape.elim
| .group members _ _, hShape =>
    .cons nofun (members.numeralsLimited hShape.2)
| .binary _ left right, hShape =>
    .cons nofun
      ((left.numeralsLimited hShape.1).append
        (right.numeralsLimited hShape.2))
| .connective _ operands, hShape =>
    .cons nofun (operands.numeralsLimited hShape)
| .unary _ operand, hShape => .cons nofun (operand.numeralsLimited hShape)
| .between operand low high, hShape =>
    .cons nofun
      (((operand.numeralsLimited hShape.1).append
        (low.numeralsLimited hShape.2.1)).append
          (high.numeralsLimited hShape.2.2))
| .call _ args _, hShape => .cons nofun (args.numeralsLimited hShape)
| .alias node _, hShape => .cons nofun (node.numeralsLimited hShape)
| .orderBy node _, hShape => .cons nofun (node.numeralsLimited hShape.2)
| .table _ _ _ _ condition, hShape =>
    .cons nofun (condition.numeralsLimited hShape.2)
| .select query, hShape => query.numeralsLimited hShape
| .subquery query _, hShape => .cons nofun (query.numeralsLimited hShape)
termination_by structural n => n

theorem Slot.numeralsLimited :
    ∀ slot : Slot Node, slot.Shaped →
      NumeralsLimited (Node.slotFragments slot)
| .vacant, _ => .nil
| .one n, hShape => n.numeralsLimited hShape
| .many members, hShape => Members.numeralsLimited members hShape
termination_by structural slot => slot

theorem Members.numeralsLimited :
    ∀ members : List (Option Node), Members.Shaped members →
      NumeralsLimited (Node.listFragments members)
| [], _ => .nil
| none :: members, hShape => Members.numeralsLimited members hShape
| some n :: members, hShape =>
    (n.numeralsLimited hShape.1).append
      (Members.numeralsLimited members hShape.2)
termination_by structural members => members

theorem Query.numeralsLimited :
    ∀ query : Query Node, query.Shaped →
      NumeralsLimited (.select query :: Node.queryFragments query)
| ⟨columns, source, filter, groups, having, order, _, _, _, _⟩,
    ⟨hColumns, hSource, hFilter, hGroups, hHaving, hOrder, _⟩ =>
    numeralsLimited_query rfl
      ((((((columns.numeralsLimited hColumns).append
        (source.numeralsLimited hSource)).append
          (filter.numeralsLimited hFilter)).append
            (groups.numeralsLimited hGroups)).append
              (having.numeralsLimited hHaving)).append
                (order.numeralsLimited hOrder))
termination_by structural query => query

end

/- The numeral parameters of a template are names of its limits. -/
theorem mem_limitNames_of_numeral
    {tree : Node}
    {name : String}
    (hShape : tree.Shaped)
    (hName : .numeral name ∈ tree.fragments) :
    name ∈ tree.limitNames := by
  rcases tree.numeralsLimited hShape name hName with ⟨query, hQuery, hLimit⟩
  exact List.mem_flatMap.mpr ⟨_, hQuery, hLimit⟩

------------------------------------------------------------
-- Names of the Values
------------------------------------------------------------

/- Which values come with a text depends on what is bound. -/
theorem mentioned_names
    (b : Bindings)
    (text : String)
    (names : List String) :
    (mentioned b text names).map Prod.fst =
      names.filter fun name =>
        b.isBound name && mentions name.toList text.toList := by
  unfold mentioned
  rw [List.map_filterMap, ← List.filterMap_eq_filter]
  apply List.filterMap_congr
  intro name _
  unfold Bindings.isBound
  cases hValue : b.value? name with
  | none => simp [Option.guard, hValue]
  | some v =>
      by_cases hMentions : mentions name.toList text.toList = true
      · simp [Option.guard, hValue, hMentions]
      · simp [Option.guard, hMentions]

------------------------------------------------------------
-- Prepared Statements
------------------------------------------------------------

variable {d : Dialect} {p q : Bindings} {maxDepth : Int}

/-
  With placeholders left for values, the parameters of a template
  are looked up alike if they are judged alike and those of the
  limits have the same values.
-/
theorem lookedUpAlike_of_judged
    {tree : Node}
    (hShape : tree.Shaped)
    (hJudged : ∀ name ∈ tree.parameterNames, p.JudgedAlike q name)
    (hLimits : ∀ name ∈ tree.limitNames, p.value? name = q.value? name) :
    tree.Everywhere (Node.LookedUpAlike ⟨d, p, false, maxDepth⟩ q) := by
  rw [Node.everywhere_iff]
  intro m hFragment
  cases m with
  | parameter name =>
      have hName := Node.mem_parameterNames.mpr ⟨_, hFragment, rfl⟩
      exact ⟨hJudged name hName, rfl⟩
  | numeral name =>
      have hLimit := mem_limitNames_of_numeral hShape hFragment
      apply Node.lookedUpAlike_of_same
      intro own hOwn
      cases hOwn
      exact (Bindings.eq_of_value?_eq (hLimits name hLimit)).symm
  | _ => exact trivial

/-
  Under two bindings that bind the same names, give the limits
  and offsets the same values and bind the same other names to
  an empty collection, a template has the same prepared text, or
  fails with the same error, and comes with values for the same
  names.
-/
theorem prepared_text_ignores_values
    {sql : String}
    {tree : Node}
    (hParse : parse sql = .ok tree)
    (hBound : ∀ name ∈ tree.parameterNames, p.isBound name = q.isBound name)
    (hLimits : ∀ name ∈ tree.limitNames, p.value? name = q.value? name)
    (hEmpty :
      ∀ name ∈ tree.parameterNames, name ∉ tree.limitNames →
        (p name).isEmptyCollection = (q name).isEmptyCollection) :
    (prepare d p maxDepth sql).map
        (fun prepared =>
          (prepared.text, prepared.parameters.map Prod.fst)) =
      (prepare d q maxDepth sql).map
        (fun prepared =>
          (prepared.text, prepared.parameters.map Prod.fst)) := by
  have hJudged : ∀ name ∈ tree.parameterNames, p.JudgedAlike q name := by
    intro name hName
    refine ⟨(hBound name hName).symm, ?_⟩
    by_cases hLimit : name ∈ tree.limitNames
    · rw [Bindings.eq_of_value?_eq (hLimits name hLimit)]
    · exact (hEmpty name hName hLimit).symm
  have hText :
      RenderContext.render ⟨d, q, false, maxDepth⟩ tree =
        RenderContext.render ⟨d, p, false, maxDepth⟩ tree :=
    render_rebound
      (lookedUpAlike_of_judged (shaped_of_parse hParse) hJudged hLimits)
  have hNames (text : String) :
      (mentioned p text tree.parameterNames).map Prod.fst =
        (mentioned q text tree.parameterNames).map Prod.fst := by
    rw [mentioned_names, mentioned_names]
    apply List.filter_congr
    intro name hName
    rw [hBound name hName]
  unfold prepare renderTree
  rw [hParse]
  dsimp only
  rw [hText]
  cases RenderContext.render ⟨d, p, false, maxDepth⟩ tree with
  | error e => rfl
  | ok text => simp only [Except.mapError, Except.map, hNames text]

/- A comparison, a list of values and a limit. -/
def guardedTemplate : String :=
  "SELECT a FROM t WHERE b = :x AND c IN :ids LIMIT :n"

/- Values for the guarded template. -/
def guardedBindings : Bindings :=
  .ofList [("x", .text "o'clock"), ("ids", .collection .list [.int 1]),
    ("n", .int 5)]

/- Other values, of which only the limit is the same. -/
def otherBindings : Bindings :=
  .ofList [("x", .bytes [255]), ("n", .int 5),
    ("ids", .collection .tuple [.null, .mapping []])]

theorem prepared_text_ignores_values_of_guarded :
    ∃ tree, parse guardedTemplate = .ok tree ∧
      (∀ name ∈ tree.parameterNames,
        guardedBindings.isBound name = otherBindings.isBound name) ∧
      (∀ name ∈ tree.limitNames,
        guardedBindings.value? name = otherBindings.value? name) ∧
      (∀ name ∈ tree.parameterNames, name ∉ tree.limitNames →
        (guardedBindings name).isEmptyCollection =
          (otherBindings name).isEmptyCollection) ∧
      (prepare .mysql guardedBindings 100 guardedTemplate).map
          (fun prepared =>
            (prepared.text, prepared.parameters.map Prod.fst)) =
        (prepare .mysql otherBindings 100 guardedTemplate).map
          (fun prepared =>
            (prepared.text, prepared.parameters.map Prod.fst)) := by
  have hCheck :
      parsesTo guardedTemplate (fun tree =>
        tree.parameterNames = ["x", "ids", "n"] ∧
          tree.limitNames = ["n"]) = true := by
    decide +kernel
  rcases exists_of_parse hCheck with ⟨tree, hParse, hNames, hLimitNames⟩
  have hBound :
      ∀ name ∈ tree.parameterNames,
        guardedBindings.isBound name = otherBindings.isBound name := by
    rw [hNames]
    decide
  have hLimits :
      ∀ name ∈ tree.limitNames,
        guardedBindings.value? name = otherBindings.value? name := by
    rw [hLimitNames]
    exact List.forall_mem_singleton.mpr rfl
  have hEmpty :
      ∀ name ∈ tree.parameterNames, name ∉ tree.limitNames →
        (guardedBindings name).isEmptyCollection =
          (otherBindings name).isEmptyCollection := by
    rw [hNames, hLimitNames]
    decide
  exact ⟨tree, hParse, hBound, hLimits, hEmpty,
    prepared_text_ignores_values hParse hBound hLimits hEmpty⟩

end SqlTemplate
