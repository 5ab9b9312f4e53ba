import SqlTemplate.Proofs.Grammar.Shape
import SqlTemplate.Proofs.Preparing.Placeholders
import SqlTemplate.Proofs.Template

/-
  The values that come with a prepared statement.  They are all
  the bound values whose placeholders are in the text, each once
  and in the order of the parameters of the tree.  A value that
  has no placeholder comes with them only if a literal, a name
  or the name of a function reads like its placeholder.

  Correctness is proven by:
    * `Node.placeholders_subset`
    * `mentioned_sublist`
    * `prepared_values_are_complete`
    * `prepared_values_have_placeholders`
-/

------------------------------------------------------------
-- Placeholders and Parameters
------------------------------------------------------------

namespace SqlTemplate

theorem limitPlaceholders_subset
    (ctx : RenderContext)
    (slot : Slot Node)
    (text : Rendered)
    (names : List String) :
    ctx.limitPlaceholders slot text names ⊆ names := by
  unfold RenderContext.limitPlaceholders
  cases text with
  | error e => exact List.nil_subset _
  | ok text =>
      dsimp only
      split
      · exact List.Subset.refl _
      · exact List.nil_subset _

theorem ite_subset
    {condition : Bool}
    {names names' others : List String}
    (hFirst : names ⊆ others)
    (hSecond : names' ⊆ others) :
    (if condition then names else names') ⊆ others := by
  cases condition with
  | true => exact hFirst
  | false => exact hSecond

theorem append_subset_append
    {names names' others others' : List String}
    (hFirst : names ⊆ others)
    (hSecond : names' ⊆ others') :
    names ++ names' ⊆ others ++ others' :=
  List.append_subset.mpr
    ⟨List.subset_append_of_subset_left _ hFirst,
      List.subset_append_of_subset_right _ hSecond⟩

/- A bound that holds for a present node holds for any. -/
theorem placeholders_subset_of_present
    {ctx : RenderContext}
    {n : Node}
    {depth : Nat}
    {indent : Int}
    {names others : List String}
    (hNode :
      n.placeholders ctx depth indent =
        if (n.render ctx depth indent).isPresent then names else [])
    (hNames : names ⊆ others) :
    n.placeholders ctx depth indent ⊆ others := by
  rw [hNode]
  exact ite_subset hNames (List.nil_subset _)

section

variable (ctx : RenderContext)

mutual

/- What leaves a placeholder is a parameter of the tree. -/
theorem Node.placeholders_subset :
    ∀ (n : Node) (depth : Nat) (indent : Int),
      n.placeholders ctx depth indent ⊆ n.parameterList
| .column .., _, _ | .literal _, _, _ | .raw _, _, _
| .foreign _, _, _ =>
    placeholders_subset_of_present (Node.placeholders.eq_def ..)
      (List.nil_subset _)
| .parameter _, _, _ | .numeral _, _, _ =>
    placeholders_subset_of_present (Node.placeholders.eq_def ..)
      (ite_subset (List.nil_subset _) (List.Subset.refl _))
| .group members _ _, _, _ =>
    placeholders_subset_of_present (Node.placeholders.eq_def ..)
      (members.placeholders_subset _ _)
| .binary op left right, depth, indent =>
    have hLeft := left.placeholders_subset (depth + 1) indent
    have hRight := right.placeholders_subset
    placeholders_subset_of_present (Node.placeholders.eq_def ..)
      (ite_subset (List.subset_append_of_subset_left _ hLeft)
        (ite_subset
          (append_subset_append hLeft
            (ite_subset (hRight _ _) (hRight _ _)))
          (List.nil_subset _)))
| .connective _ operands, _, _ =>
    placeholders_subset_of_present (Node.placeholders.eq_def ..)
      (operands.placeholders_subset _ _)
| .unary _ operand, _, _ =>
    placeholders_subset_of_present (Node.placeholders.eq_def ..)
      (operand.placeholders_subset _ _)
| .between operand low high, _, _ =>
    placeholders_subset_of_present (Node.placeholders.eq_def ..)
      (append_subset_append
        (append_subset_append (operand.placeholders_subset _ _)
          (low.placeholders_subset _ _))
        (high.placeholders_subset _ _))
| .call _ args _, _, _ =>
    placeholders_subset_of_present (Node.placeholders.eq_def ..)
      (args.placeholders_subset _ _)
| .alias node _, _, _ =>
    placeholders_subset_of_present (Node.placeholders.eq_def ..)
      (node.placeholders_subset _ _)
| .orderBy node _, _, _ =>
    placeholders_subset_of_present (Node.placeholders.eq_def ..)
      (node.placeholders_subset _ _)
| .table _ _ _ _ condition, _, _ =>
    placeholders_subset_of_present (Node.placeholders.eq_def ..)
      (condition.placeholders_subset _ _)
| .select query, _, _ =>
    placeholders_subset_of_present (Node.placeholders.eq_def ..)
      (query.placeholders_subset _ _)
| .subquery slot _, _, _ => by
    cases slot with
    | vacant | many =>
        exact placeholders_subset_of_present (Node.placeholders.eq_def ..)
          (List.nil_subset _)
    | one n =>
        cases n with
        | select query =>
            exact placeholders_subset_of_present
              (Node.placeholders.eq_def ..) (query.placeholders_subset _ _)
        | _ =>
            exact placeholders_subset_of_present
              (Node.placeholders.eq_def ..) (List.nil_subset _)
termination_by structural n => n

theorem Slot.placeholders_subset :
    ∀ (slot : Slot Node) (depth : Nat) (indent : Int),
      Node.slotPlaceholders ctx depth indent slot ⊆
        Node.slotParameters slot
| .vacant, _, _ => List.nil_subset _
| .one n, _, _ => n.placeholders_subset _ _
| .many members, _, _ => Members.placeholders_subset members _ _
termination_by structural slot => slot

theorem Members.placeholders_subset :
    ∀ (members : List (Option Node)) (depth : Nat) (indent : Int),
      Node.memberPlaceholders ctx depth indent members ⊆
        Node.listParameters members
| [], _, _ => List.nil_subset _
| none :: members, _, _ => Members.placeholders_subset members _ _
| some n :: members, _, _ =>
    append_subset_append (n.placeholders_subset _ _)
      (Members.placeholders_subset members _ _)
termination_by structural members => members

theorem Query.placeholders_subset :
    ∀ (query : Query Node) (depth : Nat) (indent : Int),
      Node.queryPlaceholders ctx depth indent query ⊆
        Node.queryParameters query
| ⟨columns, source, filter, groups, having, order, limit, offset, _, _⟩,
    _, _ =>
    have hLimit {slot : Slot Node} {depth : Nat} {indent : Int}
        {text : Rendered}
        (hSlot :
          Node.slotPlaceholders ctx depth indent slot ⊆
            Node.slotParameters slot) :
        ctx.limitPlaceholders slot text
            (Node.slotPlaceholders ctx depth indent slot) ⊆
          Node.slotParameters slot :=
      List.Subset.trans (limitPlaceholders_subset ctx slot text _) hSlot
    append_subset_append (append_subset_append (append_subset_append
      (append_subset_append (append_subset_append (append_subset_append
        (append_subset_append (columns.placeholders_subset _ _)
          (source.placeholders_subset _ _))
        (filter.placeholders_subset _ _))
        (groups.placeholders_subset _ _))
        (having.placeholders_subset _ _))
        (order.placeholders_subset _ _))
        (hLimit (limit.placeholders_subset _ _)))
        (hLimit (offset.placeholders_subset _ _))
termination_by structural query => query

end

end

------------------------------------------------------------
-- Names of Parameters
------------------------------------------------------------

/- All names are words. -/
def AreBareNames (names : List String) : Prop :=
  ∀ name ∈ names, IsBareName name

theorem AreBareNames.append
    {names names' : List String}
    (hFirst : AreBareNames names)
    (hSecond : AreBareNames names') :
    AreBareNames (names ++ names') :=
  List.forall_mem_append.mpr ⟨hFirst, hSecond⟩

theorem AreBareNames.of_limit
    {slot : Slot Node}
    (hLimit : slot.IsLimit) :
    AreBareNames (Node.slotParameters slot) := by
  unfold Slot.IsLimit at hLimit
  split at hLimit
  next => exact nofun
  next => exact nofun
  next => exact List.forall_mem_singleton.mpr hLimit
  next => exact hLimit.elim

mutual

/- The parameters of a tree that was parsed are named by words. -/
theorem Node.bareNames :
    ∀ n : Node, n.Shaped → AreBareNames n.parameterList
| .column .., _ | .literal _, _ => nofun
| .raw _, hShape | .numeral _, hShape | .foreign _, hShape => hShape.elim
| .parameter _, hShape => List.forall_mem_singleton.mpr hShape
| .group members _ _, hShape => members.bareNames hShape.2
| .binary _ left right, hShape =>
    (left.bareNames hShape.1).append (right.bareNames hShape.2)
| .connective _ operands, hShape => operands.bareNames hShape
| .unary _ operand, hShape => operand.bareNames hShape
| .between operand low high, hShape =>
    ((operand.bareNames hShape.1).append (low.bareNames hShape.2.1)).append
      (high.bareNames hShape.2.2)
| .call _ args _, hShape => args.bareNames hShape
| .alias node _, hShape => node.bareNames hShape
| .orderBy node _, hShape => node.bareNames hShape.2
| .table _ _ _ _ condition, hShape => condition.bareNames hShape.2
| .select query, hShape => query.bareNames hShape
| .subquery slot _, hShape => slot.bareNames hShape
termination_by structural n => n

theorem Slot.bareNames :
    ∀ slot : Slot Node, slot.Shaped →
      AreBareNames (Node.slotParameters slot)
| .vacant, _ => nofun
| .one n, hShape => n.bareNames hShape
| .many members, hShape => Members.bareNames members hShape
termination_by structural slot => slot

theorem Members.bareNames :
    ∀ members : List (Option Node), Members.Shaped members →
      AreBareNames (Node.listParameters members)
| [], _ => nofun
| none :: members, hShape => Members.bareNames members hShape
| some n :: members, hShape =>
    (n.bareNames hShape.1).append (Members.bareNames members hShape.2)
termination_by structural members => members

theorem Query.bareNames :
    ∀ query : Query Node, query.Shaped →
      AreBareNames (Node.queryParameters query)
| ⟨columns, source, filter, groups, having, order, _, _, _, _⟩,
    ⟨hColumns, hSource, hFilter, hGroups, hHaving, hOrder, hLimit,
      hOffset, _⟩ =>
    (((((((columns.bareNames hColumns).append
      (source.bareNames hSource)).append
        (filter.bareNames hFilter)).append
          (groups.bareNames hGroups)).append
            (having.bareNames hHaving)).append
              (order.bareNames hOrder)).append
                (.of_limit hLimit)).append (.of_limit hOffset)
termination_by structural query => query

end

------------------------------------------------------------
-- Values of a Text
------------------------------------------------------------

variable {b : Bindings} {text : String} {names : List String}

theorem mem_mentioned
    {name : String}
    {v : Value} :
    (name, v) ∈ mentioned b text names ↔
      name ∈ names ∧ b.value? name = some v ∧
        mentions name.toList text.toList = true := by
  unfold mentioned
  rw [List.mem_filterMap]
  constructor
  · rintro ⟨own, hMember, hEntry⟩
    cases hValue : b.value? own with
    | none => simp [hValue] at hEntry
    | some v' =>
        simp only [hValue, Option.ite_none_right_eq_some, Option.some.injEq,
          Prod.mk.injEq] at hEntry
        rcases hEntry with ⟨hMentions, rfl, rfl⟩
        exact ⟨hMember, hValue, hMentions⟩
  · rintro ⟨hMember, hValue, hMentions⟩
    exact ⟨name, hMember, by simp [hValue, hMentions]⟩

/- The values of a text are in the order of the names. -/
theorem mentioned_sublist :
    ((mentioned b text names).map Prod.fst).Sublist names := by
  induction names with
  | nil => exact List.Sublist.refl _
  | cons own names ih =>
      unfold mentioned at ih ⊢
      rw [List.filterMap_cons]
      split
      next => exact ih.cons own
      next entry hEntry =>
        have hOwn : entry.1 = own := by
          split at hEntry
          next => cases hEntry
          next =>
            split at hEntry
            next =>
              cases hEntry
              rfl
            next => cases hEntry
        rw [List.map_cons, hOwn]
        exact ih.cons_cons own

------------------------------------------------------------
-- Prepared Statements
------------------------------------------------------------

/- The placeholders of a prepared template account for its text. -/
theorem accounted_of_prepare
    {d : Dialect}
    {b : Bindings}
    {maxDepth : Int}
    {sql : String}
    {prepared : Prepared}
    (hPrepare : prepare d b maxDepth sql = .ok prepared) :
    ∃ tree, parse sql = .ok tree ∧
      (∀ name, Accounts
        (tree.Everywhere (Node.SilentAbout ⟨d, b, false, maxDepth⟩ name))
        name (RenderContext.placeholders ⟨d, b, false, maxDepth⟩ tree)
        (Text.colonNames prepared.text)) ∧
        prepared.parameters =
          mentioned b prepared.text tree.parameterNames := by
  rcases exists_of_prepare hPrepare with ⟨tree, hParse, hText, hValues⟩
  refine ⟨tree, hParse, ?_, hValues⟩
  intro name
  rcases map_eq_ok.mp hText with ⟨slotText, hSlot, hSame⟩
  have hTree : tree.Accounted ⟨d, b, false, maxDepth⟩ name :=
    tree.accounted rfl (shaped_of_parse hParse)
  have hAll := accounted_one hTree 1 0 " " slotText (by decide) hSlot
  have hFound : namesIn slotText = Text.colonNames prepared.text := by
    rw [← hSame]
    cases slotText with
    | none => rfl
    | some s => exact namesIn_some s
  rw [hFound] at hAll
  exact hAll

/- The text has the placeholder of a parameter if its name is there. -/
theorem mentions_parameter
    {sql : String}
    {tree : Node}
    (hParse : parse sql = .ok tree)
    {name : String}
    (hName : name ∈ tree.parameterNames)
    (text : String) :
    mentions name.toList text.toList = true ↔
      name ∈ Text.colonNames text :=
  Text.mentions_iff
    (isWord_of_isBareName
      (tree.bareNames (shaped_of_parse hParse) name
        (mem_distinctNames.mp hName)))

/-
  No value is lost.  A bound name whose placeholder is in the
  text comes with its value; names are distinct and in the order
  of the parameters of the tree.
-/
theorem prepared_values_are_complete
    {d : Dialect}
    {b : Bindings}
    {maxDepth : Int}
    {sql : String}
    {prepared : Prepared}
    (hPrepare : prepare d b maxDepth sql = .ok prepared) :
    ∃ tree, parse sql = .ok tree ∧
      (∀ name ∈ RenderContext.placeholders ⟨d, b, false, maxDepth⟩ tree,
        ∀ v, b.value? name = some v → (name, v) ∈ prepared.parameters) ∧
        (∀ entry ∈ prepared.parameters, b.value? entry.1 = some entry.2) ∧
          (prepared.parameters.map Prod.fst).Nodup ∧
            (prepared.parameters.map Prod.fst).Sublist
              tree.parameterNames := by
  rcases accounted_of_prepare hPrepare with ⟨tree, hParse, hAll, hValues⟩
  refine ⟨tree, hParse, ?_, ?_, ?_, ?_⟩
  · intro name hPlaced v hValue
    have hName : name ∈ tree.parameterNames :=
      mem_distinctNames.mpr (tree.placeholders_subset _ _ _ hPlaced)
    have hFound := (hAll name).included hPlaced
    rw [hValues]
    exact mem_mentioned.mpr
      ⟨hName, hValue, (mentions_parameter hParse hName _).mpr hFound⟩
  · intro entry hEntry
    rw [hValues] at hEntry
    exact (mem_mentioned.mp hEntry).2.1
  · rw [hValues]
    exact mentioned_sublist.nodup (nodup_distinctNames _)
  · rw [hValues]
    exact mentioned_sublist

/- Values of which one is named by a part of the name of another. -/
def similarBindings : Bindings :=
  .ofList [("n", .int 1), ("ns", .int 2)]

/- Conditions on both values, one of them in a subquery. -/
def similarTemplate : String :=
  "SELECT a FROM t WHERE b = :ns AND c IN (SELECT d FROM u WHERE e > :n)"

/- The text with placeholders for both values. -/
def similarText : String :=
  "SELECT a\nFROM t\nWHERE b = :ns AND c IN (SELECT d\n  FROM u\n  " ++
    "WHERE e > :n)"

theorem prepared_values_are_complete_of_similar_names :
    ∃ prepared,
      prepare .mysql similarBindings 100 similarTemplate = .ok prepared ∧
        ("n", .int 1) ∈ prepared.parameters ∧
          ("ns", .int 2) ∈ prepared.parameters := by
  have hCheck :
      parsesTo similarTemplate (fun tree =>
        (RenderContext.render ⟨.mysql, similarBindings, false, 100⟩
            tree).toOption = some similarText ∧
          RenderContext.placeholders
            ⟨.mysql, similarBindings, false, 100⟩ tree = ["ns", "n"]) =
        true := by
    decide +kernel
  rcases exists_of_parse hCheck with ⟨tree, hParse, hText, hPlaced⟩
  have hPrepare := prepare_eq_ok hParse (eq_ok_of_toOption hText)
  rcases prepared_values_are_complete hPrepare with
    ⟨tree', hTree, hComplete, _⟩
  cases hParse.symm.trans hTree
  rw [hPlaced] at hComplete
  exact ⟨_, hPrepare, hComplete "n" (by decide) _ rfl,
    hComplete "ns" (by decide) _ rfl⟩

/-
  No value is returned without need, unless a literal, a name or
  the name of a function reads like its placeholder.
-/
theorem prepared_values_have_placeholders
    {d : Dialect}
    {b : Bindings}
    {maxDepth : Int}
    {sql : String}
    {prepared : Prepared}
    (hPrepare : prepare d b maxDepth sql = .ok prepared) :
    ∃ tree, parse sql = .ok tree ∧
      ∀ entry ∈ prepared.parameters,
        b.value? entry.1 = some entry.2 ∧ entry.1 ∈ tree.parameterNames ∧
          (tree.Everywhere
              (Node.SilentAbout ⟨d, b, false, maxDepth⟩ entry.1) →
            entry.1 ∈
              RenderContext.placeholders ⟨d, b, false, maxDepth⟩ tree) := by
  rcases accounted_of_prepare hPrepare with ⟨tree, hParse, hAll, hValues⟩
  refine ⟨tree, hParse, ?_⟩
  intro entry hEntry
  rw [hValues] at hEntry
  rcases mem_mentioned.mp hEntry with ⟨hName, hValue, hMentions⟩
  refine ⟨hValue, hName, fun hSilent => ?_⟩
  exact (hAll entry.1).placed hSilent
    ((mentions_parameter hParse hName _).mp hMentions)

theorem prepared_values_have_placeholders_of_similar_names :
    ∃ tree prepared, parse similarTemplate = .ok tree ∧
      prepare .mysql similarBindings 100 similarTemplate = .ok prepared ∧
        prepared.parameters.map Prod.fst = ["ns", "n"] ∧
          ∀ entry ∈ prepared.parameters,
            entry.1 ∈ RenderContext.placeholders
              ⟨.mysql, similarBindings, false, 100⟩ tree := by
  have hCheck :
      parsesTo similarTemplate (fun tree =>
        (RenderContext.render ⟨.mysql, similarBindings, false, 100⟩
            tree).toOption = some similarText ∧
          tree.parameterNames = ["ns", "n"] ∧
            ∀ name ∈ ["ns", "n"], tree.Everywhere
              (Node.SilentAbout
                ⟨.mysql, similarBindings, false, 100⟩ name)) = true := by
    decide +kernel
  rcases exists_of_parse hCheck with
    ⟨tree, hParse, hText, hNames, hSilent⟩
  have hPrepare := prepare_eq_ok hParse (eq_ok_of_toOption hText)
  rcases prepared_values_have_placeholders hPrepare with
    ⟨tree', hTree, hPlaced⟩
  cases hParse.symm.trans hTree
  have hValues :
      (mentioned similarBindings similarText tree.parameterNames).map
          Prod.fst = ["ns", "n"] := by
    rw [hNames]
    rfl
  refine ⟨tree, _, hParse, hPrepare, hValues, ?_⟩
  intro entry hEntry
  rcases hPlaced entry hEntry with ⟨_, hName, hOwn⟩
  rw [hNames] at hName
  exact hOwn (hSilent entry.1 hName)

/- A limit, and a string that reads like its placeholder. -/
def strayTemplate : String :=
  "SELECT ':n' FROM t LIMIT :n"

/- The value of the limit. -/
def strayBindings : Bindings :=
  .ofList [("n", .int 5)]

/-
  The value of a limit is in the text, and is returned as well
  because of the string.
-/
theorem prepared_values_include_stray :
    ∃ tree prepared, parse strayTemplate = .ok tree ∧
      prepare .mysql strayBindings 100 strayTemplate = .ok prepared ∧
        prepared.parameters.map Prod.fst = ["n"] ∧
          RenderContext.placeholders ⟨.mysql, strayBindings, false, 100⟩
            tree = [] := by
  have hCheck :
      parsesTo strayTemplate (fun tree =>
        (RenderContext.render ⟨.mysql, strayBindings, false, 100⟩
            tree).toOption = some "SELECT ':n'\nFROM t\nLIMIT 5" ∧
          tree.parameterNames = ["n"] ∧
            RenderContext.placeholders
              ⟨.mysql, strayBindings, false, 100⟩ tree = []) = true := by
    decide +kernel
  rcases exists_of_parse hCheck with ⟨tree, hParse, hText, hNames, hPlaced⟩
  refine ⟨tree, _, hParse, prepare_eq_ok hParse (eq_ok_of_toOption hText),
    ?_, hPlaced⟩
  rw [hNames]
  rfl

end SqlTemplate
