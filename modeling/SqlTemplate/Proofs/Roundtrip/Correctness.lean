import SqlTemplate.Proofs.Grammar.Shape
import SqlTemplate.Proofs.Roundtrip.Queries
import SqlTemplate.Proofs.Template

/-
  Trees of templates are read back from their texts.  Every rule
  makes a phrase that is read back from phrases that are, so a
  template is parsed again to the tree that its text was written
  for.

  Key definitions include:
    * `Nonterminal.ReadBack`
    * `readsBack`
  Correctness is proven by:
    * `preserves_readsBack`
    * `text_is_read_back`
-/

------------------------------------------------------------
-- Phrases that Are Read Back
------------------------------------------------------------

namespace SqlTemplate

/- The nodes of a list, of which there is one, are read back. -/
def NodesReadBack
    (ctx : RenderContext)
    (R : List Char → Node → Prop)
    (ns : List Node) : Prop :=
  ns ≠ [] ∧ ∀ n ∈ ns, n.ReadBack ctx R

/- The sources of a query are read back with what is joined. -/
def SourcesReadBack
    (ctx : RenderContext)
    (ns : List Node) : Prop :=
  ∃ first others, ns = first :: others ∧
    first.ReadBack ctx (Denotes none (.phrase .source)) ∧
      ∀ n ∈ others, n.ReadBack ctx (Denotes none (.phrase .join))

/- A literal has the value of a literal in a statement. -/
def Node.HasConstant (n : Node) : Prop :=
  ∀ v, n = .literal v → v.IsConstant

/- What a phrase means is read back from its text as such a phrase. -/
def Nonterminal.ReadBack
    (ctx : RenderContext) : (n : Nonterminal) → n.Meaning → Prop
| .statement, q => Query.ReadBack ctx q
| .query, q => Query.ReadBack ctx q
| .rowKind, _ => True
| .columns, ns => NodesReadBack ctx (Denotes none (.phrase .column)) ns
| .column, n => Node.ReadBack ctx (Denotes none (.phrase .column)) n
| .sourceClause, slot =>
    Slot.ReadBack ctx " " "FROM" (Denotes none (.phrase .sourceClause)) slot
| .sources, ns => SourcesReadBack ctx ns
| .source, n => Node.ReadBack ctx (Denotes none (.phrase .source)) n
| .table, _ => True
| .tableName, _ => True
| .join, n => Node.ReadBack ctx (Denotes none (.phrase .join)) n
| .joinKind, words => IsJoinKind words
| .filterClause, slot =>
    Slot.ReadBack ctx " " "WHERE" (Denotes none (.phrase .filterClause)) slot
| .groupClause, slot =>
    Slot.ReadBack ctx ", " "GROUP BY"
      (Denotes none (.phrase .groupClause)) slot
| .exprs, ns => NodesReadBack ctx (Denotes none (.phrase .expr)) ns
| .havingClause, slot =>
    Slot.ReadBack ctx " " "HAVING"
      (Denotes none (.phrase .havingClause)) slot
| .orderClause, slot =>
    Slot.ReadBack ctx ", " "ORDER BY"
      (Denotes none (.phrase .orderClause)) slot
| .orderKeys, ns => NodesReadBack ctx (Denotes none (.phrase .orderKey)) ns
| .orderKey, n => Node.ReadBack ctx (Denotes none (.phrase .orderKey)) n
| .limitClause, limits => Slot.IsLimit limits.1 ∧ Slot.IsLimit limits.2
| .limitValue, n => Slot.IsLimit (.one n)
| .expr, n => Node.ReadBack ctx (Denotes none (.phrase .expr)) n
| .exclusive, n => Node.ReadBack ctx (Denotes none (.phrase .exclusive)) n
| .conjunction, n =>
    Node.ReadBack ctx (Denotes none (.phrase .conjunction)) n
| .negation, n => Node.ReadBack ctx (Denotes none (.phrase .negation)) n
| .predicate, n => Node.ReadBack ctx (Denotes none (.phrase .predicate)) n
| .valueList, n => Node.ReadBack ctx (Denotes none (.phrase .valueList)) n
| .bitOr, n => Node.ReadBack ctx (Denotes none (.phrase .bitOr)) n
| .bitXor, n => Node.ReadBack ctx (Denotes none (.phrase .bitXor)) n
| .bitAnd, n => Node.ReadBack ctx (Denotes none (.phrase .bitAnd)) n
| .sum, n => Node.ReadBack ctx (Denotes none (.phrase .sum)) n
| .product, n => Node.ReadBack ctx (Denotes none (.phrase .product)) n
| .signed, n =>
    Node.ReadBack ctx (Denotes none (.phrase .signed)) n ∧
      Node.HasConstant n
| .atom, n =>
    Node.ReadBack ctx (Denotes none (.phrase .atom)) n ∧
      Node.HasConstant n

/-
  What a symbol means is read back.  Tokens have their shape,
  since some of their characters stand in the tree.
-/
def readsBack (ctx : RenderContext) : MeaningProperty
| .phrase n, m => n.ReadBack ctx m
| .token kind, cs => shapes (.token kind) cs

variable {ctx : RenderContext} {P P' : List Char → Node → Prop}

/- Phrases of a kind are phrases of another kind. -/
theorem Node.ReadBack.imp
    {n : Node}
    (hNode : n.ReadBack ctx P)
    (hText : ∀ cs, P cs n → P' cs n) :
    n.ReadBack ctx P' := by
  intro hLegible depth indent text hRender
  rcases hNode hLegible depth indent text hRender with
    ⟨s, rfl, hNotEmpty, hHolds⟩
  exact ⟨s, rfl, hNotEmpty, hText _ hHolds⟩

theorem nodesReadBack_singleton
    {n : Node}
    (hNode : n.ReadBack ctx P) :
    NodesReadBack ctx P [n] := by
  refine ⟨List.cons_ne_nil _ _, ?_⟩
  rw [List.forall_mem_singleton]
  exact hNode

theorem nodesReadBack_concat
    {ns : List Node}
    {n : Node}
    (hNodes : NodesReadBack ctx P ns)
    (hNode : n.ReadBack ctx P) :
    NodesReadBack ctx P (ns.concat n) := by
  rw [List.concat_eq_append]
  refine ⟨List.append_ne_nil_of_left_ne_nil hNodes.1 _, ?_⟩
  rw [List.forall_mem_append, List.forall_mem_singleton]
  exact ⟨hNodes.2, hNode⟩

theorem sourcesReadBack_concat
    {ns : List Node}
    {n : Node}
    (hSources : SourcesReadBack ctx ns)
    (hNode : n.ReadBack ctx (Denotes none (.phrase .join))) :
    SourcesReadBack ctx (ns.concat n) := by
  rcases hSources with ⟨first, others, rfl, hFirst, hOthers⟩
  rw [List.concat_eq_append]
  refine ⟨first, others ++ [n], rfl, hFirst, ?_⟩
  rw [List.forall_mem_append, List.forall_mem_singleton]
  exact ⟨hOthers, hNode⟩

------------------------------------------------------------
-- Literals
------------------------------------------------------------

/- A literal has the text that its value has. -/
theorem readBack_literal
    {v : Value}
    (hText : ∀ text, ctx.dialect.KeepsLiteral v →
      ctx.dialect.literal v = .ok text → P text.toList (.literal v)) :
    (Node.literal v).ReadBack ctx P := by
  intro hLegible depth indent
  apply gives_node
  intro hDeep text hRender
  rw [Node.render.eq_def, hDeep] at hRender
  rcases map_eq_ok.mp hRender with ⟨s, hLiteral, rfl⟩
  exact ⟨s, rfl, RenderContext.ne_empty_of_literal hLiteral,
    hText s hLegible (mapError_eq_ok.mp hLiteral)⟩

theorem Value.isConstant_of_isUnsigned
    {v : Value}
    (hUnsigned : v.IsUnsigned) :
    v.IsConstant := by
  cases v with
  | decimal x =>
      cases x with
      | finite _ _ _ => trivial
      | _ => exact hUnsigned.elim
  | null | bool _ | int _ | text _ => trivial
  | _ => exact hUnsigned.elim

theorem hasConstant_literal
    {v : Value}
    (hConstant : v.IsConstant) :
    (Node.literal v).HasConstant := by
  intro w hSame
  cases hSame
  exact hConstant

/- A literal without a sign is read back as an operand. -/
theorem readBack_unsigned
    {v : Value}
    (hUnsigned : v.IsUnsigned) :
    Nonterminal.ReadBack ctx .atom (Node.literal v) :=
  ⟨readBack_literal fun _ hKeeps hText =>
      denotes_unsigned hKeeps hUnsigned hText,
    hasConstant_literal (Value.isConstant_of_isUnsigned hUnsigned)⟩

theorem isUnsigned_numberOf
    (cs : List Char) : (Token.numberOf cs).IsUnsigned := by
  unfold Token.numberOf
  dsimp only
  split
  · exact Int.natCast_nonneg _
  · exact rfl

/- The negative of a number is one, and other operands get a sign. -/
theorem negative_cases
    (n : Node) :
    (∃ v w, n = .literal v ∧ n.negative = .literal w ∧
      (v.IsConstant → w.IsConstant)) ∨
    n.negative = .unary .negate (.one n) := by
  unfold Node.negative
  split
  · exact .inl ⟨_, _, rfl, rfl, fun _ => trivial⟩
  · exact .inl ⟨_, _, rfl, rfl, fun _ => trivial⟩
  next x =>
    refine .inl ⟨_, _, rfl, rfl, ?_⟩
    cases x with
    | finite _ _ _ => exact fun _ => trivial
    | _ => exact False.elim
  · exact .inr rfl

/- An operand with a minus sign is read back. -/
theorem readBack_negative
    {n : Node}
    (hNode : Nonterminal.ReadBack ctx .signed n) :
    Nonterminal.ReadBack ctx .signed n.negative := by
  rcases negative_cases n with
    ⟨v, w, rfl, hNumber, hConstant⟩ | hSign
  · have hNegative : w.IsConstant := hConstant (hNode.2 v rfl)
    rw [hNumber]
    exact ⟨readBack_literal fun _ hKeeps hText =>
        denotes_constant hKeeps hNegative hText,
      hasConstant_literal hNegative⟩
  · have hMeaning :
        ∀ cs, Denotes none (.phrase .signed) cs n.negative →
          Denotes none (.phrase .signed) cs
            (Node.unary .negate (.one n)) := by
      intro cs hText
      rw [hSign] at hText
      exact hText
    rw [hSign]
    refine ⟨readBack_negate hNode.1 ?_ ?_, nofun⟩
    · intro cs hText
      apply hMeaning
      exact .of_rule .negate rfl (.minus nofun (.blank rfl (.last hText)))
    · intro cs hText hHead
      apply hMeaning
      exact .of_rule .negate rfl (.minus hHead (.last hText))

------------------------------------------------------------
-- Columns and Lists
------------------------------------------------------------

/- A star is no name, so it is legible only where a star can be. -/
theorem not_legible_star
    {d : Dialect}
    (owner : Option String) :
    ¬ (Node.column "*" owner none).Legible d := by
  intro hLegible
  rcases hLegible (some "*") (by simp) "*" rfl with ⟨_, text, hText, hToken, _⟩
  cases hText
  revert hToken
  decide

theorem readBack_stars :
    ∀ n ∈ [Node.column "*" none none], n.ReadBack ctx P := by
  rw [List.forall_mem_singleton]
  exact fun hStar => absurd hStar (not_legible_star _)

/- The text of the last item of a list can be taken off. -/
theorem exists_of_forall₂_concat
    {ns : List Node}
    {n : Node}
    {texts : List String}
    (hTexts :
      List.Forall₂ (fun n s => P s.toList n) (ns.concat n) texts) :
    ∃ others s, texts = others ++ [s] ∧
      List.Forall₂ (fun n s => P s.toList n) ns others ∧ P s.toList n := by
  rw [List.concat_eq_append] at hTexts
  have hOthers := (List.forall₂_take_append _ _ _ hTexts.flip).flip
  have hLast := (List.forall₂_drop_append _ _ _ hTexts.flip).flip
  generalize hDrop : texts.drop ns.length = last at hLast
  rcases hLast with _ | @⟨_, s, _, _, hItem, _ | _⟩
  refine ⟨texts.take ns.length, s, ?_, hOthers, hItem⟩
  rw [← hDrop, List.take_append_drop]

/- Expressions in brackets, of which there are at least two. -/
theorem readBack_tuple
    {ns : List Node}
    {n : Node}
    (hNodes : NodesReadBack ctx (Denotes none (.phrase .expr)) ns)
    (hNode : n.ReadBack ctx (Denotes none (.phrase .expr))) :
    (Node.tupled (ns.concat n)).ReadBack ctx
      (Denotes none (.phrase .atom)) := by
  have hAll := nodesReadBack_concat hNodes hNode
  apply readBack_tupled hAll.1 hAll.2
  intro texts hTexts
  rcases exists_of_forall₂_concat hTexts with
    ⟨others, s, rfl, hOthers, hItem⟩
  have hExprs := Denotes.exprs hNodes.1 hOthers
  have hTuple :
      Denotes none (.phrase .atom)
        ('(' :: ((", ".intercalate others).toList ++
          ',' :: ' ' :: (s.toList ++ [')'])))
        (Node.tupled (ns.concat n)) :=
    .of_rule .tuple rfl
      (.mark rfl (by decide) (.cons hExprs (.mark rfl (by decide)
        (.blank rfl (.cons hItem (.mark rfl (by decide) .nil) rfl))) rfl))
  have hSome : others ≠ [] := by
    rintro rfl
    cases hOthers
    exact hNodes.1 rfl
  rw [String.intercalate_append_of_ne_nil hSome (List.cons_ne_nil _ _),
    String.intercalate_singleton]
  simpa [String.toList_append] using hTuple

------------------------------------------------------------
-- Comparisons
------------------------------------------------------------

/- The symbol of a comparison is the token that denotes it. -/
theorem comparison_cases
    (cs : List Char) :
    (Token.comparisonOf cs).symbol.toList ∈ Token.comparisons ∧
      Token.comparisonOf (Token.comparisonOf cs).symbol.toList =
        Token.comparisonOf cs := by
  unfold Token.comparisonOf
  split <;> decide

/- A comparison is read back. -/
theorem readBack_compare
    {cs : List Char}
    {left right : Node}
    (hLeft : left.ReadBack ctx (Denotes none (.phrase .bitOr)))
    (hRight : right.ReadBack ctx (Denotes none (.phrase .bitOr))) :
    (Node.infixed (Token.comparisonOf cs) left right).ReadBack ctx
      (Denotes none (.phrase .predicate)) := by
  rcases comparison_cases cs with ⟨hSymbol, hSame⟩
  apply readBack_infixed rfl hLeft hRight
  intro cs' cs'' hFirst hSecond
  have hCompare :
      Denotes none (.phrase .predicate)
        (cs' ++ ' ' :: ((Token.comparisonOf cs).symbol.toList ++ ' ' :: cs''))
        (Node.infixed
          (Token.comparisonOf (Token.comparisonOf cs).symbol.toList)
          left right) :=
    .of_rule .compare rfl
      (.infixed hFirst (.comparison hSymbol) nofun hSecond)
  rw [hSame] at hCompare
  exact hCompare

------------------------------------------------------------
-- Operators of Several Words
------------------------------------------------------------

/- A membership test that is negated is read back. -/
theorem readBack_notIn
    {left right : Node}
    (hLeft : left.ReadBack ctx (Denotes none (.phrase .bitOr)))
    (hRight : right.ReadBack ctx (Denotes none (.phrase .valueList))) :
    (Node.infixed .notIn left right).ReadBack ctx
      (Denotes none (.phrase .predicate)) := by
  apply readBack_infixed rfl hLeft hRight
  intro cs cs' hFirst hSecond
  change Denotes none _
    (cs ++ ' ' :: ("NOT".toList ++ ' ' :: ("IN".toList ++ ' ' :: cs'))) _
  exact .of_rule .notIn rfl
    (.spaced hFirst (.word (by decide) (.word (by decide) (.last hSecond))))

/- A pattern test that is negated is read back. -/
theorem readBack_notLike
    {left right : Node}
    (hLeft : left.ReadBack ctx (Denotes none (.phrase .bitOr)))
    (hRight : right.ReadBack ctx (Denotes none (.phrase .bitOr))) :
    (Node.infixed .notLike left right).ReadBack ctx
      (Denotes none (.phrase .predicate)) := by
  apply readBack_infixed rfl hLeft hRight
  intro cs cs' hFirst hSecond
  change Denotes none _
    (cs ++ ' ' :: ("NOT".toList ++ ' ' :: ("LIKE".toList ++ ' ' :: cs'))) _
  exact .of_rule .notLike rfl
    (.spaced hFirst (.word (by decide) (.word (by decide) (.last hSecond))))

/- A null test is read back. -/
theorem readBack_isNull
    {n : Node}
    (hNode : n.ReadBack ctx (Denotes none (.phrase .bitOr))) :
    (Node.unary .isNull (.one n)).ReadBack ctx
      (Denotes none (.phrase .predicate)) := by
  apply readBack_postfix rfl rfl hNode
  intro cs hText
  change Denotes none _ (cs ++ ' ' :: ("IS".toList ++ ' ' :: "NULL".toList)) _
  exact .of_rule .isNull rfl
    (.spaced hText (.word (by decide) (.lastWord (by decide))))

/- The negated null test is read back. -/
theorem readBack_isNotNull
    {n : Node}
    (hNode : n.ReadBack ctx (Denotes none (.phrase .bitOr))) :
    (Node.unary .isNotNull (.one n)).ReadBack ctx
      (Denotes none (.phrase .predicate)) := by
  apply readBack_postfix rfl rfl hNode
  intro cs hText
  change Denotes none _
    (cs ++ ' ' :: ("IS".toList ++ ' ' ::
      ("NOT".toList ++ ' ' :: "NULL".toList))) _
  exact .of_rule .isNotNull rfl
    (.spaced hText
      (.word (by decide) (.word (by decide) (.lastWord (by decide)))))

------------------------------------------------------------
-- Clauses of Lists
------------------------------------------------------------

/- What rows are grouped by is read back. -/
theorem readBack_groups
    {ns : List Node}
    (hNodes : NodesReadBack ctx (Denotes none (.phrase .expr)) ns) :
    (Slot.ofList ns).ReadBack ctx ", " "GROUP BY"
      (Denotes none (.phrase .groupClause)) := by
  refine readBack_list hNodes.1 hNodes.2 fun texts hTexts => ?_
  change Denotes none _
    ("GROUP".toList ++ ' ' :: ("BY".toList ++ ' ' ::
      (", ".intercalate texts).toList)) _
  exact .of_rule .groupBy rfl
    (.word (by decide)
      (.word (by decide) (.last (.exprs hNodes.1 hTexts))))

/- What rows are sorted by is read back. -/
theorem readBack_keys
    {ns : List Node}
    (hNodes : NodesReadBack ctx (Denotes none (.phrase .orderKey)) ns) :
    (Slot.ofList ns).ReadBack ctx ", " "ORDER BY"
      (Denotes none (.phrase .orderClause)) := by
  refine readBack_list hNodes.1 hNodes.2 fun texts hTexts => ?_
  change Denotes none _
    ("ORDER".toList ++ ' ' :: ("BY".toList ++ ' ' ::
      (", ".intercalate texts).toList)) _
  exact .of_rule .orderBy rfl
    (.word (by decide)
      (.word (by decide) (.last (.orderKeys hNodes.1 hTexts))))

------------------------------------------------------------
-- Rules
------------------------------------------------------------

/-
  Every rule makes a phrase that is read back.  Most rules
  rename a phrase or put an operator between the parts of it.
-/
theorem preserves_readsBack
    (r : Rule) : r.Preserves (readsBack ctx) := by
  cases r with
  | plain => exact fun _ hQuery => hQuery
  | terminated => exact fun _ hQuery _ _ => hQuery
  | query =>
      exact fun _ _ _ _ _ hColumns _ hSource _ hFilter _ hGroups
        _ hHaving _ hOrder _ hLimits =>
        readBack_query hColumns.1 hColumns.2 hSource hFilter hGroups
          hHaving hOrder hLimits
  | everyRow => trivial
  | distinctRows | shortTable => exact fun _ _ => trivial
  | plainTable => exact fun _ _ => trivial
  | namedTable => exact fun _ _ _ _ => trivial
  | tableAs | longTable => exact fun _ _ _ _ _ _ => trivial
  | firstColumn | firstExpr | firstKey =>
      exact fun _ hNode => nodesReadBack_singleton hNode
  | nextColumn | nextExpr | nextKey =>
      exact fun _ hNodes _ _ _ hNode => nodesReadBack_concat hNodes hNode
  | plainColumn =>
      exact fun _ hNode => hNode.imp fun _ hText =>
        .of_rule .plainColumn rfl (.last hText)
  | namedColumn => exact fun _ hNode _ _ => readBack_alias hNode
  | columnAs => exact fun _ hNode _ _ _ _ => readBack_alias hNode
  | allColumns => exact fun _ _ hStar => absurd hStar (not_legible_star _)
  | allOfTable =>
      exact fun _ _ _ _ _ _ hStar => absurd hStar (not_legible_star _)
  | noSource => exact readBack_vacant (.of_rule .noSource rfl .nil)
  | noFilter => exact readBack_vacant (.of_rule .noFilter rfl .nil)
  | noGroups => exact readBack_vacant (.of_rule .noGroups rfl .nil)
  | noHaving => exact readBack_vacant (.of_rule .noHaving rfl .nil)
  | noOrder => exact readBack_vacant (.of_rule .noOrder rfl .nil)
  | noLimit => exact ⟨trivial, trivial⟩
  | fromSources =>
      rintro _ _ _ ⟨first, others, rfl, hFirst, hOthers⟩
      exact readBack_sources hFirst hOthers
  | firstSource => exact fun n hNode => ⟨n, [], rfl, hNode, nofun⟩
  | nextSource =>
      exact fun _ hSources _ hNode => sourcesReadBack_concat hSources hNode
  | tableSource => exact fun t _ => readBack_table t
  | derived => exact fun _ _ _ hQuery _ _ _ _ => readBack_derived hQuery
  | derivedAs =>
      exact fun _ _ _ hQuery _ _ _ _ _ _ => readBack_derived hQuery
  | joinTable => exact fun _ hKind t _ => readBack_joined t hKind
  | joinTableOn =>
      exact fun _ hKind t _ _ _ _ hNode => readBack_joinedOn t hKind hNode
  | joinComma => exact fun _ _ t _ => readBack_joined t (by decide)
  | plainJoin => exact fun _ _ => show "JOIN" ∈ joinKinds by decide
  | innerJoin =>
      exact fun _ _ _ _ => show "INNER JOIN" ∈ joinKinds by decide
  | leftJoin =>
      exact fun _ _ _ _ => show "LEFT JOIN" ∈ joinKinds by decide
  | leftOuterJoin =>
      exact fun _ _ _ _ _ _ => show "LEFT JOIN" ∈ joinKinds by decide
  | rightJoin =>
      exact fun _ _ _ _ => show "RIGHT JOIN" ∈ joinKinds by decide
  | rightOuterJoin =>
      exact fun _ _ _ _ _ _ => show "RIGHT JOIN" ∈ joinKinds by decide
  | crossJoin =>
      exact fun _ _ _ _ => show "CROSS JOIN" ∈ joinKinds by decide
  | whereFilter =>
      exact fun _ _ _ hNode => readBack_one hNode fun _ hText =>
        .of_rule .whereFilter rfl
          (.word (by decide) (.last hText))
  | havingFilter =>
      exact fun _ _ _ hNode => readBack_one hNode fun _ hText =>
        .of_rule .havingFilter rfl
          (.word (by decide) (.last hText))
  | groupBy => exact fun _ _ _ _ _ hNodes => readBack_groups hNodes
  | orderBy => exact fun _ _ _ _ _ hNodes => readBack_keys hNodes
  | plainKey => exact fun _ hNode => readBack_orderBy nofun hNode
  | directedKey =>
      exact fun _ hNode _ hDirection =>
        readBack_orderBy (isDirection_some hDirection) hNode
  | limitOnly => exact fun _ _ _ hLimit => ⟨hLimit, trivial⟩
  | limitComma =>
      exact fun _ _ _ hOffset _ _ _ hLimit => ⟨hLimit, hOffset⟩
  | limitOffset =>
      exact fun _ _ _ hLimit _ _ _ hOffset => ⟨hLimit, hOffset⟩
  | limitNumber => exact fun _ _ hNumber => isLimit_of_number hNumber
  | limitParameter => exact fun _ hName => hName
  | exclusiveExpr =>
      exact fun _ hNode => hNode.imp fun _ hText =>
        .of_rule .exclusiveExpr rfl (.last hText)
  | conjunctionExpr =>
      exact fun _ hNode => hNode.imp fun _ hText =>
        .of_rule .conjunctionExpr rfl (.last hText)
  | negationExpr =>
      exact fun _ hNode => hNode.imp fun _ hText =>
        .of_rule .negationExpr rfl (.last hText)
  | predicateExpr =>
      exact fun _ hNode => hNode.imp fun _ hText =>
        .of_rule .predicateExpr rfl (.last hText)
  | bitOrExpr =>
      exact fun _ hNode => hNode.imp fun _ hText =>
        .of_rule .bitOrExpr rfl (.last hText)
  | bitXorExpr =>
      exact fun _ hNode => hNode.imp fun _ hText =>
        .of_rule .bitXorExpr rfl (.last hText)
  | bitAndExpr =>
      exact fun _ hNode => hNode.imp fun _ hText =>
        .of_rule .bitAndExpr rfl (.last hText)
  | sumExpr =>
      exact fun _ hNode => hNode.imp fun _ hText =>
        .of_rule .sumExpr rfl (.last hText)
  | productExpr =>
      exact fun _ hNode => hNode.imp fun _ hText =>
        .of_rule .productExpr rfl (.last hText)
  | signedExpr =>
      exact fun _ hNode => hNode.1.imp fun _ hText =>
        .of_rule .signedExpr rfl (.last hText)
  | atomExpr =>
      exact fun _ hNode =>
        ⟨hNode.1.imp fun _ hText => .of_rule .atomExpr rfl (.last hText),
          hNode.2⟩
  | disjoin =>
      exact fun _ hLeft _ _ _ hRight =>
        readBack_connect rfl hLeft hRight fun _ _ hFirst hSecond =>
          .of_rule .disjoin rfl
            (.infixed hFirst (.keyword (by decide) (by decide)) nofun hSecond)
  | exclude =>
      exact fun _ hLeft _ _ _ hRight =>
        readBack_connect rfl hLeft hRight fun _ _ hFirst hSecond =>
          .of_rule .exclude rfl
            (.infixed hFirst (.keyword (by decide) (by decide)) nofun hSecond)
  | conjoin =>
      exact fun _ hLeft _ _ _ hRight =>
        readBack_connect rfl hLeft hRight fun _ _ hFirst hSecond =>
          .of_rule .conjoin rfl
            (.infixed hFirst (.keyword (by decide) (by decide)) nofun hSecond)
  | negateCondition =>
      exact fun _ _ _ hNode => readBack_not hNode fun _ hText =>
        .of_rule .negateCondition rfl
          (.word (by decide) (.last hText))
  | compare =>
      exact fun _ hLeft _ _ _ hRight => readBack_compare hLeft hRight
  | isNull => exact fun _ hNode _ _ _ _ => readBack_isNull hNode
  | isNotNull => exact fun _ hNode _ _ _ _ _ _ => readBack_isNotNull hNode
  | isIn =>
      exact fun _ hLeft _ _ _ hRight =>
        readBack_infixed rfl hLeft hRight fun _ _ hFirst hSecond =>
          .of_rule .isIn rfl
            (.infixed hFirst (.keyword (by decide) (by decide)) nofun hSecond)
  | like =>
      exact fun _ hLeft _ _ _ hRight =>
        readBack_infixed rfl hLeft hRight fun _ _ hFirst hSecond =>
          .of_rule .like rfl
            (.infixed hFirst (.keyword (by decide) (by decide)) nofun hSecond)
  | notIn =>
      exact fun _ hLeft _ _ _ _ _ hRight => readBack_notIn hLeft hRight
  | notLike =>
      exact fun _ hLeft _ _ _ _ _ hRight => readBack_notLike hLeft hRight
  | between =>
      exact fun _ hNode _ _ _ hLow _ _ _ hHigh =>
        readBack_between hNode hLow hHigh fun _ _ _ hText hFirst hSecond =>
          .of_rule .between rfl
            (.spaced hText (.word (by decide)
              (.spaced hFirst (.word (by decide) (.last hSecond)))))
  | bitOr =>
      exact fun _ hLeft _ _ _ hRight =>
        readBack_infixed rfl hLeft hRight fun _ _ hFirst hSecond =>
          .of_rule .bitOr rfl (.infixed hFirst (.mark rfl) nofun hSecond)
  | bitXor =>
      exact fun _ hLeft _ _ _ hRight =>
        readBack_infixed rfl hLeft hRight fun _ _ hFirst hSecond =>
          .of_rule .bitXor rfl (.infixed hFirst (.mark rfl) nofun hSecond)
  | bitAnd =>
      exact fun _ hLeft _ _ _ hRight =>
        readBack_infixed rfl hLeft hRight fun _ _ hFirst hSecond =>
          .of_rule .bitAnd rfl (.infixed hFirst (.mark rfl) nofun hSecond)
  | plus =>
      exact fun _ hLeft _ _ _ hRight =>
        readBack_infixed rfl hLeft hRight fun _ _ hFirst hSecond =>
          .of_rule .plus rfl (.infixed hFirst (.mark rfl) nofun hSecond)
  | minus =>
      exact fun _ hLeft _ _ _ hRight =>
        readBack_infixed rfl hLeft hRight fun _ _ hFirst hSecond =>
          .of_rule .minus rfl (.infixed hFirst (.mark rfl) nofun hSecond)
  | multiply =>
      exact fun _ hLeft _ _ _ hRight =>
        readBack_infixed rfl hLeft hRight.1 fun _ _ hFirst hSecond =>
          .of_rule .multiply rfl (.infixed hFirst (.mark rfl) nofun hSecond)
  | divide =>
      exact fun _ hLeft _ _ _ hRight =>
        readBack_infixed rfl hLeft hRight.1 fun _ _ hFirst hSecond =>
          .of_rule .divide rfl (.infixed hFirst (.mark rfl) nofun hSecond)
  | modulo =>
      exact fun _ hLeft _ _ _ hRight =>
        readBack_infixed rfl hLeft hRight.1 fun _ _ hFirst hSecond =>
          .of_rule .modulo rfl (.infixed hFirst (.mark rfl) nofun hSecond)
  | givenValues =>
      exact fun _ _ _ hNodes _ _ =>
        readBack_tupled hNodes.1 hNodes.2 fun _ hTexts =>
          .of_rule .givenValues rfl (.enclosed (.exprs hNodes.1 hTexts))
  | selectedValues =>
      exact fun _ _ _ hQuery _ _ => readBack_subquery hQuery fun _ hText =>
        .of_rule .selectedValues rfl (.enclosed hText)
  | boundValues => exact fun _ _ hLegible => hLegible.elim
  | negate => exact fun _ _ _ hNode => readBack_negative hNode
  | number => exact fun cs _ _ => readBack_unsigned (isUnsigned_numberOf cs)
  | string | trueValue | falseValue | nullValue =>
      exact fun _ _ => readBack_unsigned trivial
  | parameter => exact fun _ _ => ⟨fun hLegible => hLegible.elim, nofun⟩
  | shortName =>
      exact fun _ _ => ⟨readBack_column _ fun _ => rfl, nofun⟩
  | tableName =>
      exact fun _ _ _ _ _ _ => ⟨readBack_column _ fun _ => rfl, nofun⟩
  | databaseName =>
      exact fun _ _ _ _ _ _ _ _ _ _ => ⟨readBack_column _ nofun, nofun⟩
  | callEmpty =>
      exact fun _ _ _ _ _ _ =>
        ⟨readBack_call (Text.upper_upper _) nofun nofun, nofun⟩
  | callStar =>
      exact fun _ _ _ _ _ _ _ _ =>
        ⟨readBack_call (Text.upper_upper _) nofun readBack_stars, nofun⟩
  | call =>
      exact fun _ _ _ _ _ hNodes _ _ =>
        ⟨readBack_call (Text.upper_upper _) nofun hNodes.2, nofun⟩
  | callDistinct =>
      exact fun _ _ _ _ _ _ _ hNodes _ _ =>
        ⟨readBack_call (Text.upper_upper _) (fun _ => hNodes.1) hNodes.2,
          nofun⟩
  | bracketed =>
      exact fun _ _ _ hNode _ _ =>
        ⟨readBack_bracketed hNode fun _ hText =>
            .of_rule .bracketed rfl (.enclosed hText), nofun⟩
  | tuple =>
      exact fun _ _ _ hNodes _ _ _ hNode _ _ =>
        ⟨readBack_tuple hNodes hNode, nofun⟩
  | subquery =>
      exact fun _ _ _ hQuery _ _ =>
        ⟨readBack_subquery hQuery fun _ hText =>
            .of_rule .subquery rfl (.enclosed hText), nofun⟩

------------------------------------------------------------
-- Templates
------------------------------------------------------------

/- A query on its own is read back. -/
theorem gives_select
    {q : Query Node}
    {depth : Nat}
    {indent : Int}
    (hQuery : q.ReadBack ctx)
    (hLegible : q.Legible ctx.dialect) :
    Rendered.Gives (Denotes none (.phrase .query) · q)
      ((Node.select q).render ctx depth indent) := by
  apply gives_node
  intro hDeep text hRender
  rw [Node.render.eq_def, hDeep] at hRender
  rcases map_eq_ok.mp hRender with ⟨s, hText, rfl⟩
  exact ⟨s, rfl, renderQuery_ne_empty hText,
    hQuery hLegible depth indent s hText⟩

/-
  A template without parameters has a tree whose text is parsed
  to the same tree again, as long as the names, functions and
  literals of the tree are read as what they stand for.
-/
theorem text_is_read_back
    {d : Dialect}
    {b : Bindings}
    {inline : Bool}
    {maxDepth : Int}
    {sql text : String}
    {tree : Node}
    (hParse : parse sql = .ok tree)
    (hLegible : tree.Legible d)
    (hRender :
      RenderContext.render ⟨d, b, inline, maxDepth⟩ tree = .ok text) :
    parse text = .ok tree := by
  rcases exists_derivation_of_parse hParse with
    ⟨derivation, hDerive, hNumerals, rfl⟩
  have hTokens := Recognition.tokenizes_of_derive hDerive
  have hQuery : derivation.meaning.ReadBack ⟨d, b, inline, maxDepth⟩ :=
    derivation.holds_meaning preserves_readsBack
      (fun t hMember => shapes_of_isScanned t (hTokens.isScanned t hMember))
      hNumerals
  rcases map_eq_ok.mp hRender with ⟨slotText, hSlot, rfl⟩
  rcases gives_slot (gives_select hQuery hLegible) slotText hSlot with
    ⟨s, rfl, _, hText⟩
  exact parseChars_of_denotes hText

/- Stars, a number with a sign and a quote in a string. -/
def tallyTemplate : String :=
  "select t.*, count(*) n from t where not a='it''s' or b>-1 limit 2"

/- The text that the template is written as. -/
def tallyText : String :=
  "SELECT t.*, COUNT(*) AS n\nFROM t\n" ++
    "WHERE NOT a = 'it''s' OR b > -1\nLIMIT 2"

/- A tree is the one that the template stands for. -/
def isTally : Node → Bool
| .select
    { columns :=
        .many [some (.column "*" (some "t") none),
          some (.alias
            (.one (.call "COUNT" (.many [some (.column "*" none none)]) false))
            "n")]
      source := .many [some (.table "t" none none none .vacant)]
      filter :=
        .one (.connective .or
          (.many [some (.unary .not
              (.one (.binary .equal (.one (.column "a" none none))
                (.one (.literal (.text "it's")))))),
            some (.binary .greater (.one (.column "b" none none))
              (.one (.literal (.int (-1)))))]))
      groups := .vacant
      having := .vacant
      order := .vacant
      limit := .one (.literal (.int 2))
      offset := .vacant
      distinct := false
      options := [] } => true
| _ => false

/- Its names, its function and its literals are kept. -/
theorem legible_of_isTally
    {tree : Node}
    (hTally : isTally tree = true) :
    tree.Legible .sqlite := by
  unfold isTally at hTally
  split at hTally
  · have hNames :
        ∀ names ∈ [[none, none, some "a"], [none, none, some "b"],
            [none, some "t", none], [some "t"]],
          Dialect.sqlite.KeepsNames names := by
      decide +kernel
    have hLabel : Dialect.sqlite.KeepsName "n" ∧ IsCallable "COUNT" := by
      decide +kernel
    have hText : Dialect.sqlite.KeepsLiteral (.text "it's") :=
      keepsLiteral_text (by decide) (by decide)
    have hNumber : Dialect.sqlite.KeepsLiteral (.int (-1)) :=
      keepsLiteral_int .sqlite (by decide)
    have hLimit : Dialect.sqlite.KeepsLiteral (.int 2) :=
      keepsLiteral_int .sqlite (by decide)
    refine ⟨⟨.inl ⟨rfl, hNames _ (by simp)⟩,
      .inr ⟨hLabel.1, hLabel.2, .inr ⟨rfl, rfl⟩⟩, trivial⟩,
      ⟨⟨hNames _ (by simp), trivial⟩, trivial⟩, ?_,
      trivial, trivial, trivial, hLimit, trivial⟩
    exact ⟨⟨hNames _ (by simp), hText⟩,
      ⟨hNames _ (by simp), hNumber⟩, trivial⟩
  · cases hTally

theorem text_is_read_back_of_tally :
    ∃ tree, parse tallyTemplate = .ok tree ∧
      tree.Legible .sqlite ∧ parse tallyText = .ok tree := by
  have hCheck :
      parsesTo tallyTemplate (fun tree =>
        isTally tree = true ∧
          (RenderContext.render ⟨.sqlite, .ofList [], true, 100⟩
            tree).toOption = some tallyText) = true := by
    decide +kernel
  rcases exists_of_parse hCheck with ⟨tree, hParse, hTally, hText⟩
  have hLegible := legible_of_isTally hTally
  exact ⟨tree, hParse, hLegible,
    text_is_read_back hParse hLegible (eq_ok_of_toOption hText)⟩

end SqlTemplate
