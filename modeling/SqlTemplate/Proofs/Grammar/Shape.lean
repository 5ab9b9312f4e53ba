import Mathlib.Data.List.TakeWhile
import SqlTemplate.Node.Shape
import SqlTemplate.Proofs.Grammar.Induction
import SqlTemplate.Proofs.Grammar.Scanning
import SqlTemplate.Template

/-
  Templates are parsed to trees of the shape of templates, since
  every rule makes a phrase of that shape from phrases of that
  shape.

  Key definitions include:
    * `Nonterminal.Shaped`
    * `shapes`
  Correctness is proven by:
    * `preserves_shapes`
    * `shaped_of_parse`
-/

------------------------------------------------------------
-- Shapes of Meanings
------------------------------------------------------------

namespace SqlTemplate

/- The nodes of a list have the shape. -/
def NodesShaped (ns : List Node) : Prop :=
  ∀ n ∈ ns, n.Shaped

/- The words before a table are those of a kind of join. -/
def IsJoinKind (words : String) : Prop :=
  words ∈ joinKinds

/- The shape of what a phrase means. -/
def Nonterminal.Shaped : (n : Nonterminal) → n.Meaning → Prop
| .statement, q => Query.Shaped q
| .query, q => Query.Shaped q
| .rowKind, _ => True
| .columns, ns => NodesShaped ns
| .sources, ns => NodesShaped ns
| .exprs, ns => NodesShaped ns
| .orderKeys, ns => NodesShaped ns
| .sourceClause, slot => Slot.Shaped slot
| .filterClause, slot => Slot.Shaped slot
| .groupClause, slot => Slot.Shaped slot
| .havingClause, slot => Slot.Shaped slot
| .orderClause, slot => Slot.Shaped slot
| .table, _ => True
| .tableName, _ => True
| .joinKind, words => IsJoinKind words
| .limitClause, limits =>
    Slot.IsLimit limits.1 ∧ Slot.IsLimit limits.2
| .limitValue, n => Slot.IsLimit (.one n)
| .column, n => Node.Shaped n
| .source, n => Node.Shaped n
| .join, n => Node.Shaped n
| .orderKey, n => Node.Shaped n
| .expr, n => Node.Shaped n
| .exclusive, n => Node.Shaped n
| .conjunction, n => Node.Shaped n
| .negation, n => Node.Shaped n
| .predicate, n => Node.Shaped n
| .valueList, n => Node.Shaped n
| .bitOr, n => Node.Shaped n
| .bitXor, n => Node.Shaped n
| .bitAnd, n => Node.Shaped n
| .sum, n => Node.Shaped n
| .product, n => Node.Shaped n
| .signed, n => Node.Shaped n
| .atom, n => Node.Shaped n

/-
  The shape of what a symbol means.  Parameter tokens hold a
  name, and direction tokens one of the directions.
-/
def shapes : MeaningProperty
| .phrase n, m => n.Shaped m
| .token .parameter, cs => IsBareName (Token.parameterOf cs)
| .token .direction, cs => Text.upper (String.ofList cs) ∈ sortDirections
| .token _, _ => True

theorem shapes_of_isScanned
    (t : Token)
    (hScanned : t.IsScanned) :
    shapes (.token t.kind) t.text := by
  rcases hScanned with ⟨cs, hMember⟩
  have hForm := Token.form_of_mem hMember
  rcases t with ⟨kind, text⟩
  cases kind with
  | parameter =>
      rcases Token.parameter_of_form hForm rfl with
        ⟨c, rest, hText, hStart, hRest⟩
      refine ⟨c, rest, ?_, hStart, hRest⟩
      rw [hText]
      exact String.toList_ofList
  | direction =>
      rcases Token.direction_of_form hForm rfl with hAsc | hDesc
      · change Text.upper (String.ofList text) ∈ sortDirections
        rw [hAsc]
        exact List.mem_cons_self ..
      · change Text.upper (String.ofList text) ∈ sortDirections
        rw [hDesc]
        exact List.mem_cons_of_mem _ (List.mem_singleton_self _)
  | _ => trivial

theorem isJoinKind_some
    {words : String}
    (hKind : words ∈ joinKinds) :
    ∀ other ∈ some words, other ∈ joinKinds := by
  intro other hMember
  cases hMember
  exact hKind

theorem isDirection_some
    {word : String}
    (hDirection : word ∈ sortDirections) :
    ∀ other ∈ some word, other ∈ sortDirections := by
  intro other hMember
  cases hMember
  exact hDirection

------------------------------------------------------------
-- Shapes of Lists
------------------------------------------------------------

theorem Members.shaped_map_some
    {ns : List Node}
    (hNodes : NodesShaped ns) :
    Members.Shaped (ns.map some) := by
  induction ns with
  | nil => trivial
  | cons n ns ih =>
      exact ⟨hNodes n (List.mem_cons_self ..),
        ih fun m hMember => hNodes m (List.mem_cons_of_mem _ hMember)⟩

theorem Slot.shaped_ofList
    {ns : List Node}
    (hNodes : NodesShaped ns) :
    (Slot.ofList ns).Shaped :=
  Members.shaped_map_some hNodes

theorem nodesShaped_singleton
    {n : Node}
    (hNode : n.Shaped) :
    NodesShaped [n] := by
  intro m hMember
  rw [List.mem_singleton] at hMember
  subst hMember
  exact hNode

theorem nodesShaped_concat
    {ns : List Node}
    {n : Node}
    (hNodes : NodesShaped ns)
    (hNode : n.Shaped) :
    NodesShaped (List.concat ns n) := by
  intro m hMember
  rw [List.concat_eq_append, List.mem_append,
    List.mem_singleton] at hMember
  rcases hMember with hOld | rfl
  · exact hNodes m hOld
  · exact hNode

theorem Members.shaped_append
    {members : List (Option Node)}
    {n : Node}
    (hMembers : Members.Shaped members)
    (hNode : n.Shaped) :
    Members.Shaped (members ++ [some n]) := by
  induction members with
  | nil => exact ⟨hNode, trivial⟩
  | cons member members ih =>
      cases member with
      | none => exact ih hMembers
      | some m => exact ⟨hMembers.1, ih hMembers.2⟩

theorem Slot.shaped_append
    {slot : Slot Node}
    {n : Node}
    (hSlot : slot.Shaped)
    (hNode : n.Shaped) :
    (slot.append n).Shaped := by
  cases slot with
  | vacant => exact hNode
  | one m => exact ⟨hSlot, hNode, trivial⟩
  | many members => exact Members.shaped_append hSlot hNode

------------------------------------------------------------
-- Shapes of Expressions
------------------------------------------------------------

theorem Node.shaped_connect
    {op : ConnectiveOp}
    {left right : Node}
    (hLeft : left.Shaped)
    (hRight : right.Shaped) :
    (Node.connect op left right).Shaped := by
  have hPair : Node.Shaped (.connective op (.ofList [left, right])) :=
    ⟨hLeft, hRight, trivial⟩
  unfold Node.connect
  split
  next op' operands =>
    split
    · exact Slot.shaped_append hLeft hRight
    · exact hPair
  next => exact hPair

theorem Node.shaped_negative
    {operand : Node}
    (hOperand : operand.Shaped) :
    operand.negative.Shaped := by
  unfold Node.negative
  split
  · trivial
  · trivial
  · trivial
  · exact hOperand

theorem Node.shaped_tupled
    {ns : List Node}
    (hNodes : NodesShaped ns) :
    (Node.tupled ns).Shaped :=
  ⟨.inr rfl, Slot.shaped_ofList hNodes⟩

theorem isLimit_of_number
    {cs : List Char}
    (hNumber : limitError? cs = none) :
    Slot.IsLimit (.one (.literal (Token.numberOf cs))) := by
  have hWhole : cs.dropWhile (· != '.') = [] := by
    rw [List.dropWhile_eq_nil_iff]
    intro c hMember
    rw [bne_iff_ne]
    intro hPoint
    subst hPoint
    unfold limitError? at hNumber
    split at hNumber
    next => cases hNumber
    next =>
      rw [if_pos (List.contains_iff_mem.mpr hMember)] at hNumber
      cases hNumber
  unfold Token.numberOf
  dsimp only
  rw [hWhole]
  exact Int.natCast_nonneg _

------------------------------------------------------------
-- Rules
------------------------------------------------------------

/-
  Every rule makes a phrase of its shape.  Most rules rename a
  phrase or put an operator between the parts of it.
-/
theorem preserves_shapes
    (r : Rule) : r.Preserves shapes := by
  cases r with
  | plain => exact fun _ hQuery => hQuery
  | terminated => exact fun _ hQuery _ _ => hQuery
  | query =>
      exact fun _ _ _ _ _ hColumns _ hSource _ hFilter _ hGroups
        _ hHaving _ hOrder _ hLimits =>
        ⟨Slot.shaped_ofList hColumns, hSource, hFilter, hGroups,
          hHaving, hOrder, hLimits.1, hLimits.2, rfl⟩
  | everyRow | noSource | noFilter | noGroups | noHaving | noOrder =>
      trivial
  | noLimit => exact ⟨trivial, trivial⟩
  | distinctRows | allColumns | shortTable | shortName | trueValue
  | falseValue | nullValue | string =>
      exact fun _ _ => trivial
  | plainTable => exact fun _ _ => trivial
  | namedTable => exact fun _ _ _ _ => trivial
  | allOfTable | tableAs | longTable | tableName | callEmpty =>
      exact fun _ _ _ _ _ _ => trivial
  | databaseName => exact fun _ _ _ _ _ _ _ _ _ _ => trivial
  | firstColumn | firstSource | firstExpr | firstKey =>
      exact fun _ hNode => nodesShaped_singleton hNode
  | nextColumn | nextExpr | nextKey =>
      exact fun _ hNodes _ _ _ hNode => nodesShaped_concat hNodes hNode
  | nextSource =>
      exact fun _ hNodes _ hNode => nodesShaped_concat hNodes hNode
  | fromSources => exact fun _ _ _ hNodes => Slot.shaped_ofList hNodes
  | groupBy | orderBy =>
      exact fun _ _ _ _ _ hNodes => Slot.shaped_ofList hNodes
  | plainColumn | exclusiveExpr | conjunctionExpr | negationExpr
  | predicateExpr | bitOrExpr | bitXorExpr | bitAndExpr | sumExpr
  | productExpr | signedExpr | atomExpr =>
      exact fun _ hNode => hNode
  | namedColumn => exact fun _ hNode _ _ => hNode
  | columnAs | isNull => exact fun _ hNode _ _ _ _ => hNode
  | isNotNull => exact fun _ hNode _ _ _ _ _ _ => hNode
  | tableSource => exact fun _ _ => ⟨nofun, trivial⟩
  | derived => exact fun _ _ _ hQuery _ _ _ _ => hQuery
  | derivedAs => exact fun _ _ _ hQuery _ _ _ _ _ _ => hQuery
  | joinTable =>
      exact fun _ hKind _ _ => ⟨isJoinKind_some hKind, trivial⟩
  | joinTableOn =>
      exact fun _ hKind _ _ _ _ _ hNode => ⟨isJoinKind_some hKind, hNode⟩
  | joinComma =>
      exact fun _ _ _ _ => ⟨isJoinKind_some (by decide), trivial⟩
  | plainJoin => exact fun _ _ => show "JOIN" ∈ joinKinds by decide
  | innerJoin =>
      exact fun _ _ _ _ => show "INNER JOIN" ∈ joinKinds by decide
  | leftJoin =>
      exact fun _ _ _ _ => show "LEFT JOIN" ∈ joinKinds by decide
  | leftOuterJoin =>
      exact fun _ _ _ _ _ _ => show "LEFT JOIN" ∈ joinKinds by decide
  | rightJoin =>
      exact fun _ _ _ _ => show "RIGHT JOIN" ∈ joinKinds by decide
  | rightOuterJoin =>
      exact fun _ _ _ _ _ _ => show "RIGHT JOIN" ∈ joinKinds by decide
  | crossJoin =>
      exact fun _ _ _ _ => show "CROSS JOIN" ∈ joinKinds by decide
  | whereFilter | havingFilter | negateCondition =>
      exact fun _ _ _ hNode => hNode
  | plainKey => exact fun _ hNode => ⟨nofun, hNode⟩
  | directedKey =>
      exact fun _ hNode _ hDirection => ⟨isDirection_some hDirection, hNode⟩
  | limitOnly => exact fun _ _ _ hLimit => ⟨hLimit, trivial⟩
  | limitComma =>
      exact fun _ _ _ hOffset _ _ _ hLimit => ⟨hLimit, hOffset⟩
  | limitOffset =>
      exact fun _ _ _ hLimit _ _ _ hOffset => ⟨hLimit, hOffset⟩
  | limitNumber => exact fun _ _ hNumber => isLimit_of_number hNumber
  | limitParameter | boundValues | parameter => exact fun _ hName => hName
  | number => exact fun _ _ _ => trivial
  | disjoin | exclude | conjoin =>
      exact fun _ hLeft _ _ _ hRight => Node.shaped_connect hLeft hRight
  | compare | isIn | like | bitOr | bitXor | bitAnd | plus | minus
  | multiply | divide | modulo =>
      exact fun _ hLeft _ _ _ hRight => ⟨hLeft, hRight⟩
  | notIn | notLike =>
      exact fun _ hLeft _ _ _ _ _ hRight => ⟨hLeft, hRight⟩
  | between =>
      exact fun _ hNode _ _ _ hLow _ _ _ hHigh => ⟨hNode, hLow, hHigh⟩
  | givenValues => exact fun _ _ _ hNodes _ _ => Node.shaped_tupled hNodes
  | selectedValues | subquery => exact fun _ _ _ hQuery _ _ => hQuery
  | negate => exact fun _ _ _ hNode => Node.shaped_negative hNode
  | callStar => exact fun _ _ _ _ _ _ _ _ => ⟨trivial, trivial⟩
  | call =>
      exact fun _ _ _ _ _ hNodes _ _ => Slot.shaped_ofList hNodes
  | callDistinct =>
      exact fun _ _ _ _ _ _ _ hNodes _ _ => Slot.shaped_ofList hNodes
  | bracketed => exact fun _ _ _ hNode _ _ => ⟨.inl rfl, hNode, trivial⟩
  | tuple =>
      exact fun _ _ _ hNodes _ _ _ hNode _ _ =>
        Node.shaped_tupled (nodesShaped_concat hNodes hNode)

/- Templates are parsed to trees of their shape. -/
theorem shaped_of_parse
    {sql : String}
    {n : Node}
    (hParse : parse sql = .ok n) :
    n.Shaped := by
  unfold parse parseChars at hParse
  split at hParse
  next => cases hParse
  next d hDerive =>
    split at hParse
    next => cases hParse
    next hNumerals =>
      cases hParse
      have hTokens := Recognition.tokenizes_of_derive hDerive
      exact d.holds_meaning preserves_shapes
        (fun t hMember => shapes_of_isScanned t (hTokens.isScanned t hMember))
        hNumerals

end SqlTemplate
