import SqlTemplate.Node.WellFormed
import SqlTemplate.Proofs.Grammar.Correctness
import SqlTemplate.Proofs.Grammar.Shape

/-
  Templates are parsed to well-formed trees.  The kinds of
  phrases go from the loosest binding to the tightest, and each
  rule puts its operands in places for phrases of their kind.

  Key definitions include:
    * `Node.Fits`
    * `Nonterminal.WellFormed`
    * `wellFormedness`
  Correctness is proven by:
    * `Node.fits_connect`
    * `Node.fits_infixed`
    * `preserves_wellFormedness`
    * `wellFormed_of_parse`
-/

------------------------------------------------------------
-- Meanings in Their Places
------------------------------------------------------------

namespace SqlTemplate

/- A well-formed operand that binds tightly enough. -/
def Node.Fits
    (least : Nat)
    (n : Node) : Prop :=
  n.Binds least ∧ n.WellFormed

theorem Node.Fits.weaken
    {least least' : Nat}
    {n : Node}
    (hNode : n.Fits least)
    (hLess : least' ≤ least) :
    n.Fits least' :=
  ⟨Nat.le_trans hLess hNode.1, hNode.2⟩

/- A list of well-formed nodes with a property, at least one. -/
def NodesFit
    (P : Node → Prop)
    (ns : List Node) : Prop :=
  ns ≠ [] ∧ ∀ n ∈ ns, P n ∧ n.WellFormed

/- A slot that can be left out, with well-formed content. -/
def Slot.Fits
    (P : Slot Node → Prop)
    (slot : Slot Node) : Prop :=
  slot.Optional P ∧ slot.WellFormed

/- The parts of a table by name are in order. -/
def TableName.WellFormed (t : TableName) : Prop :=
  t.name ≠ "" ∧ IsGiven t.label ∧ IsGiven t.database

/- The limit and offset of a query are in order. -/
def LimitsFit (limits : Slot Node × Slot Node) : Prop :=
  limits.1.IsLimit ∧ limits.2.IsLimit ∧
    (limits.2.isVacant = true ∨ limits.1.isVacant = false)

/- The sources of a query, the first of them in front. -/
def SourcesFit (ns : List Node) : Prop :=
  (Slot.ofList ns).IsSource ∧ NodesFit (fun _ => True) ns

/- A kind of join before a well-formed table. -/
def JoinFits (n : Node) : Prop :=
  n.IsJoined ∧ n.WellFormed

/- The shape of what a phrase means, in the place it is made for. -/
def Nonterminal.WellFormed : (n : Nonterminal) → n.Meaning → Prop
| .statement, q => Query.WellFormed q
| .query, q => Query.WellFormed q
| .rowKind, _ => True
| .columns, ns => NodesFit Node.IsColumn ns
| .sources, ns => SourcesFit ns
| .exprs, ns => NodesFit (Node.Binds anyStrength) ns
| .orderKeys, ns => NodesFit Node.IsSortKey ns
| .sourceClause, slot => Slot.IsSource slot ∧ Slot.WellFormed slot
| .filterClause, slot =>
    Slot.Fits (Slot.Holds (Node.Binds anyStrength)) slot
| .groupClause, slot =>
    Slot.Fits (Slot.Lists (Node.Binds anyStrength) 1) slot
| .havingClause, slot =>
    Slot.Fits (Slot.Holds (Node.Binds anyStrength)) slot
| .orderClause, slot => Slot.Fits (Slot.Lists Node.IsSortKey 1) slot
| .table, t => TableName.WellFormed t
| .tableName, t => IsGiven t.1 ∧ t.2 ≠ ""
| .joinKind, words => IsJoinKind words
| .limitClause, limits => LimitsFit limits
| .limitValue, n => Slot.IsLimit (.one n)
| .column, n => Node.IsColumn n ∧ Node.WellFormed n
| .source, n => Node.StartsSource n ∧ Node.WellFormed n
| .join, n => JoinFits n
| .orderKey, n => Node.IsSortKey n ∧ Node.WellFormed n
| .expr, n => Node.Fits 1 n
| .exclusive, n => Node.Fits 2 n
| .conjunction, n => Node.Fits 3 n
| .negation, n => Node.Fits 4 n
| .predicate, n => Node.Fits 5 n
| .valueList, n => Node.IsValueList n ∧ Node.WellFormed n
| .bitOr, n => Node.Fits 6 n
| .bitXor, n => Node.Fits 7 n
| .bitAnd, n => Node.Fits 8 n
| .sum, n => Node.Fits 9 n
| .product, n => Node.Fits 10 n
| .signed, n => Node.Fits 11 n
| .atom, n => Node.Fits 12 n

/- The same of symbols.  Names and parameters are not empty. -/
def wellFormedness : MeaningProperty
| .phrase n, m => n.WellFormed m
| .token .name, cs => Token.nameOf cs ≠ ""
| .token .parameter, cs => IsBareName (Token.parameterOf cs)
| .token _, _ => True

------------------------------------------------------------
-- Lists and Slots
------------------------------------------------------------

theorem Members.wellFormed_iff
    {members : List (Option Node)} :
    Members.WellFormed members ↔
      ∀ member ∈ members, ∀ n ∈ member, n.WellFormed := by
  induction members with
  | nil => simp [Members.WellFormed]
  | cons member members ih =>
      cases member with
      | none => simp [Members.WellFormed, ih]
      | some n => simp [Members.WellFormed, ih]

theorem Slot.wellFormed_ofList
    {ns : List Node}
    (hNodes : ∀ n ∈ ns, n.WellFormed) :
    (Slot.ofList ns).WellFormed := by
  rw [Slot.ofList, Slot.WellFormed, Members.wellFormed_iff]
  intro member hMember n hNode
  rcases List.mem_map.mp hMember with ⟨m, hListed, rfl⟩
  cases hNode
  exact hNodes _ hListed

theorem Slot.lists_ofList
    {P : Node → Prop}
    {least : Nat}
    {ns : List Node}
    (hEnough : least ≤ ns.length)
    (hNodes : ∀ n ∈ ns, P n) :
    (Slot.ofList ns).Lists P least := by
  constructor
  · rw [List.length_map]
    exact hEnough
  · intro member hMember
    rcases List.mem_map.mp hMember with ⟨m, hListed, rfl⟩
    exact ⟨m, rfl, hNodes m hListed⟩

namespace NodesFit

variable {P : Node → Prop} {ns : List Node}

theorem lists
    (hNodes : NodesFit P ns) :
    (Slot.ofList ns).Lists P 1 :=
  Slot.lists_ofList (List.length_pos_iff.mpr hNodes.1)
    fun n hMember => (hNodes.2 n hMember).1

theorem wellFormed
    (hNodes : NodesFit P ns) :
    (Slot.ofList ns).WellFormed :=
  Slot.wellFormed_ofList fun n hMember => (hNodes.2 n hMember).2

theorem singleton
    {n : Node}
    (hNode : P n ∧ n.WellFormed) :
    NodesFit P [n] := by
  refine ⟨List.cons_ne_nil _ _, ?_⟩
  intro m hMember
  rw [List.mem_singleton] at hMember
  subst hMember
  exact hNode

theorem concat
    {n : Node}
    (hNodes : NodesFit P ns)
    (hNode : P n ∧ n.WellFormed) :
    NodesFit P (List.concat ns n) := by
  rw [List.concat_eq_append]
  refine ⟨List.append_ne_nil_of_left_ne_nil hNodes.1 _, ?_⟩
  intro m hMember
  rcases List.mem_append.mp hMember with hOld | hNew
  · exact hNodes.2 m hOld
  · rw [List.mem_singleton] at hNew
    subst hNew
    exact hNode

end NodesFit

theorem Slot.fits_vacant
    (P : Slot Node → Prop) :
    Slot.Fits P .vacant :=
  ⟨.inl rfl, trivial⟩

theorem Slot.fits_one
    {n : Node}
    (hNode : n.Fits anyStrength) :
    Slot.Fits (Slot.Holds (Node.Binds anyStrength)) (.one n) :=
  ⟨.inr hNode.1, hNode.2⟩

theorem Slot.fits_ofList
    {P : Node → Prop}
    {ns : List Node}
    (hNodes : NodesFit P ns) :
    Slot.Fits (Slot.Lists P 1) (.ofList ns) :=
  ⟨.inr hNodes.lists, hNodes.wellFormed⟩

------------------------------------------------------------
-- Sources
------------------------------------------------------------

theorem sourcesFit_singleton
    {n : Node}
    (hNode : n.StartsSource ∧ n.WellFormed) :
    SourcesFit [n] :=
  ⟨⟨hNode.1, nofun⟩, .singleton ⟨trivial, hNode.2⟩⟩

theorem sourcesFit_concat
    {ns : List Node}
    {n : Node}
    (hNodes : SourcesFit ns)
    (hNode : JoinFits n) :
    SourcesFit (List.concat ns n) := by
  refine ⟨?_, hNodes.2.concat ⟨trivial, hNode.2⟩⟩
  cases ns with
  | nil => exact absurd rfl hNodes.2.1
  | cons first joined =>
      rcases hNodes.1 with ⟨hFirst, hJoined⟩
      refine ⟨hFirst, ?_⟩
      intro member hMember
      rw [List.concat_eq_append, List.map_append] at hMember
      rcases List.mem_append.mp hMember with hOld | hNew
      · exact hJoined member hOld
      · rw [List.map_singleton, List.mem_singleton] at hNew
        subst hNew
        exact ⟨n, rfl, hNode.1⟩

theorem TableName.wellFormed_node
    {t : TableName}
    {join : Option String}
    {condition : Slot Node}
    (hTable : t.WellFormed)
    (hCondition :
      Slot.Fits (Slot.Holds (Node.Binds anyStrength)) condition) :
    (t.node join condition).WellFormed :=
  ⟨hTable.1, hTable.2.1, hTable.2.2, hCondition.1, hCondition.2⟩

theorem joinFits_node
    {t : TableName}
    {words : String}
    {condition : Slot Node}
    (hWords : IsJoinKind words)
    (hTable : t.WellFormed)
    (hCondition :
      Slot.Fits (Slot.Holds (Node.Binds anyStrength)) condition) :
    JoinFits (t.node (some words) condition) :=
  ⟨⟨words, rfl, hWords⟩, TableName.wellFormed_node hTable hCondition⟩

theorem isGiven_some
    {s : String}
    (hName : s ≠ "") :
    IsGiven (some s) := by
  intro s' hSame
  cases hSame
  exact hName

theorem isGiven_none : IsGiven none :=
  nofun

------------------------------------------------------------
-- Operators
------------------------------------------------------------

namespace Node

/- Only the connective itself binds no tighter than it does. -/
theorem binds_of_ne_connective
    {op : ConnectiveOp}
    {n : Node}
    (hBinds : n.Binds op.strength)
    (hOther : ∀ operands, n ≠ .connective op operands) :
    n.Binds (op.strength + 1) := by
  have hDiffers : op.strength ≠ n.strength := by
    intro hSame
    cases n with
    | connective op' operands =>
        apply hOther operands
        cases op <;> cases op' <;> first | rfl | cases hSame
    | binary op' left right => cases op <;> cases op' <;> cases hSame
    | unary op' operand => cases op <;> cases op' <;> cases hSame
    | subquery query label => cases op <;> cases label <;> cases hSame
    | _ => cases op <;> cases hSame
  exact Nat.lt_of_le_of_ne hBinds hDiffers

theorem fits_connect
    (op : ConnectiveOp)
    {left right : Node}
    (hLeft : left.Fits op.strength)
    (hRight : right.Fits (op.strength + 1)) :
    (Node.connect op left right).Fits op.strength := by
  have hPair
      (hTight : left.Binds (op.strength + 1)) :
      (Node.connective op (.ofList [left, right])).Fits op.strength := by
    refine ⟨Nat.le_refl _, Slot.lists_ofList (by simp) ?_,
      Slot.wellFormed_ofList ?_⟩
    · simp [hTight, hRight.1]
    · simp [hLeft.2, hRight.2]
  unfold Node.connect
  split
  next op' operands =>
    split
    next hSame =>
      subst hSame
      rcases hLeft.2 with ⟨hListed, hMembers⟩
      cases operands with
      | vacant => cases hListed
      | one n => cases hListed
      | many members =>
          rw [Slot.WellFormed, Members.wellFormed_iff] at hMembers
          refine ⟨Nat.le_refl _, ⟨?_, ?_⟩, ?_⟩
          · rw [List.length_append]
            exact Nat.le_add_right_of_le hListed.1
          · rw [List.forall_mem_append]
            refine ⟨hListed.2, ?_⟩
            rw [List.forall_mem_singleton]
            exact ⟨right, rfl, hRight.1⟩
          · rw [Slot.append, Slot.WellFormed, Members.wellFormed_iff,
              List.forall_mem_append, List.forall_mem_singleton]
            refine ⟨hMembers, ?_⟩
            intro n hSame
            cases hSame
            exact hRight.2
    next hDiffers =>
      apply hPair
      apply binds_of_ne_connective hLeft.1
      intro operands' hSame
      cases hSame
      exact hDiffers rfl
  next hOther =>
    apply hPair
    apply binds_of_ne_connective hLeft.1
    intro operands hSame
    exact hOther op operands hSame

theorem fits_infixed
    (op : BinaryOp)
    {left right : Node}
    (hOp : op.isMembership = false)
    (hLeft : left.Fits op.leftStrength)
    (hRight : right.Fits (op.strength + 1)) :
    (Node.infixed op left right).Fits op.strength := by
  refine ⟨Nat.le_refl _, hLeft.1, ?_, hLeft.2, hRight.2⟩
  change if op.isMembership then right.IsValueList else _
  rw [if_neg (Bool.eq_false_iff.mp hOp)]
  exact hRight.1

theorem fits_membership
    (op : BinaryOp)
    {left right : Node}
    (hOp : op.isMembership = true)
    (hLeft : left.Fits op.leftStrength)
    (hRight : right.IsValueList ∧ right.WellFormed) :
    (Node.infixed op left right).Fits op.strength := by
  refine ⟨Nat.le_refl _, hLeft.1, ?_, hLeft.2, hRight.2⟩
  change if op.isMembership then right.IsValueList else _
  rw [if_pos hOp]
  exact hRight.1

theorem fits_compare
    {left right : Node}
    (cs : List Char)
    (hLeft : left.Fits 6)
    (hRight : right.Fits 6) :
    (Node.infixed (Token.comparisonOf cs) left right).Fits 5 := by
  have hOp : (Token.comparisonOf cs).isMembership = false ∧
      (Token.comparisonOf cs).leftStrength = 6 ∧
        (Token.comparisonOf cs).strength = 5 := by
    unfold Token.comparisonOf
    split <;> exact ⟨rfl, rfl, rfl⟩
  rw [← hOp.2.2]
  apply fits_infixed _ hOp.1
  · rw [hOp.2.1]
    exact hLeft
  · rw [hOp.2.2]
    exact hRight

theorem fits_unary
    (op : UnaryOp)
    {operand : Node}
    (hOp : op ≠ .negate)
    (hOperand : operand.Fits op.operandStrength) :
    (Node.unary op (.one operand)).Fits op.strength :=
  ⟨Nat.le_refl _, ⟨hOperand.1, fun hNegate => absurd hNegate hOp⟩,
    hOperand.2⟩

/- The negative of a number is a number. -/
theorem fits_negative
    {operand : Node}
    (hOperand : operand.Fits 11) :
    operand.negative.Fits 11 := by
  unfold Node.negative
  split
  next => exact ⟨show 11 ≤ 12 by decide, trivial⟩
  next => exact ⟨show 11 ≤ 12 by decide, trivial⟩
  next => exact ⟨show 11 ≤ 12 by decide, trivial⟩
  next hInt hBool hDecimal =>
    refine ⟨Nat.le_refl 11, ⟨hOperand.1, fun _ => ?_⟩, hOperand.2⟩
    unfold IsNotNumber
    split
    next n => exact hInt n rfl
    next b => exact hBool b rfl
    next d => exact hDecimal d rfl
    next => trivial

theorem fits_tupled
    {ns : List Node}
    (hNodes : NodesFit (Binds anyStrength) ns) :
    (Node.tupled ns).IsValueList ∧ (Node.tupled ns).Fits 12 :=
  ⟨rfl, Nat.le_refl _, rfl, hNodes.lists, hNodes.wellFormed⟩

theorem fits_bracketed
    {n : Node}
    (hNode : n.Fits anyStrength) :
    n.bracketed.Fits 12 := by
  refine ⟨Nat.le_refl _, rfl, ⟨Nat.le_refl _, ?_⟩, hNode.2, trivial⟩
  rw [List.forall_mem_singleton]
  exact ⟨n, rfl, hNode.1⟩

theorem fits_call
    (name : String)
    (distinct : Bool)
    {args : List Node}
    (hArgs : ∀ arg ∈ args, arg.Fits anyStrength) :
    (Node.call name (.ofList args) distinct).Fits 12 :=
  ⟨Nat.le_refl _,
    Slot.lists_ofList (Nat.zero_le _) fun arg hMember => (hArgs arg hMember).1,
    Slot.wellFormed_ofList fun arg hMember => (hArgs arg hMember).2⟩

theorem isColumn_of_binds
    {n : Node}
    (hBinds : n.Binds anyStrength) :
    n.IsColumn := by
  cases n <;> first | exact hBinds | trivial

end Node

------------------------------------------------------------
-- Rules
------------------------------------------------------------

theorem wellFormedness_of_isScanned
    (t : Token)
    (hScanned : t.IsScanned) :
    wellFormedness (.token t.kind) t.text := by
  have hShape := shapes_of_isScanned t hScanned
  rcases hScanned with ⟨cs, hMember⟩
  have hSpelling := Token.spelling_of_form (Token.form_of_mem hMember)
  rcases t with ⟨kind, text⟩
  cases kind with
  | parameter => exact hShape
  | name =>
      intro hEmpty
      exact Token.nameOf_ne_nil hSpelling (congrArg String.toList hEmpty)
  | _ => trivial

/-
  Every rule makes a well-formed phrase.  Most rules rename a
  phrase, which can then stand in more places, or put an
  operator between phrases that bind tighter.
-/
theorem preserves_wellFormedness
    (r : Rule) : r.Preserves wellFormedness := by
  cases r with
  | plain => exact fun _ hQuery => hQuery
  | terminated => exact fun _ hQuery _ _ => hQuery
  | query =>
      exact fun _ _ _ _ _ hColumns _ hSource _ hFilter _ hGroups
        _ hHaving _ hOrder _ hLimits =>
        ⟨hColumns.lists, hSource.1, hFilter.1, hGroups.1, hHaving.1,
          hOrder.1, hLimits.1, hLimits.2.1, hLimits.2.2,
          hColumns.wellFormed, hSource.2, hFilter.2, hGroups.2,
          hHaving.2, hOrder.2⟩
  | everyRow => trivial
  | noSource => exact ⟨trivial, trivial⟩
  | noFilter | noGroups | noHaving | noOrder => exact Slot.fits_vacant _
  | noLimit => exact ⟨trivial, trivial, .inl rfl⟩
  | distinctRows => exact fun _ _ => trivial
  | trueValue | falseValue | nullValue | string =>
      exact fun _ _ => ⟨Nat.le_refl 12, trivial⟩
  | number => exact fun _ _ _ => ⟨Nat.le_refl 12, trivial⟩
  | firstColumn | firstExpr | firstKey =>
      exact fun _ hNode => NodesFit.singleton hNode
  | nextColumn | nextExpr | nextKey =>
      exact fun _ hNodes _ _ _ hNode => NodesFit.concat hNodes hNode
  | plainColumn =>
      exact fun _ hNode => ⟨Node.isColumn_of_binds hNode.1, hNode.2⟩
  | namedColumn => exact fun _ hNode _ hName => ⟨trivial, hName, hNode⟩
  | columnAs => exact fun _ hNode _ _ _ hName => ⟨trivial, hName, hNode⟩
  | allColumns =>
      exact fun _ _ =>
        ⟨show 1 ≤ 12 by decide, by decide, isGiven_none, isGiven_none⟩
  | allOfTable =>
      exact fun _ hName _ _ _ _ =>
        ⟨show 1 ≤ 12 by decide, by decide, isGiven_some hName, isGiven_none⟩
  | fromSources =>
      exact fun _ _ _ hNodes => ⟨hNodes.1, hNodes.2.wellFormed⟩
  | firstSource => exact fun _ hNode => sourcesFit_singleton hNode
  | nextSource => exact fun _ hNodes _ hNode => sourcesFit_concat hNodes hNode
  | tableSource =>
      exact fun _ hTable => ⟨⟨rfl, rfl⟩,
        TableName.wellFormed_node hTable (Slot.fits_vacant _)⟩
  | derived =>
      exact fun _ _ _ hQuery _ _ _ hName =>
        ⟨trivial, isGiven_some hName, trivial, hQuery⟩
  | derivedAs =>
      exact fun _ _ _ hQuery _ _ _ _ _ hName =>
        ⟨trivial, isGiven_some hName, trivial, hQuery⟩
  | plainTable => exact fun _ hName => ⟨hName.2, isGiven_none, hName.1⟩
  | namedTable =>
      exact fun _ hName _ hLabel => ⟨hName.2, isGiven_some hLabel, hName.1⟩
  | tableAs =>
      exact fun _ hName _ _ _ hLabel =>
        ⟨hName.2, isGiven_some hLabel, hName.1⟩
  | shortTable => exact fun _ hName => ⟨isGiven_none, hName⟩
  | longTable =>
      exact fun _ hDatabase _ _ _ hName => ⟨isGiven_some hDatabase, hName⟩
  | joinTable =>
      exact fun _ hKind _ hTable =>
        joinFits_node hKind hTable (Slot.fits_vacant _)
  | joinTableOn =>
      exact fun _ hKind _ hTable _ _ _ hNode =>
        joinFits_node hKind hTable (Slot.fits_one hNode)
  | joinComma =>
      exact fun _ _ _ hTable =>
        joinFits_node (show "CROSS JOIN" ∈ joinKinds by decide) hTable
          (Slot.fits_vacant _)
  | plainJoin => exact preserves_shapes .plainJoin
  | innerJoin => exact preserves_shapes .innerJoin
  | leftJoin => exact preserves_shapes .leftJoin
  | leftOuterJoin => exact preserves_shapes .leftOuterJoin
  | rightJoin => exact preserves_shapes .rightJoin
  | rightOuterJoin => exact preserves_shapes .rightOuterJoin
  | crossJoin => exact preserves_shapes .crossJoin
  | whereFilter | havingFilter => exact fun _ _ _ hNode => Slot.fits_one hNode
  | groupBy | orderBy =>
      exact fun _ _ _ _ _ hNodes => Slot.fits_ofList hNodes
  | plainKey => exact fun _ hNode => ⟨trivial, hNode⟩
  | directedKey => exact fun _ hNode _ _ => ⟨trivial, hNode⟩
  | limitOnly => exact fun _ _ _ hLimit => ⟨hLimit, trivial, .inl rfl⟩
  | limitComma =>
      exact fun _ _ _ hOffset _ _ _ hLimit => ⟨hLimit, hOffset, .inr rfl⟩
  | limitOffset =>
      exact fun _ _ _ hLimit _ _ _ hOffset => ⟨hLimit, hOffset, .inr rfl⟩
  | limitNumber => exact fun _ _ hNumber => isLimit_of_number hNumber
  | limitParameter => exact fun _ hName => hName
  | boundValues => exact fun _ _ => ⟨trivial, trivial⟩
  | parameter => exact fun _ _ => ⟨Nat.le_refl 12, trivial⟩
  | exclusiveExpr | conjunctionExpr | negationExpr | predicateExpr
  | bitOrExpr | bitXorExpr | bitAndExpr | sumExpr | productExpr
  | signedExpr | atomExpr =>
      exact fun _ hNode => Node.Fits.weaken hNode (by decide)
  | disjoin =>
      exact fun _ hLeft _ _ _ hRight => Node.fits_connect .or hLeft hRight
  | exclude =>
      exact fun _ hLeft _ _ _ hRight => Node.fits_connect .xor hLeft hRight
  | conjoin =>
      exact fun _ hLeft _ _ _ hRight => Node.fits_connect .and hLeft hRight
  | negateCondition =>
      exact fun _ _ _ hNode => Node.fits_unary .not (by decide) hNode
  | isNull =>
      exact fun _ hNode _ _ _ _ => Node.fits_unary .isNull (by decide) hNode
  | isNotNull =>
      exact fun _ hNode _ _ _ _ _ _ =>
        Node.fits_unary .isNotNull (by decide) hNode
  | compare =>
      exact fun _ hLeft cs _ _ hRight => Node.fits_compare cs hLeft hRight
  | like =>
      exact fun _ hLeft _ _ _ hRight =>
        Node.fits_infixed .like rfl hLeft hRight
  | bitOr =>
      exact fun _ hLeft _ _ _ hRight =>
        Node.fits_infixed .bitwiseOr rfl hLeft hRight
  | bitXor =>
      exact fun _ hLeft _ _ _ hRight =>
        Node.fits_infixed .bitwiseXor rfl hLeft hRight
  | bitAnd =>
      exact fun _ hLeft _ _ _ hRight =>
        Node.fits_infixed .bitwiseAnd rfl hLeft hRight
  | plus =>
      exact fun _ hLeft _ _ _ hRight =>
        Node.fits_infixed .plus rfl hLeft hRight
  | minus =>
      exact fun _ hLeft _ _ _ hRight =>
        Node.fits_infixed .minus rfl hLeft hRight
  | multiply =>
      exact fun _ hLeft _ _ _ hRight =>
        Node.fits_infixed .multiply rfl hLeft hRight
  | divide =>
      exact fun _ hLeft _ _ _ hRight =>
        Node.fits_infixed .divide rfl hLeft hRight
  | modulo =>
      exact fun _ hLeft _ _ _ hRight =>
        Node.fits_infixed .modulo rfl hLeft hRight
  | notLike =>
      exact fun _ hLeft _ _ _ _ _ hRight =>
        Node.fits_infixed .notLike rfl hLeft hRight
  | isIn =>
      exact fun _ hLeft _ _ _ hRight =>
        Node.fits_membership .isIn rfl hLeft hRight
  | notIn =>
      exact fun _ hLeft _ _ _ _ _ hRight =>
        Node.fits_membership .notIn rfl hLeft hRight
  | between =>
      exact fun _ hNode _ _ _ hLow _ _ _ hHigh =>
        ⟨Nat.le_refl 5, hNode.1, hLow.1, hHigh.1, hNode.2, hLow.2, hHigh.2⟩
  | givenValues =>
      exact fun _ _ _ hNodes _ _ =>
        ⟨rfl, (Node.fits_tupled hNodes).2.2⟩
  | selectedValues =>
      exact fun _ _ _ hQuery _ _ =>
        ⟨trivial, isGiven_none, trivial, hQuery⟩
  | subquery =>
      exact fun _ _ _ hQuery _ _ =>
        ⟨Nat.le_refl 12, isGiven_none, trivial, hQuery⟩
  | negate => exact fun _ _ _ hNode => Node.fits_negative hNode
  | shortName =>
      exact fun _ hName => ⟨Nat.le_refl 12, hName, isGiven_none, isGiven_none⟩
  | tableName =>
      exact fun _ hOwner _ _ _ hName =>
        ⟨Nat.le_refl 12, hName, isGiven_some hOwner, isGiven_none⟩
  | databaseName =>
      exact fun _ hDatabase _ _ _ hOwner _ _ _ hName =>
        ⟨Nat.le_refl 12, hName, isGiven_some hOwner, isGiven_some hDatabase⟩
  | callEmpty => exact fun _ _ _ _ _ _ => Node.fits_call _ _ nofun
  | callStar =>
      exact fun _ _ _ _ _ _ _ _ => Node.fits_call _ _ (by
        rw [List.forall_mem_singleton]
        exact ⟨show 1 ≤ 12 by decide, by decide, isGiven_none, isGiven_none⟩)
  | call =>
      exact fun _ _ _ _ _ hNodes _ _ => Node.fits_call _ _ hNodes.2
  | callDistinct =>
      exact fun _ _ _ _ _ _ _ hNodes _ _ => Node.fits_call _ _ hNodes.2
  | bracketed => exact fun _ _ _ hNode _ _ => Node.fits_bracketed hNode
  | tuple =>
      exact fun _ _ _ hNodes _ _ _ hNode _ _ =>
        (Node.fits_tupled (NodesFit.concat hNodes hNode)).2

/- Templates are parsed to well-formed queries. -/
theorem wellFormed_of_parse
    {sql : String}
    {tree : Node}
    (hParse : parse sql = .ok tree) :
    ∃ query, tree = .select query ∧ query.WellFormed := by
  rcases exists_derivation_of_parse hParse with
    ⟨d, hDerive, hNumerals, rfl⟩
  have hTokens := Recognition.tokenizes_of_derive hDerive
  refine ⟨d.meaning, rfl, ?_⟩
  exact d.holds_meaning preserves_wellFormedness
    (fun t hMember =>
      wellFormedness_of_isScanned t (hTokens.isScanned t hMember))
    hNumerals

end SqlTemplate
