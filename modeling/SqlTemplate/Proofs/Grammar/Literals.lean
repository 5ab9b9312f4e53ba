import SqlTemplate.Node.Fragments
import SqlTemplate.Proofs.Grammar.Correctness

/-
  The literals of parsed statements: nothing, truth values, texts,
  whole numbers of limited length, and finite decimal numbers.
  A negative decimal number has gone through a rounding, so it
  has no more digits than arithmetic keeps.

  Key definitions include:
    * `Value.IsRead`
    * `Node.IsRead`
    * `Nonterminal.AllRead`

  Correctness is proven by:
    * `rounded_keeps`
    * `isRead_number`
    * `everywhere_negative`
    * `preserves_readLiterals`
    * `isRead_of_parse`
-/

------------------------------------------------------------
-- Values that Are Read
------------------------------------------------------------

namespace SqlTemplate

/- The values that literals of statements can have. -/
def Value.IsRead : Value → Prop
| .null | .bool _ | .text _ => True
| .int n => (Digits.decimal n.natAbs).length ≤ NumeralError.maxDigits
| .decimal (.finite negative coefficient _) =>
    negative = true →
      coefficient ≠ 0 ∧
        (Digits.decimal coefficient).length ≤ Decimal.precision
| _ => False

/- A node is no literal, or one that can be read. -/
def Node.IsRead : Node → Prop
| .literal v => v.IsRead
| _ => True

------------------------------------------------------------
-- Numbers of Digits
------------------------------------------------------------

theorem digit?_lt
    {c : Char}
    {n : Nat}
    (hDigit : Text.digit? c = some n) :
    n < 10 := by
  rcases List.exists_of_findSome?_eq_some hDigit with ⟨base, _, hFound⟩
  split at hFound
  next hRange =>
    rw [Bool.and_eq_true, decide_eq_true_eq, decide_eq_true_eq] at hRange
    cases hFound
    omega
  next => cases hFound

/- A number below a power of ten has no more digits than that. -/
theorem length_decimal_le_iff
    {n limit : Nat}
    (hLimit : 0 < limit) :
    (Digits.decimal n).length ≤ limit ↔ n < 10 ^ limit :=
  Nat.length_toDigits_le_iff (by decide) hLimit

/- Digits denote a number below the power of ten of their count. -/
theorem ofDigits_lt
    {ds : List Nat}
    (hDigits : ∀ d ∈ ds, d < 10) :
    Digits.ofDigits ds < 10 ^ ds.length := by
  have hFold :
      ∀ k, ds.foldl (fun value d => 10 * value + d) k <
        (k + 1) * 10 ^ ds.length := by
    induction ds with
    | nil => intro k; simp
    | cons d ds ih =>
        intro k
        rw [List.forall_mem_cons] at hDigits
        rw [List.foldl_cons, List.length_cons, Nat.pow_succ]
        calc
          _ < (10 * k + d + 1) * 10 ^ ds.length := ih hDigits.2 _
          _ ≤ ((k + 1) * 10) * 10 ^ ds.length :=
            Nat.mul_le_mul_right _ (by omega)
          _ = (k + 1) * (10 ^ ds.length * 10) := by
            rw [Nat.mul_assoc, Nat.mul_comm 10]
  exact (hFold 0).trans_eq (by rw [Nat.zero_add, Nat.one_mul])

/- A number has at most as many digits as the text it is read from. -/
theorem length_decimal_ofDigits
    {cs : List Char}
    {limit : Nat}
    (hLimit : 0 < limit)
    (hLength : cs.length ≤ limit) :
    (Digits.decimal (Digits.ofDigits (Token.digitsOf cs))).length ≤ limit := by
  have hDigits : ∀ d ∈ Token.digitsOf cs, d < 10 := by
    intro d hMember
    rcases List.mem_filterMap.mp hMember with ⟨c, _, hDigit⟩
    exact digit?_lt hDigit
  have hCount : (Token.digitsOf cs).length ≤ limit :=
    (List.length_filterMap_le _ cs).trans hLength
  rw [length_decimal_le_iff hLimit]
  exact (ofDigits_lt hDigits).trans_le
    (Nat.pow_le_pow_right (by decide) hCount)

/- A number has a value that is read if its whole part is not too long. -/
theorem isRead_numberOf
    {cs : List Char}
    (hWhole : wholeError? (cs.takeWhile (· != '.')) = none ∨ '.' ∈ cs) :
    (Token.numberOf cs).IsRead := by
  unfold Token.numberOf
  dsimp only
  split
  next hNoPoint =>
    have hError : wholeError? (cs.takeWhile (· != '.')) = none := by
      refine hWhole.resolve_right fun hPoint => ?_
      have hOther := List.dropWhile_eq_nil_iff.mp hNoPoint '.' hPoint
      cases hOther
    have hLength :
        (cs.takeWhile (· != '.')).length ≤ NumeralError.maxDigits := by
      refine Nat.not_lt.mp fun hLong => ?_
      rw [wholeError?, if_pos hLong] at hError
      cases hError
    exact length_decimal_ofDigits (by decide) hLength
  next => exact fun hNegative => by cases hNegative

/- A number that there is no error about has a value that is read. -/
theorem isRead_number
    {cs : List Char}
    (hNumber : numberError? cs = none) :
    (Token.numberOf cs).IsRead := by
  apply isRead_numberOf
  by_cases hPoint : '.' ∈ cs
  · exact .inr hPoint
  · left
    have hWhole : cs.takeWhile (· != '.') = cs := by
      apply List.takeWhile_eq_self_iff.mpr
      intro c hMember
      apply bne_iff_ne.mpr
      rintro rfl
      exact hPoint hMember
    rw [numberError?,
      if_neg fun hFound => hPoint (List.contains_iff_mem.mp hFound)] at hNumber
    rw [hWhole]
    exact hNumber

theorem isRead_limitNumber
    {cs : List Char}
    (hNumber : limitError? cs = none) :
    (Token.numberOf cs).IsRead := by
  apply isRead_numberOf
  unfold limitError? at hNumber
  split at hNumber
  next => cases hNumber
  next hWhole => exact .inl hWhole

------------------------------------------------------------
-- Negation
------------------------------------------------------------

/- A rounded quotient is the quotient or its successor. -/
theorem divHalfEven_cases
    (num den : Nat) :
    divHalfEven num den = num / den ∨
      divHalfEven num den = num / den + 1 := by
  unfold divHalfEven
  dsimp only
  split
  · exact .inr rfl
  · exact .inl rfl

/- A number without its last digits, rounded, has the digits left. -/
theorem divHalfEven_bounds
    {n excess limit : Nat}
    (hLength : (Digits.decimal n).length = excess + limit)
    (hExcess : 0 < excess)
    (hLimit : 0 < limit) :
    10 ^ (limit - 1) ≤ divHalfEven n (10 ^ excess) ∧
      divHalfEven n (10 ^ excess) ≤ 10 ^ limit := by
  have hPower : 0 < 10 ^ excess := Nat.pow_pos (by decide)
  have hHigh : n < 10 ^ limit * 10 ^ excess := by
    rw [← Nat.pow_add, ← length_decimal_le_iff (by omega)]
    omega
  have hLow : 10 ^ (limit - 1) * 10 ^ excess ≤ n := by
    rw [← Nat.pow_add, ← Nat.not_lt, ← length_decimal_le_iff (by omega)]
    omega
  have hQuotientHigh : n / 10 ^ excess < 10 ^ limit :=
    (Nat.div_lt_iff_lt_mul hPower).mpr hHigh
  have hQuotientLow : 10 ^ (limit - 1) ≤ n / 10 ^ excess :=
    (Nat.le_div_iff_mul_le hPower).mpr hLow
  rcases divHalfEven_cases n (10 ^ excess) with hSame | hNext
  · omega
  · omega

/- Rounding keeps a number apart from zero and shortens it. -/
theorem rounded_keeps
    {coefficient : Nat}
    (hSome : coefficient ≠ 0)
    (exponent : Int) :
    (Decimal.rounded coefficient exponent).1 ≠ 0 ∧
      (Digits.decimal (Decimal.rounded coefficient exponent).1).length ≤
        Decimal.precision := by
  have hPrecision : 0 < Decimal.precision := by decide
  have hOne : ∀ k, 0 < 10 ^ k := fun k => Nat.pow_pos (by decide)
  unfold Decimal.rounded
  dsimp only
  split
  next hShort => exact ⟨hSome, Nat.sub_eq_zero_iff_le.mp hShort⟩
  next hLong =>
    rcases divHalfEven_bounds
        (Nat.sub_add_cancel (by omega)).symm
        (Nat.pos_of_ne_zero hLong) hPrecision with ⟨hLow, hHigh⟩
    have hLeast := hOne (Decimal.precision - 1)
    rw [length_decimal_le_iff hPrecision]
    split
    next => exact ⟨hLeast.ne', Nat.pow_lt_pow_right (by decide) (by decide)⟩
    next hOther =>
      exact ⟨(hLeast.trans_le hLow).ne', lt_of_le_of_ne hHigh hOther⟩

theorem isRead_negate
    {x : Decimal}
    (hRead : (Value.decimal x).IsRead) :
    (Value.decimal x.negate).IsRead := by
  cases x with
  | finite negative coefficient exponent =>
      intro hNegative
      rw [Bool.and_eq_true, bne_iff_ne] at hNegative
      exact rounded_keeps hNegative.2 exponent
  | infinite negative => exact hRead
  | undefined negative signaling payload => exact hRead

/- The negative of a literal can be read if the literal can. -/
theorem everywhere_negative
    {n : Node}
    (hNode : n.Everywhere Node.IsRead) :
    n.negative.Everywhere Node.IsRead := by
  unfold Node.negative
  split
  next n =>
    change (Digits.decimal (-n).natAbs).length ≤ _
    rw [Int.natAbs_neg]
    exact hNode
  next b =>
    change (Digits.decimal (if b then -1 else 0 : Int).natAbs).length ≤ _
    cases b <;> decide
  next x => exact isRead_negate hNode
  next => exact ⟨trivial, hNode⟩

------------------------------------------------------------
-- Meanings of Phrases
------------------------------------------------------------

/- All literals of several nodes can be read. -/
def NodesRead (ns : List Node) : Prop :=
  ∀ n ∈ ns, n.Everywhere Node.IsRead

/- All literals in what a phrase means can be read. -/
def Nonterminal.AllRead : (n : Nonterminal) → n.Meaning → Prop
| .statement, q | .query, q => Query.Everywhere Node.IsRead q
| .rowKind, _ | .table, _ | .tableName, _ | .joinKind, _ => True
| .columns, ns | .sources, ns | .exprs, ns | .orderKeys, ns => NodesRead ns
| .sourceClause, slot | .filterClause, slot | .groupClause, slot
| .havingClause, slot | .orderClause, slot =>
    Slot.Everywhere Node.IsRead slot
| .limitClause, limits =>
    limits.1.Everywhere Node.IsRead ∧ limits.2.Everywhere Node.IsRead
| .column, n | .source, n | .join, n | .orderKey, n | .limitValue, n
| .expr, n | .exclusive, n | .conjunction, n | .negation, n
| .predicate, n | .valueList, n | .bitOr, n | .bitXor, n | .bitAnd, n
| .sum, n | .product, n | .signed, n | .atom, n =>
    Node.Everywhere Node.IsRead n

/- The same of what a symbol means. -/
def readLiterals : MeaningProperty
| .phrase n, m => n.AllRead m
| .token _, _ => True

theorem everywhere_map_some
    {ns : List Node}
    (hNodes : NodesRead ns) :
    Members.Everywhere Node.IsRead (ns.map some) := by
  induction ns with
  | nil => trivial
  | cons n ns ih =>
      rw [NodesRead, List.forall_mem_cons] at hNodes
      exact ⟨hNodes.1, ih hNodes.2⟩

theorem everywhere_ofList
    {ns : List Node}
    (hNodes : NodesRead ns) :
    (Slot.ofList ns).Everywhere Node.IsRead :=
  everywhere_map_some hNodes

theorem nodesRead_concat
    {ns : List Node}
    {n : Node}
    (hNodes : NodesRead ns)
    (hNode : n.Everywhere Node.IsRead) :
    NodesRead (List.concat ns n) := by
  intro m hMember
  rw [List.concat_eq_append, List.mem_append,
    List.mem_singleton] at hMember
  rcases hMember with hOld | rfl
  · exact hNodes m hOld
  · exact hNode

theorem everywhere_append
    {slot : Slot Node}
    {n : Node}
    (hSlot : slot.Everywhere Node.IsRead)
    (hNode : n.Everywhere Node.IsRead) :
    (slot.append n).Everywhere Node.IsRead := by
  have hMembers :
      ∀ members, Members.Everywhere Node.IsRead members →
        Members.Everywhere Node.IsRead (members ++ [some n]) := by
    intro members
    induction members with
    | nil => exact fun _ => ⟨hNode, trivial⟩
    | cons member members ih =>
        cases member with
        | none => exact ih
        | some m => exact fun hMembers => ⟨hMembers.1, ih hMembers.2⟩
  cases slot with
  | vacant => exact hNode
  | one m => exact ⟨hSlot, hNode, trivial⟩
  | many members => exact hMembers members hSlot

theorem everywhere_connect
    {op : ConnectiveOp}
    {left right : Node}
    (hLeft : left.Everywhere Node.IsRead)
    (hRight : right.Everywhere Node.IsRead) :
    (Node.connect op left right).Everywhere Node.IsRead := by
  have hPair :
      (Node.connective op (.ofList [left, right])).Everywhere Node.IsRead :=
    ⟨trivial, hLeft, hRight, trivial⟩
  unfold Node.connect
  split
  next op' operands =>
    split
    · exact ⟨trivial, everywhere_append hLeft.2 hRight⟩
    · exact hPair
  next => exact hPair

/-
  Every rule makes a phrase with literals that can be read.  Most
  rules rename a phrase or put an operator between its parts.
-/
theorem preserves_readLiterals
    (r : Rule) : r.Preserves readLiterals := by
  cases r with
  | plain => exact fun _ hQuery => hQuery
  | terminated => exact fun _ hQuery _ _ => hQuery
  | query =>
      exact fun _ _ _ _ _ hColumns _ hSource _ hFilter _ hGroups
        _ hHaving _ hOrder _ hLimits =>
        ⟨everywhere_ofList hColumns, hSource, hFilter, hGroups,
          hHaving, hOrder, hLimits.1, hLimits.2⟩
  | everyRow | noSource | noFilter | noGroups | noHaving | noOrder =>
      trivial
  | noLimit => exact ⟨trivial, trivial⟩
  | distinctRows | allColumns | shortTable | shortName | trueValue
  | falseValue | nullValue | string | parameter | limitParameter
  | boundValues | plainTable | plainJoin =>
      exact fun _ _ => trivial
  | namedTable | innerJoin | leftJoin | rightJoin | crossJoin =>
      exact fun _ _ _ _ => trivial
  | allOfTable | tableAs | longTable | tableName | leftOuterJoin
  | rightOuterJoin =>
      exact fun _ _ _ _ _ _ => trivial
  | callEmpty => exact fun _ _ _ _ _ _ => ⟨trivial, trivial⟩
  | databaseName => exact fun _ _ _ _ _ _ _ _ _ _ => trivial
  | firstColumn | firstSource | firstExpr | firstKey =>
      exact fun _ hNode => List.forall_mem_singleton.mpr hNode
  | nextColumn | nextExpr | nextKey =>
      exact fun _ hNodes _ _ _ hNode => nodesRead_concat hNodes hNode
  | nextSource =>
      exact fun _ hNodes _ hNode => nodesRead_concat hNodes hNode
  | fromSources => exact fun _ _ _ hNodes => everywhere_ofList hNodes
  | groupBy | orderBy =>
      exact fun _ _ _ _ _ hNodes => everywhere_ofList hNodes
  | plainColumn | exclusiveExpr | conjunctionExpr | negationExpr
  | predicateExpr | bitOrExpr | bitXorExpr | bitAndExpr | sumExpr
  | productExpr | signedExpr | atomExpr =>
      exact fun _ hNode => hNode
  | namedColumn => exact fun _ hNode _ _ => ⟨trivial, hNode⟩
  | columnAs | isNull => exact fun _ hNode _ _ _ _ => ⟨trivial, hNode⟩
  | isNotNull => exact fun _ hNode _ _ _ _ _ _ => ⟨trivial, hNode⟩
  | tableSource => exact fun _ _ => ⟨trivial, trivial⟩
  | derived => exact fun _ _ _ hQuery _ _ _ _ => ⟨trivial, trivial, hQuery⟩
  | derivedAs =>
      exact fun _ _ _ hQuery _ _ _ _ _ _ => ⟨trivial, trivial, hQuery⟩
  | joinTable | joinComma => exact fun _ _ _ _ => ⟨trivial, trivial⟩
  | joinTableOn => exact fun _ _ _ _ _ _ _ hNode => ⟨trivial, hNode⟩
  | whereFilter | havingFilter => exact fun _ _ _ hNode => hNode
  | negateCondition => exact fun _ _ _ hNode => ⟨trivial, hNode⟩
  | plainKey => exact fun _ hNode => ⟨trivial, hNode⟩
  | directedKey => exact fun _ hNode _ _ => ⟨trivial, hNode⟩
  | limitOnly => exact fun _ _ _ hLimit => ⟨hLimit, trivial⟩
  | limitComma =>
      exact fun _ _ _ hOffset _ _ _ hLimit => ⟨hLimit, hOffset⟩
  | limitOffset =>
      exact fun _ _ _ hLimit _ _ _ hOffset => ⟨hLimit, hOffset⟩
  | limitNumber => exact fun _ _ hNumber => isRead_limitNumber hNumber
  | number => exact fun _ _ hNumber => isRead_number hNumber
  | disjoin | exclude | conjoin =>
      exact fun _ hLeft _ _ _ hRight => everywhere_connect hLeft hRight
  | compare | isIn | like | bitOr | bitXor | bitAnd | plus | minus
  | multiply | divide | modulo =>
      exact fun _ hLeft _ _ _ hRight => ⟨trivial, hLeft, hRight⟩
  | notIn | notLike =>
      exact fun _ hLeft _ _ _ _ _ hRight => ⟨trivial, hLeft, hRight⟩
  | between =>
      exact fun _ hNode _ _ _ hLow _ _ _ hHigh =>
        ⟨trivial, hNode, hLow, hHigh⟩
  | givenValues =>
      exact fun _ _ _ hNodes _ _ => ⟨trivial, everywhere_ofList hNodes⟩
  | selectedValues | subquery =>
      exact fun _ _ _ hQuery _ _ => ⟨trivial, trivial, hQuery⟩
  | negate => exact fun _ _ _ hNode => everywhere_negative hNode
  | callStar =>
      exact fun _ _ _ _ _ _ _ _ => ⟨trivial, trivial, trivial⟩
  | call =>
      exact fun _ _ _ _ _ hNodes _ _ => ⟨trivial, everywhere_ofList hNodes⟩
  | callDistinct =>
      exact fun _ _ _ _ _ _ _ hNodes _ _ =>
        ⟨trivial, everywhere_ofList hNodes⟩
  | bracketed => exact fun _ _ _ hNode _ _ => ⟨trivial, hNode, trivial⟩
  | tuple =>
      exact fun _ _ _ hNodes _ _ _ hNode _ _ =>
        ⟨trivial, everywhere_ofList (nodesRead_concat hNodes hNode)⟩

/- The literals of a parsed statement have values that are read. -/
theorem isRead_of_parse
    {sql : String}
    {tree : Node}
    {v : Value}
    (hParse : parse sql = .ok tree)
    (hLiteral : .literal v ∈ tree.fragments) :
    v.IsRead := by
  rcases exists_derivation_of_parse hParse with
    ⟨d, hDerive, hNumerals, rfl⟩
  have hQuery : Query.Everywhere Node.IsRead d.meaning :=
    d.holds_meaning preserves_readLiterals (fun t _ => by
      cases t with
      | mk kind text => trivial) hNumerals
  have hTree : (Node.select d.meaning).Everywhere Node.IsRead :=
    ⟨trivial, hQuery⟩
  exact (Node.everywhere_iff _).mp hTree _ hLiteral

end SqlTemplate
