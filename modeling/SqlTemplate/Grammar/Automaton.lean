import SqlTemplate.Grammar.Symbol

/-
  The automaton that recognizes statements from left to right.

  A state stands for the rules that the symbols read so far can
  belong to, with a mark at the place that has been reached; the
  line above a row gives the first of them.  A row says which
  states follow on tokens and on phrases, and which rule, if
  any, has been read to its end and on which next tokens it is
  then applied.  No row has both a next state and a rule to
  apply for the same token.

  Key definitions include:
    * `Lookaheads`
    * `Row`
    * `rows`
    * `row`
    * `Row.accepts`
-/

------------------------------------------------------------
-- Sets of Next Tokens
------------------------------------------------------------

namespace SqlTemplate

namespace Automaton

/-
  The kinds of tokens that may come next, and whether the text
  may end there.
-/
structure Lookaheads where
  terminals : List Terminal
  atEnd : Bool
deriving DecidableEq, Repr, Inhabited

namespace Lookaheads

/- The set holds a token of the given kind, or the end. -/
def holds
    (set : Lookaheads) : Option Terminal → Bool
| none => set.atEnd
| some t => set.terminals.contains t

/- A set with more kinds of tokens. -/
def extend
    (set : Lookaheads)
    (ts : List Terminal) : Lookaheads :=
  { set with terminals := ts ++ set.terminals }

end Lookaheads

/- After a whole statement. -/
def endOfText : Lookaheads :=
  ⟨[], true⟩

/- After a query. -/
def afterQuery : Lookaheads :=
  ⟨[.rightBracket, .semicolon], true⟩

/- After an ORDER BY clause. -/
def afterOrder : Lookaheads :=
  afterQuery.extend [.LIMIT]

/- After a sort key. -/
def afterKeys : Lookaheads :=
  afterOrder.extend [.comma]

/- After a HAVING clause. -/
def afterHaving : Lookaheads :=
  afterOrder.extend [.ORDER]

/- After a GROUP BY clause. -/
def afterGroups : Lookaheads :=
  afterHaving.extend [.HAVING]

/- After an expression of a list. -/
def afterExprs : Lookaheads :=
  afterGroups.extend [.comma]

/- After a WHERE clause. -/
def afterFilter : Lookaheads :=
  afterGroups.extend [.GROUP]

/- After a FROM clause. -/
def afterSource : Lookaheads :=
  afterFilter.extend [.WHERE]

/- After a column of a select list. -/
def afterColumns : Lookaheads :=
  afterSource.extend [.FROM, .comma]

/- The tokens that a join starts with, except the comma. -/
def joinStarts : List Terminal :=
  [.JOIN, .INNER, .LEFT, .RIGHT, .CROSS]

/- After a table or a join. -/
def afterSources : Lookaheads :=
  afterSource.extend (.comma :: joinStarts)

/- After a table that may be joined. -/
def afterTable : Lookaheads :=
  afterSources.extend [.ON]

/- After the name of a table. -/
def afterTableName : Lookaheads :=
  afterTable.extend [.AS, .name]

/- After an expression. -/
def afterExpr : Lookaheads :=
  afterColumns.extend (.AS :: .name :: .direction :: .OR :: joinStarts)

/- After an operand of OR. -/
def afterExclusive : Lookaheads :=
  afterExpr.extend [.XOR]

/- After an operand of XOR. -/
def afterConjunction : Lookaheads :=
  afterExclusive.extend [.AND]

/- The tokens that a predicate goes on with. -/
def predicateStarts : List Terminal :=
  [.comparison, .IS, .IN, .NOT, .BETWEEN, .LIKE]

/- After an operand of a predicate. -/
def afterBitOr : Lookaheads :=
  afterConjunction.extend (.bar :: predicateStarts)

/- After an operand of a bitwise OR. -/
def afterBitXor : Lookaheads :=
  afterBitOr.extend [.caret]

/- After an operand of a bitwise XOR. -/
def afterBitAnd : Lookaheads :=
  afterBitXor.extend [.ampersand]

/- After an operand of a bitwise AND. -/
def afterSum : Lookaheads :=
  afterBitAnd.extend [.plus, .minus]

/- After an operand of a sum or a product. -/
def afterOperand : Lookaheads :=
  afterSum.extend [.star, .slash, .percent]

/-
  After a name that starts a column of a select list, where no
  join and no direction can follow.
-/
def afterFirstName : Lookaheads :=
  ⟨afterOperand.terminals.filter fun t =>
    !joinStarts.contains t && t != .direction, true⟩

/- After a number of a LIMIT clause. -/
def afterLimitValue : Lookaheads :=
  afterQuery.extend [.comma, .OFFSET]

/- Before the first column of a select list. -/
def beforeColumns : Lookaheads :=
  ⟨[.leftBracket, .star, .minus, .NOT, .name, .number, .string,
    .parameter, .TRUE, .FALSE, .NULL], false⟩

/- Before a table. -/
def beforeTable : Lookaheads :=
  ⟨[.name], false⟩

/- After an expression of a list that has to go on. -/
def atComma : Lookaheads :=
  ⟨[.comma], false⟩

------------------------------------------------------------
-- Rows
------------------------------------------------------------

/-
  A row of the automaton: the next states on tokens and on
  phrases, and the rule to apply.
-/
structure Row where
  shifts : List (Terminal × Nat)
  gotos : List (Nonterminal × Nat)
  reduction : Option (Rule × Lookaheads)
deriving Inhabited

/- The tokens that an operand starts with. -/
def operandShifts : List (Terminal × Nat) :=
  [(.minus, 24), (.number, 25), (.string, 26), (.TRUE, 27),
   (.FALSE, 28), (.NULL, 29), (.parameter, 30), (.leftBracket, 31),
   (.name, 43)]

/- The tokens that a condition starts with. -/
def conditionShifts : List (Terminal × Nat) :=
  [(.NOT, 16), (.minus, 24), (.number, 25), (.string, 26), (.TRUE, 27),
   (.FALSE, 28), (.NULL, 29), (.parameter, 30), (.leftBracket, 31),
   (.name, 43)]

/- The rows of all states, in the order of their numbers. -/
def rows : Array Row := #[
  -- 0. start: · statement
  ⟨[(.SELECT, 3)], [(.statement, 1), (.query, 2)], none⟩,
  -- 1. start: statement ·
  ⟨[], [], none⟩,
  -- 2. statement: query ·; statement: query · semicolon
  ⟨[(.semicolon, 4)], [], some (.plain, endOfText)⟩,
  -- 3. query: SELECT · rowKind columns sourceClause filterClause …
  ⟨[(.DISTINCT, 6)], [(.rowKind, 5)], some (.everyRow, beforeColumns)⟩,
  -- 4. statement: query semicolon ·
  ⟨[], [], some (.terminated, endOfText)⟩,
  -- 5. query: SELECT rowKind · columns sourceClause filterClause …
  ⟨[(.star, 10), (.name, 11), (.NOT, 16), (.minus, 24), (.number, 25),
     (.string, 26), (.TRUE, 27), (.FALSE, 28), (.NULL, 29),
     (.parameter, 30), (.leftBracket, 31)],
    [(.columns, 7), (.column, 8), (.expr, 9), (.exclusive, 12),
     (.conjunction, 13), (.negation, 14), (.predicate, 15), (.bitOr, 17),
     (.bitXor, 18), (.bitAnd, 19), (.sum, 20), (.product, 21),
     (.signed, 22), (.atom, 23)],
    none⟩,
  -- 6. rowKind: DISTINCT ·
  ⟨[], [], some (.distinctRows, beforeColumns)⟩,
  -- 7. query: SELECT rowKind columns · sourceClause filterClause …
  ⟨[(.comma, 33), (.FROM, 34)],
    [(.sourceClause, 32)],
    some (.noSource, afterSource)⟩,
  -- 8. columns: column ·
  ⟨[], [], some (.firstColumn, afterColumns)⟩,
  -- 9. column: expr ·; and 3 more
  ⟨[(.name, 35), (.AS, 36), (.OR, 37)],
    [],
    some (.plainColumn, afterColumns)⟩,
  -- 10. column: star ·
  ⟨[], [], some (.allColumns, afterColumns)⟩,
  -- 11. column: name · point star; and 7 more
  ⟨[(.point, 38), (.leftBracket, 39)],
    [],
    some (.shortName, afterFirstName)⟩,
  -- 12. expr: exclusive ·; exclusive: exclusive · XOR conjunction
  ⟨[(.XOR, 40)], [], some (.exclusiveExpr, afterExpr)⟩,
  -- 13. exclusive: conjunction ·; conjunction: conjunction · AND …
  ⟨[(.AND, 41)], [], some (.conjunctionExpr, afterExclusive)⟩,
  -- 14. conjunction: negation ·
  ⟨[], [], some (.negationExpr, afterConjunction)⟩,
  -- 15. negation: predicate ·
  ⟨[], [], some (.predicateExpr, afterConjunction)⟩,
  -- 16. negation: NOT · negation
  ⟨conditionShifts,
    [(.predicate, 15), (.bitOr, 17), (.bitXor, 18), (.bitAnd, 19),
     (.sum, 20), (.product, 21), (.signed, 22), (.atom, 23),
     (.negation, 42)],
    none⟩,
  -- 17. predicate: bitOr ·; and 9 more
  ⟨[(.comparison, 44), (.IS, 45), (.IN, 46), (.NOT, 47),
     (.BETWEEN, 48), (.LIKE, 49), (.bar, 50)],
    [],
    some (.bitOrExpr, afterConjunction)⟩,
  -- 18. bitOr: bitXor ·; bitXor: bitXor · caret bitAnd
  ⟨[(.caret, 51)], [], some (.bitXorExpr, afterBitOr)⟩,
  -- 19. bitXor: bitAnd ·; bitAnd: bitAnd · ampersand sum
  ⟨[(.ampersand, 52)], [], some (.bitAndExpr, afterBitXor)⟩,
  -- 20. bitAnd: sum ·; and 2 more
  ⟨[(.plus, 53), (.minus, 54)], [], some (.sumExpr, afterBitAnd)⟩,
  -- 21. sum: product ·; and 3 more
  ⟨[(.star, 55), (.slash, 56), (.percent, 57)],
    [],
    some (.productExpr, afterSum)⟩,
  -- 22. product: signed ·
  ⟨[], [], some (.signedExpr, afterOperand)⟩,
  -- 23. signed: atom ·
  ⟨[], [], some (.atomExpr, afterOperand)⟩,
  -- 24. signed: minus · signed
  ⟨operandShifts, [(.atom, 23), (.signed, 58)], none⟩,
  -- 25. atom: number ·
  ⟨[], [], some (.number, afterOperand)⟩,
  -- 26. atom: string ·
  ⟨[], [], some (.string, afterOperand)⟩,
  -- 27. atom: TRUE ·
  ⟨[], [], some (.trueValue, afterOperand)⟩,
  -- 28. atom: FALSE ·
  ⟨[], [], some (.falseValue, afterOperand)⟩,
  -- 29. atom: NULL ·
  ⟨[], [], some (.nullValue, afterOperand)⟩,
  -- 30. atom: parameter ·
  ⟨[], [], some (.parameter, afterOperand)⟩,
  -- 31. atom: leftBracket · expr rightBracket; and 2 more
  ⟨[(.SELECT, 3), (.NOT, 16), (.minus, 24), (.number, 25),
     (.string, 26), (.TRUE, 27), (.FALSE, 28), (.NULL, 29),
     (.parameter, 30), (.leftBracket, 31), (.name, 43)],
    [(.exclusive, 12), (.conjunction, 13), (.negation, 14),
     (.predicate, 15), (.bitOr, 17), (.bitXor, 18), (.bitAnd, 19),
     (.sum, 20), (.product, 21), (.signed, 22), (.atom, 23), (.expr, 59),
     (.exprs, 60), (.query, 61)],
    none⟩,
  -- 32. query: SELECT rowKind columns sourceClause · filterClause …
  ⟨[(.WHERE, 63)], [(.filterClause, 62)], some (.noFilter, afterFilter)⟩,
  -- 33. columns: columns comma · column
  ⟨[(.star, 10), (.name, 11), (.NOT, 16), (.minus, 24), (.number, 25),
     (.string, 26), (.TRUE, 27), (.FALSE, 28), (.NULL, 29),
     (.parameter, 30), (.leftBracket, 31)],
    [(.expr, 9), (.exclusive, 12), (.conjunction, 13), (.negation, 14),
     (.predicate, 15), (.bitOr, 17), (.bitXor, 18), (.bitAnd, 19),
     (.sum, 20), (.product, 21), (.signed, 22), (.atom, 23),
     (.column, 64)],
    none⟩,
  -- 34. sourceClause: FROM · sources
  ⟨[(.leftBracket, 68), (.name, 70)],
    [(.sources, 65), (.source, 66), (.table, 67), (.tableName, 69)],
    none⟩,
  -- 35. column: expr name ·
  ⟨[], [], some (.namedColumn, afterColumns)⟩,
  -- 36. column: expr AS · name
  ⟨[(.name, 71)], [], none⟩,
  -- 37. expr: expr OR · exclusive
  ⟨conditionShifts,
    [(.conjunction, 13), (.negation, 14), (.predicate, 15),
     (.bitOr, 17), (.bitXor, 18), (.bitAnd, 19), (.sum, 20),
     (.product, 21), (.signed, 22), (.atom, 23), (.exclusive, 72)],
    none⟩,
  -- 38. column: name point · star; and 2 more
  ⟨[(.star, 73), (.name, 74)], [], none⟩,
  -- 39. atom: name leftBracket · rightBracket; and 3 more
  ⟨[(.NOT, 16), (.minus, 24), (.number, 25), (.string, 26),
     (.TRUE, 27), (.FALSE, 28), (.NULL, 29), (.parameter, 30),
     (.leftBracket, 31), (.name, 43), (.rightBracket, 77), (.star, 78),
     (.DISTINCT, 79)],
    [(.exclusive, 12), (.conjunction, 13), (.negation, 14),
     (.predicate, 15), (.bitOr, 17), (.bitXor, 18), (.bitAnd, 19),
     (.sum, 20), (.product, 21), (.signed, 22), (.atom, 23), (.expr, 75),
     (.exprs, 76)],
    none⟩,
  -- 40. exclusive: exclusive XOR · conjunction
  ⟨conditionShifts,
    [(.negation, 14), (.predicate, 15), (.bitOr, 17), (.bitXor, 18),
     (.bitAnd, 19), (.sum, 20), (.product, 21), (.signed, 22),
     (.atom, 23), (.conjunction, 80)],
    none⟩,
  -- 41. conjunction: conjunction AND · negation
  ⟨conditionShifts,
    [(.predicate, 15), (.bitOr, 17), (.bitXor, 18), (.bitAnd, 19),
     (.sum, 20), (.product, 21), (.signed, 22), (.atom, 23),
     (.negation, 81)],
    none⟩,
  -- 42. negation: NOT negation ·
  ⟨[], [], some (.negateCondition, afterConjunction)⟩,
  -- 43. atom: name ·; and 6 more
  ⟨[(.leftBracket, 39), (.point, 82)],
    [],
    some (.shortName, afterOperand)⟩,
  -- 44. predicate: bitOr comparison · bitOr
  ⟨operandShifts,
    [(.bitXor, 18), (.bitAnd, 19), (.sum, 20), (.product, 21),
     (.signed, 22), (.atom, 23), (.bitOr, 83)],
    none⟩,
  -- 45. predicate: bitOr IS · NULL; predicate: bitOr IS · NOT NULL
  ⟨[(.NULL, 84), (.NOT, 85)], [], none⟩,
  -- 46. predicate: bitOr IN · valueList
  ⟨[(.leftBracket, 87), (.parameter, 88)], [(.valueList, 86)], none⟩,
  -- 47. predicate: bitOr NOT · IN valueList; and 1 more
  ⟨[(.IN, 89), (.LIKE, 90)], [], none⟩,
  -- 48. predicate: bitOr BETWEEN · bitOr AND bitOr
  ⟨operandShifts,
    [(.bitXor, 18), (.bitAnd, 19), (.sum, 20), (.product, 21),
     (.signed, 22), (.atom, 23), (.bitOr, 91)],
    none⟩,
  -- 49. predicate: bitOr LIKE · bitOr
  ⟨operandShifts,
    [(.bitXor, 18), (.bitAnd, 19), (.sum, 20), (.product, 21),
     (.signed, 22), (.atom, 23), (.bitOr, 92)],
    none⟩,
  -- 50. bitOr: bitOr bar · bitXor
  ⟨operandShifts,
    [(.bitAnd, 19), (.sum, 20), (.product, 21), (.signed, 22),
     (.atom, 23), (.bitXor, 93)],
    none⟩,
  -- 51. bitXor: bitXor caret · bitAnd
  ⟨operandShifts,
    [(.sum, 20), (.product, 21), (.signed, 22), (.atom, 23),
     (.bitAnd, 94)],
    none⟩,
  -- 52. bitAnd: bitAnd ampersand · sum
  ⟨operandShifts,
    [(.product, 21), (.signed, 22), (.atom, 23), (.sum, 95)],
    none⟩,
  -- 53. sum: sum plus · product
  ⟨operandShifts, [(.signed, 22), (.atom, 23), (.product, 96)], none⟩,
  -- 54. sum: sum minus · product
  ⟨operandShifts, [(.signed, 22), (.atom, 23), (.product, 97)], none⟩,
  -- 55. product: product star · signed
  ⟨operandShifts, [(.atom, 23), (.signed, 98)], none⟩,
  -- 56. product: product slash · signed
  ⟨operandShifts, [(.atom, 23), (.signed, 99)], none⟩,
  -- 57. product: product percent · signed
  ⟨operandShifts, [(.atom, 23), (.signed, 100)], none⟩,
  -- 58. signed: minus signed ·
  ⟨[], [], some (.negate, afterOperand)⟩,
  -- 59. exprs: expr ·; and 2 more
  ⟨[(.OR, 37), (.rightBracket, 101)], [], some (.firstExpr, atComma)⟩,
  -- 60. exprs: exprs · comma expr; and 1 more
  ⟨[(.comma, 102)], [], none⟩,
  -- 61. atom: leftBracket query · rightBracket
  ⟨[(.rightBracket, 103)], [], none⟩,
  -- 62. query: SELECT rowKind columns sourceClause filterClause · …
  ⟨[(.GROUP, 105)], [(.groupClause, 104)], some (.noGroups, afterGroups)⟩,
  -- 63. filterClause: WHERE · expr
  ⟨conditionShifts,
    [(.exclusive, 12), (.conjunction, 13), (.negation, 14),
     (.predicate, 15), (.bitOr, 17), (.bitXor, 18), (.bitAnd, 19),
     (.sum, 20), (.product, 21), (.signed, 22), (.atom, 23),
     (.expr, 106)],
    none⟩,
  -- 64. columns: columns comma column ·
  ⟨[], [], some (.nextColumn, afterColumns)⟩,
  -- 65. sourceClause: FROM sources ·; sources: sources · join
  ⟨[(.comma, 109), (.JOIN, 110), (.INNER, 111), (.LEFT, 112),
     (.RIGHT, 113), (.CROSS, 114)],
    [(.join, 107), (.joinKind, 108)],
    some (.fromSources, afterSource)⟩,
  -- 66. sources: source ·
  ⟨[], [], some (.firstSource, afterSources)⟩,
  -- 67. source: table ·
  ⟨[], [], some (.tableSource, afterSources)⟩,
  -- 68. source: leftBracket · query rightBracket name; and 1 more
  ⟨[(.SELECT, 3)], [(.query, 115)], none⟩,
  -- 69. table: tableName ·; and 2 more
  ⟨[(.name, 116), (.AS, 117)], [], some (.plainTable, afterTable)⟩,
  -- 70. tableName: name ·; tableName: name · point name
  ⟨[(.point, 118)], [], some (.shortTable, afterTableName)⟩,
  -- 71. column: expr AS name ·
  ⟨[], [], some (.columnAs, afterColumns)⟩,
  -- 72. expr: expr OR exclusive ·; exclusive: exclusive · XOR …
  ⟨[(.XOR, 40)], [], some (.disjoin, afterExpr)⟩,
  -- 73. column: name point star ·
  ⟨[], [], some (.allOfTable, afterColumns)⟩,
  -- 74. atom: name point name ·; atom: name point name · point name
  ⟨[(.point, 119)], [], some (.tableName, afterOperand)⟩,
  -- 75. exprs: expr ·; expr: expr · OR exclusive
  ⟨[(.OR, 37)], [], some (.firstExpr, afterExprs)⟩,
  -- 76. exprs: exprs · comma expr; and 1 more
  ⟨[(.comma, 120), (.rightBracket, 121)], [], none⟩,
  -- 77. atom: name leftBracket rightBracket ·
  ⟨[], [], some (.callEmpty, afterOperand)⟩,
  -- 78. atom: name leftBracket star · rightBracket
  ⟨[(.rightBracket, 122)], [], none⟩,
  -- 79. atom: name leftBracket DISTINCT · exprs rightBracket
  ⟨conditionShifts,
    [(.exclusive, 12), (.conjunction, 13), (.negation, 14),
     (.predicate, 15), (.bitOr, 17), (.bitXor, 18), (.bitAnd, 19),
     (.sum, 20), (.product, 21), (.signed, 22), (.atom, 23), (.expr, 75),
     (.exprs, 123)],
    none⟩,
  -- 80. exclusive: exclusive XOR conjunction ·; and 1 more
  ⟨[(.AND, 41)], [], some (.exclude, afterExclusive)⟩,
  -- 81. conjunction: conjunction AND negation ·
  ⟨[], [], some (.conjoin, afterConjunction)⟩,
  -- 82. atom: name point · name; atom: name point · name point name
  ⟨[(.name, 74)], [], none⟩,
  -- 83. predicate: bitOr comparison bitOr ·; bitOr: bitOr · bar bitXor
  ⟨[(.bar, 50)], [], some (.compare, afterConjunction)⟩,
  -- 84. predicate: bitOr IS NULL ·
  ⟨[], [], some (.isNull, afterConjunction)⟩,
  -- 85. predicate: bitOr IS NOT · NULL
  ⟨[(.NULL, 124)], [], none⟩,
  -- 86. predicate: bitOr IN valueList ·
  ⟨[], [], some (.isIn, afterConjunction)⟩,
  -- 87. valueList: leftBracket · exprs rightBracket; and 1 more
  ⟨[(.SELECT, 3), (.NOT, 16), (.minus, 24), (.number, 25),
     (.string, 26), (.TRUE, 27), (.FALSE, 28), (.NULL, 29),
     (.parameter, 30), (.leftBracket, 31), (.name, 43)],
    [(.exclusive, 12), (.conjunction, 13), (.negation, 14),
     (.predicate, 15), (.bitOr, 17), (.bitXor, 18), (.bitAnd, 19),
     (.sum, 20), (.product, 21), (.signed, 22), (.atom, 23), (.expr, 75),
     (.exprs, 125), (.query, 126)],
    none⟩,
  -- 88. valueList: parameter ·
  ⟨[], [], some (.boundValues, afterConjunction)⟩,
  -- 89. predicate: bitOr NOT IN · valueList
  ⟨[(.leftBracket, 87), (.parameter, 88)], [(.valueList, 127)], none⟩,
  -- 90. predicate: bitOr NOT LIKE · bitOr
  ⟨operandShifts,
    [(.bitXor, 18), (.bitAnd, 19), (.sum, 20), (.product, 21),
     (.signed, 22), (.atom, 23), (.bitOr, 128)],
    none⟩,
  -- 91. predicate: bitOr BETWEEN bitOr · AND bitOr; and 1 more
  ⟨[(.bar, 50), (.AND, 129)], [], none⟩,
  -- 92. predicate: bitOr LIKE bitOr ·; bitOr: bitOr · bar bitXor
  ⟨[(.bar, 50)], [], some (.like, afterConjunction)⟩,
  -- 93. bitOr: bitOr bar bitXor ·; bitXor: bitXor · caret bitAnd
  ⟨[(.caret, 51)], [], some (.bitOr, afterBitOr)⟩,
  -- 94. bitXor: bitXor caret bitAnd ·; bitAnd: bitAnd · ampersand sum
  ⟨[(.ampersand, 52)], [], some (.bitXor, afterBitXor)⟩,
  -- 95. bitAnd: bitAnd ampersand sum ·; and 2 more
  ⟨[(.plus, 53), (.minus, 54)], [], some (.bitAnd, afterBitAnd)⟩,
  -- 96. sum: sum plus product ·; and 3 more
  ⟨[(.star, 55), (.slash, 56), (.percent, 57)],
    [],
    some (.plus, afterSum)⟩,
  -- 97. sum: sum minus product ·; and 3 more
  ⟨[(.star, 55), (.slash, 56), (.percent, 57)],
    [],
    some (.minus, afterSum)⟩,
  -- 98. product: product star signed ·
  ⟨[], [], some (.multiply, afterOperand)⟩,
  -- 99. product: product slash signed ·
  ⟨[], [], some (.divide, afterOperand)⟩,
  -- 100. product: product percent signed ·
  ⟨[], [], some (.modulo, afterOperand)⟩,
  -- 101. atom: leftBracket expr rightBracket ·
  ⟨[], [], some (.bracketed, afterOperand)⟩,
  -- 102. exprs: exprs comma · expr; and 1 more
  ⟨conditionShifts,
    [(.exclusive, 12), (.conjunction, 13), (.negation, 14),
     (.predicate, 15), (.bitOr, 17), (.bitXor, 18), (.bitAnd, 19),
     (.sum, 20), (.product, 21), (.signed, 22), (.atom, 23),
     (.expr, 130)],
    none⟩,
  -- 103. atom: leftBracket query rightBracket ·
  ⟨[], [], some (.subquery, afterOperand)⟩,
  -- 104. query: SELECT rowKind columns sourceClause filterClause …
  ⟨[(.HAVING, 132)],
    [(.havingClause, 131)],
    some (.noHaving, afterHaving)⟩,
  -- 105. groupClause: GROUP · BY exprs
  ⟨[(.BY, 133)], [], none⟩,
  -- 106. filterClause: WHERE expr ·; expr: expr · OR exclusive
  ⟨[(.OR, 37)], [], some (.whereFilter, afterFilter)⟩,
  -- 107. sources: sources join ·
  ⟨[], [], some (.nextSource, afterSources)⟩,
  -- 108. join: joinKind · table; join: joinKind · table ON expr
  ⟨[(.name, 70)], [(.tableName, 69), (.table, 134)], none⟩,
  -- 109. join: comma · table
  ⟨[(.name, 70)], [(.tableName, 69), (.table, 135)], none⟩,
  -- 110. joinKind: JOIN ·
  ⟨[], [], some (.plainJoin, beforeTable)⟩,
  -- 111. joinKind: INNER · JOIN
  ⟨[(.JOIN, 136)], [], none⟩,
  -- 112. joinKind: LEFT · JOIN; joinKind: LEFT · OUTER JOIN
  ⟨[(.JOIN, 137), (.OUTER, 138)], [], none⟩,
  -- 113. joinKind: RIGHT · JOIN; joinKind: RIGHT · OUTER JOIN
  ⟨[(.JOIN, 139), (.OUTER, 140)], [], none⟩,
  -- 114. joinKind: CROSS · JOIN
  ⟨[(.JOIN, 141)], [], none⟩,
  -- 115. source: leftBracket query · rightBracket name; and 1 more
  ⟨[(.rightBracket, 142)], [], none⟩,
  -- 116. table: tableName name ·
  ⟨[], [], some (.namedTable, afterTable)⟩,
  -- 117. table: tableName AS · name
  ⟨[(.name, 143)], [], none⟩,
  -- 118. tableName: name point · name
  ⟨[(.name, 144)], [], none⟩,
  -- 119. atom: name point name point · name
  ⟨[(.name, 145)], [], none⟩,
  -- 120. exprs: exprs comma · expr
  ⟨conditionShifts,
    [(.exclusive, 12), (.conjunction, 13), (.negation, 14),
     (.predicate, 15), (.bitOr, 17), (.bitXor, 18), (.bitAnd, 19),
     (.sum, 20), (.product, 21), (.signed, 22), (.atom, 23),
     (.expr, 146)],
    none⟩,
  -- 121. atom: name leftBracket exprs rightBracket ·
  ⟨[], [], some (.call, afterOperand)⟩,
  -- 122. atom: name leftBracket star rightBracket ·
  ⟨[], [], some (.callStar, afterOperand)⟩,
  -- 123. exprs: exprs · comma expr; and 1 more
  ⟨[(.comma, 120), (.rightBracket, 147)], [], none⟩,
  -- 124. predicate: bitOr IS NOT NULL ·
  ⟨[], [], some (.isNotNull, afterConjunction)⟩,
  -- 125. exprs: exprs · comma expr; and 1 more
  ⟨[(.comma, 120), (.rightBracket, 148)], [], none⟩,
  -- 126. valueList: leftBracket query · rightBracket
  ⟨[(.rightBracket, 149)], [], none⟩,
  -- 127. predicate: bitOr NOT IN valueList ·
  ⟨[], [], some (.notIn, afterConjunction)⟩,
  -- 128. predicate: bitOr NOT LIKE bitOr ·; bitOr: bitOr · bar bitXor
  ⟨[(.bar, 50)], [], some (.notLike, afterConjunction)⟩,
  -- 129. predicate: bitOr BETWEEN bitOr AND · bitOr
  ⟨operandShifts,
    [(.bitXor, 18), (.bitAnd, 19), (.sum, 20), (.product, 21),
     (.signed, 22), (.atom, 23), (.bitOr, 150)],
    none⟩,
  -- 130. exprs: exprs comma expr ·; and 2 more
  ⟨[(.OR, 37), (.rightBracket, 151)], [], some (.nextExpr, atComma)⟩,
  -- 131. query: SELECT rowKind columns sourceClause filterClause …
  ⟨[(.ORDER, 153)], [(.orderClause, 152)], some (.noOrder, afterOrder)⟩,
  -- 132. havingClause: HAVING · expr
  ⟨conditionShifts,
    [(.exclusive, 12), (.conjunction, 13), (.negation, 14),
     (.predicate, 15), (.bitOr, 17), (.bitXor, 18), (.bitAnd, 19),
     (.sum, 20), (.product, 21), (.signed, 22), (.atom, 23),
     (.expr, 154)],
    none⟩,
  -- 133. groupClause: GROUP BY · exprs
  ⟨conditionShifts,
    [(.exclusive, 12), (.conjunction, 13), (.negation, 14),
     (.predicate, 15), (.bitOr, 17), (.bitXor, 18), (.bitAnd, 19),
     (.sum, 20), (.product, 21), (.signed, 22), (.atom, 23), (.expr, 75),
     (.exprs, 155)],
    none⟩,
  -- 134. join: joinKind table ·; join: joinKind table · ON expr
  ⟨[(.ON, 156)], [], some (.joinTable, afterSources)⟩,
  -- 135. join: comma table ·
  ⟨[], [], some (.joinComma, afterSources)⟩,
  -- 136. joinKind: INNER JOIN ·
  ⟨[], [], some (.innerJoin, beforeTable)⟩,
  -- 137. joinKind: LEFT JOIN ·
  ⟨[], [], some (.leftJoin, beforeTable)⟩,
  -- 138. joinKind: LEFT OUTER · JOIN
  ⟨[(.JOIN, 157)], [], none⟩,
  -- 139. joinKind: RIGHT JOIN ·
  ⟨[], [], some (.rightJoin, beforeTable)⟩,
  -- 140. joinKind: RIGHT OUTER · JOIN
  ⟨[(.JOIN, 158)], [], none⟩,
  -- 141. joinKind: CROSS JOIN ·
  ⟨[], [], some (.crossJoin, beforeTable)⟩,
  -- 142. source: leftBracket query rightBracket · name; and 1 more
  ⟨[(.name, 159), (.AS, 160)], [], none⟩,
  -- 143. table: tableName AS name ·
  ⟨[], [], some (.tableAs, afterTable)⟩,
  -- 144. tableName: name point name ·
  ⟨[], [], some (.longTable, afterTableName)⟩,
  -- 145. atom: name point name point name ·
  ⟨[], [], some (.databaseName, afterOperand)⟩,
  -- 146. exprs: exprs comma expr ·; expr: expr · OR exclusive
  ⟨[(.OR, 37)], [], some (.nextExpr, afterExprs)⟩,
  -- 147. atom: name leftBracket DISTINCT exprs rightBracket ·
  ⟨[], [], some (.callDistinct, afterOperand)⟩,
  -- 148. valueList: leftBracket exprs rightBracket ·
  ⟨[], [], some (.givenValues, afterConjunction)⟩,
  -- 149. valueList: leftBracket query rightBracket ·
  ⟨[], [], some (.selectedValues, afterConjunction)⟩,
  -- 150. predicate: bitOr BETWEEN bitOr AND bitOr ·; and 1 more
  ⟨[(.bar, 50)], [], some (.between, afterConjunction)⟩,
  -- 151. atom: leftBracket exprs comma expr rightBracket ·
  ⟨[], [], some (.tuple, afterOperand)⟩,
  -- 152. query: SELECT rowKind columns sourceClause filterClause …
  ⟨[(.LIMIT, 162)], [(.limitClause, 161)], some (.noLimit, afterQuery)⟩,
  -- 153. orderClause: ORDER · BY orderKeys
  ⟨[(.BY, 163)], [], none⟩,
  -- 154. havingClause: HAVING expr ·; expr: expr · OR exclusive
  ⟨[(.OR, 37)], [], some (.havingFilter, afterHaving)⟩,
  -- 155. groupClause: GROUP BY exprs ·; exprs: exprs · comma expr
  ⟨[(.comma, 120)], [], some (.groupBy, afterGroups)⟩,
  -- 156. join: joinKind table ON · expr
  ⟨conditionShifts,
    [(.exclusive, 12), (.conjunction, 13), (.negation, 14),
     (.predicate, 15), (.bitOr, 17), (.bitXor, 18), (.bitAnd, 19),
     (.sum, 20), (.product, 21), (.signed, 22), (.atom, 23),
     (.expr, 164)],
    none⟩,
  -- 157. joinKind: LEFT OUTER JOIN ·
  ⟨[], [], some (.leftOuterJoin, beforeTable)⟩,
  -- 158. joinKind: RIGHT OUTER JOIN ·
  ⟨[], [], some (.rightOuterJoin, beforeTable)⟩,
  -- 159. source: leftBracket query rightBracket name ·
  ⟨[], [], some (.derived, afterSources)⟩,
  -- 160. source: leftBracket query rightBracket AS · name
  ⟨[(.name, 165)], [], none⟩,
  -- 161. query: SELECT rowKind columns sourceClause filterClause …
  ⟨[], [], some (.query, afterQuery)⟩,
  -- 162. limitClause: LIMIT · limitValue; and 2 more
  ⟨[(.number, 167), (.parameter, 168)], [(.limitValue, 166)], none⟩,
  -- 163. orderClause: ORDER BY · orderKeys
  ⟨conditionShifts,
    [(.exclusive, 12), (.conjunction, 13), (.negation, 14),
     (.predicate, 15), (.bitOr, 17), (.bitXor, 18), (.bitAnd, 19),
     (.sum, 20), (.product, 21), (.signed, 22), (.atom, 23),
     (.orderKeys, 169), (.orderKey, 170), (.expr, 171)],
    none⟩,
  -- 164. join: joinKind table ON expr ·; expr: expr · OR exclusive
  ⟨[(.OR, 37)], [], some (.joinTableOn, afterSources)⟩,
  -- 165. source: leftBracket query rightBracket AS name ·
  ⟨[], [], some (.derivedAs, afterSources)⟩,
  -- 166. limitClause: LIMIT limitValue ·; and 2 more
  ⟨[(.comma, 172), (.OFFSET, 173)], [], some (.limitOnly, afterQuery)⟩,
  -- 167. limitValue: number ·
  ⟨[], [], some (.limitNumber, afterLimitValue)⟩,
  -- 168. limitValue: parameter ·
  ⟨[], [], some (.limitParameter, afterLimitValue)⟩,
  -- 169. orderClause: ORDER BY orderKeys ·; and 1 more
  ⟨[(.comma, 174)], [], some (.orderBy, afterOrder)⟩,
  -- 170. orderKeys: orderKey ·
  ⟨[], [], some (.firstKey, afterKeys)⟩,
  -- 171. orderKey: expr ·; and 2 more
  ⟨[(.OR, 37), (.direction, 175)], [], some (.plainKey, afterKeys)⟩,
  -- 172. limitClause: LIMIT limitValue comma · limitValue
  ⟨[(.number, 167), (.parameter, 168)], [(.limitValue, 176)], none⟩,
  -- 173. limitClause: LIMIT limitValue OFFSET · limitValue
  ⟨[(.number, 167), (.parameter, 168)], [(.limitValue, 177)], none⟩,
  -- 174. orderKeys: orderKeys comma · orderKey
  ⟨conditionShifts,
    [(.exclusive, 12), (.conjunction, 13), (.negation, 14),
     (.predicate, 15), (.bitOr, 17), (.bitXor, 18), (.bitAnd, 19),
     (.sum, 20), (.product, 21), (.signed, 22), (.atom, 23),
     (.expr, 171), (.orderKey, 178)],
    none⟩,
  -- 175. orderKey: expr direction ·
  ⟨[], [], some (.directedKey, afterKeys)⟩,
  -- 176. limitClause: LIMIT limitValue comma limitValue ·
  ⟨[], [], some (.limitComma, afterQuery)⟩,
  -- 177. limitClause: LIMIT limitValue OFFSET limitValue ·
  ⟨[], [], some (.limitOffset, afterQuery)⟩,
  -- 178. orderKeys: orderKeys comma orderKey ·
  ⟨[], [], some (.nextKey, afterKeys)⟩]

/-
  The row of a state; no way leads on from other numbers.  The
  table is large, so nothing looks into it unasked.
-/
@[irreducible] def row (state : Nat) : Row :=
  rows[state]?.getD ⟨[], [], none⟩

namespace Row

/- The rule to apply before the given next token. -/
def reductionOn?
    (r : Row)
    (next : Option Terminal) : Option Rule :=
  match r.reduction with
  | some (rule, set) => if set.holds next then some rule else none
  | none => none

/- A token of the given kind can come next. -/
def accepts
    (r : Row)
    (t : Terminal) : Bool :=
  (r.shifts.lookup t).isSome || (r.reductionOn? (some t)).isSome

end Row

end Automaton

end SqlTemplate
