/-
  The grammar of SELECT statements.

  A statement is a sequence of tokens, each of one of finitely
  many kinds, the terminals.  Phrases are built from tokens and
  smaller phrases by the rules.  A rule with an empty right
  side stands for something that is left out, and lists grow at
  their right end.

  Key definitions include:
    * `Terminal`
    * `Nonterminal`
    * `Symbol`
    * `Rule`
    * `Rule.lhs`
    * `Rule.rhs`
-/

------------------------------------------------------------
-- Symbols
------------------------------------------------------------

namespace SqlTemplate

/-
  The kinds of tokens: keywords, which carry the usual spelling
  of the keyword as their name, tokens with a content of their
  own, and punctuation.
-/
inductive Terminal where
| SELECT
| DISTINCT
| FROM
| WHERE
| GROUP
| BY
| HAVING
| ORDER
| LIMIT
| OFFSET
| AS
| JOIN
| INNER
| LEFT
| RIGHT
| OUTER
| CROSS
| ON
| OR
| XOR
| AND
| NOT
| IS
| IN
| BETWEEN
| LIKE
| TRUE
| FALSE
| NULL
| direction
| comparison
| parameter
| name
| number
| string
| semicolon
| comma
| star
| point
| leftBracket
| rightBracket
| bar
| caret
| ampersand
| plus
| minus
| slash
| percent
deriving DecidableEq, Repr, Inhabited

/-
  The kinds of phrases.  Those of expressions go from the
  loosest binding to the tightest, from `expr` to `atom`.
-/
inductive Nonterminal where
| statement
| query
| rowKind
| columns
| column
| sourceClause
| sources
| source
| table
| tableName
| join
| joinKind
| filterClause
| groupClause
| exprs
| havingClause
| orderClause
| orderKeys
| orderKey
| limitClause
| limitValue
| expr
| exclusive
| conjunction
| negation
| predicate
| valueList
| bitOr
| bitXor
| bitAnd
| sum
| product
| signed
| atom
deriving DecidableEq, Repr, Inhabited

/- A symbol is a token of some kind or a phrase of some kind. -/
inductive Symbol where
| token (t : Terminal)
| phrase (n : Nonterminal)
deriving DecidableEq, Repr, Inhabited

------------------------------------------------------------
-- Rules
------------------------------------------------------------

/- The rules by which phrases are built. -/
inductive Rule where
| plain
| terminated
| query
| everyRow
| distinctRows
| firstColumn
| nextColumn
| plainColumn
| namedColumn
| columnAs
| allColumns
| allOfTable
| noSource
| fromSources
| firstSource
| nextSource
| tableSource
| derived
| derivedAs
| plainTable
| namedTable
| tableAs
| shortTable
| longTable
| joinTable
| joinTableOn
| joinComma
| plainJoin
| innerJoin
| leftJoin
| leftOuterJoin
| rightJoin
| rightOuterJoin
| crossJoin
| noFilter
| whereFilter
| noGroups
| groupBy
| firstExpr
| nextExpr
| noHaving
| havingFilter
| noOrder
| orderBy
| firstKey
| nextKey
| plainKey
| directedKey
| noLimit
| limitOnly
| limitComma
| limitOffset
| limitNumber
| limitParameter
| exclusiveExpr
| disjoin
| conjunctionExpr
| exclude
| negationExpr
| conjoin
| predicateExpr
| negateCondition
| bitOrExpr
| compare
| isNull
| isNotNull
| isIn
| notIn
| between
| like
| notLike
| givenValues
| selectedValues
| boundValues
| bitXorExpr
| bitOr
| bitAndExpr
| bitXor
| sumExpr
| bitAnd
| productExpr
| plus
| minus
| signedExpr
| multiply
| divide
| modulo
| atomExpr
| negate
| number
| string
| trueValue
| falseValue
| nullValue
| parameter
| shortName
| tableName
| databaseName
| callEmpty
| callStar
| call
| callDistinct
| bracketed
| tuple
| subquery
deriving DecidableEq, Repr, Inhabited

namespace Rule

/- The kind of phrase that a rule builds. -/
def lhs : Rule → Nonterminal
| .plain | .terminated => .statement
| .query => .query
| .everyRow | .distinctRows => .rowKind
| .firstColumn | .nextColumn => .columns
| .plainColumn | .namedColumn | .columnAs | .allColumns
  | .allOfTable => .column
| .noSource | .fromSources => .sourceClause
| .firstSource | .nextSource => .sources
| .tableSource | .derived | .derivedAs => .source
| .plainTable | .namedTable | .tableAs => .table
| .shortTable | .longTable => .tableName
| .joinTable | .joinTableOn | .joinComma => .join
| .plainJoin | .innerJoin | .leftJoin | .leftOuterJoin
  | .rightJoin | .rightOuterJoin | .crossJoin => .joinKind
| .noFilter | .whereFilter => .filterClause
| .noGroups | .groupBy => .groupClause
| .firstExpr | .nextExpr => .exprs
| .noHaving | .havingFilter => .havingClause
| .noOrder | .orderBy => .orderClause
| .firstKey | .nextKey => .orderKeys
| .plainKey | .directedKey => .orderKey
| .noLimit | .limitOnly | .limitComma | .limitOffset => .limitClause
| .limitNumber | .limitParameter => .limitValue
| .exclusiveExpr | .disjoin => .expr
| .conjunctionExpr | .exclude => .exclusive
| .negationExpr | .conjoin => .conjunction
| .predicateExpr | .negateCondition => .negation
| .bitOrExpr | .compare | .isNull | .isNotNull | .isIn | .notIn
  | .between | .like | .notLike => .predicate
| .givenValues | .selectedValues | .boundValues => .valueList
| .bitXorExpr | .bitOr => .bitOr
| .bitAndExpr | .bitXor => .bitXor
| .sumExpr | .bitAnd => .bitAnd
| .productExpr | .plus | .minus => .sum
| .signedExpr | .multiply | .divide | .modulo => .product
| .atomExpr | .negate => .signed
| .number | .string | .trueValue | .falseValue | .nullValue
  | .parameter | .shortName | .tableName | .databaseName
  | .callEmpty | .callStar | .call | .callDistinct | .bracketed
  | .tuple | .subquery => .atom

/- The symbols that a rule builds its phrase from. -/
def rhs : Rule → List Symbol
| .plain => [.phrase .query]
| .terminated => [.phrase .query, .token .semicolon]
| .query => [.token .SELECT, .phrase .rowKind, .phrase .columns,
    .phrase .sourceClause, .phrase .filterClause, .phrase .groupClause,
    .phrase .havingClause, .phrase .orderClause, .phrase .limitClause]
| .everyRow => []
| .distinctRows => [.token .DISTINCT]
| .firstColumn => [.phrase .column]
| .nextColumn => [.phrase .columns, .token .comma, .phrase .column]
| .plainColumn => [.phrase .expr]
| .namedColumn => [.phrase .expr, .token .name]
| .columnAs => [.phrase .expr, .token .AS, .token .name]
| .allColumns => [.token .star]
| .allOfTable => [.token .name, .token .point, .token .star]
| .noSource => []
| .fromSources => [.token .FROM, .phrase .sources]
| .firstSource => [.phrase .source]
| .nextSource => [.phrase .sources, .phrase .join]
| .tableSource => [.phrase .table]
| .derived => [.token .leftBracket, .phrase .query,
    .token .rightBracket, .token .name]
| .derivedAs => [.token .leftBracket, .phrase .query,
    .token .rightBracket, .token .AS, .token .name]
| .plainTable => [.phrase .tableName]
| .namedTable => [.phrase .tableName, .token .name]
| .tableAs => [.phrase .tableName, .token .AS, .token .name]
| .shortTable => [.token .name]
| .longTable => [.token .name, .token .point, .token .name]
| .joinTable => [.phrase .joinKind, .phrase .table]
| .joinTableOn => [.phrase .joinKind, .phrase .table, .token .ON,
    .phrase .expr]
| .joinComma => [.token .comma, .phrase .table]
| .plainJoin => [.token .JOIN]
| .innerJoin => [.token .INNER, .token .JOIN]
| .leftJoin => [.token .LEFT, .token .JOIN]
| .leftOuterJoin => [.token .LEFT, .token .OUTER, .token .JOIN]
| .rightJoin => [.token .RIGHT, .token .JOIN]
| .rightOuterJoin => [.token .RIGHT, .token .OUTER, .token .JOIN]
| .crossJoin => [.token .CROSS, .token .JOIN]
| .noFilter => []
| .whereFilter => [.token .WHERE, .phrase .expr]
| .noGroups => []
| .groupBy => [.token .GROUP, .token .BY, .phrase .exprs]
| .firstExpr => [.phrase .expr]
| .nextExpr => [.phrase .exprs, .token .comma, .phrase .expr]
| .noHaving => []
| .havingFilter => [.token .HAVING, .phrase .expr]
| .noOrder => []
| .orderBy => [.token .ORDER, .token .BY, .phrase .orderKeys]
| .firstKey => [.phrase .orderKey]
| .nextKey => [.phrase .orderKeys, .token .comma, .phrase .orderKey]
| .plainKey => [.phrase .expr]
| .directedKey => [.phrase .expr, .token .direction]
| .noLimit => []
| .limitOnly => [.token .LIMIT, .phrase .limitValue]
| .limitComma => [.token .LIMIT, .phrase .limitValue, .token .comma,
    .phrase .limitValue]
| .limitOffset => [.token .LIMIT, .phrase .limitValue, .token .OFFSET,
    .phrase .limitValue]
| .limitNumber => [.token .number]
| .limitParameter => [.token .parameter]
| .exclusiveExpr => [.phrase .exclusive]
| .disjoin => [.phrase .expr, .token .OR, .phrase .exclusive]
| .conjunctionExpr => [.phrase .conjunction]
| .exclude => [.phrase .exclusive, .token .XOR, .phrase .conjunction]
| .negationExpr => [.phrase .negation]
| .conjoin => [.phrase .conjunction, .token .AND, .phrase .negation]
| .predicateExpr => [.phrase .predicate]
| .negateCondition => [.token .NOT, .phrase .negation]
| .bitOrExpr => [.phrase .bitOr]
| .compare => [.phrase .bitOr, .token .comparison, .phrase .bitOr]
| .isNull => [.phrase .bitOr, .token .IS, .token .NULL]
| .isNotNull => [.phrase .bitOr, .token .IS, .token .NOT, .token .NULL]
| .isIn => [.phrase .bitOr, .token .IN, .phrase .valueList]
| .notIn => [.phrase .bitOr, .token .NOT, .token .IN,
    .phrase .valueList]
| .between => [.phrase .bitOr, .token .BETWEEN, .phrase .bitOr,
    .token .AND, .phrase .bitOr]
| .like => [.phrase .bitOr, .token .LIKE, .phrase .bitOr]
| .notLike => [.phrase .bitOr, .token .NOT, .token .LIKE,
    .phrase .bitOr]
| .givenValues => [.token .leftBracket, .phrase .exprs,
    .token .rightBracket]
| .selectedValues => [.token .leftBracket, .phrase .query,
    .token .rightBracket]
| .boundValues => [.token .parameter]
| .bitXorExpr => [.phrase .bitXor]
| .bitOr => [.phrase .bitOr, .token .bar, .phrase .bitXor]
| .bitAndExpr => [.phrase .bitAnd]
| .bitXor => [.phrase .bitXor, .token .caret, .phrase .bitAnd]
| .sumExpr => [.phrase .sum]
| .bitAnd => [.phrase .bitAnd, .token .ampersand, .phrase .sum]
| .productExpr => [.phrase .product]
| .plus => [.phrase .sum, .token .plus, .phrase .product]
| .minus => [.phrase .sum, .token .minus, .phrase .product]
| .signedExpr => [.phrase .signed]
| .multiply => [.phrase .product, .token .star, .phrase .signed]
| .divide => [.phrase .product, .token .slash, .phrase .signed]
| .modulo => [.phrase .product, .token .percent, .phrase .signed]
| .atomExpr => [.phrase .atom]
| .negate => [.token .minus, .phrase .signed]
| .number => [.token .number]
| .string => [.token .string]
| .trueValue => [.token .TRUE]
| .falseValue => [.token .FALSE]
| .nullValue => [.token .NULL]
| .parameter => [.token .parameter]
| .shortName => [.token .name]
| .tableName => [.token .name, .token .point, .token .name]
| .databaseName => [.token .name, .token .point, .token .name,
    .token .point, .token .name]
| .callEmpty => [.token .name, .token .leftBracket,
    .token .rightBracket]
| .callStar => [.token .name, .token .leftBracket, .token .star,
    .token .rightBracket]
| .call => [.token .name, .token .leftBracket, .phrase .exprs,
    .token .rightBracket]
| .callDistinct => [.token .name, .token .leftBracket, .token .DISTINCT,
    .phrase .exprs, .token .rightBracket]
| .bracketed => [.token .leftBracket, .phrase .expr,
    .token .rightBracket]
| .tuple => [.token .leftBracket, .phrase .exprs, .token .comma,
    .phrase .expr, .token .rightBracket]
| .subquery => [.token .leftBracket, .phrase .query,
    .token .rightBracket]

end Rule

end SqlTemplate
