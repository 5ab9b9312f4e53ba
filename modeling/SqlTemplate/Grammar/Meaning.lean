import SqlTemplate.Grammar.Derivation
import SqlTemplate.Node
import SqlTemplate.Text.Quoted
import SqlTemplate.Text.Shown
import SqlTemplate.Text.Uppercase

/-
  The meaning of derivations: every rule makes the meaning of
  its phrase from the meanings of its parts, and a derivation
  of a statement means a query.

  Key definitions include:
    * `TableName`
    * `Symbol.Meaning`
    * `Meanings`
    * `Rule.meaning`
    * `Derivation.meaning`
    * `NumeralError`
    * `Derivation.numeralError?`
-/

------------------------------------------------------------
-- Meanings of Tokens
------------------------------------------------------------

namespace SqlTemplate

namespace Token

/- The name that a bare or quoted name token denotes. -/
def nameOf (cs : List Char) : String :=
  match cs with
  | [] => ""
  | q :: rest =>
      if q == '\x60' || q == '"' then
        String.ofList (Text.undouble q rest.dropLast)
      else
        String.ofList cs

/- The content that a string token denotes. -/
def textOf (cs : List Char) : String :=
  String.ofList (Text.undouble '\'' (cs.drop 1).dropLast)

/- The name of the parameter that a parameter token denotes. -/
def parameterOf (cs : List Char) : String :=
  String.ofList (cs.drop 1)

/- The values of the digits of a text. -/
def digitsOf (cs : List Char) : List Nat :=
  cs.filterMap Text.digit?

/-
  The number that a number token denotes: a whole number, or a
  decimal one if it has a point.
-/
def numberOf (cs : List Char) : Value :=
  let whole := cs.takeWhile (· != '.')
  match cs.dropWhile (· != '.') with
  | [] => .int (Digits.ofDigits (digitsOf whole))
  | _ :: fraction =>
      .decimal (.ofParts (digitsOf whole) (digitsOf fraction))

/- The operator that a comparison token denotes. -/
def comparisonOf : List Char → BinaryOp
| ['<', '=', '>'] => .nullSafeEqual
| ['<', '='] => .lessOrEqual
| ['<', '>'] => .different
| ['<'] => .less
| ['>', '='] => .greaterOrEqual
| ['>'] => .greater
| ['!', '='] => .notEqual
| _ => .equal

end Token

------------------------------------------------------------
-- Meanings of Symbols
------------------------------------------------------------

/- A table by its name, before it is joined to others. -/
structure TableName where
  name : String
  label : Option String
  database : Option String
deriving DecidableEq, Repr, Inhabited

/- A table in its place among the sources of a query. -/
def TableName.node
    (t : TableName)
    (join : Option String)
    (condition : Slot Node) : Node :=
  .table t.name t.label t.database join condition

/- What a phrase of each kind means. -/
def Nonterminal.Meaning : Nonterminal → Type
| .statement | .query => Query Node
| .rowKind => Bool
| .columns | .sources | .exprs | .orderKeys => List Node
| .sourceClause | .filterClause | .groupClause | .havingClause
| .orderClause => Slot Node
| .table => TableName
| .tableName => Option String × String
| .joinKind => String
| .limitClause => Slot Node × Slot Node
| .column | .source | .join | .orderKey | .limitValue | .expr
| .exclusive | .conjunction | .negation | .predicate | .valueList
| .bitOr | .bitXor | .bitAnd | .sum | .product | .signed | .atom =>
    Node

/- A token means its characters. -/
def Symbol.Meaning : Symbol → Type
| .token _ => List Char
| .phrase n => n.Meaning

/- Functions of the meanings of a sequence of symbols. -/
def Meanings (α : Type) : List Symbol → Type
| [] => α
| s :: ss => s.Meaning → Meanings α ss

------------------------------------------------------------
-- Meanings of Rules
------------------------------------------------------------

namespace Node

/-
  Join two conditions.  A chain of the same connective becomes
  one node with all its operands.
-/
def connect
    (op : ConnectiveOp)
    (left right : Node) : Node :=
  match left with
  | .connective op' operands =>
      if op' = op then
        .connective op (operands.append right)
      else
        .connective op (.ofList [left, right])
  | _ => .connective op (.ofList [left, right])

/-
  The negative of an operand.  A literal number or truth value
  becomes the negative number at once.
-/
def negative (operand : Node) : Node :=
  match operand with
  | .literal (.int n) => .literal (.int (-n))
  | .literal (.bool b) => .literal (.int (if b then -1 else 0))
  | .literal (.decimal d) => .literal (.decimal d.negate)
  | _ => .unary .negate (.one operand)

/- An operator between two operands. -/
def infixed
    (op : BinaryOp)
    (left right : Node) : Node :=
  .binary op (.one left) (.one right)

/- Expressions in brackets with commas between them. -/
def tupled (ns : List Node) : Node :=
  .group (.ofList ns) true ", "

end Node

/- The meaning that each rule gives its phrase. -/
def Rule.meaning :
    (r : Rule) → Meanings r.lhs.Meaning r.rhs
| .plain => fun q => q
| .terminated => fun q _ => q
| .query =>
    fun _ distinct columns source filter groups having order limit =>
      { columns := Slot.ofList columns
        source, filter, groups, having, order
        limit := limit.1, offset := limit.2
        distinct, options := [] }
| .everyRow => false
| .distinctRows => fun _ => true
| .firstColumn => fun n => [n]
| .nextColumn => fun ns _ n => List.concat ns n
| .plainColumn => fun n => n
| .namedColumn => fun n name => .alias (.one n) (Token.nameOf name)
| .columnAs => fun n _ name => .alias (.one n) (Token.nameOf name)
| .allColumns => fun _ => .column "*" none none
| .allOfTable => fun name _ _ =>
    .column "*" (some (Token.nameOf name)) none
| .noSource => .vacant
| .fromSources => fun _ ns => .ofList ns
| .firstSource => fun n => [n]
| .nextSource => fun ns n => List.concat ns n
| .tableSource => fun t => t.node none .vacant
| .derived => fun _ q _ name =>
    .subquery (.one (.select q)) (some (Token.nameOf name))
| .derivedAs => fun _ q _ _ name =>
    .subquery (.one (.select q)) (some (Token.nameOf name))
| .plainTable => fun t => ⟨t.2, none, t.1⟩
| .namedTable => fun t name => ⟨t.2, some (Token.nameOf name), t.1⟩
| .tableAs => fun t _ name => ⟨t.2, some (Token.nameOf name), t.1⟩
| .shortTable => fun name => (none, Token.nameOf name)
| .longTable => fun database _ name =>
    (some (Token.nameOf database), Token.nameOf name)
| .joinTable => fun kind t => t.node (some kind) .vacant
| .joinTableOn => fun kind t _ n => t.node (some kind) (.one n)
| .joinComma => fun _ t => t.node (some "CROSS JOIN") .vacant
| .plainJoin => fun _ => "JOIN"
| .innerJoin => fun _ _ => "INNER JOIN"
| .leftJoin => fun _ _ => "LEFT JOIN"
| .leftOuterJoin => fun _ _ _ => "LEFT JOIN"
| .rightJoin => fun _ _ => "RIGHT JOIN"
| .rightOuterJoin => fun _ _ _ => "RIGHT JOIN"
| .crossJoin => fun _ _ => "CROSS JOIN"
| .noFilter => .vacant
| .whereFilter => fun _ n => .one n
| .noGroups => .vacant
| .groupBy => fun _ _ ns => .ofList ns
| .firstExpr => fun n => [n]
| .nextExpr => fun ns _ n => List.concat ns n
| .noHaving => .vacant
| .havingFilter => fun _ n => .one n
| .noOrder => .vacant
| .orderBy => fun _ _ ns => .ofList ns
| .firstKey => fun n => [n]
| .nextKey => fun ns _ n => List.concat ns n
| .plainKey => fun n => .orderBy (.one n) none
| .directedKey => fun n direction =>
    .orderBy (.one n) (some (Text.upper (String.ofList direction)))
| .noLimit => (.vacant, .vacant)
| .limitOnly => fun _ limit => (.one limit, .vacant)
| .limitComma => fun _ offset _ limit => (.one limit, .one offset)
| .limitOffset => fun _ limit _ offset => (.one limit, .one offset)
| .limitNumber => fun number => .literal (Token.numberOf number)
| .limitParameter => fun name => .numeral (Token.parameterOf name)
| .exclusiveExpr => fun n => n
| .disjoin => fun l _ r => Node.connect .or l r
| .conjunctionExpr => fun n => n
| .exclude => fun l _ r => Node.connect .xor l r
| .negationExpr => fun n => n
| .conjoin => fun l _ r => Node.connect .and l r
| .predicateExpr => fun n => n
| .negateCondition => fun _ n => .unary .not (.one n)
| .bitOrExpr => fun n => n
| .compare => fun l op r => Node.infixed (Token.comparisonOf op) l r
| .isNull => fun n _ _ => .unary .isNull (.one n)
| .isNotNull => fun n _ _ _ => .unary .isNotNull (.one n)
| .isIn => fun l _ r => Node.infixed .isIn l r
| .notIn => fun l _ _ r => Node.infixed .notIn l r
| .between => fun n _ low _ high =>
    .between (.one n) (.one low) (.one high)
| .like => fun l _ r => Node.infixed .like l r
| .notLike => fun l _ _ r => Node.infixed .notLike l r
| .givenValues => fun _ ns _ => Node.tupled ns
| .selectedValues => fun _ q _ => .subquery (.one (.select q)) none
| .boundValues => fun name => .parameter (Token.parameterOf name)
| .bitXorExpr => fun n => n
| .bitOr => fun l _ r => Node.infixed .bitwiseOr l r
| .bitAndExpr => fun n => n
| .bitXor => fun l _ r => Node.infixed .bitwiseXor l r
| .sumExpr => fun n => n
| .bitAnd => fun l _ r => Node.infixed .bitwiseAnd l r
| .productExpr => fun n => n
| .plus => fun l _ r => Node.infixed .plus l r
| .minus => fun l _ r => Node.infixed .minus l r
| .signedExpr => fun n => n
| .multiply => fun l _ r => Node.infixed .multiply l r
| .divide => fun l _ r => Node.infixed .divide l r
| .modulo => fun l _ r => Node.infixed .modulo l r
| .atomExpr => fun n => n
| .negate => fun _ n => Node.negative n
| .number => fun number => .literal (Token.numberOf number)
| .string => fun s => .literal (.text (Token.textOf s))
| .trueValue => fun _ => .literal (.bool true)
| .falseValue => fun _ => .literal (.bool false)
| .nullValue => fun _ => .literal .null
| .parameter => fun name => .parameter (Token.parameterOf name)
| .shortName => fun name => .column (Token.nameOf name) none none
| .tableName => fun owner _ name =>
    .column (Token.nameOf name) (some (Token.nameOf owner)) none
| .databaseName => fun database _ owner _ name =>
    .column (Token.nameOf name) (some (Token.nameOf owner))
      (some (Token.nameOf database))
| .callEmpty => fun name _ _ =>
    .call (Text.upper (Token.nameOf name)) (.ofList []) false
| .callStar => fun name _ _ _ =>
    .call (Text.upper (Token.nameOf name))
      (.ofList [.column "*" none none]) false
| .call => fun name _ args _ =>
    .call (Text.upper (Token.nameOf name)) (.ofList args) false
| .callDistinct => fun name _ _ args _ =>
    .call (Text.upper (Token.nameOf name)) (.ofList args) true
| .bracketed => fun _ n _ => n.bracketed
| .tuple => fun _ ns _ n _ => Node.tupled (List.concat ns n)
| .subquery => fun _ q _ => .subquery (.one (.select q)) none

------------------------------------------------------------
-- Meanings of Derivations
------------------------------------------------------------

mutual

/- The meaning of a derivation. -/
def Derivation.meaning {s : Symbol} : Derivation s → s.Meaning
| .leaf t => t.text
| .node r parts => parts.meaning r.meaning

/- The value of a function of the meanings of derivations. -/
def Derivations.meaning {α : Type} {ss : List Symbol} :
    Derivations ss → Meanings α ss → α
| .nil, a => a
| .cons head tail, f => tail.meaning (f head.meaning)

end

------------------------------------------------------------
-- Numerals without a Meaning
------------------------------------------------------------

/-
  Why a number token has no meaning at its place: the number of
  a limit has a fraction, or a whole number has more digits
  than can be read.
-/
inductive NumeralError where
| fraction (text : List Char)
| tooManyDigits (count : Nat)
deriving DecidableEq, Repr, Inhabited

namespace NumeralError

/- The greatest number of digits of a whole number. -/
def maxDigits : Nat := 4300

/- The greatest length of a token that is shown in a message. -/
def maxShown : Nat := 200

/- What is said about a numeral. -/
def details : NumeralError → String
| .fraction text =>
    let token :=
      "Token('NUMBER', " ++ Text.shown (String.ofList text) ++ ")"
    "invalid literal for int() with base 10: " ++
      String.ofList (token.toList.take maxShown)
| .tooManyDigits count =>
    "Exceeds the limit (" ++ Digits.text maxDigits ++
      " digits) for integer string conversion: value has " ++
      Digits.text count ++
      " digits; use sys.set_int_max_str_digits() to increase the limit"

end NumeralError

/- The error of a whole number with the given digits. -/
def wholeError? (digits : List Char) : Option NumeralError :=
  if NumeralError.maxDigits < digits.length then
    some (.tooManyDigits digits.length)
  else
    none

/- The error of a number, which can have a fraction. -/
def numberError? (cs : List Char) : Option NumeralError :=
  if cs.contains '.' then none else wholeError? cs

/- The error of the number of a limit. -/
def limitError? (cs : List Char) : Option NumeralError :=
  match wholeError? (cs.takeWhile (· != '.')) with
  | some e => some e
  | none => if cs.contains '.' then some (.fraction cs) else none

/- The characters of the token that derivations start with. -/
def Derivations.leadingText {ss : List Symbol} :
    Derivations ss → List Char
| .cons (.leaf t) _ => t.text
| _ => []

mutual

/- The first error among the numbers of a derivation. -/
def Derivation.numeralError? {s : Symbol} :
    Derivation s → Option NumeralError
| .leaf _ => none
| .node r parts =>
    match r with
    | .number => numberError? parts.leadingText
    | .limitNumber => limitError? parts.leadingText
    | _ => parts.numeralError?

/- The first error among the numbers of derivations. -/
def Derivations.numeralError? {ss : List Symbol} :
    Derivations ss → Option NumeralError
| .nil => none
| .cons head tail =>
    match head.numeralError? with
    | some e => some e
    | none => tail.numeralError?

end

end SqlTemplate
