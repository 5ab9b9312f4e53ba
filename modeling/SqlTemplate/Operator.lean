import SqlTemplate.Text.Shown

/-
  The operators of expressions: comparison, membership,
  arithmetic and bitwise operators take two operands,
  connectives any number, and unary ones stand before or after
  their operand.

  Key definitions include:
    * `BinaryOp`
    * `ConnectiveOp`
    * `UnaryOp`
    * `Operator`
    * `Operator.all`
    * `Operator.name`
    * `Operator.ofName`
    * `Operator.symbol`
    * `Operator.groups`
    * `OperatorError`
-/

------------------------------------------------------------
-- Operators
------------------------------------------------------------

namespace SqlTemplate

/- Operators with two operands. -/
inductive BinaryOp where
| equal
| different
| notEqual
| less
| lessOrEqual
| greater
| greaterOrEqual
| nullSafeEqual
| like
| notLike
| isIn
| notIn
| plus
| minus
| multiply
| divide
| modulo
| bitwiseAnd
| bitwiseOr
| bitwiseXor
deriving DecidableEq, Repr, Inhabited

/- Boolean connectives. -/
inductive ConnectiveOp where
| and
| or
| xor
deriving DecidableEq, Repr, Inhabited

/- Operators with one operand. -/
inductive UnaryOp where
| not
| negate
| isNull
| isNotNull
deriving DecidableEq, Repr, Inhabited

/- All operators. -/
inductive Operator where
| binary (op : BinaryOp)
| connective (op : ConnectiveOp)
| unary (op : UnaryOp)
deriving DecidableEq, Repr, Inhabited

------------------------------------------------------------
-- Symbols
------------------------------------------------------------

/- The symbol written between two operands. -/
def BinaryOp.symbol : BinaryOp → String
| .equal => "="
| .different => "<>"
| .notEqual => "!="
| .less => "<"
| .lessOrEqual => "<="
| .greater => ">"
| .greaterOrEqual => ">="
| .nullSafeEqual => "<=>"
| .like => "LIKE"
| .notLike => "NOT LIKE"
| .isIn => "IN"
| .notIn => "NOT IN"
| .plus => "+"
| .minus => "-"
| .multiply => "*"
| .divide => "/"
| .modulo => "%"
| .bitwiseAnd => "&"
| .bitwiseOr => "|"
| .bitwiseXor => "^"

/- The word written between the operands of a connective. -/
def ConnectiveOp.symbol : ConnectiveOp → String
| .and => "AND"
| .or => "OR"
| .xor => "XOR"

/- The symbol of an operator with one operand. -/
def UnaryOp.symbol : UnaryOp → String
| .not => "NOT"
| .negate => "-"
| .isNull => "IS NULL"
| .isNotNull => "IS NOT NULL"

/- The symbol written for an operator. -/
def Operator.symbol : Operator → String
| .binary op => op.symbol
| .connective op => op.symbol
| .unary op => op.symbol

------------------------------------------------------------
-- Groups
------------------------------------------------------------

/-
  Comparing with an unbound parameter becomes a null test
  under these operators.
-/
def BinaryOp.isNullLenient (op : BinaryOp) : Bool :=
  op == .equal

/- The right operand of these operators is a list of values. -/
def BinaryOp.isMembership (op : BinaryOp) : Bool :=
  op == .isIn || op == .notIn

/- A comparison with null has no list of values. -/
theorem BinaryOp.isNullLenient_of_isMembership
    {op : BinaryOp}
    (hOp : op.isMembership = true) :
    op.isNullLenient = false := by
  cases op <;> first | rfl | cases hOp

theorem BinaryOp.isMembership_of_isNullLenient
    {op : BinaryOp}
    (hOp : op.isNullLenient = true) :
    op.isMembership = false := by
  cases op <;> first | rfl | cases hOp

/- These operators are written after their operand. -/
def UnaryOp.isPostfix (op : UnaryOp) : Bool :=
  op == .isNull || op == .isNotNull

/- The names of the groups an operator belongs to. -/
def Operator.groups : Operator → List String
| .binary op =>
    (if op.isNullLenient then ["NULL_LENIENT_OPS"] else []) ++
      (if op.isMembership then ["IN_LIST_OPS"] else []) ++
        ["BINARY_OPS"]
| .connective _ => ["CONNECTIVE_OPS"]
| .unary op =>
    [if op.isPostfix then "POSTFIX_OPS" else "PREFIX_OPS",
      "UNARY_OPS"]

------------------------------------------------------------
-- Names
------------------------------------------------------------

/- The name of an operator with two operands. -/
def BinaryOp.name : BinaryOp → String
| .equal => "equal"
| .different => "different"
| .notEqual => "not_equal"
| .less => "less"
| .lessOrEqual => "less_or_equal"
| .greater => "greater"
| .greaterOrEqual => "greater_or_equal"
| .nullSafeEqual => "null_safe_equal"
| .like => "like"
| .notLike => "not_like"
| .isIn => "in"
| .notIn => "not_in"
| .plus => "plus"
| .minus => "minus"
| .multiply => "multiply"
| .divide => "divide"
| .modulo => "modulo"
| .bitwiseAnd => "bitwise_and"
| .bitwiseOr => "bitwise_or"
| .bitwiseXor => "bitwise_xor"

/- The name of a connective. -/
def ConnectiveOp.name : ConnectiveOp → String
| .and => "and"
| .or => "or"
| .xor => "xor"

/- The name of an operator with one operand. -/
def UnaryOp.name : UnaryOp → String
| .not => "not"
| .negate => "negate"
| .isNull => "is_null"
| .isNotNull => "is_not_null"

namespace Operator

/- The name of an operator. -/
def name : Operator → String
| .binary op => op.name
| .connective op => op.name
| .unary op => op.name

/- Every operator once. -/
def all : List Operator :=
  [BinaryOp.equal, .different, .notEqual, .less, .lessOrEqual,
    .greater, .greaterOrEqual, .nullSafeEqual, .like, .notLike,
    .isIn, .notIn, .plus, .minus, .multiply, .divide, .modulo,
    .bitwiseAnd, .bitwiseOr, .bitwiseXor].map .binary ++
  [ConnectiveOp.and, .or, .xor].map .connective ++
  [UnaryOp.not, .negate, .isNull, .isNotNull].map .unary

/- The operator of a name. -/
def ofName? (name : String) : Option Operator :=
  all.find? fun op => op.name == name

/- The form in which messages show an operator. -/
def shown (op : Operator) : String :=
  "<OperatorKind." ++ op.name.map Char.toUpper ++ ": '" ++
    op.name ++ "'>"

end Operator

------------------------------------------------------------
-- Misplaced Operators
------------------------------------------------------------

/- Why an expression cannot be built with an operator. -/
inductive OperatorError where
| unknown (name : String)
| notBinary (op : Operator)
| notConnective (op : Operator)
| notUnary (op : Operator)
deriving DecidableEq, Repr, Inhabited

namespace Operator

/- The operator of a name, or that there is none. -/
def ofName (name : String) : Except OperatorError Operator :=
  match ofName? name with
  | some op => .ok op
  | none => .error (.unknown name)

/- An operator as one with two operands. -/
def asBinary : Operator → Except OperatorError BinaryOp
| .binary op => .ok op
| op => .error (.notBinary op)

/- An operator as a connective. -/
def asConnective : Operator → Except OperatorError ConnectiveOp
| .connective op => .ok op
| op => .error (.notConnective op)

/- An operator as one with a single operand. -/
def asUnary : Operator → Except OperatorError UnaryOp
| .unary op => .ok op
| op => .error (.notUnary op)

end Operator

/- What is said about a misplaced operator. -/
def OperatorError.message : OperatorError → String
| .unknown name =>
    Text.shown name ++ " is not a valid OperatorKind"
| .notBinary op => op.shown ++ " is not a two-operand operator"
| .notConnective op => op.shown ++ " is not a connective"
| .notUnary op => op.shown ++ " is not a unary operator"

end SqlTemplate
