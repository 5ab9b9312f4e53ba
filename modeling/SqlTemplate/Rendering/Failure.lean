import SqlTemplate.Dialect.Identifier
import SqlTemplate.Dialect.Literal
import SqlTemplate.Report
import SqlTemplate.Value.Shown

/-
  The causes for which a tree cannot be written, and what is
  reported about them.

  Key definitions include:
    * `RenderError`
    * `IdentifierError.report`
    * `LiteralError.report`
    * `RenderError.report?`
-/

------------------------------------------------------------
-- Causes
------------------------------------------------------------

namespace SqlTemplate

/- Why a tree cannot be written. -/
inductive RenderError where
| identifier (e : IdentifierError)
| literal (e : LiteralError)
| notNumeral (name : String) (value : Value)
| unboundMember (symbol name : String)
| offsetAlone
| offsetKept (offset : String)
| foreignNode (typeName : String)
| emptyOperand (symbol : String)
| emptyBetween
| emptyAlias (name : String)
| tooDeep (depth : Nat) (limit : Int)
| noSelect
| argumentsNotListed
| membersNotListed
deriving Inhabited

------------------------------------------------------------
-- Reports
------------------------------------------------------------

/- What is reported about a name that cannot be written. -/
def IdentifierError.report : IdentifierError → Report
| .empty =>
    .of .invalidIdentifier "identifier cannot be empty"
      "empty identifier provided"
| .holdsNul name =>
    .of .invalidIdentifier "identifier cannot contain null bytes"
      ("null byte found in identifier: " ++ Text.shown name)
| .tooLong name limit =>
    .of .invalidIdentifier "identifier too long"
      ("identifier '" ++ name ++ "' exceeds " ++ Digits.text limit ++
        " characters")

/- What is reported about a value that has no literal. -/
def LiteralError.report : LiteralError → Report
| .notFinite x =>
    .of .unsupportedType "unsupported parameter value type"
      ("non-finite float " ++ String.ofList x.toChars ++
        " has no SQL literal")
| .holdsNul s =>
    .of .unsupportedType "string literals cannot contain null bytes"
      ("null byte found in string literal: " ++ Text.shown s)
| .noLiteral typeName =>
    .of .unsupportedType "unsupported parameter value type"
      ("cannot write " ++ typeName ++ " value as a SQL literal")

namespace RenderError

/- The message about an offset that no limit goes with. -/
def offsetMessage : String :=
  "there is no offset if no limit is provided; " ++
    "an error may have occurred during SQL parsing"

/- A report of an operand place that holds nothing. -/
def emptyPlace (details : String) : Report :=
  .of .unsupportedNode "operator is missing an operand" details

/-
  What is reported about a tree that cannot be written.  There
  is no report about a slot whose content has the wrong shape:
  a subquery without a SELECT, and arguments or the group after
  IN without a list.
-/
def report? : RenderError → Option Report
| .identifier e => some e.report
| .literal e => some e.report
| .notNumeral name value =>
    some (.of .unsupportedType "unsupported parameter value type"
      ("parameter '" ++ name ++ "' must be an integer, got " ++
        value.shown))
| .unboundMember symbol name =>
    some (.of .missingParameter name
      (symbol ++ " list parameter '" ++ name ++ "' is not bound"))
| .offsetAlone =>
    some (.of .clauseCombination offsetMessage
      "statement has an OFFSET but no LIMIT")
| .offsetKept offset =>
    some (.of .clauseCombination offsetMessage
      ("LIMIT rendered absent while OFFSET rendered " ++
        Text.shown offset))
| .foreignNode typeName =>
    some (.of .unsupportedNode "unsupported node type"
      ("cannot render " ++ typeName))
| .emptyOperand symbol =>
    some (emptyPlace (symbol ++ " operator has an empty operand slot"))
| .emptyBetween =>
    some (emptyPlace "BETWEEN has an empty operand slot")
| .emptyAlias name =>
    some (emptyPlace ("alias '" ++ name ++ "' has nothing to name"))
| .tooDeep depth limit =>
    some (.of .tooDeep "maximum recursion depth exceeded"
      ("depth " ++ Digits.text depth ++ " exceeds limit " ++
        Digits.textInt limit))
| .noSelect => none
| .argumentsNotListed => none
| .membersNotListed => none

end RenderError

end SqlTemplate
