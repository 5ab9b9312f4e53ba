/-
  Reports of failures: a message for the user and details for
  the log.

  Key definitions include:
    * `FailureKind`
    * `Report`
    * `Report.of`
-/

------------------------------------------------------------
-- Reports
------------------------------------------------------------

namespace SqlTemplate

/- The kinds of failures; `general` stands for any of them. -/
inductive FailureKind where
| general
| missingParameter
| clauseCombination
| unsupportedNode
| unsupportedType
| invalidIdentifier
| tooDeep
| invalidVisit
| invalidSyntax
deriving DecidableEq, Repr, Inhabited

/- A report of a failure. -/
structure Report where
  kind : FailureKind
  message : String
  details : String
deriving DecidableEq, Repr, Inhabited

namespace Report

/-
  A report of the given kind.  The text of a missing parameter
  is its name; a report without details repeats its message.
-/
def of
    (kind : FailureKind)
    (text details : String) : Report :=
  let message :=
    if kind = .missingParameter then
      "missing parameter '" ++ text ++ "'"
    else
      text
  { kind, message,
    details := if details.isEmpty then message else details }

end Report

end SqlTemplate
