import SqlTemplate.Dialect
import SqlTemplate.Grammar.Meaning

/-
  The syntax of limits.  All dialects read the limit before the
  offset if the offset has a keyword; two of them also read two
  numbers with a comma between them, and then the offset comes
  first.

  Key definitions include:
    * `countOf`
    * `readCount`
    * `Dialect.readsComma`
    * `Dialect.readLimit`
-/

------------------------------------------------------------
-- Counts
------------------------------------------------------------

namespace SqlTemplate

/- The number that the digits of a text denote. -/
def countOf (cs : List Char) : Nat :=
  Digits.ofDigits (Token.digitsOf cs)

namespace Dialect

end Dialect

end SqlTemplate
