import Mathlib.Algebra.Order.Field.Rat
import Mathlib.Data.Rat.Cast.Defs
import SqlTemplate.Grammar.Meaning

/-
  Minus signs in front of numbers, and the exact values that
  texts of numbers and constants stand for.  These values know
  of no scale and no precision.

  Key definitions include:
    * `Token.denoted`
    * `Token.Signed`
    * `Decimal.exactValue?`
    * `Value.exactValue?`
    * `HasDigits`
    * `IsNearest`
-/

------------------------------------------------------------
-- Values of Texts
------------------------------------------------------------

namespace SqlTemplate

namespace Token

/- The value of a character as a digit. -/
def digitValue (c : Char) : Nat :=
  (Text.digit? c).getD 0

/- What the digits after a point amount to. -/
def fractionValue : List Char → ℚ
| [] => 0
| c :: cs => (digitValue c + fractionValue cs) / 10

/-
  The value that the text of a number denotes.  The place of a
  digit is the number of digits between it and the point.
-/
def denoted : List Char → ℚ
| [] => 0
| c :: cs =>
    if c = '.' then
      fractionValue cs
    else
      digitValue c * 10 ^ (cs.takeWhile (· != '.')).length + denoted cs

/-
  A text is another one with a number of minus signs in front.
  Blanks can follow each of them, and keep it apart from the
  next one, since two signs side by side begin a comment.
-/
inductive Signed (cs : List Char) : Nat → List Char → Prop where
| bare : Signed cs 0 cs
| sign {n : Nat} {text : List Char} (gap : List Char)
    (hGap : gap.all isLayout = true)
    (hApart : n ≠ 0 → gap ≠ []) :
    Signed cs n text → Signed cs (n + 1) ('-' :: (gap ++ text))

end Token

------------------------------------------------------------
-- Values of Constants
------------------------------------------------------------

/- The exact value of a decimal number, if it is finite. -/
def Decimal.exactValue? : Decimal → Option ℚ
| .finite negative coefficient exponent =>
    some ((if negative then -1 else 1) * (coefficient * 10 ^ exponent))
| _ => none

/- The exact value of a whole or decimal number. -/
def Value.exactValue? : Value → Option ℚ
| .int n => some n
| .decimal x => x.exactValue?
| _ => none

------------------------------------------------------------
-- Significant Digits
------------------------------------------------------------

/- A value without a sign has at most so many significant digits. -/
def HasDigits
    (precision : Nat)
    (q : ℚ) : Prop :=
  ∃ (c : Nat) (e : Int), c < 10 ^ precision ∧ q = c * 10 ^ e

/-
  Of the values with so many significant digits, none is nearer
  to a value.
-/
structure IsNearest
    (precision : Nat)
    (q r : ℚ) : Prop where
  hasDigits : HasDigits precision r
  nearest : ∀ p, HasDigits precision p → |r - q| ≤ |p - q|

end SqlTemplate
