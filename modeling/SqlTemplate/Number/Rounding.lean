/-
  Division to the nearest whole number.

  Key definitions include:
    * `divHalfEven`
-/

------------------------------------------------------------
-- Rounding
------------------------------------------------------------

namespace SqlTemplate

/-
  The whole number nearest to a quotient; of two equally near
  ones the even one.
-/
def divHalfEven
    (num den : Nat) : Nat :=
  let q := num / den
  let r := num % den
  if den < 2 * r || (2 * r == den && q % 2 == 1) then
    q + 1
  else
    q

end SqlTemplate
