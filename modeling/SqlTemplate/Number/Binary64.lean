import SqlTemplate.Number.Digits
import SqlTemplate.Number.Rounding
import SqlTemplate.Number.Decimal

/-
  Binary floating-point numbers of 64 bits, and the shortest
  decimal text that reads back as the same number.

  Key definitions include:
    * `Binary64`
    * `Binary64.ofRatio`
    * `Binary64.ofDecimal`
    * `Binary64.Interval`
    * `Binary64.gridPoint?`
    * `Binary64.shortest`
    * `Binary64.toChars`
-/

------------------------------------------------------------
-- Binary Floating-Point Numbers
------------------------------------------------------------

namespace SqlTemplate

/-
  A finite number is a significand below `2 ^ 53` times a
  power of two that is at least `2 ^ -1074`.
-/
inductive Binary64 where
| finite (negative : Bool) (significand : Nat) (exponent : Int)
| infinite (negative : Bool)
| undefined
deriving DecidableEq, Repr, Inhabited

namespace Binary64

/- The least exponent of a finite number. -/
def minExponent : Int := -1074

/- The greatest exponent of a finite number. -/
def maxExponent : Int := 971

/- A number is neither infinite nor undefined. -/
def isFinite : Binary64 → Bool
| .finite .. => true
| _ => false

------------------------------------------------------------
-- Rounding to the Nearest Number
------------------------------------------------------------

/- A quotient divided by a power of two, as a quotient. -/
def scaleDown
    (num den : Nat)
    (q : Int) : Nat × Nat :=
  if 0 ≤ q then
    (num, den * Nat.pow 2 q.toNat)
  else
    (num * Nat.pow 2 (-q).toNat, den)

/-
  The exponent at which a quotient has a significand of 53
  bits, or the least exponent if it is smaller than that.
-/
def exponentFor
    (num den : Nat) : Int :=
  let q : Int :=
    max minExponent ((num.log2 : Int) - den.log2 - 53)
  let s := scaleDown num den q
  if Nat.pow 2 53 ≤ s.1 / s.2 then q + 1 else q

/-
  The number nearest to a quotient, of two equally near ones
  that with the even significand.
-/
def ofRatio
    (negative : Bool)
    (num den : Nat) : Binary64 :=
  if num = 0 then
    .finite negative 0 minExponent
  else
    let q := exponentFor num den
    let s := scaleDown num den q
    let m := divHalfEven s.1 s.2
    let (m, q) := if m = Nat.pow 2 53 then (Nat.pow 2 52, q + 1) else (m, q)
    if maxExponent < q then
      .infinite negative
    else
      .finite negative m q

/-
  The number nearest to a decimal one.  Magnitudes far beyond
  the range are decided without computing them.
-/
def ofDecimal : Decimal → Binary64
| .finite negative coefficient exponent =>
    let magnitude : Int :=
      exponent + (Digits.decimal coefficient).length
    if coefficient = 0 ∨ magnitude < -400 then
      .finite negative 0 minExponent
    else if 400 < magnitude then
      .infinite negative
    else if 0 ≤ exponent then
      ofRatio negative (coefficient * Nat.pow 10 exponent.toNat) 1
    else
      ofRatio negative coefficient (Nat.pow 10 (-exponent).toNat)
| .infinite negative => .infinite negative
| .undefined .. => .undefined

------------------------------------------------------------
-- Shortest Decimal Text
------------------------------------------------------------

/-
  The decimals that round to a number: everything between the
  midpoints to its neighbours, in quarters of the last place
  of its significand, with the midpoints when the significand
  is even.
-/
structure Interval where
  low : Nat
  value : Nat
  high : Nat
  closed : Bool

/- The interval of a significand and its exponent. -/
def interval
    (significand : Nat)
    (exponent : Int) : Interval where
  low :=
    if significand = Nat.pow 2 52 ∧ minExponent < exponent then
      4 * significand - 1
    else
      4 * significand - 2
  value := 4 * significand
  high := 4 * significand + 2
  closed := significand % 2 == 0

/- A point lies in an interval; all are scaled alike. -/
def Interval.holds
    (i : Interval)
    (unit point : Nat) : Bool :=
  if i.closed then
    i.low * unit ≤ point && point ≤ i.high * unit
  else
    i.low * unit < point && point < i.high * unit

/-
  The multiple of `10 ^ e` in the interval that is nearest to
  the value; of two equally near ones the even multiple.
-/
def gridPoint?
    (i : Interval)
    (exponent e : Int) : Option Nat :=
  let unit := Nat.pow 2 (exponent - 2).toNat * Nat.pow 10 (-e).toNat
  let step := Nat.pow 2 (2 - exponent).toNat * Nat.pow 10 e.toNat
  let nearest := divHalfEven (i.value * unit) step
  let below := i.value * unit / step
  if i.holds unit (nearest * step) then
    some nearest
  else if i.holds unit (below * step) then
    some below
  else if i.holds unit ((below + 1) * step) then
    some (below + 1)
  else
    none

/- The powers of ten of the decimal grids, coarsest first. -/
def grids : List Int :=
  (List.range 634).map fun (n : Nat) => 309 - (n : Int)

/-
  The digits and the power of ten of the shortest decimal
  that reads back as a number: the point on the coarsest grid
  that has one.
-/
def shortest
    (significand : Nat)
    (exponent : Int) : Nat × Int :=
  let i := interval significand exponent
  let found := grids.findSome? fun e =>
    (gridPoint? i exponent e).map fun digits => (digits, e)
  found.getD (0, 0)

/-
  Positional form is used while the point falls at most three
  zeros before the digits and at most sixteen places after
  their start; it always shows a fraction.
-/
def decimalChars
    (digits : Nat)
    (e : Int) : List Char :=
  let ds := Digits.decimal digits
  let point : Int := ds.length + e
  if -4 < point ∧ point ≤ 16 then
    let body := Decimal.placePoint ds point
    if (ds.length : Int) ≤ point then body ++ ['.', '0'] else body
  else
    let x := point - 1
    Decimal.placePoint ds 1 ++
      'e' :: (if x < 0 then '-' else '+') :: Digits.fixed 2 x.natAbs

/- The written form of a number. -/
def toChars : Binary64 → List Char
| .finite negative significand exponent =>
    Decimal.signChars negative ++
      (if significand = 0 then
        ['0', '.', '0']
      else
        let (digits, e) := shortest significand exponent
        decimalChars digits e)
| .infinite negative =>
    Decimal.signChars negative ++ "inf".toList
| .undefined => "nan".toList

end Binary64

end SqlTemplate
