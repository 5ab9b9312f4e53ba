import SqlTemplate.Number.Digits
import SqlTemplate.Number.Rounding
import SqlTemplate.Text.CharClass

/-
  Decimal numbers that keep the scale they were written with,
  so that `1.50` and `1.5` stay apart.

  Key definitions include:
    * `Decimal`
    * `Decimal.toChars`
    * `Decimal.precision`
    * `Decimal.negate`
    * `Decimal.ofParts`
    * `Decimal.ofString?`
-/

------------------------------------------------------------
-- Scaled Decimals
------------------------------------------------------------

namespace SqlTemplate

/-
  A decimal number: a signed coefficient scaled by a power of
  ten, an infinity, or an undefined value with a payload.
-/
inductive Decimal where
| finite (negative : Bool) (coefficient : Nat) (exponent : Int)
| infinite (negative : Bool)
| undefined (negative signaling : Bool) (payload : Nat)
deriving DecidableEq, Repr, Inhabited

namespace Decimal

------------------------------------------------------------
-- Writing
------------------------------------------------------------

/- The sign of a negative number; a positive one has none. -/
def signChars (negative : Bool) : List Char :=
  if negative then ['-'] else []

/-
  An exponent of ten with its sign, as it follows the letter
  of the scientific form.
-/
def exponentChars (e : Int) : List Char :=
  (if e < 0 then '-' else '+') :: Digits.decimal e.natAbs

/-
  The digits of a coefficient with a decimal point after the
  first `point` of them; a point before the first digit is
  preceded by zeros.
-/
def placePoint
    (ds : List Char)
    (point : Int) : List Char :=
  if point ≤ 0 then
    '0' :: '.' :: (List.replicate (-point).toNat '0' ++ ds)
  else if ds.length ≤ point.toNat then
    ds ++ List.replicate (point.toNat - ds.length) '0'
  else
    ds.take point.toNat ++ '.' :: ds.drop point.toNat

/-
  A finite number is written in positional form when its
  exponent is not positive and at most five zeros follow the
  point; otherwise one digit stands before the point and the
  exponent follows.
-/
def finiteChars
    (coefficient : Nat)
    (exponent : Int) : List Char :=
  let ds := Digits.decimal coefficient
  let point : Int := ds.length + exponent
  if exponent ≤ 0 ∧ -6 < point then
    placePoint ds point
  else
    placePoint ds 1 ++
      (if point = 1 then [] else 'E' :: exponentChars (point - 1))

/- The written form of a decimal number. -/
def toChars : Decimal → List Char
| .finite negative coefficient exponent =>
    signChars negative ++ finiteChars coefficient exponent
| .infinite negative =>
    signChars negative ++ "Infinity".toList
| .undefined negative signaling payload =>
    signChars negative ++
      (if signaling then ['s'] else []) ++ "NaN".toList ++
        (if payload = 0 then [] else Digits.decimal payload)

------------------------------------------------------------
-- Negation
------------------------------------------------------------

/- The number of significant digits that arithmetic keeps. -/
def precision : Nat := 28

/-
  A coefficient and its exponent, rounded to at most
  `precision` digits.
-/
def rounded
    (coefficient : Nat)
    (exponent : Int) : Nat × Int :=
  let excess := (Digits.decimal coefficient).length - precision
  if excess = 0 then
    (coefficient, exponent)
  else
    let c := divHalfEven coefficient (Nat.pow 10 excess)
    if c = Nat.pow 10 precision then
      (Nat.pow 10 (precision - 1), exponent + excess + 1)
    else
      (c, exponent + excess)

/-
  The negative of a number, rounded as arithmetic rounds.
  Zero has no negative.
-/
def negate : Decimal → Decimal
| .finite negative coefficient exponent =>
    let r := rounded coefficient exponent
    .finite (!negative && coefficient != 0) r.1 r.2
| .infinite negative => .infinite (!negative)
| .undefined negative signaling payload =>
    .undefined negative signaling payload

------------------------------------------------------------
-- Reading
------------------------------------------------------------

/-
  The number whose digits before and after the point are
  given.
-/
def ofParts
    (whole fraction : List Nat) : Decimal :=
  .finite false (Digits.ofDigits (whole ++ fraction))
    (-fraction.length)

/- The values of the leading digits of a text, and the rest. -/
def spanDigits (cs : List Char) : List Nat × List Char :=
  ((cs.takeWhile Text.isDigit).filterMap Text.digit?,
    cs.dropWhile Text.isDigit)

/- A sign at the start of a text: whether it is a minus. -/
def spanSign : List Char → Bool × List Char
| '-' :: cs => (true, cs)
| '+' :: cs => (false, cs)
| cs => (false, cs)

/- The exponent part at the end of a number, zero if absent. -/
def readExponent? : List Char → Option Int
| [] => some 0
| c :: cs =>
    if c == 'e' || c == 'E' then
      let (negative, ds) := spanSign cs
      match spanDigits ds with
      | ([], _) => none
      | (digits, []) =>
          let n : Int := Digits.ofDigits digits
          some (if negative then -n else n)
      | (_, _ :: _) => none
    else
      none

/- The digits of a number after its sign. -/
def readFinite?
    (negative : Bool)
    (cs : List Char) : Option Decimal :=
  let (whole, rest) := spanDigits cs
  let (fraction, rest) :=
    match rest with
    | '.' :: tail => spanDigits tail
    | _ => ([], rest)
  if whole.isEmpty && fraction.isEmpty then
    none
  else
    (readExponent? rest).map fun e =>
      .finite negative (Digits.ofDigits (whole ++ fraction))
        (e - fraction.length)

/- The payload of an undefined value. -/
def readPayload?
    (negative signaling : Bool)
    (cs : List Char) : Option Decimal :=
  match spanDigits cs with
  | (ds, []) =>
      some (.undefined negative signaling (Digits.ofDigits ds))
  | (_, _ :: _) => none

/-
  Read a number in positional or scientific form, an infinity
  or an undefined value, in letters of either case.
-/
def ofString? (s : String) : Option Decimal :=
  let (negative, cs) := spanSign s.toList
  match cs.map Char.toLower with
  | ['i', 'n', 'f'] => some (.infinite negative)
  | ['i', 'n', 'f', 'i', 'n', 'i', 't', 'y'] =>
      some (.infinite negative)
  | 'n' :: 'a' :: 'n' :: rest => readPayload? negative false rest
  | 's' :: 'n' :: 'a' :: 'n' :: rest =>
      readPayload? negative true rest
  | _ => readFinite? negative cs

end Decimal

end SqlTemplate
