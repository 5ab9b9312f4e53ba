/-
  Numbers written in positional notation.

  Key definitions include:
    * `padLeft`
    * `decimal`
    * `decimalInt`
    * `text`
    * `textInt`
    * `fixed`
    * `hex`
    * `ofDigits`
-/

------------------------------------------------------------
-- Writing
------------------------------------------------------------

namespace SqlTemplate

namespace Digits

/- Fill a text up to a width with copies of a character. -/
def padLeft
    (width : Nat)
    (fill : Char)
    (cs : List Char) : List Char :=
  List.replicate (width - cs.length) fill ++ cs

/- The decimal digits of a number, without leading zeros. -/
def decimal (n : Nat) : List Char :=
  Nat.toDigits 10 n

/- A whole number in decimal, with a minus sign if negative. -/
def decimalInt : Int → List Char
| .ofNat n => decimal n
| .negSucc n => '-' :: decimal (n + 1)

/- A number as text in decimal. -/
def text (n : Nat) : String :=
  String.ofList (decimal n)

/- A whole number as text in decimal. -/
def textInt (n : Int) : String :=
  String.ofList (decimalInt n)

/- The decimal digits of a number, filled up with zeros. -/
def fixed
    (width n : Nat) : List Char :=
  padLeft width '0' (decimal n)

/- The lower-case hexadecimal digits, filled up with zeros. -/
def hex
    (width n : Nat) : List Char :=
  padLeft width '0' (Nat.toDigits 16 n)

/- The upper-case hexadecimal digits, filled up with zeros. -/
def hexUpper
    (width n : Nat) : List Char :=
  (hex width n).map Char.toUpper

------------------------------------------------------------
-- Reading
------------------------------------------------------------

/- The number that a sequence of decimal digits denotes. -/
def ofDigits (ds : List Nat) : Nat :=
  ds.foldl (fun value d => 10 * value + d) 0

end Digits

end SqlTemplate
